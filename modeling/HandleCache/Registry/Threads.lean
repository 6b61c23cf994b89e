import HandleCache.Binding.Progress
import HandleCache.Registry.Basic
import HandleCache.Registry.Deferred

/-!
# Threads

Several threads at work on one registry and its store. A thread has one task, and goes about it in
single steps; a schedule says whose turn it is, again and again. A thread that would have to wait,
because somebody else is resolving its cell, does nothing with its turn.

The steps are those that the operations of a registry are put together from: what is done under the
lock of the registry is one step, and so are each request to the host, the keeping of a new binding,
and the change of a cell. What a thread sees of the others between two of its steps is all there is
between them.

## Contents

- `Task`, `Stage`: what a thread wants and how far it is
- `Stage.advance`: one step of a thread
- `Team`: threads with what they share, and `Team.run` along a schedule
- `Team.firstUse`, `Route.firstUse`: many threads that want the same binding at the same moment
-/

namespace HandleCache

/-! ## Threads -/

/-- An order of visit for each list of entries: all of them are visited, and each once. -/
structure Arrangement where
  order : List Registration → List Registration
  /-- Nothing is left out and nothing comes in. -/
  perm : ∀ entries, (order entries).Perm entries

/-- What a thread wants. -/
inductive Task where
  | request (d : Declaration)
  /-- The binding for a class that is known. -/
  | named (name : String)
  /-- To resolve all that is known, in an order that depends on what there is. -/
  | preload (arrangement : Arrangement)
  /-- The binding for a class, if it is there. -/
  | peek (name : String)
  | deferred (l : Deferred)

/-- What a thread does when it has the binding of a cell. -/
inductive Purpose where
  /-- It answers the binding; on failure it may have to withdraw the entry of the class. -/
  | answer (withdraws : Bool)
  | next (rest : List Registration)
  /-- It answers the binding, and no registry is concerned. -/
  | deferred

/-- A cell that a thread wants filled. -/
structure Goal where
  declaration : Declaration
  cell : CellId
  purpose : Purpose

/-- What a task comes to: a binding, or none where none is asked for or there, or a fault. -/
abbrev TaskOutcome (H : Host) : Type := Except (Fault H.Failure) (Option BindingId)

/-- How far a thread is. -/
inductive Stage (H : Host) where
  | start (task : Task)
  /-- It is about to read its cell without waiting. -/
  | look (goal : Goal)
  /-- It is about to become the one that resolves its cell, or to wait for that one. -/
  | enter (goal : Goal)
  /-- It is the one that resolves its cell, and so far with that. -/
  | resolving (goal : Goal) (progress : Progress H)
  /-- It has a new binding, and is about to put it into its cell. -/
  | publishing (goal : Goal) (b : BindingId)
  /-- It failed, and is about to withdraw the entry. -/
  | withdrawing (goal : Goal) (fault : Fault H.Failure)
  | done (outcome : TaskOutcome H)

namespace Stage

variable {H : Host}

/-- The stage before the next of the entries that are to be resolved. -/
def visit : List Registration → Stage H
  | [] => done (.ok none)
  | entry :: rest => look ⟨entry.declaration, entry.cell, .next rest⟩

/-- The stage after a goal is reached. -/
def reached (goal : Goal) (b : BindingId) : Stage H :=
  match goal.purpose with
  | .answer _ | .deferred => done (.ok (some b))
  | .next rest => visit rest

/-- The stage after a goal is missed. -/
def missed (goal : Goal) (fault : Fault H.Failure) : Stage H :=
  match goal.purpose with
  | .answer true => withdrawing goal fault
  | .answer false | .next _ | .deferred => done (.error fault)

/-- What is shared after a new binding is kept: what a registry resolves it counts. -/
def adopt (goal : Goal) (binding : Binding H) (s : Shared H) : Shared H :=
  let store := { s.store with bindings := s.store.bindings ++ [binding] }
  match goal.purpose with
  | .deferred => { s with store }
  | .answer _ | .next _ =>
    ⟨{ s.registry with resolutions := s.registry.resolutions + 1 }, store⟩

/-- What is told when a binding is there already. -/
def found (goal : Goal) (s : Shared H) : Shared H :=
  match goal.purpose with
  | .deferred => s
  | .answer _ | .next _ =>
    ((Shared.tell (.alreadyResolved goal.declaration.className) : Shared.Request H Unit) s).2

/-- The first step of a task. -/
def begin (task : Task) (s : Shared H) : Stage H × Shared H :=
  match task with
  | .request d =>
    match Shared.locate d s with
    | (.ok entry, s) => (look ⟨d, entry.cell, .answer (!entry.predeclared)⟩, s)
    | (.error fault, s) => (done (.error fault), s)
  | .named name =>
    match s.registry.find? name with
    | some entry => (look ⟨entry.declaration, entry.cell, .answer false⟩, s)
    | none => (done (.error (.undeclaredClass name)), s)
  | .preload arrangement =>
    -- What is pending is fixed here; an entry that others resolve meanwhile is found filled.
    let order := arrangement.order s.pending
    (visit order, ((Shared.tell (.preloading order.length) : Shared.Request H Unit) s).2)
  | .peek name => (done (.ok (Registry.peek s name)), s)
  | .deferred l => (look ⟨l.declaration, l.cell, .deferred⟩, s)

/-- One step of a thread; none if it is done, or has to wait. -/
def advance : Stage H → Shared H → Option (Stage H × Shared H)
  | start task, s => some (begin task s)
  | look goal, s =>
    match (s.store.cell goal.cell).binding? with
    | some b => some (reached goal b, found goal s)
    | none => some (enter goal, s)
  | enter goal, s =>
    match s.store.cell goal.cell with
    -- Somebody filled the cell since it was read, of which nothing is told.
    | .filled b => some (reached goal b, s)
    -- Somebody else is resolving the cell: this thread waits.
    | .busy => none
    | .empty => some (resolving goal .begun, { s with store := s.store.setCell goal.cell .busy })
  -- The binding is counted before the cell is filled, so the others see the count first.
  | resolving goal (.finished (.ok binding)), s =>
    some (publishing goal s.store.bindings.length, adopt goal binding s)
  | resolving goal (.finished (.error fault)), s =>
    some (missed goal fault, { s with store := s.store.setCell goal.cell .empty })
  | resolving goal progress, s =>
    let (progress, host) := progress.advance goal.declaration s.store.host
    some (resolving goal progress, { s with store := { s.store with host } })
  | publishing goal b, s =>
    some (reached goal b, { s with store := s.store.setCell goal.cell (.filled b) })
  -- Others may have filled or replaced the entry's cell by now, so the step looks again.
  | withdrawing goal fault, s =>
    some (done (.error fault), Shared.withdraw goal.declaration.className goal.cell s)
  | done _, _ => none

/-- What the task came to, once it is done. -/
def outcome? : Stage H → Option (TaskOutcome H)
  | done o => some o
  | _ => none

end Stage

/-! ## Threads together -/

/-- Threads, by number, and what they share. -/
structure Team (H : Host) where
  threads : List (Stage H)
  shared : Shared H

namespace Team

variable {H : Host}

/-- Threads that are about to begin their tasks. -/
def start (tasks : List Task) (s : Shared H) : Team H :=
  ⟨tasks.map .start, s⟩

/-- A turn of one thread. -/
def turn (i : Nat) (team : Team H) : Team H :=
  match team.threads[i]? with
  | none => team
  | some stage =>
    match stage.advance team.shared with
    | none => team
    | some (stage, shared) => ⟨team.threads.set i stage, shared⟩

/-- Turns along a schedule. -/
def run (schedule : List Nat) (team : Team H) : Team H :=
  schedule.foldl (fun team i => team.turn i) team

/-- What the threads that are done came to. -/
def outcomes (team : Team H) : List (TaskOutcome H) :=
  team.threads.filterMap Stage.outcome?

/-- Whether two threads came to the same: one binding, or equal faults. -/
def sameOutcome [DecidableEq H.Failure] : TaskOutcome H → TaskOutcome H → Bool
  | .ok a, .ok b => a == b
  | .error f, .error g => decide (f = g)
  | _, _ => false

/-- Whether all threads that are done came to the same. -/
def agrees [DecidableEq H.Failure] (team : Team H) : Bool :=
  match team.outcomes with
  | [] => true
  | first :: rest => rest.all (sameOutcome first)

/-- The schedule that gives each of `n` threads a turn, so many times. -/
def rounds (n times : Nat) : List Nat :=
  (List.replicate times (List.range n)).flatten

/-- How many steps a thread takes at most for the first use of a class: to find its entry, to look,
to enter, to look up the class and its members, to retain the class, to give it back, to keep or
to drop what comes of it, and to publish or to withdraw. -/
def stepsOfFirstUse (d : Declaration) : Nat := d.operations.length + 8

/-- Many threads that want the same binding, turn by turn until all are done. In each round at
least one of them takes a step, so there are enough rounds if each takes `steps` at most. -/
def firstUse (n steps : Nat) (task : Task) (s : Shared H) : Team H :=
  (start (List.replicate n task) s).run (rounds n (n * steps))

/-! ## Schedules -/

/-- A turn of a thread that there is not changes nothing. -/
theorem turn_of_length_le {team : Team H} {i : Nat} (h : team.threads.length ≤ i) :
    team.turn i = team := by
  simp [turn, List.getElem?_eq_none h]

@[simp] theorem run_nil (team : Team H) : team.run [] = team := rfl

@[simp] theorem run_cons (team : Team H) (i : Nat) (schedule : List Nat) :
    team.run (i :: schedule) = (team.turn i).run schedule := rfl

theorem run_append (team : Team H) (first second : List Nat) :
    team.run (first ++ second) = (team.run first).run second := by
  simp [run]

end Team

/-! ## First use -/

/-- How threads come to a binding that nobody asked for before. -/
inductive Route where
  /-- Through a registry, which may know the declaration already. -/
  | registry (predeclared : Bool)
  | deferred
  deriving DecidableEq, Repr

namespace Route

variable {H : Host}

/-- What threads on a route want, and what they share. -/
def setOut (route : Route) (d : Declaration) (store : Store H) : Task × Shared H :=
  match route with
  | .registry true => (.request d, Registry.predeclare [d] { store })
  | .registry false => (.request d, { store })
  | .deferred =>
    let (l, store) := Deferred.ofDeclaration d store
    (.deferred l, { store })

/-- Many threads that go one route to the same declaration at the same moment. -/
def firstUse (route : Route) (n : Nat) (d : Declaration) (host : H.State) : Team H :=
  let (task, shared) := route.setOut d { host }
  Team.firstUse n (Team.stepsOfFirstUse d) task shared

end Route

end HandleCache
