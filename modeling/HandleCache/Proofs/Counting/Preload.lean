import HandleCache.Proofs.Counting.Heap
import HandleCache.Proofs.Counting.Tally
import HandleCache.Proofs.Registry.Tidy
import Mathlib.Algebra.BigOperators.Group.List.Basic

/-!
# The order of a preload

A preload visits the classes that are not resolved in an order that nobody can count on. It need not
be counted on: what a resolution answers and what it costs is decided by the classes that a machine
has and by whether its pins fail, and no resolution changes these. So the order decides no more than
which of several classes that do not resolve a preload stops at.

## Contents

- `World.answer`, `World.cost`: what a resolution comes to in a world
- `Machine.Spent`: what resolutions leave of a machine
- `Shared.Matches`: registries that a program cannot tell apart, on machines with the same counters
- `Shared.Advanced`, `Shared.Preloading`: how far a preload has come

## Main statements

- `spent_resolve`: the world decides what a resolution comes to
- `Preloading.settleAll`, `Preloading.namedAll`: entries are resolved up to the first that does not
  resolve
- `Preloading.matches_of_perm`: which entries were resolved says what has become of the registry
- `preload_in_any_order`: when a preload succeeds, and what it leaves behind
-/

namespace HandleCache.Counting

open HandleCache.Action

/-! ## What a resolution leaves behind -/

/-- A machine of the world on which nothing was done yet. -/
def World.machine (w : World) : Machine := { classes := w.1, pinsFail := w.2 }

/-- What a resolution answers in a world. -/
def World.answer (w : World) (d : Declaration) : Except (Fault host.Failure) (Binding host) :=
  (Binding.resolve host d w.machine).1

/-- What a resolution costs in a world. -/
def World.cost (w : World) (d : Declaration) : Tally :=
  Machine.tally (Binding.resolve host d w.machine).2

theorem costs_answer (w : World) (d : Declaration) :
    Costs w (Binding.resolve host d) (w.answer d) (w.cost d) := by
  -- Whatever the answer and the cost are, the machine on which nothing was done shows them.
  have shown : ∀ a t, Costs w (Binding.resolve host d) a t → w.answer d = a ∧ w.cost d = t := by
    intro a t costs
    obtain ⟨m, run, -, tally⟩ := costs w.machine rfl
    have none : w.machine.tally = 0 := rfl
    refine ⟨?_, ?_⟩
    · rw [World.answer, run]
    · rw [World.cost, run, tally, none, zero_add]
  rcases costs_resolve w d with ⟨b, costs⟩ | ⟨e, l, k, costs, -⟩
  · obtain ⟨answer, cost⟩ := shown _ _ costs
    rwa [answer, cost]
  · obtain ⟨answer, cost⟩ := shown _ _ costs
    rwa [answer, cost]

/-- The machine came from the other one at this cost, and nothing else of it changed but the
journal. -/
structure Machine.Spent (m : Machine) (t : Tally) (m' : Machine) : Prop extends m'.SameHeap m where
  pinsFail : m'.pinsFail = m.pinsFail
  tally : m'.tally = m.tally + t

/-- The machine but for its journal. -/
def Machine.silent (m : Machine) : Machine := { m with journal := [] }

namespace Machine.Spent

variable {m m' m'' : Machine} {t u : Tally}

theorem refl (m : Machine) : m.Spent 0 m := ⟨.refl m, rfl, (add_zero _).symm⟩

theorem trans (h : m.Spent t m') (h' : m'.Spent u m'') : m.Spent (t + u) m'' where
  toSameHeap := h'.toSameHeap.trans h.toSameHeap
  pinsFail := h'.pinsFail.trans h.pinsFail
  tally := by rw [h'.tally, h.tally, add_assoc]

theorem note (h : m.Spent t m') (e : LogEntry) : m.Spent t (host.note e m') :=
  ⟨⟨h.classes, h.objects, h.calls⟩, h.pinsFail, h.tally⟩

theorem world (h : m.Spent t m') : m'.world = m.world :=
  Prod.ext h.classes h.pinsFail

/-- The cost alone says what has become of a machine. -/
theorem silent_eq (h : m.Spent t m') (h' : m.Spent t m'') : m'.silent = m''.silent := by
  have tally := h.tally.trans h'.tally.symm
  obtain ⟨⟨classes, objects, calls⟩, pinsFail, -⟩ := h
  obtain ⟨⟨classes', objects', calls'⟩, pinsFail', -⟩ := h'
  simp only [Machine.tally, Prod.mk.injEq, Int.natCast_inj] at tally
  obtain ⟨classLookups, memberLookups, liveClasses, livePins⟩ := tally
  simp only [silent, classes, classes', objects, objects', calls, calls', pinsFail, pinsFail',
    classLookups, memberLookups, liveClasses, livePins]

end Machine.Spent

section

variable (m : Machine)

/-- The heap is the same as that of `m`. -/
abbrev heapOf : Machine → Prop := fun m' => m'.SameHeap m

theorem keeps_heap_findClass (name : String) : Keeps (heapOf m) (Machine.findClass name) := by
  refine .of_state fun t heap => ?_
  unfold Machine.findClass
  dsimp only
  split <;> exact { heap with }

theorem keeps_heap_findMember (missing : Failure) (isStatic : Bool) (c : Nat)
    (name signature : String) :
    Keeps (heapOf m) (Machine.findMember missing isStatic c name signature) := by
  refine .of_state fun t heap => ?_
  unfold Machine.findMember
  dsimp only
  split
  · exact { heap with }
  · split <;> exact { heap with }

theorem keeps_heap_pin (c : Nat) : Keeps (heapOf m) (Machine.pin c) := by
  refine .of_state fun t heap => ?_
  unfold Machine.pin
  split
  · exact heap
  · exact { heap with }

/-- A resolution does not touch the heap. -/
theorem keeps_heap_resolve (d : Declaration) : Keeps (heapOf m) (Binding.resolve host d) := by
  have looked (c : Nat) (plans : List (Operation × Plan)) :
      Keeps (heapOf m) (Host.lookupOperations (H := host) c d.className plans) :=
    Host.keeps_lookupOperations (H := host) c d.className
      (fun n s => keeps_heap_findMember m (.noMethod n s) false c n s)
      (fun n s => keeps_heap_findMember m (.noMethod n s) true c n s)
      (fun n s => keeps_heap_findMember m (.noField n s) false c n s)
      (fun n s => keeps_heap_findMember m (.noField n s) true c n s) plans
  have retained (c : Nat) : Keeps (heapOf m) (Host.retain (H := host) c d) :=
    Host.meets_retain (H := host) c d (fun _ _ heap => heap) (fun _ _ heap => heap)
      fun _ => keeps_heap_pin m c
  -- To give the class reference back, and to tell the journal, is not seen on the heap.
  have met := Binding.meets_resolve (H := host) (I := fun _ => heapOf m) (F := fun _ => heapOf m)
    (E := fun _ => heapOf m) d (fun _ _ heap => heap)
    (Meets.mapError (keeps_heap_findClass m d.className))
    (fun c plans => (looked c plans).conseq (fun _ heap => heap) (fun _ _ heap => heap)
      fun _ _ heap => { heap with })
    (fun c => (retained c).conseq (fun _ heap => heap) (fun _ _ heap => { heap with })
      fun _ _ heap => { heap with })
    (fun _ _ _ heap => { heap with }) fun _ _ _ heap => { heap with }
  exact met.conseq (fun _ heap => heap) (fun _ _ known => known.2) fun _ _ heap => heap

end

theorem spent_resolve (m : Machine) (d : Declaration) :
    (Binding.resolve host d m).1 = m.world.answer d ∧
      m.Spent (m.world.cost d) (Binding.resolve host d m).2 := by
  obtain ⟨m', run, world, tally⟩ := costs_answer m.world d m rfl
  have heap := (keeps_heap_resolve m d).state (.refl m)
  rw [run] at heap ⊢
  exact ⟨rfl, heap, congrArg Prod.snd world, tally⟩

end HandleCache.Counting

namespace HandleCache

open Counting

/-! ## Registries -/

namespace Shared

/-- The machine that a registry works on. -/
def machine (s : Shared Counting.host) : Machine := s.store.host

/-- What it comes to if the class of an entry is resolved on the machine as it is. -/
def prospect (s : Shared Counting.host) (entry : Registration) :
    Except (Fault host.Failure) (Binding host) :=
  (Binding.resolve host entry.declaration s.machine).1

/-- The binding that an entry is resolved to. -/
def bound {H : Host} (s : Shared H) (entry : Registration) : Option (Binding H) :=
  (s.store.cell entry.cell).binding?.bind s.store.binding?

/-- The registries know the same classes, made as many bindings and have equal bindings for each
class, and the machines differ in the journal at most. -/
structure Matches (s t : Shared Counting.host) : Prop where
  registry : s.registry = t.registry
  bound : ∀ p ∈ s.registry.entries, s.bound p.2 = t.bound p.2
  machine : s.machine.silent = t.machine.silent

/-- Beginning with the registry `s`, these entries were resolved, each on the machine as it is, and
no other entry was touched. -/
structure Advanced (s : Shared Counting.host) (done : List Registration)
    (t : Shared Counting.host) : Prop where
  entries : t.registry.entries = s.registry.entries
  counted : t.registry.resolutions = s.registry.resolutions + done.length
  /-- What was resolved before is resolved to the same binding. -/
  kept : ∀ p ∈ s.registry.entries, ∀ b, s.store.cell p.2.cell = .filled b →
    t.store.cell p.2.cell = .filled b ∧ t.store.binding? b = s.store.binding? b
  resolved : ∀ e ∈ done, ∃ b binding, t.store.cell e.cell = .filled b ∧
    t.store.binding? b = some binding ∧ s.prospect e = .ok binding
  untouched : ∀ p ∈ s.registry.entries, p.2 ∉ done → s.isResolved p.2 = false →
    t.store.cell p.2.cell = s.store.cell p.2.cell

/-- What resolving entries costs. -/
def costOf (s : Shared Counting.host) (done : List Registration) : Tally :=
  (done.map fun e => s.machine.world.cost e.declaration).sum

/-- And this is all that was spent. -/
structure Preloading (s : Shared Counting.host) (done : List Registration)
    (t : Shared Counting.host) : Prop extends Advanced s done t where
  tidy : t.Tidy
  spent : s.machine.Spent (s.costOf done) t.machine

variable {s t u : Shared Counting.host} {done : List Registration} {entry : Registration}
  {name : String}

theorem mem_pending_iff (tidy : s.Tidy) : entry ∈ s.pending ↔
    (entry.declaration.className, entry) ∈ s.registry.entries ∧
      s.store.cell entry.cell = .empty := by
  constructor
  · intro pending
    have known := Registry.mem_of_find? (tidy.find?_of_pending pending)
    refine ⟨known, ?_⟩
    obtain ⟨-, empty⟩ := List.mem_filter.mp pending
    apply Store.cell_of_isSome_eq_false (tidy.idle _ known).2
    simpa using empty
  · rintro ⟨known, empty⟩
    refine List.mem_filter.mpr ⟨List.mem_map.mpr ⟨_, known, rfl⟩, ?_⟩
    rw [empty]
    rfl

theorem costOf_concat (s : Shared Counting.host) (done : List Registration) (entry : Registration) :
    s.costOf (done ++ [entry]) = s.costOf done + s.machine.world.cost entry.declaration := by
  simp [costOf]

namespace Advanced

theorem withHost (run : Advanced s done t) (m : Machine) : Advanced s done (t.withHost m) :=
  { run with }

section

variable (run : Advanced s done t) (known : (name, entry) ∈ s.registry.entries)
  (new : entry ∉ done) (unresolved : s.store.cell entry.cell = .empty)
include run known new unresolved

theorem empty : t.store.cell entry.cell = .empty := by
  rw [run.untouched _ known new, unresolved]
  rw [isResolved, unresolved]
  rfl

/-- An entry more that is resolved, to what comes of it on the machine as it was. -/
theorem keep (framed : t.Framed) {binding : Binding host} (answer : s.prospect entry = .ok binding)
    (m : host.State) : Advanced s (done ++ [entry]) (t.keep entry.cell binding m) := by
  have known' : (name, entry) ∈ t.registry.entries := run.entries ▸ known
  have cells : ∀ c, (t.keep entry.cell binding m).store.cell c =
      if c = entry.cell then .filled t.store.bindings.length else t.store.cell c :=
    framed.cell_keep known'
  -- What is filled, in `s` or by now, has another cell.
  have apart : ∀ u : Shared host, u.store.cell entry.cell = .empty →
      ∀ c b, u.store.cell c = .filled b → c ≠ entry.cell := by
    rintro u empty c b filled rfl
    cases empty.symm.trans filled
  have empty := run.empty known new unresolved
  refine
    { entries := run.entries
      counted := ?counted
      kept := fun p hp b filled => ?kept
      resolved := fun e he => ?resolved
      untouched := fun p hp fresh open' => ?untouched }
  case counted =>
    show t.registry.resolutions + 1 = _
    rw [run.counted, List.length_append, List.length_singleton, Nat.add_assoc]
  case kept =>
    obtain ⟨there, same⟩ := run.kept p hp b filled
    obtain ⟨old, -, -, made, -⟩ := framed.made p (run.entries ▸ hp) b there
    rw [cells, if_neg (apart s unresolved _ b filled), binding?_keep_of_some made, ← same, made]
    exact ⟨there, rfl⟩
  case resolved =>
    rcases List.mem_append.mp he with before | now
    · obtain ⟨b, old, there, made, answered⟩ := run.resolved e before
      refine ⟨b, old, ?_, binding?_keep_of_some made entry.cell, answered⟩
      rw [cells, if_neg (apart t empty _ b there), there]
    · obtain rfl := List.mem_singleton.mp now
      refine ⟨_, binding, ?_, binding?_keep_self t _ binding m, answer⟩
      rw [cells, if_pos rfl]
  case untouched =>
    have other : p.2.cell ≠ entry.cell := by
      intro cell
      have same := framed.eq_of_cell_eq known' (run.entries ▸ hp) cell
      exact fresh (List.mem_append_right done (by simp [same]))
    rw [cells, if_neg other]
    exact run.untouched p hp (fun old => fresh (List.mem_append_left _ old)) open'

end

end Advanced

namespace Preloading

theorem start (tidy : s.Tidy) : Preloading s [] s where
  entries := rfl
  counted := rfl
  kept _ _ _ filled := ⟨filled, rfl⟩
  resolved _ h := nomatch h
  untouched _ _ _ _ := rfl
  tidy := tidy
  spent := .refl _

theorem told (run : Preloading s done t) (e : LogEntry) : Preloading s done (t.told e) where
  toAdvanced := run.toAdvanced.withHost _
  tidy := run.tidy.told e
  spent := run.spent.note e

theorem world (run : Preloading s done t) : t.machine.world = s.machine.world :=
  run.spent.world

/-- What a resolution comes to does not change on the way, and it costs the same. -/
theorem resolve (run : Preloading s done t) (entry : Registration) :
    (Binding.resolve host entry.declaration t.machine).1 = s.prospect entry ∧
      t.machine.Spent (s.machine.world.cost entry.declaration)
        (Binding.resolve host entry.declaration t.machine).2 := by
  obtain ⟨answer, spent⟩ := spent_resolve t.machine entry.declaration
  rw [run.world] at answer spent
  exact ⟨answer.trans (spent_resolve s.machine entry.declaration).1.symm, spent⟩

/-- An entry more that resolves. -/
theorem settle_of_ok (run : Preloading s done t) (known : (name, entry) ∈ s.registry.entries)
    (new : entry ∉ done) (unresolved : s.store.cell entry.cell = .empty) {binding : Binding host}
    (answer : s.prospect entry = .ok binding) :
    ∃ b u, settle entry.cell entry.declaration t = (.ok b, u) ∧
      Preloading s (done ++ [entry]) u := by
  have empty := run.empty known new unresolved
  have known' : (name, entry) ∈ t.registry.entries := run.entries ▸ known
  obtain ⟨answered, spent⟩ := run.resolve entry
  rw [answer] at answered
  cases resolved : Binding.resolve host entry.declaration t.machine with
  | mk result m =>
    rw [resolved] at answered spent
    cases answered
    refine ⟨_, _, settle_of_resolve empty resolved,
      { toAdvanced := run.toAdvanced.keep known new unresolved run.tidy.toFramed answer m
        tidy := run.tidy.keep known' empty resolved
        spent := ?_ }⟩
    rw [costOf_concat]
    exact run.spent.trans spent

/-- An entry that does not resolve is all that is left behind. -/
theorem settle_of_error (run : Preloading s done t) (known : (name, entry) ∈ s.registry.entries)
    (new : entry ∉ done) (unresolved : s.store.cell entry.cell = .empty)
    {fault : Fault host.Failure} (answer : s.prospect entry = .error fault) :
    ∃ u, settle entry.cell entry.declaration t = (.error fault, u) ∧ Advanced s done u ∧
      s.machine.Spent (s.costOf (done ++ [entry])) u.machine := by
  have empty := run.empty known new unresolved
  have there := (run.tidy.idle _ (run.entries ▸ known : (name, entry) ∈ t.registry.entries)).1
  obtain ⟨answered, spent⟩ := run.resolve entry
  rw [answer] at answered
  cases resolved : Binding.resolve host entry.declaration t.machine with
  | mk result m =>
    rw [resolved] at answered spent
    cases answered
    refine ⟨_, settle_of_resolve_error there empty resolved, run.toAdvanced.withHost m, ?_⟩
    rw [costOf_concat]
    exact run.spent.trans spent

/-- Entries that are resolved one after the other: either all of them are, or the first that does
not resolve decides, and those behind it make no difference. -/
theorem settleAll (run : Preloading s done t) (unchanged : s.Tidy) {visit : List Registration}
    (pending : ∀ e ∈ visit, e ∈ s.pending) (once : (done ++ visit).Nodup) :
    (∃ u, Registry.settleAll visit t = (.ok (), u) ∧ Preloading s (done ++ visit) u ∧
      ∀ e ∈ visit, ∃ binding, s.prospect e = .ok binding) ∨
    ∃ before entry after fault u, visit = before ++ entry :: after ∧
      (∀ rest, Registry.settleAll (before ++ entry :: rest) t = (.error fault, u)) ∧
      s.prospect entry = .error fault ∧ Advanced s (done ++ before) u ∧
      s.machine.Spent (s.costOf (done ++ before ++ [entry])) u.machine := by
  -- By induction on what is left to visit, with what is done already on the machine as it is then.
  induction visit generalizing done t with
  | nil =>
    rw [List.append_nil]
    exact .inl ⟨t, rfl, run, nofun⟩
  | cons entry rest ih =>
    obtain ⟨here, others⟩ := List.forall_mem_cons.mp pending
    obtain ⟨known, unresolved⟩ := (mem_pending_iff unchanged).mp here
    have new : entry ∉ done := fun old =>
      (List.nodup_append.mp once).2.2 entry old entry List.mem_cons_self rfl
    cases answer : s.prospect entry with
    | error fault =>
      obtain ⟨u, stopped, advanced, spent⟩ := run.settle_of_error known new unresolved answer
      have stops : ∀ rest, Registry.settleAll (entry :: rest) t = (.error fault, u) :=
        fun _ => Action.bind_of_error stopped
      refine .inr ⟨[], entry, rest, fault, u, rfl, stops, answer, ?_⟩
      rw [List.append_nil]
      exact ⟨advanced, spent⟩
    | ok binding =>
      obtain ⟨b, u, settled, run'⟩ := run.settle_of_ok known new unresolved answer
      have once' : ((done ++ [entry]) ++ rest).Nodup := by simpa using once
      rcases ih run' others once' with ⟨v, all, run'', resolve⟩ |
        ⟨before, failing, after, fault, v, rfl, stopped, failed, advanced, spent⟩
      · refine .inl ⟨v, (Action.bind_of_ok settled).trans all, by simpa using run'', ?_⟩
        exact List.forall_mem_cons.mpr ⟨⟨binding, answer⟩, resolve⟩
      · refine .inr ⟨entry :: before, failing, after, fault, v, rfl, fun rest => ?_, failed, ?_, ?_⟩
        · exact (Action.bind_of_ok settled).trans (stopped rest)
        · simpa using advanced
        · simpa using spent

end Preloading

/-- The entries of classes that are to be resolved, if all of them are asked for by name. -/
def due (s : Shared Counting.host) (names : List String) : List Registration :=
  names.filterMap fun name =>
    (s.registry.find? name).filter fun e => (s.store.cell e.cell).binding?.isNone

theorem due_cons (s : Shared Counting.host) (name : String) (rest : List String) :
    s.due (name :: rest) = s.due [name] ++ s.due rest :=
  List.filterMap_append (l := [name])

theorem className_of_mem_due (framed : s.Framed) (h : entry ∈ s.due [name]) :
    entry.declaration.className = name := by
  obtain ⟨_, mem, found⟩ := List.mem_filterMap.mp h
  obtain rfl := List.mem_singleton.mp mem
  exact (framed.keyed _ (Registry.mem_of_find? (Option.filter_eq_some_iff.mp found).1)).symm

/-- If all classes are asked for, all that are pending are due. -/
theorem due_perm (framed : s.Framed) {names : List String}
    (all : names.Perm s.registry.classNames) : (s.due names).Perm s.pending := by
  have listed : names.Perm (s.registry.entries.map (·.1)) :=
    all.trans (List.mergeSort_perm _ _)
  have found : (s.registry.entries.map (·.1)).filterMap (fun name =>
      (s.registry.find? name).filter fun e => (s.store.cell e.cell).binding?.isNone) =
        s.pending := by
    rw [List.filterMap_map, pending, ← List.filterMap_eq_filter, List.filterMap_map]
    apply List.filterMap_congr
    intro p hp
    simp only [Function.comp_apply, Registry.find?_of_mem framed.names hp]
    rfl
  exact found ▸ listed.filterMap _

namespace Preloading

/-- A class that is asked for by its name is resolved if it is due, and else it is told. -/
theorem named (run : Preloading s done t) (unchanged : s.Tidy)
    (known : (name, entry) ∈ s.registry.entries)
    (fresh : ∀ e ∈ done, e.declaration.className ≠ name)
    (resolve : ∀ e ∈ s.pending, ∃ binding, s.prospect e = .ok binding) :
    ∃ b u, Registry.named name t = (.ok b, u) ∧ Preloading s (done ++ s.due [name]) u := by
  obtain rfl : name = entry.declaration.className := unchanged.keyed _ known
  have found : s.registry.find? entry.declaration.className = some entry := unchanged.find? known
  have settles : Registry.named entry.declaration.className t =
      settle entry.cell entry.declaration t := by
    symm
    apply settle_eq_named
    rw [Registry.find?, run.entries]
    exact found
  rcases unchanged.cell_cases found with ⟨b, filled⟩ | empty
  · have there := (run.kept _ known b filled).1
    have skipped : s.due [entry.declaration.className] = [] := by
      simp [due, found, filled, Cell.binding?]
    rw [skipped, List.append_nil]
    exact ⟨b, _, settles.trans (settle_of_filled there), run.told _⟩
  · have pending := (mem_pending_iff unchanged).mpr ⟨known, empty⟩
    obtain ⟨binding, answer⟩ := resolve entry pending
    have new : entry ∉ done := fun old => fresh entry old rfl
    obtain ⟨b, u, settled, run'⟩ := run.settle_of_ok known new empty answer
    have taken : s.due [entry.declaration.className] = [entry] := by
      rw [due, List.filterMap_cons, found, Option.filter_some, if_pos (by rw [empty]; rfl)]
      rfl
    rw [taken]
    exact ⟨b, u, settles.trans settled, run'⟩

/-- Classes that are asked for by name one after the other are resolved as they would be by a
preload, if each that is due resolves. -/
theorem namedAll (run : Preloading s done t) (unchanged : s.Tidy) {names : List String}
    (known : ∀ name ∈ names, ∃ e, (name, e) ∈ s.registry.entries) (once : names.Nodup)
    (fresh : ∀ e ∈ done, e.declaration.className ∉ names)
    (resolve : ∀ e ∈ s.pending, ∃ binding, s.prospect e = .ok binding) :
    ∃ u, Registry.namedAll names t = (.ok (), u) ∧ Preloading s (done ++ s.due names) u := by
  induction names generalizing done t with
  | nil => exact ⟨t, rfl, by simpa [due] using run⟩
  | cons name rest ih =>
    obtain ⟨⟨entry, here⟩, others⟩ := List.forall_mem_cons.mp known
    obtain ⟨unlisted, once⟩ := List.nodup_cons.mp once
    have other : ∀ e ∈ done, e.declaration.className ≠ name ∧ e.declaration.className ∉ rest :=
      fun e he => not_or.mp (mt List.mem_cons.mpr (fresh e he))
    obtain ⟨b, v, named, run'⟩ := run.named unchanged here (fun e he => (other e he).1) resolve
    -- What was due by this name is not asked for again.
    have fresh' : ∀ e ∈ done ++ s.due [name], e.declaration.className ∉ rest := by
      intro e he
      rcases List.mem_append.mp he with old | now
      · exact (other e old).2
      · rwa [className_of_mem_due unchanged.toFramed now]
    obtain ⟨u, all, run''⟩ := ih run' others once fresh'
    refine ⟨u, (Action.bind_of_ok named).trans all, ?_⟩
    rwa [due_cons, ← List.append_assoc]

/-- What has become of the registry depends on which entries were resolved, and on no order. -/
theorem matches_of_perm {done' : List Registration} (run : Preloading s done t)
    (run' : Preloading s done' u) (same : done.Perm done') (unchanged : s.Tidy) : t.Matches u where
  registry := by
    have entries : t.registry.entries = u.registry.entries := run.entries.trans run'.entries.symm
    have counted : t.registry.resolutions = u.registry.resolutions := by
      rw [run.counted, run'.counted, same.length_eq]
    exact (Registry.mk.injEq ..).mpr ⟨entries, counted⟩
  bound p hp := by
    rw [run.entries] at hp
    have known : s.registry.find? p.2.declaration.className = some p.2 := unchanged.find? hp
    rcases unchanged.cell_cases known with ⟨b, filled⟩ | empty
    · obtain ⟨there, made⟩ := run.kept p hp b filled
      obtain ⟨there', made'⟩ := run'.kept p hp b filled
      rw [Shared.bound, Shared.bound, there, there']
      exact made.trans made'.symm
    · by_cases resolved : p.2 ∈ done
      · obtain ⟨b, binding, there, made, answer⟩ := run.resolved p.2 resolved
        obtain ⟨b', binding', there', made', answer'⟩ := run'.resolved p.2 (same.subset resolved)
        cases answer.symm.trans answer'
        rw [Shared.bound, Shared.bound, there, there']
        exact made.trans made'.symm
      · have resolved' : p.2 ∉ done' := fun h => resolved (same.symm.subset h)
        rw [Shared.bound, Shared.bound, run.empty hp resolved empty, run'.empty hp resolved' empty]
        rfl
  machine := by
    have cost : s.costOf done = s.costOf done' := (same.map _).sum_eq
    exact run.spent.silent_eq (cost ▸ run'.spent)

end Preloading

/-- The pending entries are visited once each, in whatever order. -/
theorem Tidy.nodup_of_perm {visit : List Registration} (tidy : s.Tidy)
    (order : visit.Perm s.pending) : visit.Nodup := by
  have cells : ((s.registry.entries.map (·.2)).map (·.cell)).Nodup := by
    rw [List.map_map]
    exact tidy.cells
  exact order.nodup_iff.mpr (cells.of_map.filter _)

/-- A preload resolves everything, or stops at the first class that does not resolve. -/
theorem Tidy.preloadAlong_cases {visit : List Registration} (tidy : s.Tidy)
    (order : visit.Perm s.pending) :
    (∃ u, Registry.preloadAlong visit s = (.ok (), u) ∧ Preloading s visit u ∧
      ∀ e ∈ s.pending, ∃ binding, s.prospect e = .ok binding) ∨
    ∃ before entry after fault u, visit = before ++ entry :: after ∧
      Registry.preloadAlong visit s = (.error fault, u) ∧ s.prospect entry = .error fault ∧
      Advanced s before u ∧ s.machine.Spent (s.costOf (before ++ [entry])) u.machine := by
  have begun := (Preloading.start tidy).told (.preloading visit.length)
  have once : ([] ++ visit : List Registration).Nodup := tidy.nodup_of_perm order
  rcases begun.settleAll tidy (fun e he => order.subset he) once with
    ⟨u, all, run, resolve⟩ | ⟨before, entry, after, fault, u, rfl, stopped, failed, advanced, spent⟩
  · exact .inl ⟨u, all, run, fun e he => resolve e (order.symm.subset he)⟩
  · exact .inr ⟨before, entry, after, fault, u, rfl, stopped after, failed, advanced, spent⟩

namespace Preloading

variable {visit visit' : List Registration} (run : Preloading s visit t) (unchanged : s.Tidy)
  (order : visit.Perm s.pending)
include run unchanged order

/-- After a preload that succeeds everything is resolved. -/
theorem isResolved : ∀ p ∈ t.registry.entries, t.isResolved p.2 = true := by
  intro p hp
  rw [run.entries] at hp
  have known : s.registry.find? p.2.declaration.className = some p.2 := unchanged.find? hp
  rcases unchanged.cell_cases known with ⟨b, filled⟩ | empty
  · exact isResolved_of_filled (run.kept p hp b filled).1
  · have pending : p.2 ∈ s.pending :=
      (mem_pending_iff unchanged).mpr ⟨Registry.mem_of_find? known, empty⟩
    obtain ⟨b, binding, there, -⟩ := run.resolved p.2 (order.symm.subset pending)
    exact isResolved_of_filled there

variable (resolve : ∀ e ∈ s.pending, ∃ binding, s.prospect e = .ok binding)
include resolve

/-- A preload in another order succeeds as well, and what it leaves matches. -/
theorem matches_preload (order' : visit'.Perm s.pending) :
    ∃ t', Registry.preloadAlong visit' s = (.ok (), t') ∧ t.Matches t' := by
  rcases unchanged.preloadAlong_cases order' with ⟨u, all, run', -⟩ |
    ⟨before, entry, after, fault, u, rfl, -, failed, -⟩
  · exact ⟨u, all, run.matches_of_perm run' (order.trans order'.symm) unchanged⟩
  · -- In no order is there a class that does not resolve.
    obtain ⟨binding, resolved⟩ := resolve entry (order'.subset (by simp))
    cases resolved.symm.trans failed

/-- So do requests for the classes by their names. -/
theorem matches_namedAll {names : List String} (listed : names.Perm s.registry.classNames) :
    ∃ t', Registry.namedAll names s = (.ok (), t') ∧ t.Matches t' := by
  have known : ∀ name ∈ names, ∃ e, (name, e) ∈ s.registry.entries := fun name mem =>
    (unchanged.toFramed.listed.2 name).mp (listed.subset mem)
  have once : names.Nodup :=
    (listed.trans (List.mergeSort_perm _ _)).nodup_iff.mpr unchanged.names
  obtain ⟨u, all, run'⟩ := (start unchanged).namedAll unchanged known once nofun resolve
  have due := due_perm unchanged.toFramed listed
  exact ⟨u, all, run.matches_of_perm run' (order.trans due.symm) unchanged⟩

end Preloading

end Shared

/-- For every registry on a counting machine, however it was made and used, and for every order in
which the classes that are not resolved may be visited: a preload succeeds exactly if each of them
resolves on the machine as it is. Then all classes are resolved, and what has become of the registry
and the machine is the same for every order, and the same as if each class was asked for by name.
Otherwise the fault is that of a class that does not resolve; the classes visited before it are
resolved and counted, and nothing was asked for those behind it. A class that was resolved before
keeps its binding in any case. -/
theorem preload_in_any_order {s : Shared Counting.host} (reached : s.Reached)
    {visit : List Registration} (order : visit.Perm s.pending) :
    ((Registry.preloadAlong visit s).1 = .ok () ↔
      ∀ entry ∈ s.pending, ∃ binding, s.prospect entry = .ok binding) ∧
    (∀ t, Registry.preloadAlong visit s = (.ok (), t) →
      s.Advanced visit t ∧ (∀ p ∈ t.registry.entries, t.isResolved p.2 = true) ∧
      (∀ visit' : List Registration, visit'.Perm s.pending →
        ∃ t', Registry.preloadAlong visit' s = (.ok (), t') ∧ t.Matches t') ∧
      ∀ names : List String, names.Perm s.registry.classNames →
        ∃ t', Registry.namedAll names s = (.ok (), t') ∧ t.Matches t') ∧
    ∀ fault t, Registry.preloadAlong visit s = (.error fault, t) →
      ∃ before entry after, visit = before ++ entry :: after ∧ s.prospect entry = .error fault ∧
        s.Advanced before t ∧ s.machine.Spent (s.costOf (before ++ [entry])) t.machine := by
  have tidy := reached.tidy
  rcases tidy.preloadAlong_cases order with ⟨u, all, run, resolve⟩ |
    ⟨before, entry, after, fault, u, split, stopped, failed, advanced, spent⟩
  · refine ⟨⟨fun _ => resolve, fun _ => congrArg Prod.fst all⟩, ?_, ?_⟩
    · intro t succeeded
      cases all.symm.trans succeeded
      exact ⟨run.toAdvanced, run.isResolved tidy order,
        fun _ order' => run.matches_preload tidy order resolve order',
        fun _ listed => run.matches_namedAll tidy order resolve listed⟩
    · intro fault t failed
      cases all.symm.trans failed
  · refine ⟨⟨?_, ?_⟩, ?_, ?_⟩
    · intro succeeded
      rw [stopped] at succeeded
      cases succeeded
    · intro resolve
      obtain ⟨binding, resolved⟩ := resolve entry (order.subset (by simp [split]))
      cases resolved.symm.trans failed
    · intro t succeeded
      cases stopped.symm.trans succeeded
    · intro fault' t failed'
      cases stopped.symm.trans failed'
      exact ⟨before, entry, after, split, failed, advanced, spent⟩

/-- A counter and a point, declared in front of a run on a machine on which nothing was done. -/
def Counting.declared : Shared Counting.host where
  registry.entries :=
    [("test/Counter", ⟨⟨"test/Counter", [.field "value" "value" "I"], .drop⟩, true, 0⟩),
      ("test/Point", ⟨⟨"test/Point", [.field "x" "x" "I"], .drop⟩, true, 1⟩)]
  store := { host := {}, cells := [.empty, .empty] }

/-- They are resolved by a preload that visits the point first, as they are if the counter is asked
for before it. -/
theorem preload_in_any_order_declared : ∃ t t' : Shared Counting.host,
    Counting.declared.Reached ∧ Counting.declared.pending.reverse.Perm Counting.declared.pending ∧
    Registry.preloadAlong Counting.declared.pending.reverse Counting.declared = (.ok (), t) ∧
    Registry.namedAll ["test/Counter", "test/Point"] Counting.declared = (.ok (), t') ∧
    t.Matches t' := by
  have made : Registry.ofDeclarations (H := Counting.host)
      (Counting.declared.registry.entries.map fun p => p.2.declaration)
      { host := {} } = (.ok Counting.declared.registry, _) := rfl
  have reached : Counting.declared.Reached := .made made
  have order := List.reverse_perm Counting.declared.pending
  obtain ⟨t, run⟩ : ∃ t, Registry.preloadAlong Counting.declared.pending.reverse
      Counting.declared = (.ok (), t) := ⟨_, rfl⟩
  obtain ⟨-, succeeds, -⟩ := preload_in_any_order reached order
  obtain ⟨-, -, -, byName⟩ := succeeds t run
  have listed : ["test/Counter", "test/Point"].Perm Counting.declared.registry.classNames :=
    (List.mergeSort_perm _ _).symm
  obtain ⟨t', named, agree⟩ := byName _ listed
  exact ⟨t, t', reached, order, run, named, agree⟩

end HandleCache
