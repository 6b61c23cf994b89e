import HandleCache.Registry.Store

/-!
# Registries

A registry hands out one binding for each class name. A class is known to it either because it was
declared when the registry was made, or because a binding for it was asked for. What a class was
first known with is its declaration from then on, except that a class first known by a request
that failed is forgotten again.

Each operation is put together from single steps: to find or insert an entry, to read a cell, to
resolve into it, to withdraw an entry. Between two steps of one thread another thread may take
some of its own, so the steps are also what schedules are made of.

## Contents

- `Registration`, `Registry`, `Shared`: a registry and the store that it keeps its bindings in
- `Shared.locate`, `Shared.settle`, `Shared.withdraw`: the steps
- `Registry.request`, `Registry.named`, `Registry.preload`, `Registry.peek`: the operations
- `Registry.distinct`, `Registry.ofDeclarations`: a registry made from declarations

## Main statements

- `Registry.find?_insert`: what is known after a class is inserted
-/

namespace HandleCache

/-! ## Entries -/

/-- What a registry knows about a class. -/
structure Registration where
  declaration : Declaration
  predeclared : Bool
  cell : CellId
  deriving DecidableEq, Repr

/-- A registry: its entries by class name, each name once, and how many bindings it made. -/
structure Registry where
  entries : List (String × Registration) := []
  /-- How many resolutions succeeded. -/
  resolutions : Nat := 0
  deriving DecidableEq, Repr

namespace Registry

/-- The entry of a class. -/
def find? (r : Registry) (name : String) : Option Registration :=
  (r.entries.find? (·.1 == name)).map (·.2)

/-- Adds an entry for a class that is not known. -/
def insert (r : Registry) (name : String) (entry : Registration) : Registry :=
  { r with entries := r.entries ++ [(name, entry)] }

/-- Takes the entry of a class away. -/
def erase (r : Registry) (name : String) : Registry :=
  { r with entries := r.entries.filter (·.1 != name) }

/-- The names of the known classes, in ascending order. -/
def classNames (r : Registry) : List String :=
  (r.entries.map (·.1)).mergeSort fun a b => decide (a ≤ b)

/-- A summary of the registry: the classes it knows and how many bindings it made. -/
def summary (r : Registry) : String :=
  Text.record "Registry"
    [("classes", Text.list (r.classNames.map Text.quote)),
     ("resolutions", toString r.resolutions)]

/-- A class is known after it was inserted, and nothing else changes. -/
theorem find?_insert {r : Registry} {name : String} {entry : Registration}
    (h : r.find? name = none) (other : String) :
    (r.insert name entry).find? other = if other = name then some entry else r.find? other := by
  -- No entry has the name, so the new one is the first that does.
  have unknown : ∀ e ∈ r.entries, e.1 ≠ name := by simpa [find?] using h
  by_cases ho : other = name
  · subst ho
    have : r.entries.find? (·.1 == other) = none := by simpa using unknown
    simp [find?, insert, List.find?_append, this]
  · have : (name == other) = false := by simpa using Ne.symm ho
    simp [find?, insert, List.find?_append, this, ho]

end Registry

/-! ## Steps -/

/-- A registry with the store that keeps its bindings. -/
structure Shared (H : Host) where
  registry : Registry := {}
  store : Store H

namespace Shared

variable {H : Host}

/-- An action on a registry and its store. -/
abbrev Request (H : Host) (α : Type) : Type := Action (Shared H) (Fault H.Failure) α

/-- An action on the store alone. -/
def onStore {α : Type} (x : Store.Request H α) : Request H α := fun s =>
  ((x s.store).1, { s with store := (x s.store).2 })

/-- Tells the journal something. -/
def tell (e : LogEntry) : Request H Unit := onStore (Store.tell e)

/-- Finds the entry of a declaration's class, or makes one that is not predeclared. The class must
not be known with another declaration. -/
def locate (d : Declaration) : Request H Registration := fun s =>
  match s.registry.find? d.className with
  | some entry =>
    -- A conflict leaves the entry as it is.
    if entry.declaration = d then (.ok entry, s)
    else (.error (.conflictingDeclaration d.className), s)
  | none =>
    let (cell, store) := s.store.newCell
    let entry : Registration := ⟨d, false, cell⟩
    (.ok entry, ⟨s.registry.insert d.className entry, store⟩)

/-- Resolves into a cell and counts the success. -/
def attempt (c : CellId) (d : Declaration) : Request H BindingId := fun s =>
  match s.store.attempt c d with
  | (.ok b, store) =>
    (.ok b, ⟨{ s.registry with resolutions := s.registry.resolutions + 1 }, store⟩)
  | (.error e, store) => (.error e, ⟨s.registry, store⟩)

/-- The binding of a cell, which is resolved unless it is there already. -/
def settle (c : CellId) (d : Declaration) : Request H BindingId := fun s =>
  match (s.store.cell c).binding? with
  | some b => (do tell (.alreadyResolved d.className); pure b : Request H BindingId) s
  | none => attempt c d s

/-- Takes the entry of a class away if it still holds this cell and nothing was resolved into
it. -/
def withdraw (name : String) (c : CellId) (s : Shared H) : Shared H :=
  match s.registry.find? name with
  | some entry =>
    -- An entry with another cell belongs to a later request, and a filled one is in use.
    if entry.cell = c ∧ (s.store.cell c).binding? = none then
      let told := ((tell (.forgetting name) : Request H Unit) s).2
      { told with registry := told.registry.erase name }
    else s
  | none => s

/-- The entries whose class is not resolved yet. -/
def pending (s : Shared H) : List Registration :=
  (s.registry.entries.map (·.2)).filter fun entry => (s.store.cell entry.cell).binding?.isNone

end Shared

/-! ## Operations -/

namespace Registry

variable {H : Host}

/-- The binding for a declaration, which is resolved on first use. A class first known by this
request is forgotten again if it cannot be resolved. -/
def request (d : Declaration) : Shared.Request H BindingId := do
  let entry ← Shared.locate d
  fun s =>
    match Shared.settle entry.cell d s with
    | (.ok b, s) => (.ok b, s)
    | (.error e, s) =>
      (.error e, if entry.predeclared then s else Shared.withdraw d.className entry.cell s)

/-- The binding for a class that is known already, which is resolved on first use. -/
def named (name : String) : Shared.Request H BindingId := fun s =>
  match s.registry.find? name with
  | some entry => Shared.settle entry.cell entry.declaration s
  | none => (.error (.undeclaredClass name), s)

/-- Resolves entries in the given order, up to the first that fails. -/
def settleAll : List Registration → Shared.Request H Unit
  | [] => pure ()
  | entry :: rest => do
    let _ ← Shared.settle entry.cell entry.declaration
    settleAll rest

/-- Resolves what is not resolved yet, in the given order of visit. -/
def preloadAlong (visit : List Registration) : Shared.Request H Unit := do
  Shared.tell (.preloading visit.length)
  settleAll visit

/-- Resolves every known class that is not resolved yet. -/
def preload : Shared.Request H Unit := fun s => preloadAlong s.pending s

/-- The binding for a class, if it is there already. -/
def peek (s : Shared H) (name : String) : Option BindingId :=
  (s.registry.find? name).bind fun entry => (s.store.cell entry.cell).binding?

/-- The bindings that a registry keeps. -/
def kept (s : Shared H) : List BindingId :=
  s.registry.entries.filterMap fun (_, entry) => (s.store.cell entry.cell).binding?

/-! ## Declarations in front -/

/-- The declarations without repetitions, each class as it comes first; a class must not be
declared in two ways. -/
def distinct {ε : Type} (known : List Declaration) :
    List Declaration → Except (Fault ε) (List Declaration)
  | [] => .ok known
  | d :: rest =>
    match known.find? (·.className == d.className) with
    | none => distinct (known ++ [d]) rest
    | some k =>
      if k = d then distinct known rest else .error (.conflictingDeclaration d.className)

/-- Gives each declaration an entry with a cell of its own. -/
def predeclare : List Declaration → Shared H → Shared H
  | [], s => s
  | d :: rest, s =>
    let (cell, store) := s.store.newCell
    predeclare rest ⟨s.registry.insert d.className ⟨d, true, cell⟩, store⟩

/-- A registry that knows these declarations and has resolved nothing. -/
def ofDeclarations (ds : List Declaration) : Store.Request H Registry := fun store =>
  match distinct [] ds with
  | .ok known =>
    let s := predeclare known { store }
    (.ok s.registry, s.store)
  | .error e => (.error e, store)

/-- A summary of declarations that a registry is to be made from. -/
def declarationsSummary (ds : List Declaration) : String :=
  Text.record "RegistryBuilder"
    [("classes", Text.list (ds.map fun d => Text.quote d.className))]

end Registry

end HandleCache
