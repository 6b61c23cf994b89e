import HandleCache.Binding.Resolve

/-!
# The store of bindings

All bindings that were made on one host, each known by its number, and the cells in which they are
kept. A cell takes one binding at most: while one thread resolves it the others wait, a failed
attempt leaves it empty for the next one, and once it is filled it stays as it is.

## Contents

- `BindingId`, `CellId`, `Cell`
- `Store`: the host, the bindings and the cells
- `Store.resolve`: makes a binding
- `Store.attempt`, `Store.fill`: makes the binding of a cell

## Main statements

- `Store.cell_setCell`: a cell is what was put into it last
-/

namespace HandleCache

/-- A binding, by its number; two are the same binding exactly if they have the same number. -/
abbrev BindingId := Nat

/-- A cell, by its number. -/
abbrev CellId := Nat

/-- What is in a cell. -/
inductive Cell where
  /-- Nothing, and nobody is resolving it. -/
  | empty
  /-- Nothing yet, but somebody is resolving it. -/
  | busy
  /-- A binding, for good. -/
  | filled (b : BindingId)
  deriving DecidableEq, Repr

/-- The binding in a cell. -/
def Cell.binding? : Cell → Option BindingId
  | filled b => some b
  | empty | busy => none

/-- A host with the bindings that were made on it and the cells that keep them. -/
structure Store (H : Host) where
  host : H.State
  bindings : List (Binding H) := []
  cells : List Cell := []

namespace Store

variable {H : Host}

/-- An action on a store. -/
abbrev Request (H : Host) (α : Type) : Type := Action (Store H) (Fault H.Failure) α

/-! ## Reading and changing -/

/-- The binding of this number. -/
def binding? (s : Store H) (b : BindingId) : Option (Binding H) := s.bindings[b]?

/-- What is in a cell; a cell that does not exist is empty. -/
def cell (s : Store H) (c : CellId) : Cell := s.cells.getD c .empty

/-- Puts something into a cell. -/
def setCell (s : Store H) (c : CellId) (content : Cell) : Store H :=
  { s with cells := s.cells.set c content }

/-- A new, empty cell. -/
def newCell (s : Store H) : CellId × Store H :=
  (s.cells.length, { s with cells := s.cells ++ [.empty] })

/-- Tells the journal of the host something. -/
def tell (e : LogEntry) : Request H Unit :=
  Action.modify fun s => { s with host := H.note e s.host }

/-- Runs a request against the host alone. -/
def onHost {α : Type} (x : H.Request α) : Request H α := fun s =>
  ((x s.host).1, { s with host := (x s.host).2 })

/-- Gives back what a binding keeps of its class. -/
def release (s : Store H) (b : BindingId) : Store H :=
  match s.binding? b with
  | some binding => { s with host := binding.release s.host }
  | none => s

/-! ## Making bindings -/

/-- Resolves a declaration into a binding with a number of its own. -/
def resolve (d : Declaration) : Request H BindingId := fun s =>
  match Binding.resolve H d s.host with
  | (.ok b, h) => (.ok s.bindings.length, { s with host := h, bindings := s.bindings ++ [b] })
  | (.error e, h) => (.error e, { s with host := h })

/-- Resolves a declaration for a cell: the binding is put into it, or the cell is left empty. -/
def attempt (c : CellId) (d : Declaration) : Request H BindingId := fun s =>
  match resolve d s with
  | (.ok b, s) => (.ok b, s.setCell c (.filled b))
  | (.error e, s) => (.error e, s.setCell c .empty)

/-- The binding of a cell, which is resolved unless it is there already. -/
def fill (c : CellId) (d : Declaration) : Request H BindingId := fun s =>
  match (s.cell c).binding? with
  | some b => (.ok b, s)
  | none => attempt c d s

/-! ## What the cells hold -/

/-- A cell is what was put into it last, and no other cell changes with it. -/
theorem cell_setCell {s : Store H} {c c' : CellId} {content : Cell} (h : c < s.cells.length) :
    (s.setCell c content).cell c' = if c' = c then content else s.cell c' := by
  by_cases hc : c' = c
  · subst hc
    simp [cell, setCell, List.getD, h]
  · simp [cell, setCell, List.getD, hc, Ne.symm hc]

theorem cell_newCell (s : Store H) (c : CellId) : s.newCell.2.cell c = s.cell c := by
  simp only [newCell, cell, List.getD, List.getElem?_append]
  split
  · rfl
  · rename_i h
    have none : s.cells[c]? = none := by simpa using h
    rw [none]
    -- Behind the old cells stands the new one, which is as empty as those that are not there.
    match hc : c - s.cells.length with
    | 0 => rfl
    | n + 1 => rfl

/-- A filled cell answers its binding and nothing happens. -/
theorem fill_of_filled {s : Store H} {c : CellId} {b : BindingId} {d : Declaration}
    (h : s.cell c = .filled b) : fill c d s = (.ok b, s) := by
  simp [fill, h, Cell.binding?]

end Store

end HandleCache
