import HandleCache.Registry.Store

/-!
# Deferred bindings

A declaration with a cell of its own: the binding is resolved by the first request that succeeds,
and every later request answers it.
-/

namespace HandleCache

/-- A declaration with the cell that keeps its binding. -/
structure Deferred where
  declaration : Declaration
  cell : CellId
  deriving DecidableEq, Repr

namespace Deferred

variable {H : Host}

/-- A deferred binding for a declaration, in a new cell. -/
def ofDeclaration (d : Declaration) (s : Store H) : Deferred × Store H :=
  (⟨d, s.newCell.1⟩, s.newCell.2)

/-- The binding, which is resolved unless it is there already. -/
def get (l : Deferred) : Store.Request H BindingId :=
  Store.fill l.cell l.declaration

/-- The binding, if it is there already. -/
def resolved? (l : Deferred) (s : Store H) : Option BindingId :=
  (s.cell l.cell).binding?

/-- A summary of the deferred binding: its class and whether it is resolved. -/
def summary (l : Deferred) (s : Store H) : String :=
  Text.record "LazyBinding"
    [("class", Text.quote l.declaration.className),
     ("resolved", Text.flag (l.resolved? s).isSome)]

/-- What was resolved is what is answered from then on. -/
theorem get_of_resolved {l : Deferred} {s : Store H} {b : BindingId}
    (h : l.resolved? s = some b) : l.get s = (.ok b, s) := by
  unfold resolved? at h
  simp [get, Store.fill, h]

end Deferred

end HandleCache
