import HandleCache.Binding.Index
import HandleCache.Host
import HandleCache.Text.Quoted

/-!
# Bindings

A binding is the resolved table of one class: for each declared operation the handle that the host
gave out for it, with the descriptor under which it was given out, and what is kept of the class
reference. An index tells the place of each logical name in the table, so that an operation is found
without a search. A binding does not change once it is made.

## Contents

- `Handle`: a handle of one of the five kinds with its descriptor
- `Retained`: what is kept of the class
- `Binding`: the table with its index
- `Binding.methodId` and its siblings: the handles themselves

## Main statements

- `Binding.find?_eq`: the index finds what a search of the rows finds
- `Binding.map_find?`: and what a search of the declaration finds
-/

namespace HandleCache

/-! ## Handles -/

/-- The handle of an operation, with the descriptor it was looked up under. -/
inductive Handle (H : Host) where
  | constructor (id : H.MethodId) (descriptor : MethodDescriptor)
  | method (id : H.MethodId) (descriptor : MethodDescriptor)
  | staticMethod (id : H.StaticMethodId) (descriptor : MethodDescriptor)
  | field (id : H.FieldId) (descriptor : FieldDescriptor)
  | staticField (id : H.StaticFieldId) (descriptor : FieldDescriptor)

/-- The kind of operation that a handle serves. -/
def Handle.kind {H : Host} : Handle H → OperationKind
  | constructor .. => .constructor
  | method .. => .method
  | staticMethod .. => .staticMethod
  | field .. => .field
  | staticField .. => .staticField

/-- An operation with its handle. -/
structure ResolvedOperation (H : Host) where
  operation : Operation
  /-- What the host gave out for it. -/
  handle : Handle H

/-- What a binding keeps of its class. -/
inductive Retained (H : Host) where
  | nothing
  | weakly (w : H.Weak)
  | pinned (p : H.Pin)

/-- Whether anything is kept. -/
def Retained.isSome {H : Host} : Retained H → Bool
  | nothing => false
  | weakly _ | pinned _ => true

/-! ## Bindings -/

/-- The resolved table of one class. -/
structure Binding (H : Host) where
  declaration : Declaration
  /-- Its operations with their handles, in the order of the declaration. -/
  resolved : List (ResolvedOperation H)
  /-- The places of the operations in the table, by their logical names. -/
  index : Index
  /-- What is kept of the class. -/
  retained : Retained H
  /-- The index was entered row by row. -/
  indexed : index = places 0 (resolved.map (·.operation)) []

namespace Binding

variable {H : Host}

/-- The binding with these rows: they are entered into its index one after the other. -/
def ofRows (d : Declaration) (rows : List (ResolvedOperation H)) (retained : Retained H) :
    Binding H where
  declaration := d
  resolved := rows
  index := places 0 (rows.map (·.operation)) []
  retained := retained
  indexed := rfl

/-- The name of the bound class. -/
def className (b : Binding H) : String := b.declaration.className

/-- The declared operations, in order. -/
def operations (b : Binding H) : List Operation := b.resolved.map (·.operation)

/-- Whether the binding keeps a reference to its class. -/
def keepsClass (b : Binding H) : Bool := b.retained.isSome

/-- The operation of this logical name, with its handle: the row at the place that the index tells. -/
def find? (b : Binding H) (name : String) : Option (ResolvedOperation H) :=
  (b.index.place? name).bind (b.resolved[·]?)

/-- Whether there is an operation of this logical name. -/
def contains (b : Binding H) (name : String) : Bool := (b.index.place? name).isSome

/-- The operation of this logical name, or the fault that there is none. -/
def operation (b : Binding H) (name : String) :
    Except (Fault H.Failure) (ResolvedOperation H) :=
  match b.find? name with
  | some r => .ok r
  | none => .error (.unknownOperation b.className name)

/-- The fault that an operation is not of the kind asked for. -/
def kindFault (b : Binding H) (r : ResolvedOperation H) (expected : OperationKind) :
    Fault H.Failure :=
  .wrongKind b.className r.operation.name expected r.handle.kind

/-- The handle of an instance method or of a constructor. -/
def methodId (b : Binding H) (name : String) : Except (Fault H.Failure) H.MethodId := do
  let r ← b.operation name
  match r.handle with
  | .method id _ | .constructor id _ => .ok id
  | _ => .error (b.kindFault r .method)

/-- The handle of a static method. -/
def staticMethodId (b : Binding H) (name : String) :
    Except (Fault H.Failure) H.StaticMethodId := do
  let r ← b.operation name
  match r.handle with
  | .staticMethod id _ => .ok id
  | _ => .error (b.kindFault r .staticMethod)

/-- The handle of an instance field. -/
def fieldId (b : Binding H) (name : String) : Except (Fault H.Failure) H.FieldId := do
  let r ← b.operation name
  match r.handle with
  | .field id _ => .ok id
  | _ => .error (b.kindFault r .field)

/-- The handle of a static field. -/
def staticFieldId (b : Binding H) (name : String) :
    Except (Fault H.Failure) H.StaticFieldId := do
  let r ← b.operation name
  match r.handle with
  | .staticField id _ => .ok id
  | _ => .error (b.kindFault r .staticField)

/-- Gives back what the binding keeps of its class. -/
def release (b : Binding H) : H.State → H.State :=
  match b.retained with
  | .nothing => id
  | .weakly w => H.dropWeak w
  | .pinned p => H.dropPin p

/-- A summary of the binding: its class, what it keeps, and its operations. -/
def summary (b : Binding H) : String :=
  Text.record "ClassBinding"
    [("class", Text.quote b.className),
     ("retention", b.declaration.retention.describe),
     ("retains_class", Text.flag b.keepsClass),
     ("operations", Text.list (b.operations.map fun op => Text.quote op.name))]

/-! ## What the index finds -/

variable {b : Binding H} {name : String} {r : ResolvedOperation H}

/-- At a place that the index tells stands a row of this name. -/
theorem exists_of_place? {i : Nat} (found : b.index.place? name = some i) :
    ∃ r, b.resolved[i]? = some r ∧ r.operation.name = name := by
  rw [b.indexed] at found
  rcases eq_or_of_place?_places found with ⟨j, op, at_j, named, rfl⟩ | before
  · rw [List.getElem?_map, Option.map_eq_some_iff] at at_j
    obtain ⟨r, at_j, rfl⟩ := at_j
    rw [Nat.zero_add]
    exact ⟨r, at_j, named⟩
  · cases before

/-- A row that is found is one of the table, under the name asked for. -/
theorem mem_of_find? (found : b.find? name = some r) :
    r ∈ b.resolved ∧ r.operation.name = name := by
  obtain ⟨i, told, at_i⟩ := Option.bind_eq_some_iff.mp found
  obtain ⟨r', at_i', named⟩ := exists_of_place? told
  cases at_i.symm.trans at_i'
  exact ⟨List.mem_of_getElem? at_i, named⟩

/-- What the index has is found. -/
theorem isSome_find? (b : Binding H) (name : String) : (b.find? name).isSome = b.contains name := by
  unfold find? contains
  cases told : b.index.place? name with
  | none => rfl
  | some i =>
    obtain ⟨r, at_i, -⟩ := exists_of_place? told
    rw [Option.bind_some, at_i]
    rfl

/-- Where logical names are distinct, the index finds what a search of the rows finds. -/
theorem find?_eq (distinct : (b.operations.map (·.name)).Nodup) (name : String) :
    b.find? name = b.resolved.find? (·.operation.name == name) := by
  have index : b.index = places 0 b.operations [] := b.indexed
  cases found : b.resolved.find? (·.operation.name == name) with
  | none =>
    have others : ∀ op ∈ b.operations, op.name ≠ name := by
      intro op mem
      obtain ⟨r, row, rfl⟩ := List.mem_map.mp mem
      simpa using List.find?_eq_none.mp found r row
    rw [find?, index, place?_places_of_forall_ne others]
    rfl
  | some r =>
    obtain ⟨i, at_i⟩ := List.mem_iff_getElem?.mp (List.mem_of_find?_eq_some found)
    have named : r.operation.name = name := by simpa using List.find?_some found
    have declared : b.operations[i]? = some r.operation := by
      rw [operations, List.getElem?_map, at_i]
      rfl
    rw [find?, index, ← named, place?_places distinct declared, Nat.zero_add]
    exact at_i

/-- The rows of a table for a declaration are found as the operations that are declared. -/
theorem map_find? {d : Declaration} (declared : b.operations = d.operations)
    (distinct : (d.operations.map (·.name)).Nodup) (name : String) :
    (b.find? name).map (·.operation) = d.operation? name := by
  rw [find?_eq (declared ▸ distinct), Declaration.operation?, ← declared, operations, List.find?_map]
  rfl

end Binding

end HandleCache
