/-!
# Declarations

What a program says in front about a class it wants to use: which members, under which logical
names, and what is to be kept of the class once their handles are known.

## Contents

- `OperationKind`, `Operation`: one member with its logical name
- `Retention`: what stays of the class reference
- `Declaration`: a class name, its operations in order, and the retention
-/

namespace HandleCache

/-! ## Operations -/

/-- What kind of member an operation stands for. -/
inductive OperationKind where
  | constructor
  | method
  | staticMethod
  | field
  | staticField
  deriving DecidableEq, Repr

namespace OperationKind

/-- How the kind is called in messages. -/
def describe : OperationKind → String
  | constructor => "constructor"
  | method => "method"
  | staticMethod => "static method"
  | field => "field"
  | staticField => "static field"

/-- Whether the member is called, and so has a method descriptor. -/
def isCallable : OperationKind → Bool
  | constructor | method | staticMethod => true
  | field | staticField => false

/-- Whether using the member takes a reference to its class. -/
def needsClass : OperationKind → Bool
  | constructor | staticMethod | staticField => true
  | method | field => false

end OperationKind

/-- A member of a class, known to the program by a logical name of its own. Overloads share a
member name and differ in their logical names. -/
structure Operation where
  /-- The name by which the program asks for the member. -/
  name : String
  /-- The name of the member in its class. -/
  member : String
  /-- The descriptor of the member, as text. -/
  signature : String
  kind : OperationKind
  deriving DecidableEq, Repr

namespace Operation

/-- The member name of every constructor. -/
def constructorMember : String := "<init>"

/-- A constructor; its member name is fixed. -/
def constructor (name signature : String) : Operation :=
  ⟨name, constructorMember, signature, .constructor⟩

/-- An instance method. -/
def method (name member signature : String) : Operation :=
  ⟨name, member, signature, .method⟩

/-- A static method. -/
def staticMethod (name member signature : String) : Operation :=
  ⟨name, member, signature, .staticMethod⟩

/-- An instance field. -/
def field (name member signature : String) : Operation :=
  ⟨name, member, signature, .field⟩

/-- A static field. -/
def staticField (name member signature : String) : Operation :=
  ⟨name, member, signature, .staticField⟩

end Operation

/-! ## Retention -/

/-- What a binding keeps of its class after the handles are known. -/
inductive Retention where
  /-- Nothing: the class is looked up again when a call needs it. -/
  | drop
  /-- A weak reference, which does not keep the class loaded. -/
  | weak
  /-- A strong reference. -/
  | global
  deriving DecidableEq, Repr

namespace Retention

/-- How the retention is called in messages. -/
def describe : Retention → String
  | drop => "Drop"
  | weak => "Weak"
  | global => "Global"

end Retention

instance : Inhabited Retention := ⟨.drop⟩

/-! ## Declarations -/

/-- The members of one class that a program uses. -/
structure Declaration where
  className : String
  /-- The operations, in the order in which they are looked up. -/
  operations : List Operation
  /-- What is kept of the class; nothing unless the program asks for it. -/
  retention : Retention := .drop
  deriving DecidableEq, Repr

namespace Declaration

/-- The first operation of this logical name. -/
def operation? (d : Declaration) (name : String) : Option Operation :=
  d.operations.find? (·.name == name)

/-- Whether any operation takes a reference to the class. -/
def needsClass (d : Declaration) : Bool :=
  d.operations.any (·.kind.needsClass)

/-- An operation that is found is declared, under the name asked for. -/
theorem mem_of_operation? {d : Declaration} {name : String} {op : Operation}
    (h : d.operation? name = some op) : op ∈ d.operations ∧ op.name = name :=
  ⟨List.mem_of_find?_eq_some h, by simpa using List.find?_some h⟩

theorem operation?_eq_none_iff {d : Declaration} {name : String} :
    d.operation? name = none ↔ ∀ op ∈ d.operations, op.name ≠ name := by
  simp [operation?]

end Declaration

end HandleCache
