/-!
# Type and method descriptors

The descriptors by which a virtual machine names the types of members: a primitive is one
letter, an object type is its class name between `L` and `;`, an array is `[` before its
element type, and a method lists its parameters between parentheses before its result.

## Contents

- `Primitive`, `TypeDescriptor`, `FieldDescriptor`, `MethodDescriptor`
- `TypeDescriptor.dimensions` and `TypeDescriptor.base`: an array type taken apart
- `render` on each of them: the one text of a descriptor
-/

namespace HandleCache

/-! ## Primitives -/

/-- The types that are written as one letter; `void` is the result of a method that answers
nothing. -/
inductive Primitive where
  | boolean
  | byte
  | char
  | double
  | float
  | int
  | long
  | short
  | void
  deriving DecidableEq, Repr

namespace Primitive

/-- The letter of a primitive in a descriptor. -/
def letter : Primitive → Char
  | boolean => 'Z'
  | byte => 'B'
  | char => 'C'
  | double => 'D'
  | float => 'F'
  | int => 'I'
  | long => 'J'
  | short => 'S'
  | void => 'V'

/-- The English name of a primitive. -/
def name : Primitive → String
  | boolean => "Boolean"
  | byte => "Byte"
  | char => "Char"
  | double => "Double"
  | float => "Float"
  | int => "Int"
  | long => "Long"
  | short => "Short"
  | void => "Void"

/-- The primitive that has values and is written as this letter; `void` has none. -/
def ofLetter? (c : Char) : Option Primitive :=
  match c with
  | 'Z' => some boolean
  | 'B' => some byte
  | 'C' => some char
  | 'D' => some double
  | 'F' => some float
  | 'I' => some int
  | 'J' => some long
  | 'S' => some short
  | _ => none

/-- Every primitive but `void` is found again by its letter. -/
theorem ofLetter?_letter {p : Primitive} (h : p ≠ void) : ofLetter? p.letter = some p := by
  cases p <;> simp_all [ofLetter?, letter]

theorem ofLetter?_void : ofLetter? void.letter = none := rfl

end Primitive

/-! ## Types -/

/-- A type as descriptors name it. -/
inductive TypeDescriptor where
  /-- A primitive, or `void`. -/
  | primitive (p : Primitive)
  /-- An object type, by the name of its class. -/
  | object (className : String)
  /-- An array of elements of one type. -/
  | array (element : TypeDescriptor)
  deriving DecidableEq, Repr

namespace TypeDescriptor

/-- Whether the whole type is `void`. -/
def isVoid (t : TypeDescriptor) : Bool :=
  t == primitive .void

/-- Whether values of the type are references: objects and arrays are. -/
def isReference : TypeDescriptor → Bool
  | primitive _ => false
  | object _ => true
  | array _ => true

/-- How many times the type is an array of something. -/
def dimensions : TypeDescriptor → Nat
  | array t => t.dimensions + 1
  | _ => 0

/-- The type inside all the arrays. -/
def base : TypeDescriptor → TypeDescriptor
  | array t => t.base
  | t => t

/-- The characters of a type's descriptor. -/
def chars : TypeDescriptor → List Char
  | primitive p => [p.letter]
  | object n => 'L' :: (n.toList ++ [';'])
  | array t => '[' :: t.chars

/-- The descriptor of a type. -/
def render (t : TypeDescriptor) : String :=
  String.ofList t.chars

instance : ToString TypeDescriptor := ⟨render⟩

@[simp] theorem isVoid_iff {t : TypeDescriptor} : t.isVoid = true ↔ t = primitive .void := by
  simp [isVoid]

@[simp] theorem toList_render (t : TypeDescriptor) : t.render.toList = t.chars := by
  simp [render]

/-- The innermost type is no array. -/
theorem base_dimensions (t : TypeDescriptor) : t.base.dimensions = 0 := by
  induction t with
  | primitive _ => rfl
  | object _ => rfl
  | array t ih => simpa [base] using ih

end TypeDescriptor

/-! ## Members -/

/-- The descriptor of a field: the type of its values. -/
structure FieldDescriptor where
  /-- The type of the field. -/
  type : TypeDescriptor
  deriving DecidableEq, Repr

/-- The descriptor of a method: what it takes and what it answers. -/
structure MethodDescriptor where
  /-- The types of the parameters, in order. -/
  parameters : List TypeDescriptor
  /-- The type of the result, `void` if there is none. -/
  result : TypeDescriptor
  deriving DecidableEq, Repr

namespace FieldDescriptor

/-- The descriptor's text. -/
def render (d : FieldDescriptor) : String := d.type.render

end FieldDescriptor

namespace MethodDescriptor

/-- The characters of a method's descriptor; parameters stand side by side with nothing between
them. -/
def chars (d : MethodDescriptor) : List Char :=
  '(' :: (d.parameters.flatMap TypeDescriptor.chars ++ ')' :: d.result.chars)

/-- The descriptor's text. -/
def render (d : MethodDescriptor) : String :=
  String.ofList d.chars

@[simp] theorem toList_render (d : MethodDescriptor) : d.render.toList = d.chars := by
  simp [render]

end MethodDescriptor

end HandleCache
