import HandleCache.Descriptor.Basic
import HandleCache.Text.Numeral

/-!
# Values

Values of the types that descriptors name, over any type of references. Numbers have the width of
their type; floating-point values are carried as their bits and never computed with.

A value is written as the letter of its type, a colon and what it is, so that `I:-1` is a whole
number and `L:x` a reference.

## Contents

- `Value`, `Kind`: values and what tells them apart
- `Value.zero`, `Value.coerce`: the value of a kind that stands for nothing
- `Value.read`, `Value.render`: values as text

## Main statements

- `Value.kind_coerce`: a coerced value has the kind asked for
-/

namespace HandleCache

/-- A value, with references of type `ρ`. -/
inductive Value (ρ : Type) where
  | void
  | boolean (b : Bool)
  | byte (v : Int8)
  | char (unit : UInt16)
  | short (v : Int16)
  | int (v : Int32)
  | long (v : Int64)
  | float (bits : UInt32)
  | double (bits : UInt64)
  | reference (r : ρ)
  deriving DecidableEq

/-- What tells values apart before what they are: a primitive, or a reference. -/
inductive Kind where
  | primitive (p : Primitive)
  | reference
  deriving DecidableEq, Repr

namespace Kind

/-- The word for the kind in the names of requests. -/
def word : Kind → String
  | primitive p => p.name
  | reference => "Object"

/-- The kind of the values of a type. -/
def ofType : TypeDescriptor → Kind
  | .primitive p => primitive p
  | .object _ | .array _ => reference

end Kind

namespace Value

variable {ρ σ : Type}

/-- The kind of a value. -/
def kind : Value ρ → Kind
  | void => .primitive .void
  | boolean _ => .primitive .boolean
  | byte _ => .primitive .byte
  | char _ => .primitive .char
  | short _ => .primitive .short
  | int _ => .primitive .int
  | long _ => .primitive .long
  | float _ => .primitive .float
  | double _ => .primitive .double
  | reference _ => .reference

/-- The value of a kind that stands for nothing, given the reference that does. -/
def zero (null : ρ) : Kind → Value ρ
  | .primitive .void => void
  | .primitive .boolean => boolean false
  | .primitive .byte => byte 0
  | .primitive .char => char 0
  | .primitive .short => short 0
  | .primitive .int => int 0
  | .primitive .long => long 0
  | .primitive .float => float 0
  | .primitive .double => double 0
  | .reference => reference null

/-- The value itself if it is of the kind, and otherwise the one that stands for nothing. -/
def coerce (null : ρ) (k : Kind) (v : Value ρ) : Value ρ :=
  if v.kind = k then v else zero null k

/-- The reference that a value is. -/
def reference? : Value ρ → Option ρ
  | reference r => some r
  | _ => none

/-- The value with its reference replaced. -/
def map (f : ρ → σ) : Value ρ → Value σ
  | void => void
  | boolean b => boolean b
  | byte v => byte v
  | char u => char u
  | short v => short v
  | int v => int v
  | long v => long v
  | float b => float b
  | double b => double b
  | reference r => reference (f r)

/-! ## Text -/

/-- A value as text, given the text of its reference. -/
def render (reference : ρ → String) : Value ρ → String
  | void => "V"
  | boolean b => if b then "Z:1" else "Z:0"
  | byte v => "B:" ++ toString v.toInt
  | char u => "C:" ++ toString u.toNat
  | short v => "S:" ++ toString v.toInt
  | int v => "I:" ++ toString v.toInt
  | long v => "J:" ++ toString v.toInt
  | float b => "F:" ++ Text.showBits 8 b.toNat
  | double b => "D:" ++ Text.showBits 16 b.toNat
  | .reference r => "L:" ++ reference r

/-- A whole number from one bound to another. -/
def readBetween (least greatest : Int) (digits : List Char) : Option Int :=
  (Text.readInt digits).filter fun v => decide (least ≤ v) && decide (v ≤ greatest)

/-- The value that a text stands for, given the references that names stand for. -/
def read (lookup : String → Option ρ) (text : String) : Option (Value ρ) :=
  match text.toList with
  | ['V'] => some void
  -- Whatever is not 1 is false.
  | 'Z' :: ':' :: digits => some (boolean (digits == ['1']))
  | 'B' :: ':' :: digits =>
    (readBetween Int8.minValue.toInt Int8.maxValue.toInt digits).map fun v => byte (.ofInt v)
  | 'C' :: ':' :: digits =>
    ((Text.readNat digits).filter (· < UInt16.size)).map fun v => char (.ofNat v)
  | 'S' :: ':' :: digits =>
    (readBetween Int16.minValue.toInt Int16.maxValue.toInt digits).map fun v => short (.ofInt v)
  | 'I' :: ':' :: digits =>
    (readBetween Int32.minValue.toInt Int32.maxValue.toInt digits).map fun v => int (.ofInt v)
  | 'J' :: ':' :: digits =>
    (readBetween Int64.minValue.toInt Int64.maxValue.toInt digits).map fun v => long (.ofInt v)
  | 'F' :: ':' :: digits => (Text.readBits UInt32.size digits).map fun v => float (.ofNat v)
  | 'D' :: ':' :: digits => (Text.readBits UInt64.size digits).map fun v => double (.ofNat v)
  | 'L' :: ':' :: name => (lookup (String.ofList name)).map reference
  | _ => none

/-! ## Kinds -/

@[simp] theorem kind_zero (null : ρ) (k : Kind) : (zero null k).kind = k := by
  match k with
  | .reference => rfl
  | .primitive p => cases p <;> rfl

@[simp] theorem kind_coerce (null : ρ) (k : Kind) (v : Value ρ) : (coerce null k v).kind = k := by
  unfold coerce
  split
  · assumption
  · exact kind_zero null k

/-- A value of the kind asked for is left as it is. -/
theorem coerce_of_kind {null : ρ} {k : Kind} {v : Value ρ} (h : v.kind = k) :
    coerce null k v = v := by
  simp [coerce, h]

@[simp] theorem kind_map (f : ρ → σ) (v : Value ρ) : (v.map f).kind = v.kind := by
  cases v <;> rfl

end Value

end HandleCache
