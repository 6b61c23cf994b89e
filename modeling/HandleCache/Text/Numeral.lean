/-!
# Numerals

Whole numbers as they are written: decimal with a sign that may be left out, and hexadecimal
bit patterns of a fixed width.

## Contents

- `readNat`, `readInt`: decimal numbers
- `readBits`, `showBits`: bit patterns
-/

namespace HandleCache.Text

/-- The value of a decimal digit. -/
def decimalDigit? (c : Char) : Option Nat :=
  if '0' ≤ c ∧ c ≤ '9' then some (c.toNat - '0'.toNat) else none

/-- The value of a hexadecimal digit, in either case. -/
def hexDigit? (c : Char) : Option Nat :=
  if '0' ≤ c ∧ c ≤ '9' then some (c.toNat - '0'.toNat)
  else if 'a' ≤ c ∧ c ≤ 'f' then some (c.toNat - 'a'.toNat + 10)
  else if 'A' ≤ c ∧ c ≤ 'F' then some (c.toNat - 'A'.toNat + 10)
  else none

/-- The number that digits of a base stand for, after a number that is read already. -/
def readDigits (base : Nat) (digit? : Char → Option Nat) : Nat → List Char → Option Nat
  | n, [] => some n
  | n, c :: rest =>
    match digit? c with
    | some d => readDigits base digit? (n * base + d) rest
    | none => none

/-- The number that one or more digits of a base stand for. -/
def readNumber (base : Nat) (digit? : Char → Option Nat) : List Char → Option Nat
  | [] => none
  | digits => readDigits base digit? 0 digits

/-- A decimal number without a sign, or with `+`. -/
def readNat : List Char → Option Nat
  | '+' :: digits => readNumber 10 decimalDigit? digits
  | digits => readNumber 10 decimalDigit? digits

/-- A decimal number with a sign or without. -/
def readInt : List Char → Option Int
  | '-' :: digits => (readNumber 10 decimalDigit? digits).map fun n => -(n : Int)
  | digits => (readNat digits).map fun n => (n : Int)

/-- A bit pattern below a limit, in hexadecimal; it may have `+` in front as other numbers do. -/
def readBits (limit : Nat) (digits : List Char) : Option Nat :=
  let digits :=
    match digits with
    | '+' :: rest => rest
    | digits => digits
  (readNumber 16 hexDigit? digits).filter (· < limit)

/-- A bit pattern in hexadecimal, with zeros in front up to so many digits. -/
def showBits (digits n : Nat) : String :=
  let shown := Nat.toDigits 16 n
  String.ofList (List.replicate (digits - shown.length) '0' ++ shown)

end HandleCache.Text
