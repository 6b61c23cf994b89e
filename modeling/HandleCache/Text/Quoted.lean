import HandleCache.Text.Hidden

/-!
# Quoted text

How texts, lists and records are shown in summaries of the library's values: a text stands
between quotation marks with the characters escaped that would end it or would not be seen, a list
between brackets, and a record between braces after its name.

## Contents

- `escape`, `quote`: characters and texts between quotation marks
- `list`, `record`: lists and named fields
-/

namespace HandleCache.Text

/-! ## Characters -/

/-- The hexadecimal digits of a number, without leading zeros. -/
def hexDigits (n : Nat) : List Char :=
  Nat.toDigits 16 n

/-- A character as it stands between quotation marks. -/
def escape (c : Char) : List Char :=
  match c with
  | '"' => ['\\', '"']
  | '\\' => ['\\', '\\']
  | '\n' => ['\\', 'n']
  | '\r' => ['\\', 'r']
  | '\t' => ['\\', 't']
  | c =>
    if c.toNat = 0 then ['\\', '0']
    else if isHidden c then ['\\', 'u', '\x7b'] ++ hexDigits c.toNat ++ ['\x7d']
    else [c]

/-! ## Texts, lists and records -/

/-- A text between quotation marks. -/
def quote (text : String) : String :=
  String.ofList ('"' :: (text.toList.flatMap escape ++ ['"']))

/-- Items between brackets. -/
def list (items : List String) : String :=
  "[" ++ ", ".intercalate items ++ "]"

/-- A record: its name, then its fields between braces. -/
def record (name : String) (fields : List (String × String)) : String :=
  name ++ " \x7b " ++ ", ".intercalate (fields.map fun (key, value) => key ++ ": " ++ value)
    ++ " \x7d"

/-- A truth value. -/
def flag (b : Bool) : String := if b then "true" else "false"

end HandleCache.Text
