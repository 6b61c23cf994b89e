import HandleCache.Descriptor.Basic

/-!
# Reading descriptors

Descriptors are read from left to right, one character deciding each step, and never by going
back. A scanner therefore either takes a descriptor off the front of a text, or stops at the first
character that cannot continue one: either there is none left, or there is a wrong one.

## Main definitions

- `scanClassName`, `scanField`, `scanType`, `scanParameters`, `scanMethod`: take one off the front
- `TypeDescriptor.parse`, `FieldDescriptor.parse`, `MethodDescriptor.parse`: read a whole text
- `ParseError.message`: what is said of a text that is no descriptor

## Main statements

- `scanField_shorter`: a scanned field type takes at least one character off the text
-/

namespace HandleCache

namespace Descriptor

/-! ## Scanning -/

/-- Why no descriptor stands at the front of a text. -/
inductive Stop where
  /-- The text ends where a descriptor would have to go on. -/
  | endOfText
  /-- A character stands there that no descriptor has at that place. -/
  | unexpectedChar
  deriving DecidableEq, Repr

/-- What a scanner makes of a text: what it read and what is left, or why it stopped. -/
abbrev Scan (α : Type) := Except Stop (α × List Char)

/-- A class name up to its `;`: segments between `/`, none of them empty, without `.` and `[`.
`fresh` says that the current segment has no character yet. -/
def scanClassName (fresh : Bool) : List Char → Scan (List Char)
  | [] => .error .endOfText
  | c :: rest =>
    if c = ';' then
      if fresh then .error .unexpectedChar else .ok ([], rest)
    else if c = '/' then
      if fresh then .error .unexpectedChar
      else (scanClassName true rest).map fun (name, left) => (c :: name, left)
    else if c = '.' ∨ c = '[' then .error .unexpectedChar
    else (scanClassName false rest).map fun (name, left) => (c :: name, left)

/-- A type that has values. -/
def scanField : List Char → Scan TypeDescriptor
  | [] => .error .endOfText
  | c :: rest =>
    if c = '[' then
      (scanField rest).map fun (t, left) => (.array t, left)
    else if c = 'L' then
      (scanClassName true rest).map fun (name, left) => (.object (String.ofList name), left)
    else
      match Primitive.ofLetter? c with
      | some p => .ok (.primitive p, rest)
      | none => .error .unexpectedChar

/-- A type that has values, or `void`. -/
def scanType : List Char → Scan TypeDescriptor
  | 'V' :: rest => .ok (.primitive .void, rest)
  | text => scanField text

/-- A scanned class name takes at least its `;` off the text. -/
theorem scanClassName_shorter {fresh : Bool} {text name left : List Char}
    (h : scanClassName fresh text = .ok (name, left)) : left.length < text.length := by
  induction text generalizing fresh name left with
  | nil => simp [scanClassName] at h
  | cons c rest ih =>
    simp only [scanClassName] at h
    have step : ∀ {f : Bool},
        (scanClassName f rest).map (fun (n, l) => (c :: n, l)) = .ok (name, left) →
          left.length < (c :: rest).length := by
      intro f hm
      match hs : scanClassName f rest with
      | .error e => rw [hs] at hm; cases hm
      | .ok (n, l) =>
        rw [hs] at hm
        cases hm
        exact Nat.lt_succ_of_lt (ih hs)
    split at h
    · split at h
      · cases h
      · cases h; simp
    · split at h
      · split at h
        · cases h
        · exact step h
      · split at h
        · cases h
        · exact step h

/-- A scanned field type takes at least one character off the text. -/
theorem scanField_shorter {text left : List Char} {t : TypeDescriptor}
    (h : scanField text = .ok (t, left)) : left.length < text.length := by
  induction text generalizing t left with
  | nil => simp [scanField] at h
  | cons c rest ih =>
    simp only [scanField] at h
    split at h
    · match hs : scanField rest with
      | .error e => rw [hs] at h; cases h
      | .ok (u, l) =>
        rw [hs] at h
        cases h
        exact Nat.lt_succ_of_lt (ih hs)
    · split at h
      · match hs : scanClassName true rest with
        | .error e => rw [hs] at h; cases h
        | .ok (n, l) =>
          rw [hs] at h
          cases h
          exact Nat.lt_succ_of_lt (scanClassName_shorter hs)
      · split at h
        · cases h; simp
        · cases h

/-- The parameters of a method, up to the `)` that ends them. -/
def scanParameters (text : List Char) : Scan (List TypeDescriptor) :=
  match text with
  | ')' :: rest => .ok ([], rest)
  -- Any other character has to begin a parameter, so a wrong one stops the scan here.
  | text =>
    match h : scanField text with
    | .error stop => .error stop
    | .ok (t, left) =>
      have := scanField_shorter h
      (scanParameters left).map fun (ts, left) => (t :: ts, left)
termination_by text.length

/-- A whole method descriptor. -/
def scanMethod : List Char → Scan MethodDescriptor
  | [] => .error .endOfText
  | c :: rest =>
    if c = '(' then
      match scanParameters rest with
      | .error stop => .error stop
      | .ok (parameters, left) =>
        (scanType left).map fun (result, left) => (⟨parameters, result⟩, left)
    else .error .unexpectedChar

/-! ## Whole texts -/

/-- Why a text is no descriptor of the form asked for. -/
inductive ParseError where
  /-- The scan of `text` stopped before a descriptor was complete. -/
  | stopped (text : String) (why : Stop)
  /-- A descriptor stands at the front of `text`, and `rest` after it. -/
  | trailing (text rest : String)
  deriving DecidableEq, Repr

namespace Stop

/-- How the reason is worded. -/
def message : Stop → String
  | endOfText => "unexpected end of input"
  | unexpectedChar => "unexpected parse"

end Stop

namespace ParseError

/-- What is said of the text. -/
def message : ParseError → String
  | stopped text why => s!"Failed to parse '{text}': {why.message}"
  | trailing text rest => s!"Trailing input: '{rest}' while parsing '{text}'"

end ParseError

/-- Reads a whole text by a scanner: nothing may be left. -/
def whole {α : Type} (scan : List Char → Scan α) (text : String) : Except ParseError α :=
  match scan text.toList with
  | .ok (a, []) => .ok a
  | .ok (_, c :: rest) => .error (.trailing text (String.ofList (c :: rest)))
  | .error why => .error (.stopped text why)

end Descriptor

open Descriptor

/-- Reads a type descriptor, `V` included. -/
def TypeDescriptor.parse (text : String) : Except ParseError TypeDescriptor :=
  whole scanType text

/-- Reads a field descriptor: a type that has values. -/
def FieldDescriptor.parse (text : String) : Except ParseError FieldDescriptor :=
  (whole scanField text).map FieldDescriptor.mk

/-- Reads a method descriptor. -/
def MethodDescriptor.parse (text : String) : Except ParseError MethodDescriptor :=
  whole scanMethod text

end HandleCache
