import HandleCache.Text.Ranges

/-!
# Blanks

The characters that count as white space, and lines without blanks at their end.

## Contents

- `blankRanges`, `isBlank`: the characters
- `trimEnd`: a text without blanks at its end

## Main statements

- `isBlank_of_isWhitespace`: the blanks of the ASCII range are among them
- `getLast?_trimEndChars`: no blank is left at the end
-/

namespace HandleCache.Text

/-- The ranges of characters that are white space: tabs and line ends, the spaces of all widths, and
the separators of lines and paragraphs. -/
def blankRanges : List (Nat × Nat) :=
  [(0x09, 0x0D), (0x20, 0x20), (0x85, 0x85), (0xA0, 0xA0), (0x1680, 0x1680), (0x2000, 0x200A),
   (0x2028, 0x2029), (0x202F, 0x202F), (0x205F, 0x205F), (0x3000, 0x3000)]

/-- Whether a character is white space. -/
def isBlank (c : Char) : Bool :=
  within blankRanges c

/-- The blanks of the ASCII range are among them. -/
theorem isBlank_of_isWhitespace {c : Char} (h : c.isWhitespace = true) : isBlank c = true := by
  simp only [Char.isWhitespace, Bool.or_eq_true, decide_eq_true_eq] at h
  rcases h with ((h | h) | h) | h <;> subst h <;> decide

/-- Characters without blanks at their end. -/
def trimEndChars (text : List Char) : List Char :=
  (text.reverse.dropWhile isBlank).reverse

/-- A text without blanks at its end. -/
def trimEnd (text : String) : String :=
  String.ofList (trimEndChars text.toList)

theorem getLast?_trimEndChars {text : List Char} {c : Char}
    (h : (trimEndChars text).getLast? = some c) : isBlank c = false := by
  rw [trimEndChars, List.getLast?_reverse] at h
  have := List.head?_dropWhile_not isBlank text.reverse
  rw [h] at this
  simpa using this

end HandleCache.Text
