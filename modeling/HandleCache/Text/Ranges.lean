/-!
# Ranges of characters

Sets of characters as tables of ranges, each with its first and its last member.
-/

namespace HandleCache.Text

/-- Whether a character is in one of some ranges. -/
def within (ranges : List (Nat × Nat)) (c : Char) : Bool :=
  ranges.any fun (first, last) => first ≤ c.toNat && c.toNat ≤ last

/-- A character is in a table exactly if one of its ranges covers it. -/
theorem within_iff {ranges : List (Nat × Nat)} {c : Char} :
    within ranges c = true ↔ ∃ r ∈ ranges, r.1 ≤ c.toNat ∧ c.toNat ≤ r.2 := by
  simp [within]

end HandleCache.Text
