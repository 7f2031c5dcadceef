/-
**Sets of characters given by ranges.**

The character classes of the text functions are tables of inclusive code point ranges, in
ascending order; membership is one pass over the table.
-/

set_option autoImplicit false

namespace TemplateEngine.Text

/-- Inclusive ranges of code points. -/
abbrev CharRanges := List (Nat × Nat)

/-- Whether the code point of `c` lies in one of the ranges. -/
def CharRanges.contains (rs : CharRanges) (c : Char) : Bool :=
  rs.any fun r => r.1 ≤ c.toNat && c.toNat ≤ r.2

/-- A character is in a set iff its code point lies in one of the ranges. -/
theorem CharRanges.contains_iff (rs : CharRanges) (c : Char) :
    rs.contains c = true ↔ ∃ r ∈ rs, r.1 ≤ c.toNat ∧ c.toNat ≤ r.2 := by
  simp [CharRanges.contains]

end TemplateEngine.Text
