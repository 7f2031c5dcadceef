/-
**Powers of two and of ten.**

The two bases of exact arithmetic with floats and decimals.

Main definitions and results:

* `twoPow`, `tenPow` — the powers;
* `twoPow_pos`, `tenPow_pos` — they are not zero, so one may divide by them.
-/

set_option autoImplicit false

namespace TemplateEngine

/-- `2ⁿ`. -/
def twoPow (n : Nat) : Nat := Nat.pow 2 n

/-- `10ⁿ`. -/
def tenPow (n : Nat) : Nat := Nat.pow 10 n

/-- A power of two is positive. -/
theorem twoPow_pos (n : Nat) : 0 < twoPow n := Nat.pow_pos (by decide)

/-- A power of ten is positive. -/
theorem tenPow_pos (n : Nat) : 0 < tenPow n := Nat.pow_pos (by decide)

end TemplateEngine
