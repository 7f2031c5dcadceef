/-
**Floating point numbers, exactly.**

A finite float is `± m · 2ᵉ` with `m < 2⁵³`.  Every operation that has to be exact goes through
this form and whole number arithmetic: comparing a float with an integer, cutting off the
fraction, the remainder of a division, and rounding a ratio to the nearest float (a tie goes to
the even neighbour).

Main definitions:

* `Dyadic.ofFloat?` — the exact form of a finite float;
* `nearest?` — the float nearest to a ratio, `none` beyond the largest float;
* `ofInt?`, `ofDecimal` — the float nearest to an integer and to a decimal;
* `compareInt?`, `truncate?`, `remainder` — exact comparison, integer part, remainder.
-/

import TemplateEngine.Number.Power

set_option autoImplicit false

namespace TemplateEngine.Binary64

/-! ### The exact form -/

/-- The number `± mantissa · 2 ^ exponent`. -/
structure Dyadic where
  negative : Bool
  mantissa : Nat
  exponent : Int
  deriving DecidableEq, Repr

/-- The exact form of a float, `none` for infinities and for what is not a number. -/
def Dyadic.ofFloat? (x : Float) : Option Dyadic :=
  let bits : Nat := x.toBits.toNat
  let negative := bits / twoPow 63 == 1
  let power : Nat := bits / twoPow 52 % twoPow 11
  let fraction : Nat := bits % twoPow 52
  if power = 2047 then none
  else if power = 0 then some ⟨negative, fraction, -1074⟩
  else some ⟨negative, twoPow 52 + fraction, (power : Int) - 1075⟩

/-- The numerator and denominator of the magnitude. -/
def Dyadic.ratio (d : Dyadic) : Nat × Nat :=
  (d.mantissa * twoPow d.exponent.toNat, twoPow (-d.exponent).toNat)

/-- The integer part, cut toward zero. -/
def Dyadic.truncate (d : Dyadic) : Int :=
  let whole : Nat := d.ratio.1 / d.ratio.2
  if d.negative then -(whole : Int) else whole

/-! ### Rounding -/

/-- `num / den` to the nearest integer; a tie goes to the even one. -/
def roundDiv (num den : Nat) : Nat :=
  let whole := num / den
  let rest := num % den
  if 2 * rest < den then whole
  else if den < 2 * rest then whole + 1
  else if whole % 2 = 0 then whole else whole + 1

/-- The float of sign, mantissa `m ≤ 2⁵³` and exponent, which must be in range. -/
def assemble (negative : Bool) (m : Nat) (e : Int) : Float :=
  let sign : Nat := if negative then twoPow 63 else 0
  let magnitude : Nat := if m < twoPow 52 then m else (e + 1075).toNat * twoPow 52 + (m - twoPow 52)
  Float.ofBits (UInt64.ofNat (sign + magnitude))

/-- Scale a ratio by `2 ^ (-e)`. -/
def scaled (num den : Nat) (e : Int) : Nat × Nat :=
  (num * twoPow (-e).toNat, den * twoPow e.toNat)

/-- The float nearest to `± num / den`, `none` if that is beyond the largest float. -/
def nearest? (negative : Bool) (num den : Nat) : Option Float :=
  if num = 0 then some (assemble negative 0 (-1074))
  else
    -- with this exponent the quotient has 53 or 54 digits; one more makes it 53
    let low : Int := (Nat.log2 num : Int) - Nat.log2 den - 53
    let fits := (scaled num den low).1 / (scaled num den low).2 < twoPow 53
    let e := max (-1074) (if fits then low else low + 1)
    let m := roundDiv (scaled num den e).1 (scaled num den e).2
    -- rounding up may carry into a new digit
    let (m, e) := if m = twoPow 53 then (twoPow 52, e + 1) else (m, e)
    if e > 971 then none else some (assemble negative m e)

/-- The float nearest to an integer, `none` beyond the largest float. -/
def ofInt? (n : Int) : Option Float := nearest? (n < 0) n.natAbs 1

/-- Positive or negative infinity. -/
def infinity (negative : Bool) : Float :=
  Float.ofBits (if negative then 0xfff0000000000000 else 0x7ff0000000000000)

/-- The float nearest to `± digits · 10 ^ power`, where `digits` has `count` decimal places;
beyond the largest float it is infinite.  Powers that decide the answer by their size alone are
never computed. -/
def ofDecimal (negative : Bool) (digits count : Nat) (power : Int) : Float :=
  if digits = 0 then assemble negative 0 (-1074)
  -- less than half of the smallest float, and more than the largest
  else if power + count < -330 then assemble negative 0 (-1074)
  else if power > 310 then infinity negative
  else
    (nearest? negative (digits * tenPow power.toNat) (tenPow (-power).toNat)).getD
      (infinity negative)

/-! ### Comparison, integer part, remainder -/

/-- Compare an integer with a float; `none` if the float is not a number. -/
def compareInt? (n : Int) (x : Float) : Option Ordering :=
  match Dyadic.ofFloat? x with
  | some d =>
      let (num, den) := d.ratio
      some (compare (n * den) (if d.negative then -(num : Int) else num))
  | none => if x.isNaN then none else if x < 0 then some .gt else some .lt

/-- Compare two floats; `none` if one is not a number. -/
def compare? (x y : Float) : Option Ordering :=
  if x < y then some .lt else if y < x then some .gt else if x == y then some .eq else none

/-- The integer part of a finite float. -/
def truncate? (x : Float) : Option Int := (Dyadic.ofFloat? x).map Dyadic.truncate

/-- The remainder of `x / y` for the quotient cut toward zero, of the sign of `x`. -/
def cutRemainder (x y : Float) : Float :=
  match Dyadic.ofFloat? x, Dyadic.ofFloat? y with
  | some a, some b =>
      let e := min a.exponent b.exponent
      let m := a.mantissa * twoPow (a.exponent - e).toNat
      let n := b.mantissa * twoPow (b.exponent - e).toNat
      let r := m % n
      (nearest? a.negative (r * twoPow e.toNat) (twoPow (-e).toNat)).getD x
  | some _, none => if y.isNaN then y else x
  | none, _ => if x.isNaN then x else x - x

/-- The remainder of `x / y` for the quotient rounded down: **it has the sign of `y`**. -/
def remainder (x y : Float) : Float :=
  let r := cutRemainder x y
  if r == 0 then (if y < 0 then -0.0 else 0.0)
  else if (y < 0) != (r < 0) then r + y else r

end TemplateEngine.Binary64
