/-
**The shortest decimal that reads back.**

The reals that round to a float form an interval around it, ends included iff its mantissa is
even.  The text of a float is taken from the coarsest decimal grid that has a point in this
interval; of two points the nearer one counts, and of two equally near ones the even one.

Main definitions:

* `digitsOf` — the digits of a positive float and the place of the point;
* `DecimalStyle.write` — the digits laid out, positional or with an exponent.
-/
import TemplateEngine.Number.Binary64

set_option autoImplicit false

namespace TemplateEngine.Binary64

/-! ### Digits -/

/-- The interval of a dyadic number: lower end, value and upper end over one denominator, and
whether the ends belong to it. -/
structure Span where
  low : Nat
  value : Nat
  high : Nat
  den : Nat
  closed : Bool

/-- The reals that round to the magnitude of `d`.  Below a power of two the gap is half as wide. -/
def Span.ofDyadic (d : Dyadic) : Span :=
  let unit := twoPow d.exponent.toNat
  -- the neighbour below a power of two is only half as far away
  let narrow := d.mantissa = twoPow 52 ∧ d.exponent > -1074
  { low := (4 * d.mantissa - if narrow then 1 else 2) * unit
    value := 4 * d.mantissa * unit
    high := (4 * d.mantissa + 2) * unit
    den := 4 * twoPow (-d.exponent).toNat
    closed := d.mantissa % 2 = 0 }

/-- The span in units of `10 ^ k`. -/
def Span.inUnits (s : Span) (k : Int) : Span :=
  let up := tenPow (-k).toNat
  { s with
    low := s.low * up
    value := s.value * up
    high := s.high * up
    den := s.den * tenPow k.toNat }

/-- Whether the integer `c` lies in the span. -/
def Span.holds (s : Span) (c : Nat) : Bool :=
  if s.closed then s.low ≤ c * s.den && c * s.den ≤ s.high
  else s.low < c * s.den && c * s.den < s.high

/-- The integer in the span that is nearest to its value, if there is one. -/
def Span.integer? (s : Span) : Option Nat :=
  let c := s.value / s.den
  let below := s.value - c * s.den
  let above := (c + 1) * s.den - s.value
  match s.holds c && c ≠ 0, s.holds (c + 1) with
  | true, true =>
      if below < above then some c
      else if above < below then some (c + 1)
      else if c % 2 = 0 then some c else some (c + 1)
  | true, false => some c
  | false, true => some (c + 1)
  | false, false => none

/-- The number `p` with `10 ^ (p - 1) ≤ value < 10 ^ p`, for a value that is a float. -/
def Span.magnitude (s : Span) : Int :=
  ((Nat.toDigits 10 (s.value * tenPow 400 / s.den)).length : Int) - 400

/-- The first grid, from `n` digits on, with a point in the span; `fuel` more digits are tried. -/
def Span.search (s : Span) (p : Int) : Nat → Nat → Nat × Int
  | 0, n => ((s.inUnits (p - n)).value / (s.inUnits (p - n)).den, p - n)
  | fuel + 1, n =>
      match (s.inUnits (p - n)).integer? with
      | some c => (c, p - n)
      | none => s.search p fuel (n + 1)

/-- The shortest decimal of a positive dyadic number: its digits, the last not zero, and the
power of ten of the first digit. -/
def digitsOf (d : Dyadic) : List Char × Int :=
  let s := Span.ofDyadic d
  let (c, k) := s.search s.magnitude 17 1
  let all := Nat.toDigits 10 c
  let cut := (all.reverse.dropWhile (· == '0')).reverse
  (cut, k + all.length - 1)

/-! ### Layout -/

/-- How a decimal is written: the powers that are written positionally, and the spelling of
what has no digits. -/
structure DecimalStyle where
  lowest : Int
  highest : Int
  infinity : String
  invalid : String

/-- The digits of an exponent, at least two. -/
def exponentDigits (n : Nat) : List Char :=
  if n < 10 then '0' :: Nat.toDigits 10 n else Nat.toDigits 10 n

/-- Digits with a point, or with a point after the first one and an exponent. -/
def DecimalStyle.layout (f : DecimalStyle) (ds : List Char) (power : Int) : List Char :=
  if f.lowest ≤ power ∧ power ≤ f.highest then
    if power < 0 then
      '0' :: '.' :: List.replicate (-power - 1).toNat '0' ++ ds
    else
      let whole := power.toNat + 1
      if ds.length ≤ whole then
        ds ++ List.replicate (whole - ds.length) '0' ++ ['.', '0']
      else ds.take whole ++ '.' :: ds.drop whole
  else
    let mantissa := match ds with
      | [d] => [d]
      | d :: rest => d :: '.' :: rest
      | [] => []
    mantissa ++ ['e', if power < 0 then '-' else '+'] ++ exponentDigits power.natAbs

/-- The text of a float. -/
def DecimalStyle.write (f : DecimalStyle) (x : Float) : List Char :=
  match Dyadic.ofFloat? x with
  | none =>
      if x.isNaN then f.invalid.toList
      else if x < 0 then '-' :: f.infinity.toList else f.infinity.toList
  | some d =>
      let body :=
        if d.mantissa = 0 then f.layout ['0'] 0
        else f.layout (digitsOf d).1 (digitsOf d).2
      if d.negative then '-' :: body else body

end TemplateEngine.Binary64
