/-
**Numbers and their arithmetic.**

A number is an integer of any size or a float.  Integers stay exact; an operation on an integer
and a float takes the float nearest to the integer, and fails if there is none.  Comparison never
rounds.

Main definitions:

* `Number.add`, `Number.sub`, `Number.mul`, `Number.div`, `Number.mod` — arithmetic, division of
  integers rounds down;
* `Number.compare?`, `Number.same` — exact comparison, undefined for what is not a number;
* `Number.toInt` — the integer part.
-/
import TemplateEngine.Number.Binary64
import TemplateEngine.Value.Kind

set_option autoImplicit false

namespace TemplateEngine

/-- An integer or a float. -/
inductive Number where
  | int (n : Int)
  | float (x : Float)

namespace Number

/-! ### Comparison -/

/-- Compare two numbers; `none` if one of them is not a number at all. -/
def compare? : Number → Number → Option Ordering
  | .int m, .int n => some (compare m n)
  | .int m, .float y => Binary64.compareInt? m y
  | .float x, .int n => (Binary64.compareInt? n x).map Ordering.swap
  | .float x, .float y => Binary64.compare? x y

/-- Whether two numbers are equal. -/
def same (a b : Number) : Bool := a.compare? b == some .eq

/-- Whether a number is zero. -/
def isZero (a : Number) : Bool := a.same (.int 0)

/-- Equal integers are the same integer. -/
theorem same_int (m n : Int) : (int m).same (int n) = decide (m = n) := by
  simp [same, compare?, Bool.beq_eq_decide_eq]

/-! ### Conversion -/

/-- The float nearest to a number. -/
def toFloat : Number → Except Fault Float
  | .int n =>
      match Binary64.ofInt? n with
      | some x => .ok x
      | none => .error .beyondFloat
  | .float x => .ok x

/-- The integer part of a number, cut toward zero. -/
def toInt : Number → Except Fault Int
  | .int n => .ok n
  | .float x =>
      match Binary64.truncate? x with
      | some n => .ok n
      | none => .error (if x.isNaN then .notANumber else .infinite)

/-! ### Arithmetic -/

/-- An operation on integers or, if an operand is a float, on floats. -/
def lift (onInts : Int → Int → Int) (onFloats : Float → Float → Float) :
    Number → Number → Except Fault Number
  | .int m, .int n => .ok (.int (onInts m n))
  | a, b => do return .float (onFloats (← a.toFloat) (← b.toFloat))

/-- The sum. -/
def add : Number → Number → Except Fault Number := lift (· + ·) (· + ·)

/-- The difference. -/
def sub : Number → Number → Except Fault Number := lift (· - ·) (· - ·)

/-- The product. -/
def mul : Number → Number → Except Fault Number := lift (· * ·) (· * ·)

/-- The quotient by a number that is not zero; that of integers is **rounded down**. -/
def div : Number → Number → Except Fault Number := lift Int.fdiv (· / ·)

/-- The remainder by a number that is not zero; **it has the sign of the divisor**. -/
def mod : Number → Number → Except Fault Number := lift Int.fmod Binary64.remainder

end Number

end TemplateEngine
