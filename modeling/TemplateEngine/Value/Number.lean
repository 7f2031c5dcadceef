/-
**Values as numbers.**

Where a number is asked for, a text that is a numeral counts as its number, and everything else
that is no number counts as zero, booleans included.
-/
import TemplateEngine.Value.Basic
import TemplateEngine.Number.Numeral

set_option autoImplicit false

namespace TemplateEngine

/-- The value of a number. -/
def Number.toValue : Number → Value
  | .int n => .int n
  | .float x => .float x

namespace Value

/-- The number that a value is by itself. -/
def number? : Value → Option Number
  | .int n => some (.int n)
  | .float x => some (.float x)
  | _ => none

/-- Whether a value is a number. -/
def isNumber (v : Value) : Bool := v.number?.isSome

/-- The number that a value counts as. -/
def number : Value → Except Fault Number
  | .int n => .ok (.int n)
  | .float x => .ok (.float x)
  | .str s => do return (← Number.read? s.toList).getD (.int 0)
  | _ => .ok (.int 0)

/-- The integer that a value counts as. -/
def integer (v : Value) : Except Fault Int := do (← v.number).toInt

end Value

end TemplateEngine
