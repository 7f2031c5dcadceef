/-
**Filters on numbers.**

Value and parameter are read as numbers; the result is an integer if both are.  Division by zero
is refused.
-/
import TemplateEngine.Filter.Operation
import TemplateEngine.Value.Number

set_option autoImplicit false

namespace TemplateEngine.NumberFilter

/-- A body that combines two numbers. -/
def combining (f : Number → Number → Except Fault Number) (v p : Value) :
    Except Failure Value := do
  let a ← v.number
  let b ← p.number
  return (← f a b).toValue

/-- A body that divides by its parameter. -/
def dividing (f : Number → Number → Except Fault Number) (v p : Value) :
    Except Failure Value := do
  let a ← v.number
  let b ← p.number
  if b.isZero then throw (.refused "divided by 0")
  return (← f a b).toValue

end TemplateEngine.NumberFilter
