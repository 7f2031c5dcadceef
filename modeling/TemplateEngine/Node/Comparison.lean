/-
**Comparisons and connectives in templates.**

`!=` and `<>` mean the same.  A comparison of values without an order between them, and a search
for a key that cannot be looked up, are errors that hold the two operands and name their kinds;
other faults pass.
-/
import TemplateEngine.Error
import TemplateEngine.Value.Order
import TemplateEngine.Value.Property

set_option autoImplicit false

namespace TemplateEngine

/-- The comparison operators. -/
inductive Comparison where
  | eq
  | ne
  | unlike
  | related (r : Relation)
  | contains
  deriving DecidableEq, Repr

namespace Comparison

/-- How an operator is written. -/
def symbol : Comparison → String
  | .eq => "=="
  | .ne => "!="
  | .unlike => "<>"
  | .related r => r.symbol
  | .contains => "contains"

/-- All operators. -/
def all : List Comparison :=
  [.eq, .ne, .unlike, .related .lt, .related .le, .related .gt, .related .ge, .contains]

/-- The operator that is written in a given way. -/
def ofSymbol (symbol : String) : Except Error Comparison :=
  match all.find? (·.symbol == symbol) with
  | some op => .ok op
  | none => .error (.unknownComparison symbol)

/-- Whether a comparison holds, or why it cannot be made. -/
def test (op : Comparison) (a b : Value) : Except Fault Bool :=
  match op with
  | .eq => .ok (a.same b)
  | .ne => .ok (!a.same b)
  | .unlike => .ok (!a.same b)
  | .related r => (Value.related r a b).mapError .mismatch
  | .contains => a.contains b

/-- The result of a comparison in a template. -/
def apply (op : Comparison) (a b : Value) : Except Error Value :=
  match op.test a b with
  | .ok holds => .ok (.bool holds)
  | .error (.mismatch _) => .error (.incomparable op.symbol a b)
  | .error f => .error (.fault f)

end Comparison

/-- The connectives. -/
inductive Connective where
  | and
  | or
  deriving DecidableEq, Repr

namespace Connective

/-- The connective that is written in a given way. -/
def ofSymbol : String → Except Error Connective
  | "and" => .ok .and
  | "or" => .ok .or
  | symbol => .error (.unknownConnective symbol)

/-- The result, if the left operand decides it. -/
def shortcut? : Connective → Bool → Option Bool
  | .and, false => some false
  | .or, true => some true
  | _, _ => none

end Connective

end TemplateEngine
