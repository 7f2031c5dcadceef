/-
**The core schema of YAML.**

What a plain scalar is shows in its text: null, a truth value, an integer, a float, a timestamp,
the mark of a merge, the mark of a default value, or a text.  Underscores may stand between the
digits of a number.  A scalar that looks like a number and has no digits is a fault.

Main definitions:

* `ScalarType.ofPlain` — what a plain scalar is;
* `ScalarType.read` — the value of a scalar of a type.
-/
import TemplateEngine.Number.Numeral
import TemplateEngine.Value.Number
import TemplateEngine.Yaml.Quoted
import TemplateEngine.Yaml.Timestamp

set_option autoImplicit false

namespace TemplateEngine.Yaml

/-- The types of scalars. -/
inductive ScalarType where
  | null
  | bool
  | int
  | float
  | timestamp
  | text
  /-- The key that stands for the entries of other mappings. -/
  | merge
  /-- The key of a default value, which is no value itself. -/
  | default
  deriving DecidableEq, Repr

/-! ### The grammar of numbers -/

/-- Whether a character is a digit or stands between digits. -/
def isFigure (c : Char) : Bool := c.isDigit || c == '_'

/-- The digits of a number, without the underscores between them. -/
def withoutMarks (cs : List Char) : List Char := cs.filter (· != '_')

/-- Whether a text without its sign is an integer: figures, or digits of another base behind the
mark of the base. -/
def isInteger : List Char → Bool
  | '0' :: 'b' :: rest => !rest.isEmpty && rest.all fun c => c == '0' || c == '1' || c == '_'
  | '0' :: 'o' :: rest => !rest.isEmpty && rest.all fun c => isFigure c && c != '8' && c != '9'
  | '0' :: 'x' :: rest => !rest.isEmpty && rest.all fun c => (hexValue? c).isSome || c == '_'
  | cs => !cs.isEmpty && cs.all isFigure

/-- Whether a text is an exponent, with a sign if there must be one. -/
def isExponent (signed : Bool) : List Char → Bool
  | e :: rest =>
      let (_, digits) := Numeral.splitSign rest
      (e == 'e' || e == 'E') && !digits.isEmpty && digits.all Char.isDigit &&
        (!signed || digits.length < rest.length)
  | [] => false

/-- Whether a text without its sign is a float of digits.  The exponent of one that begins with its
point has a sign. -/
def isDecimal (cs : List Char) : Bool :=
  let whole := cs.takeWhile isFigure
  match cs.drop whole.length with
  | '.' :: rest =>
      let fraction := rest.takeWhile isFigure
      let power := rest.drop fraction.length
      if whole.isEmpty then !fraction.isEmpty && (power.isEmpty || isExponent true power)
      else whole.head? != some '_' && (power.isEmpty || isExponent false power)
  | power => !whole.isEmpty && whole.head? != some '_' && isExponent false power

/-- Whether a text without its sign means infinity. -/
def isInfinity (cs : List Char) : Bool :=
  cs == ".inf".toList || cs == ".Inf".toList || cs == ".INF".toList

/-! ### Types -/

/-- The words for truth and for what is not true. -/
def truthWords : List (String × Bool) :=
  [("true", true), ("True", true), ("TRUE", true), ("false", false), ("False", false),
    ("FALSE", false)]

/-- Whether a text begins like a number: with a digit, a sign or a point. -/
def beginsNumber (cs : List Char) : Bool :=
  cs.head?.any fun c => c.isDigit || c == '+' || c == '-' || c == '.'

/-- What a plain scalar is. -/
def ScalarType.ofPlain (cs : List Char) : ScalarType :=
  let text := String.ofList cs
  let (_, rest) := Numeral.splitSign cs
  if ["", "~", "null", "Null", "NULL"].contains text then .null
  else if (truthWords.lookup text).isSome then .bool
  else if text = "<<" then .merge
  else if text = "=" then .default
  else if !beginsNumber cs then .text
  else if [".nan", ".NaN", ".NAN"].contains text || isInfinity rest || isDecimal rest then .float
  else if isInteger rest then .int
  else if (Timestamp.ofText? cs).isSome then .timestamp
  else .text

/-! ### Values -/

/-- The number of digits in a base; there must be one. -/
def readDigits (base : Nat) (cs : List Char) : Except Fault Nat :=
  match cs.mapM hexValue? with
  | some digits =>
      if digits.isEmpty || digits.any (base ≤ ·) then .error .noDigits
      else .ok (numberOf base digits)
  | none => .error .noDigits

/-- The magnitude of an integer without underscores. -/
def readMagnitude : List Char → Except Fault Nat
  | '0' :: 'b' :: rest => readDigits 2 rest
  | '0' :: 'o' :: rest => readDigits 8 rest
  | '0' :: 'x' :: rest => readDigits 16 rest
  | cs => if Numeral.maxDigits < cs.length then .error (.overlong cs.length) else readDigits 10 cs

/-- The value of an integer scalar. -/
def readInteger (cs : List Char) : Except Fault Value := do
  let (negative, rest) := Numeral.splitSign (withoutMarks cs)
  let n ← readMagnitude rest
  return .int (if negative then -(n : Int) else n)

/-- The value of a float scalar. -/
def readFloat (cs : List Char) : Except Fault Value :=
  let (negative, rest) := Numeral.splitSign (withoutMarks cs)
  let word := rest.map Char.toLower
  if word == ".inf".toList then .ok (.float (Binary64.infinity negative))
  else if word == ".nan".toList then .ok (.float (0.0 / 0.0))
  else match Numeral.ofText? rest with
    | some (.decimal _ whole fraction power) =>
        (Numeral.decimal negative whole fraction power).value.map Number.toValue
    | some (.integer _ digits) => (Numeral.decimal negative digits [] 0).value.map Number.toValue
    | none => .error .noDigits

/-- The truth value of a word in any case. -/
def truthOf? (cs : List Char) : Option Bool :=
  let word := String.ofList (cs.map Char.toLower)
  if ["true", "yes", "on", "y"].contains word then some true
  else if ["false", "no", "off", "n"].contains word then some false
  else none

/-- The value of a scalar of a type.  A merge or a default stands for no value by itself. -/
def ScalarType.read (type : ScalarType) (cs : List Char) : Except Failure Value :=
  match type with
  | .null => .ok .nil
  | .bool =>
      match truthOf? cs with
      | some b => .ok (.bool b)
      | none => .error .noTruthWord
  | .int =>
      if (withoutMarks cs).isEmpty then .error .noNumber else (readInteger cs).mapError .fault
  | .float =>
      if (withoutMarks cs).isEmpty then .error .noNumber else (readFloat cs).mapError .fault
  | .timestamp =>
      match Timestamp.ofText? cs with
      | some t => t.value.mapError .fault
      | none => .error .malformed
  | .text => .ok (.str (String.ofList cs))
  | .merge => .error .malformed
  | .default => .error .malformed

end TemplateEngine.Yaml
