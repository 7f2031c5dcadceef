/-
**Reading numerals.**

An integer numeral is an optional sign and decimal digits of any script.  A float numeral has a
point, an exponent or both besides.  Blanks may stand around a numeral.  Two limits hold: an
integer numeral of more than `Numeral.maxDigits` digits is refused, and so is a numeral next to
one of the information separators U+001C to U+001F, which are blank but are no white space to a
reader of numbers.

Main definitions:

* `Numeral.ofText?` — the parts of a numeral;
* `Number.read?` — the number that a text names, `none` if it is no numeral.
-/
import TemplateEngine.Number.Basic
import TemplateEngine.Text.Blank
import TemplateEngine.Text.Digit

set_option autoImplicit false

namespace TemplateEngine

/-- The parts of a numeral: `± whole . fraction · 10 ^ power`, digits by their values. -/
inductive Numeral where
  | integer (negative : Bool) (digits : List Nat)
  | decimal (negative : Bool) (whole fraction : List Nat) (power : Int)
  deriving DecidableEq, Repr

namespace Numeral

/-- The largest number of digits that an integer is read or written with. -/
def maxDigits : Nat := 4300

/-! ### Grammar -/

/-- An optional sign, and the rest. -/
def splitSign : List Char → Bool × List Char
  | '-' :: rest => (true, rest)
  | '+' :: rest => (false, rest)
  | rest => (false, rest)

/-- The values of a text of digits alone. -/
def digits? (cs : List Char) : Option (List Nat) := cs.mapM Text.digitValue?

/-- At least one digit, and nothing else. -/
def digits1? (cs : List Char) : Option (List Nat) := (digits? cs).filter (!·.isEmpty)

/-- The number of a list of digits. -/
def ofDigits (ds : List Nat) : Nat := ds.foldl (fun n d => 10 * n + d) 0

/-- The digits before and behind the point; there is a digit on one side at least. -/
def mantissa? (cs : List Char) : Option (List Nat × List Nat) :=
  let whole := cs.takeWhile (· != '.')
  match cs.drop whole.length with
  | [] => (digits1? whole).map (·, [])
  | _ :: fraction => do
      let a ← digits? whole
      let b ← digits? fraction
      if a.isEmpty && b.isEmpty then none else some (a, b)

/-- The power that an exponent stands for. -/
def exponent? (cs : List Char) : Option Int := do
  let (negative, rest) := splitSign cs
  let ds ← digits1? rest
  some (if negative then -(ofDigits ds : Int) else ofDigits ds)

/-- The numeral that a text without blanks around it is. -/
def ofText? (cs : List Char) : Option Numeral :=
  let (negative, rest) := splitSign cs
  match digits1? rest with
  | some ds => some (.integer negative ds)
  | none =>
      let front := rest.takeWhile fun c => c != 'e' && c != 'E'
      match rest.drop front.length with
      | [] => (mantissa? front).map fun m => .decimal negative m.1 m.2 0
      | _ :: power => do
          let m ← mantissa? front
          return .decimal negative m.1 m.2 (← exponent? power)

/-! ### Value -/

/-- The number that a numeral stands for. -/
def value : Numeral → Except Fault Number
  | .integer negative ds =>
      if maxDigits < ds.length then .error (.overlong ds.length)
      else .ok (.int (if negative then -(ofDigits ds : Int) else ofDigits ds))
  | .decimal negative whole fraction power =>
      let ds := (whole ++ fraction).dropWhile (· == 0)
      .ok (.float (Binary64.ofDecimal negative (ofDigits ds) ds.length (power - fraction.length)))

/-- Whether a character is an information separator. -/
def isSeparator (c : Char) : Bool := 0x1c ≤ c.toNat && c.toNat ≤ 0x1f

end Numeral

/-- The number that a text names: `none` if the text is no numeral. -/
def Number.read? (cs : List Char) : Except Fault (Option Number) :=
  match Numeral.ofText? (Text.trim cs) with
  | none => .ok none
  | some numeral =>
      if cs.any Numeral.isSeparator then .error (.strayBlank (String.ofList cs))
      else numeral.value.map some

end TemplateEngine
