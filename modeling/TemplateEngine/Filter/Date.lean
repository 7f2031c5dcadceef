/-
**The date filter.**

A value is read as a moment: dates and moments are themselves, numbers and texts of an integer
count seconds since 1970, the words `now` and `today` mean the current moment, and other texts
are read in ISO 8601.  What names no moment passes the filter unchanged.

Main definitions:

* `Value.moment?` — the moment or the plain date that a value names;
* `dating` — the body of the filter.
-/
import TemplateEngine.Calendar.Format
import TemplateEngine.Calendar.Iso
import TemplateEngine.Filter.Operation
import TemplateEngine.Text.Blank
import TemplateEngine.Text.Case
import TemplateEngine.Value.Number

set_option autoImplicit false

namespace TemplateEngine

/-- A plain date, or a moment. -/
inductive DateLike where
  | date (d : Date)
  | moment (m : Moment)

/-- The moment of something like a date: of a plain date, its midnight. -/
def DateLike.toMoment : DateLike → Moment
  | .date d => .ofDate d
  | .moment m => m

/-- The value of something like a date. -/
def DateLike.toValue : DateLike → Value
  | .date d => .date d
  | .moment m => .moment m

/-- The moment of a number of seconds since 1970. -/
def Number.moment? : Number → Option Moment
  | .int n => Moment.ofSeconds? n 0
  | .float x => Moment.ofInstant? x

/-- Whether a text means the current moment. -/
def meansNow (cs : List Char) : Bool :=
  Text.lower cs == "now".toList || Text.lower cs == "today".toList

/-- Whether a text is made of dashes and, behind them, signs for digits. -/
def looksLikeSeconds (cs : List Char) : Bool :=
  let figures := cs.dropWhile (· == '-')
  !figures.isEmpty && figures.all Text.isDigitSign

namespace Value

/-- The moment or date that a value names; `now` is the current moment. -/
def moment? (now : Moment) : Value → Except Fault (Option DateLike)
  | .date d => .ok (some (.date d))
  | .moment m => .ok (some (.moment m))
  | .int n => .ok ((Number.int n).moment?.map .moment)
  | .float x => .ok ((Number.float x).moment?.map .moment)
  | .str s =>
      let cs := Text.trim s.toList
      if meansNow cs then .ok (some (.moment now))
      else if looksLikeSeconds cs then do
        let n ← Number.read? cs
        return (n.getD (.int 0)).moment?.map .moment
      else .ok ((Moment.ofIso? cs).map .moment)
  | _ => .ok none

end Value

/-- A body that writes the moment of its value by a format. -/
def DateFilter.dating (now : Moment) (v format : Value) : Except Failure Value := do
  let f ← format.text
  match ← (v.moment? now : Except Failure (Option DateLike)) with
  | none => return v
  | some d =>
      if f.isEmpty then return v
      else return .str (String.ofList (d.toMoment.format f.toList))

end TemplateEngine
