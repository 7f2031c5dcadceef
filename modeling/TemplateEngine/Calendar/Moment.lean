/-
**Moments: a date, a time of day, and perhaps a zone.**

A moment without a zone is a reading of a clock somewhere; with a zone, which tells the offset
from universal time, it is a point in time.  The two sorts are never equal and have no order
between them.

Main definitions:

* `Zone`, `Moment` — the types;
* `Moment.compare?` — the order of two moments of one sort;
* `Moment.ofSeconds?`, `Moment.ofInstant?` — the moment of a number of seconds since 1970;
* `Moment.nextSecond?` — the moment one second later;
* `Moment.isoText` — the ISO 8601 text.
-/
import TemplateEngine.Calendar.Date
import TemplateEngine.Number.Binary64

set_option autoImplicit false

namespace TemplateEngine

/-- `n` in decimal with at least `width` digits. -/
def paddedDigits (width n : Nat) : List Char :=
  let ds := Nat.toDigits 10 n
  List.replicate (width - ds.length) '0' ++ ds

/-- A zone: its distance from universal time in microseconds, and its name if it has one. -/
structure Zone where
  offset : Int
  name? : Option String := none
  deriving DecidableEq, Repr, Inhabited

/-- A date and a time of day, perhaps in a zone. -/
structure Moment where
  date : Date
  hour : Nat
  minute : Nat
  second : Nat
  micro : Nat
  zone? : Option Zone
  deriving DecidableEq, Repr, Inhabited

namespace Moment

/-- Microseconds in a second and in a day. -/
def microsPerSecond : Int := 1000000

/-- Microseconds in a day. -/
def microsPerDay : Int := 86400 * microsPerSecond

/-- The moment of a date and time of day, if the time exists and the zone is less than a day
off either way. -/
def of? (date : Date) (hour minute second micro : Nat) (zone? : Option Zone) : Option Moment :=
  if hour < 24 ∧ minute < 60 ∧ second < 60 ∧ micro < 1000000 ∧
      zone?.all fun z => -microsPerDay < z.offset && z.offset < microsPerDay then
    some ⟨date, hour, minute, second, micro, zone?⟩
  else none

/-- The distance of the zone from universal time; none if there is no zone. -/
def offset? (m : Moment) : Option Int := m.zone?.map Zone.offset

/-- The first moment of a day. -/
def ofDate (d : Date) : Moment := ⟨d, 0, 0, 0, 0, none⟩

/-! ### Order -/

/-- The seconds of a moment since the start of year 1, as its clock shows them. -/
def clockSeconds (m : Moment) : Int :=
  ((m.date.ordinal : Int) - 1) * 86400 + m.hour * 3600 + m.minute * 60 + m.second

/-- The microseconds of a moment since the start of year 1, its offset taken off. -/
def instant (m : Moment) : Int :=
  m.clockSeconds * microsPerSecond + m.micro - m.offset?.getD 0

/-- Compare two moments; `none` if one has a zone and the other has none. -/
def compare? (a b : Moment) : Option Ordering :=
  if a.offset?.isSome = b.offset?.isSome then some (compare a.instant b.instant) else none

/-- Moments are equal if they are of one sort and name one instant. -/
def same (a b : Moment) : Bool := a.compare? b == some .eq

/-! ### Seconds since 1970 -/

/-- The seconds from the start of year 1 to the start of 1970. -/
def epoch : Int := 62135596800

/-- The moment of a number of seconds and microseconds since 1970.  The second day of year 1 is
the first that counts. -/
def ofSeconds? (seconds : Int) (micro : Nat) : Option Moment :=
  if -epoch + 86400 ≤ seconds ∧ seconds ≤ 253402300799 then
    let n := (seconds + epoch).toNat
    let s := n % 86400
    some ⟨Date.ofOrdinal (n / 86400 + 1), s / 3600, s / 60 % 60, s % 60, micro, none⟩
  else none

/-- A float rounded to the nearest integer, a tie to the even one. -/
def roundToEven? (x : Float) : Option Int :=
  (Binary64.Dyadic.ofFloat? x).map fun d =>
    let m := Binary64.roundDiv d.ratio.1 d.ratio.2
    if d.negative then -(m : Int) else m

/-- The moment of a number of seconds since 1970 with a fraction, which is rounded to
microseconds. -/
def ofInstant? (x : Float) : Option Moment := do
  let whole ← Binary64.truncate? x
  let base ← Binary64.ofInt? whole
  let micros ← roundToEven? ((x - base) * 1000000.0)
  -- the fraction has the sign of the whole, and rounding may complete a second
  if microsPerSecond ≤ micros then ofSeconds? (whole + 1) (micros - microsPerSecond).toNat
  else if micros < 0 then ofSeconds? (whole - 1) (micros + microsPerSecond).toNat
  else ofSeconds? whole micros.toNat

/-! ### The next second -/

/-- The moment one second later by the same clock, unless the calendar ends before. -/
def nextSecond? (m : Moment) : Option Moment :=
  let n := (m.clockSeconds + 1).toNat
  if n / 86400 < Date.daysBeforeYear 10000 then
    let s := n % 86400
    some { m with
      date := Date.ofOrdinal (n / 86400 + 1)
      hour := s / 3600
      minute := s / 60 % 60
      second := s % 60 }
  else none

/-! ### Texts -/

/-- An offset as sign, hours and minutes, seconds and microseconds only where they are needed. -/
def offsetText (colon : List Char) (offset : Int) : List Char :=
  let n := offset.natAbs / 1000000
  let micro := offset.natAbs % 1000000
  (if offset < 0 then '-' else '+') :: paddedDigits 2 (n / 3600) ++ colon ++
    paddedDigits 2 (n / 60 % 60) ++
    (if n % 60 = 0 ∧ micro = 0 then [] else colon ++ paddedDigits 2 (n % 60)) ++
    (if micro = 0 then [] else '.' :: paddedDigits 6 micro)

end Moment

/-- The text of a date: year, month and day. -/
def Date.isoText (d : Date) : List Char :=
  paddedDigits 4 d.year ++ ['-'] ++ paddedDigits 2 d.month ++ ['-'] ++ paddedDigits 2 d.day

/-- The text of a moment, with `separator` between date and time. -/
def Moment.isoText (separator : Char) (m : Moment) : List Char :=
  m.date.isoText ++ [separator] ++ paddedDigits 2 m.hour ++ [':'] ++ paddedDigits 2 m.minute ++
    [':'] ++ paddedDigits 2 m.second ++
    (if m.micro = 0 then [] else '.' :: paddedDigits 6 m.micro) ++
    (match m.offset? with
      | none => []
      | some o => Moment.offsetText [':'] o)

end TemplateEngine
