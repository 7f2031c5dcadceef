/-
**Dates of the Gregorian calendar.**

Dates run from year 1 to year 9999; the calendar is extended backwards without a break.  Days
are numbered from the first of January of year 1, which is day 1 and a Monday.

Main definitions:

* `Date.of?` — the date of a year, month and day that exist;
* `Date.ordinal`, `Date.ofOrdinal` — the number of a day and back;
* `Date.weekday`, `Date.dayOfYear`, `Date.isoWeek` — places of a date in its week and year.
-/

set_option autoImplicit false

namespace TemplateEngine

/-- A day of the calendar. -/
structure Date where
  year : Nat
  month : Nat
  day : Nat
  deriving DecidableEq, Repr, Inhabited

namespace Date

/-! ### Lengths -/

/-- Whether a year has 366 days. -/
def isLeap (year : Nat) : Bool := year % 4 == 0 && (year % 100 != 0 || year % 400 == 0)

/-- The number of days in a month. -/
def daysInMonth (year month : Nat) : Nat :=
  match month with
  | 2 => if isLeap year then 29 else 28
  | 4 | 6 | 9 | 11 => 30
  | _ => 31

/-- The number of days before a year. -/
def daysBeforeYear (year : Nat) : Nat :=
  (year - 1) * 365 + (year - 1) / 4 - (year - 1) / 100 + (year - 1) / 400

/-- The number of days in a year before a month. -/
def daysBeforeMonth (year month : Nat) : Nat :=
  (List.range (month - 1)).foldl (fun n m => n + daysInMonth year (m + 1)) 0

/-- The date of a year, month and day, if there is one. -/
def of? (year month day : Nat) : Option Date :=
  if 1 ≤ year ∧ year ≤ 9999 ∧ 1 ≤ month ∧ month ≤ 12 ∧ 1 ≤ day ∧ day ≤ daysInMonth year month
  then some ⟨year, month, day⟩ else none

/-! ### Day numbers -/

/-- The day of the year, from 1. -/
def dayOfYear (d : Date) : Nat := daysBeforeMonth d.year d.month + d.day

/-- The number of the day; day 1 is the first of January of year 1. -/
def ordinal (d : Date) : Nat := daysBeforeYear d.year + d.dayOfYear

/-- The month and day of the `n`-th day of a year, counted from 0; `months` more months are
looked at. -/
def monthAndDay (year n : Nat) : Nat → Nat × Nat
  | 0 => (12, n + 1)
  | months + 1 =>
      let month := 12 - months
      let length := daysInMonth year month
      if n < length then (month, n + 1) else monthAndDay year (n - length) months

/-- The date of a day number: whole cycles of 400, 100, 4 and 1 years are split off. -/
def ofOrdinal (ordinal : Nat) : Date :=
  let n := ordinal - 1
  let n400 := n / 146097
  let n := n % 146097
  -- the last day of a leap year closes its cycle and opens no further one
  let n100 := min 3 (n / 36524)
  let n := n - n100 * 36524
  let n4 := n / 1461
  let n := n % 1461
  let n1 := min 3 (n / 365)
  let n := n - n1 * 365
  let year := n400 * 400 + n100 * 100 + n4 * 4 + n1 + 1
  let (month, day) := monthAndDay year n 12
  ⟨year, month, day⟩

/-! ### Weeks -/

/-- The weekday, Monday being 0. -/
def weekday (d : Date) : Nat := (d.ordinal + 6) % 7

/-- The number of the Monday of the first ISO week of a year: the week of its first Thursday.
The number is that of the day before, so that it is never negative. -/
def dayBeforeFirstWeek (year : Nat) : Int :=
  let firstDay : Int := daysBeforeYear year + 1
  let weekday := (firstDay + 6) % 7
  let monday := firstDay - weekday
  (if weekday > 3 then monday + 7 else monday) - 1

/-- The ISO year and week of a date. -/
def isoWeek (d : Date) : Nat × Nat :=
  let n : Int := d.ordinal
  let start := dayBeforeFirstWeek d.year
  let next := dayBeforeFirstWeek (d.year + 1)
  if n ≤ start then
    (d.year - 1, ((n - 1 - dayBeforeFirstWeek (d.year - 1)) / 7 + 1).toNat)
  else if next < n then (d.year + 1, 1)
  else (d.year, ((n - 1 - start) / 7 + 1).toNat)

/-- Whether an ISO year has 53 weeks: it starts on a Thursday, or on a Wednesday in a leap
year. -/
def hasWeek53 (year : Nat) : Bool :=
  let weekday := (daysBeforeYear year + 7) % 7
  weekday == 3 || (weekday == 2 && isLeap year)

/-- The date of an ISO year, week and weekday (Monday being 1), if there is one. -/
def ofIsoWeek? (year week weekday : Nat) : Option Date :=
  if 1 ≤ year ∧ 1 ≤ week ∧ (week ≤ 52 ∨ week = 53 ∧ hasWeek53 year) ∧ 1 ≤ weekday ∧ weekday ≤ 7 then
    let n := dayBeforeFirstWeek year + (week - 1) * 7 + weekday
    if n < 1 then none
    else
      let d := ofOrdinal n.toNat
      of? d.year d.month d.day
  else none

/-- Compare by year, then month, then day. -/
def compare (a b : Date) : Ordering :=
  (Ord.compare a.year b.year).then ((Ord.compare a.month b.month).then (Ord.compare a.day b.day))

end Date

end TemplateEngine
