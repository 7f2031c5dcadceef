/-
**YAML timestamps.**

A timestamp is a date, or a date and a time of day with a `T` or blanks between them.  Month, day
and hour may have one digit before a time; seconds may have a fraction, which is rounded to
microseconds; `Z` or an offset in hours and minutes may end it.  The zone keeps the text of the
offset as its name.

Main definitions:

* `Timestamp.ofText?` — the parts of a timestamp;
* `Timestamp.value` — the date or moment that it is.
-/
import TemplateEngine.Value.Basic
import TemplateEngine.Yaml.Cursor

set_option autoImplicit false

namespace TemplateEngine.Yaml

/-- A time of day with the digits of a fraction, and the text of an offset. -/
structure StampTime where
  hour : Nat
  minute : Nat
  second : Nat
  fraction : List Char
  zone? : Option (List Char)

/-- The parts of a timestamp. -/
structure Timestamp where
  year : Nat
  month : Nat
  day : Nat
  time? : Option StampTime

namespace Timestamp

/-! ### Grammar -/

/-- A number of `low` to `high` digits, as many as there are, and the rest. -/
def number? (low high : Nat) (cs : List Char) : Option (Nat × List Char) :=
  let digits := (cs.take high).takeWhile Char.isDigit
  if low ≤ digits.length then some (Nat.ofDigitChars 10 digits 0, cs.drop digits.length) else none

/-- What follows a given character. -/
def behind? (c : Char) (cs : List Char) : Option (List Char) :=
  match cs with
  | d :: rest => if d == c then some rest else none
  | [] => none

/-- Whether a text is an offset: `Z`, or a sign with hours and perhaps minutes. -/
def isOffset (cs : List Char) : Bool :=
  match cs with
  | ['Z'] => true
  | sign :: rest =>
      (sign == '+' || sign == '-') &&
        match number? 1 2 rest with
        | some (_, []) => true
        | some (_, ':' :: minutes) => minutes.length == 2 && minutes.all Char.isDigit
        | _ => false
  | [] => false

/-- The time of day that ends a timestamp. -/
def clock? (cs : List Char) : Option StampTime := do
  let (hour, cs) ← number? 1 2 cs
  let (minute, cs) ← number? 2 2 (← behind? ':' cs)
  let (second, cs) ← number? 2 2 (← behind? ':' cs)
  let dotted := cs.head? == some '.'
  let fraction := if dotted then (cs.drop 1).takeWhile Char.isDigit else []
  let cs := if dotted then cs.drop (fraction.length + 1) else cs
  let zone := cs.dropWhile isBlank
  if cs.isEmpty then some ⟨hour, minute, second, fraction, none⟩
  else if isOffset zone then some ⟨hour, minute, second, fraction, some zone⟩
  else none

/-- What separates a date from a time is passed over. -/
def skipSeparator (cs : List Char) : Option (List Char) :=
  match cs with
  | 'T' :: rest => some rest
  | 't' :: rest => some rest
  | c :: rest => if isBlank c then some (rest.dropWhile isBlank) else none
  | [] => none

/-- The timestamp that a text is, if it is one. -/
def ofText? (cs : List Char) : Option Timestamp := do
  let (year, rest) ← number? 4 4 cs
  let (month, rest) ← number? 1 2 (← behind? '-' rest)
  let (day, rest) ← number? 1 2 (← behind? '-' rest)
  if rest.isEmpty then
    -- a date without a time has two digits for month and day
    if cs.length = 10 then some ⟨year, month, day, none⟩ else none
  else some ⟨year, month, day, ← clock? (← skipSeparator rest)⟩

/-! ### Value -/

/-- A fraction in microseconds, rounded by its seventh digit; a whole second may come out. -/
def microsOf (fraction : List Char) : Nat :=
  let six := fraction.take 6
  let n := Nat.ofDigitChars 10 (six ++ List.replicate (6 - six.length) '0') 0
  if fraction[6]?.any ('4' < ·) then n + 1 else n

/-- The zone of an offset that is well formed. -/
def zoneOf (cs : List Char) : Zone :=
  let hours := ((number? 1 2 (cs.drop 1)).map Prod.fst).getD 0
  let minutes := if cs.contains ':' then Nat.ofDigitChars 10 (cs.drop (cs.length - 2)) 0 else 0
  let offset : Int := ((hours * 60 + minutes) * 60 : Nat) * Moment.microsPerSecond
  ⟨if cs.head? == some '-' then -offset else offset, some (String.ofList cs)⟩

/-- The date or moment of a timestamp. -/
def value (t : Timestamp) : Except Fault Value :=
  match Date.of? t.year t.month t.day, t.time? with
  | none, _ => .error .noSuchTime
  | some date, none => .ok (.date date)
  | some date, some time =>
      let micros := microsOf time.fraction
      let zone? := time.zone?.map zoneOf
      match Moment.of? date time.hour time.minute time.second (micros % 1000000) zone? with
      | none => .error .noSuchTime
      | some m =>
          if micros < 1000000 then .ok (.moment m)
          else match m.nextSecond? with
            | some n => .ok (.moment n)
            | none => .error .beyondCalendar

end Timestamp

end TemplateEngine.Yaml
