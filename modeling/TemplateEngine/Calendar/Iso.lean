/-
**Reading ISO 8601 texts.**

A date is written `YYYY-MM-DD`, `YYYYMMDD`, or by week as `YYYY-Www[-D]` or `YYYYWww[D]`; a time
may follow behind any one character, with colons (`HH:MM:SS`) or without (`HHMMSS`), a fraction
behind a point or comma, and `Z` or an offset.  Where the date ends is decided by its first
characters and by counting positions in bytes, so a character beyond ASCII takes as many places
as its encoding has bytes.

Main definitions:

* `Moment.ofIso?` — the moment of a text, without a zone unless an offset is written;
* `readClock` — the components of a time or an offset.
-/
import TemplateEngine.Calendar.Moment

set_option autoImplicit false

namespace TemplateEngine.Iso

/-! ### Places and digits -/

/-- The text with one place for each byte of its encoding. -/
def places (cs : List Char) : List Char := cs.flatMap fun c => List.replicate c.utf8Size c

/-- A number of exactly `count` ASCII digits, and the rest of the text. -/
def readDigits (count : Nat) (cs : List Char) : Option (Nat × List Char) :=
  let ds := cs.take count
  if ds.length = count ∧ ds.all Char.isDigit then
    some (Nat.ofDigitChars 10 ds 0, cs.drop count)
  else none

/-- The place behind the date. -/
def dateEnd (cs : List Char) : Option Nat :=
  let place (i : Nat) (p : Char → Bool) : Bool := cs[i]?.any p
  if cs.length < 7 then none
  else if cs.length = 7 then some 7
  else if place 4 (· == '-') then
    if place 5 (· == 'W') then
      if place 8 (· == '-') then
        -- a dash behind the week begins a weekday, unless it separates a time
        if cs.length = 9 then none
        else if place 10 Char.isDigit then some 8 else some 10
      else some 8
    else some 10
  else if place 4 (· == 'W') then
    -- an even number of digits holds a weekday and a separator, an odd one no weekday
    let digitsEnd := 7 + ((cs.drop 7).takeWhile Char.isDigit).length
    if digitsEnd < 9 then some digitsEnd
    else if digitsEnd % 2 = 0 then some 7 else some 8
  else some 8

/-! ### Dates -/

/-- The week and weekday behind the `W` of a date; a date without a weekday is a Monday. -/
def readWeek (year : Nat) (dashed : Bool) (cs : List Char) : Option Date := do
  let (week, rest) ← readDigits 2 cs
  match rest with
  | [] => Date.ofIsoWeek? year week 1
  | c :: rest' =>
      if dashed then
        if c = '-' then Date.ofIsoWeek? year week (← readDigits 1 rest').1 else none
      else Date.ofIsoWeek? year week (← readDigits 1 rest).1

/-- A date. -/
def readDate (cs : List Char) : Option Date := do
  let (year, rest) ← readDigits 4 cs
  let dashed := rest.head? == some '-'
  let rest := if dashed then rest.drop 1 else rest
  if rest.head? == some 'W' then readWeek year dashed (rest.drop 1)
  else
    let (month, rest) ← readDigits 2 rest
    if dashed && rest.head? != some '-' then none
    else
      let (day, _) ← readDigits 2 (if dashed then rest.drop 1 else rest)
      Date.of? year month day

/-! ### Times -/

/-- Hours, minutes, seconds and microseconds, and whether the text was read to its end. -/
structure Clock where
  fields : List Nat
  micro : Nat
  complete : Bool

/-- The components of a clock, 0 where none is written. -/
def Clock.field (c : Clock) (i : Nat) : Nat := c.fields[i]?.getD 0

/-- A fraction: at most six digits count, further ones are passed over. -/
def readFraction (fields : List Nat) (cs : List Char) (more : Bool) : Option Clock := do
  let count := min 6 cs.length
  let (n, rest) ← readDigits count cs
  let rest := rest.dropWhile Char.isDigit
  some ⟨fields, n * tenPow (6 - count), rest.isEmpty && !more⟩

/-- Components of two digits, `left` more of them, with colons between them or without.  `more`
says that text follows behind `cs`.  The character behind the last component is passed over if
nothing else follows. -/
def readComponents (more : Bool) : Nat → Bool → List Nat → List Char → Option Clock
  | 0, _, fields, cs => readFraction fields cs more
  | left + 1, colons, fields, cs => do
      let (n, rest) ← readDigits 2 cs
      let fields := fields ++ [n]
      match rest with
      | [] => some ⟨fields, 0, !more⟩
      | c :: rest' =>
          -- the first separator settles whether the others are colons
          let colons := if fields.length = 1 then c == ':' else colons
          if rest'.isEmpty then some ⟨fields, 0, false⟩
          else if colons && c == ':' then readComponents more left colons fields rest'
          else if c = '.' || c = ',' then readFraction fields rest' more
          else if colons then none
          else readComponents more left colons fields rest

/-- A time of day or the figures of an offset. -/
def readClock (more : Bool) (cs : List Char) : Option Clock := readComponents more 3 true [] cs

/-- Whether a character starts an offset. -/
def startsOffset (c : Char) : Bool := c == '+' || c == '-' || c == 'Z'

/-- An offset in microseconds; one of zero length is universal time. -/
def readOffset : List Char → Option Int
  | ['Z'] => some 0
  | 'Z' :: _ => none
  | sign :: rest => do
      let c ← readClock false rest
      if !c.complete then none
      else
        let seconds : Int := c.field 0 * 3600 + c.field 1 * 60 + c.field 2
        let offset := if seconds = 0 then 0 else seconds * 1000000 + c.micro
        some (if sign = '-' then -offset else offset)
  | [] => none

/-- A time with or without an offset, on a given date. -/
def readTime (date : Date) (cs : List Char) : Option Moment := do
  let clock := cs.takeWhile (!startsOffset ·)
  let tail := cs.drop clock.length
  let c ← readClock (!tail.isEmpty) clock
  if tail.isEmpty then
    if c.complete then Moment.of? date (c.field 0) (c.field 1) (c.field 2) c.micro none else none
  else
    let offset ← readOffset tail
    Moment.of? date (c.field 0) (c.field 1) (c.field 2) c.micro (some ⟨offset, none⟩)

end TemplateEngine.Iso

namespace TemplateEngine

/-- The moment that a text names in ISO 8601, if it does. -/
def Moment.ofIso? (text : List Char) : Option Moment := do
  let cs := Iso.places text
  let stop ← Iso.dateEnd cs
  let date ← Iso.readDate (cs.take stop)
  match cs.drop stop with
  | [] => some (Moment.ofDate date)
  | separator :: _ => Iso.readTime date ((cs.drop stop).drop separator.utf8Size)

end TemplateEngine
