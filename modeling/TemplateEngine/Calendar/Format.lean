/-
**Writing a moment by a format.**

A directive is a percent sign, flags, a width, a modifier `E` or `O`, and a letter.  The flags
`_`, `-` and `0` choose the padding of numbers (the last one counts), `^` writes capitals and `#`
changes case.  Years and centuries have no leading zeros of their own.  A directive that is not
known, or does not take its modifier, stays as it is written.

Main definitions:

* `Directive.read` — one directive;
* `Directive.write` — its text for a moment;
* `Moment.format` — a whole format; `%f`, `%z` and `%Z` without flags are the microseconds, the
  offset and its name.
-/
import TemplateEngine.Calendar.Moment
import TemplateEngine.Text.Case

set_option autoImplicit false

namespace TemplateEngine

/-! ### Directives -/

/-- What stands behind a percent sign. -/
structure Directive where
  pad? : Option Char
  capitals : Bool
  change : Bool
  width : Nat
  modifier? : Option Char
  letter? : Option Char
  source : List Char

namespace Directive

/-- The flags at the start of a text: padding, capitals, change of case. -/
def readFlags (pad? : Option Char) (capitals change : Bool) :
    List Char → Option Char × Bool × Bool × List Char
  | '_' :: rest => readFlags (some '_') capitals change rest
  | '-' :: rest => readFlags (some '-') capitals change rest
  | '0' :: rest => readFlags (some '0') capitals change rest
  | '^' :: rest => readFlags pad? true change rest
  | '#' :: rest => readFlags pad? capitals true rest
  | rest => (pad?, capitals, change, rest)

/-- The directive behind a percent sign, and the rest of the format.  Widths above `limit` need
not be told apart. -/
def read (limit : Nat) (cs : List Char) : Directive × List Char :=
  let (pad?, capitals, change, rest) := readFlags none false false cs
  let figures := rest.takeWhile Char.isDigit
  let rest := rest.drop figures.length
  let width := min limit (Nat.ofDigitChars 10 figures 0)
  let modifier? := rest.head?.filter fun c => c == 'E' || c == 'O'
  let rest := if modifier?.isSome then rest.drop 1 else rest
  let letter? := rest.head?
  let rest := rest.drop 1
  (⟨pad?, capitals, change, width, modifier?, letter?,
      '%' :: cs.take (cs.length - rest.length)⟩, rest)

/-- Fill up to the width of the directive, with zeros only if it asks for zeros. -/
def fill (d : Directive) (text : List Char) : List Char :=
  List.replicate (d.width - text.length) (if d.pad? = some '0' then '0' else ' ') ++ text

/-- A number of at least `least` figures. -/
def number (d : Directive) (least n : Nat) : List Char :=
  let ds := Nat.toDigits 10 n
  let missing := max least d.width - ds.length
  d.fill <| match d.pad? with
    | some '-' => ds
    | some '_' => List.replicate missing ' ' ++ ds
    | _ => List.replicate missing '0' ++ ds

/-- A number filled with spaces unless the directive says otherwise. -/
def spacedNumber (d : Directive) (least n : Nat) : List Char :=
  let d := if d.pad? = some '0' ∨ d.pad? = some '-' then d else { d with pad? := some '_' }
  d.number least n

/-- The capital letter of a character, if that is one letter. -/
def capital (c : Char) : Char :=
  match Text.upperOf c with
  | [u] => u
  | _ => c

/-- A text, in capitals if the directive asks for them. -/
def text (d : Directive) (cs : List Char) : List Char :=
  d.fill (if d.capitals then cs.map capital else cs)

/-- A name: a change of case makes capitals. -/
def name (d : Directive) (cs : List Char) : List Char :=
  d.fill (if d.capitals || d.change then cs.map Char.toUpper else cs)

/-- Half of the day: a change of case makes small letters. -/
def half (d : Directive) (cs : List Char) : List Char :=
  d.fill (if d.change then cs.map Char.toLower else if d.capitals then cs.map Char.toUpper else cs)

/-- A directive that means nothing, as it is written.  The letters of a short name of a month
change case even so. -/
def verbatim (d : Directive) : List Char :=
  let shortMonth := d.letter? = some 'b' || d.letter? = some 'h'
  let d := { d with capitals := d.capitals || (d.change && shortMonth) }
  d.text (if d.letter? = some '%' then ['%'] else d.source)

/-- Whether the letter takes the modifier. -/
def takesModifier (letter : Char) : Option Char → Bool
  | none => true
  | some 'E' => !"%aAbBhdeDFHIklmMjSUVgGWw".toList.contains letter
  | some _ => !"%aAcDFxXY".toList.contains letter

/-- The letters that stand for a format of their own. -/
def expansion? : Char → Option (List Char)
  | 'c' => some "%a %b %e %H:%M:%S %Y".toList
  | 'D' | 'x' => some "%m/%d/%y".toList
  | 'F' => some "%Y-%m-%d".toList
  | 'r' => some "%I:%M:%S %p".toList
  | 'R' => some "%H:%M".toList
  | 'T' | 'X' => some "%H:%M:%S".toList
  | _ => none

/-- The names of the weekdays, Monday first. -/
def weekdays : List String :=
  ["Monday", "Tuesday", "Wednesday", "Thursday", "Friday", "Saturday", "Sunday"]

/-- The names of the months. -/
def months : List String :=
  ["January", "February", "March", "April", "May", "June", "July", "August", "September",
    "October", "November", "December"]

/-- The name of a weekday. -/
def weekdayName (m : Moment) : List Char := (weekdays[m.date.weekday]?.getD "").toList

/-- The name of a month. -/
def monthName (m : Moment) : List Char := (months[m.date.month - 1]?.getD "").toList

/-- The hour on a clock of twelve hours. -/
def hour12 (m : Moment) : Nat := if m.hour % 12 = 0 then 12 else m.hour % 12

/-- The seconds since 1970 that the clock shows, with their sign. -/
def secondsText (m : Moment) : List Char :=
  let n := m.clockSeconds - Moment.epoch
  if n < 0 then '-' :: Nat.toDigits 10 n.natAbs else Nat.toDigits 10 n.natAbs

/-- The text of a directive, given the text of a format that a letter stands for. -/
def write (m : Moment) (sub : List Char → List Char) (d : Directive) : List Char :=
  match d.letter? with
  | none => d.verbatim
  | some letter =>
    if !takesModifier letter d.modifier? then d.verbatim
    else match expansion? letter with
      | some format => d.text (sub format)
      | none =>
        let weekday := m.date.weekday
        let day := m.date.dayOfYear - 1
        let (isoYear, isoWeek) := m.date.isoWeek
        match letter with
        | '%' => d.text ['%']
        | 'n' => d.fill ['\n']
        | 't' => d.fill ['\t']
        | 'a' => d.name ((weekdayName m).take 3)
        | 'A' => d.name (weekdayName m)
        | 'b' | 'h' => d.name ((monthName m).take 3)
        | 'B' => d.name (monthName m)
        | 'p' => d.half (if m.hour < 12 then ['A', 'M'] else ['P', 'M'])
        | 'P' => d.fill (if m.hour < 12 then ['a', 'm'] else ['p', 'm'])
        | 'Y' => d.number 1 m.date.year
        | 'C' => d.number 1 (m.date.year / 100)
        | 'y' => d.number 2 (m.date.year % 100)
        | 'G' => d.number 1 isoYear
        | 'g' => d.number 2 (isoYear % 100)
        | 'V' => d.number 2 isoWeek
        | 'U' => d.number 2 ((day + 7 - (weekday + 1) % 7) / 7)
        | 'W' => d.number 2 ((day + 7 - weekday) / 7)
        | 'm' => d.number 2 m.date.month
        | 'd' => d.number 2 m.date.day
        | 'e' => d.spacedNumber 2 m.date.day
        | 'j' => d.number 3 m.date.dayOfYear
        | 'u' => d.number 1 (weekday + 1)
        | 'w' => d.number 1 ((weekday + 1) % 7)
        | 'H' => d.number 2 m.hour
        | 'k' => d.spacedNumber 2 m.hour
        | 'I' => d.number 2 (hour12 m)
        | 'l' => d.spacedNumber 2 (hour12 m)
        | 'M' => d.number 2 m.minute
        | 'S' => d.number 2 m.second
        | 's' => d.fill (secondsText m)
        | 'z' => []
        | 'Z' => if d.pad? = some '-' then [] else d.fill []
        | _ => d.verbatim

end Directive

/-! ### Formats -/

namespace Moment

/-- The offset as the directive `%z` writes it. -/
def offsetDigits (m : Moment) : List Char :=
  match m.offset? with
  | none => []
  | some o => offsetText [] o

/-- The name of the zone; one without a name is called by its offset. -/
def zoneName (m : Moment) : List Char :=
  match m.zone? with
  | none => []
  | some ⟨_, some name⟩ => name.toList
  | some ⟨o, none⟩ => "UTC".toList ++ if o = 0 then [] else offsetText [':'] o

/-- Replace the directives for microseconds, offset and zone, which take no flags. -/
def fillIn (m : Moment) : List Char → List Char
  | '%' :: 'f' :: rest => paddedDigits 6 m.micro ++ m.fillIn rest
  | '%' :: 'z' :: rest => m.offsetDigits ++ m.fillIn rest
  | '%' :: 'Z' :: rest => m.zoneName ++ m.fillIn rest
  | '%' :: c :: rest => '%' :: c :: m.fillIn rest
  | c :: rest => c :: m.fillIn rest
  | [] => []

/-- Write the directives of a format of at most `fuel` characters. -/
def writeDirectives (m : Moment) (limit : Nat) (sub : List Char → List Char) :
    Nat → List Char → List Char
  | fuel + 1, '%' :: rest =>
      let (d, rest) := Directive.read limit rest
      d.write m sub ++ m.writeDirectives limit sub fuel rest
  | fuel + 1, c :: rest => c :: m.writeDirectives limit sub fuel rest
  | _, _ => []

/-- The number of characters that a format of length `n` may not reach: 256 for each of its
characters, rounded up to a power of two, and at least 1024. -/
def formatLimit (n : Nat) : Nat := 256 * twoPow (max 2 (Nat.log2 (n - 1) + 1))

/-- The moment written by a format, which ends at a null character.  A text that grows out of
all proportion to its format is dropped. -/
def format (m : Moment) (cs : List Char) : List Char :=
  let cs := m.fillIn (cs.takeWhile (· != '\x00'))
  let limit := formatLimit cs.length
  let sub := fun f => m.writeDirectives limit id f.length f
  let text := m.writeDirectives limit sub cs.length cs
  if text.length < limit then text else []

end Moment

end TemplateEngine
