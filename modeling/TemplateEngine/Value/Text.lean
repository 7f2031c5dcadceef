/-
**The texts of a value.**

A value has three texts.  Its *written* form stands in messages and inside collections: texts are
quoted and dates spelled out.  Its *shown* form is the same but for texts, dates and signals by
themselves.  Its *rendered* form is what a template puts out: nil is empty, booleans are `true`
and `false`, and lists and tuples are the rendered forms of their items in a row.

An integer of more than `Numeral.maxDigits` digits has no text, so a value that holds one where
a text would need it cannot be rendered.

Main definitions:

* `Value.written`, `Value.shown`, `Value.rendered` — the three texts;
* `Value.text` — the rendered text of a value, or the fault that it has none.
-/
import TemplateEngine.Value.Basic
import TemplateEngine.Number.Numeral
import TemplateEngine.Number.Shortest
import TemplateEngine.Text.Quoted
import TemplateEngine.Text.Search

set_option autoImplicit false

namespace TemplateEngine

/-- Floats from `1e-4` to below `1e16` are written positionally. -/
def floatStyle : Binary64.DecimalStyle :=
  { lowest := -4, highest := 15, infinity := "inf", invalid := "nan" }

/-- The decimal text of an integer. -/
def integerText (n : Int) : List Char :=
  if n < 0 then '-' :: Nat.toDigits 10 n.natAbs else Nat.toDigits 10 n.natAbs

/-- Whether an integer has a text. -/
def integerFits (n : Int) : Bool := n.natAbs < tenPow Numeral.maxDigits

/-- The written form of a date. -/
def Date.written (d : Date) : List Char :=
  "datetime.date(".toList ++ Nat.toDigits 10 d.year ++ ", ".toList ++ Nat.toDigits 10 d.month ++
    ", ".toList ++ Nat.toDigits 10 d.day ++ [')']

/-- The written form of a length of time: its days, which are negative if it is, and what is
left in seconds and microseconds. -/
def durationWritten (micros : Int) : List Char :=
  let part (label : String) (n : Int) : List (List Char) :=
    if n = 0 then [] else [label.toList ++ '=' :: integerText n]
  let parts := part "days" (micros / Moment.microsPerDay) ++
    part "seconds" (micros % Moment.microsPerDay / 1000000) ++
    part "microseconds" (micros % 1000000)
  "datetime.timedelta(".toList ++
    (if parts.isEmpty then ['0'] else Text.joinWith ", ".toList parts) ++ [')']

/-- The written form of a zone: universal time without a name has a word of its own. -/
def Zone.written (z : Zone) : List Char :=
  match z.name? with
  | some name =>
      "datetime.timezone(".toList ++ durationWritten z.offset ++ ", ".toList ++
        Text.quoted name.toList ++ [')']
  | none =>
      if z.offset = 0 then "datetime.timezone.utc".toList
      else "datetime.timezone(".toList ++ durationWritten z.offset ++ [')']

/-- The written form of a moment: seconds and microseconds only where they are needed. -/
def Moment.written (m : Moment) : List Char :=
  let clock := [m.date.year, m.date.month, m.date.day, m.hour, m.minute] ++
    if m.second = 0 ∧ m.micro = 0 then []
    else if m.micro = 0 then [m.second] else [m.second, m.micro]
  let zone := match m.zone? with
    | none => []
    | some z => ["tzinfo=".toList ++ z.written]
  "datetime.datetime(".toList ++
    Text.joinWith ", ".toList (clock.map (Nat.toDigits 10 ·) ++ zone) ++ [')']

/-- The written form of a signal. -/
def Signal.written : Signal → List Char
  | .break => "<Signal.BREAK: 'break'>".toList
  | .continue => "<Signal.CONTINUE: 'continue'>".toList

namespace Value

/-! ### Which values have a text -/

mutual

/-- Whether a value holds no integer that is too long to be written. -/
def writable : Value → Bool
  | .int n => integerFits n
  | .range start stop => integerFits start && integerFits stop
  | .list items => writableItems items
  | .tuple items => writableItems items
  | .map entries => writableEntries entries
  | _ => true

/-- Whether all items are writable. -/
def writableItems : List Value → Bool
  | [] => true
  | x :: rest => writable x && writableItems rest

/-- Whether all keys and values of entries are writable. -/
def writableEntries : List (Value × Value) → Bool
  | [] => true
  | (k, v) :: rest => writable k && writable v && writableEntries rest

end

/-! ### The three texts -/

mutual

/-- The text of a value in messages and inside collections. -/
def written : Value → List Char
  | .nil => "None".toList
  | .bool b => if b then "True".toList else "False".toList
  | .int n => integerText n
  | .float x => floatStyle.write x
  | .str s => Text.quoted s.toList
  | .list items => '[' :: Text.joinWith ", ".toList (writtenItems items) ++ [']']
  | .tuple items =>
      '(' :: Text.joinWith ", ".toList (writtenItems items) ++
        (if items.length = 1 then [',', ')'] else [')'])
  | .map entries => '\x7b' :: Text.joinWith ", ".toList (writtenEntries entries) ++ ['\x7d']
  | .range start stop =>
      "range(".toList ++ integerText start ++ ", ".toList ++ integerText stop ++ [')']
  | .date d => d.written
  | .moment m => m.written
  | .signal s => s.written
  | .interrupted text s =>
      "Interrupted(text=".toList ++ Text.quoted text.toList ++ ", signal=".toList ++ s.written ++
        [')']

/-- The written forms of items. -/
def writtenItems : List Value → List (List Char)
  | [] => []
  | x :: rest => written x :: writtenItems rest

/-- The written forms of entries. -/
def writtenEntries : List (Value × Value) → List (List Char)
  | [] => []
  | (k, v) :: rest => (written k ++ ": ".toList ++ written v) :: writtenEntries rest

end

/-- The text of a value by itself.  A signal shows nothing. -/
def shown : Value → List Char
  | .str s => s.toList
  | .date d => d.isoText
  | .moment m => m.isoText ' '
  | .signal _ => []
  | .interrupted _ _ => []
  | v => written v

mutual

/-- The text that a template puts out for a value. -/
def rendered : Value → List Char
  | .nil => []
  | .bool b => if b then "true".toList else "false".toList
  | .list items => renderedItems items
  | .tuple items => renderedItems items
  | v => shown v

/-- The rendered forms of items in a row. -/
def renderedItems : List Value → List Char
  | [] => []
  | x :: rest => rendered x ++ renderedItems rest

end

/-! ### Texts with their fault -/

/-- The rendered text of a value. -/
def text (v : Value) : Except Fault String :=
  if v.writable then .ok (String.ofList v.rendered) else .error .tooManyDigits

/-- The text of a value by itself. -/
def shownText (v : Value) : Except Fault String :=
  if v.writable then .ok (String.ofList v.shown) else .error .tooManyDigits

/-- A text renders as itself. -/
theorem text_str (s : String) : text (.str s) = .ok s := by
  simp [text, writable, rendered, shown]

end Value

end TemplateEngine
