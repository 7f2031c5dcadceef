/-
**Plain YAML scalars.**

A scalar without quotes ends at a colon with a gap behind it, at a comment, at a tab and, inside
brackets, at an indicator of brackets.  It goes on over further lines as long as these are
indented: a line end becomes a space, and empty lines become line ends.

Main definitions:

* `startsPlain` — whether a plain scalar may begin here;
* `plainRun` — a part of a plain scalar without gaps;
* `readPlain` — a plain scalar.
-/
import TemplateEngine.Yaml.Cursor

set_option autoImplicit false

namespace TemplateEngine.Yaml

/-- Whether a character opens, closes or separates inside brackets. -/
def isFlowIndicator (c : Char) : Bool := ",[]\x7b\x7d".toList.contains c

/-- Whether a character never begins a plain scalar. -/
def isReserved (c : Char) : Bool :=
  isFlowIndicator c || "#&*!|>'\"%@".toList.contains c || c == '\x60' || isBlank c || isBreak c

/-- Whether a plain scalar may begin here. -/
def startsPlain (inside : Bool) : List Char → Bool
  | [] => false
  | c :: rest =>
      if c == '-' then !atGap rest
      else if c == ':' then
        if inside then !rest.head?.any isBlank else !atGap rest
      else if c == '?' then !inside && !atGap rest
      else !isReserved c

/-- The part of a plain scalar up to the next gap. -/
def plainRun (inside : Bool) : List Char → List Char
  | [] => []
  | c :: rest =>
      if atGap (c :: rest) || (c == ':' && atGap rest) || (inside && isFlowIndicator c) then []
      else c :: plainRun inside rest

/-- The spaces and empty lines at the start of a line, and what they stand for; nothing if a
document begins or ends there. -/
def plainBreaks : Nat → Cursor → Option (List Char) × Cursor
  | 0, c => (some [], c)
  | fuel + 1, c =>
      let d := c.skipWhile (· == ' ')
      match d.rest with
      | b :: _ =>
          if isBreak b then
            let e := d.next
            if e.atMarker then (none, e)
            else
              let (more?, f) := plainBreaks fuel e
              (more?.map (breakOf b :: ·), f)
          else (some [], d)
      | [] => (some [], d)

/-- A gap inside a plain scalar. -/
structure PlainGap where
  /-- What the gap stands for; nothing if the scalar ends with it. -/
  text : List Char
  stop : Cursor
  /-- Whether a line ends in the gap. -/
  broken : Bool

/-- The gap at a cursor. -/
def readPlainGap (c : Cursor) : PlainGap :=
  let blanks := c.rest.takeWhile (· == ' ')
  let d := c.skip blanks.length
  match d.rest with
  | b :: _ =>
      if isBreak b then
        let e := d.next
        if e.atMarker then ⟨[], e, true⟩
        else
          match plainBreaks e.rest.length.succ e with
          | (none, f) => ⟨[], f, true⟩
          | (some more, f) =>
              let first := if breakOf b == '\n' then (if more.isEmpty then [' '] else []) else [b]
              ⟨first ++ more, f, true⟩
      else ⟨blanks, d, false⟩
  | [] => ⟨blanks, d, false⟩

/-- A plain scalar that was read: its text, the place behind it and the gap that follows, and
whether a line ends in that gap. -/
structure PlainScalar where
  text : List Char
  stop : Cursor
  broken : Bool

/-- Read on behind `text` and `gap`, which stands for itself only if the scalar goes on.  Further
lines are indented by at least `least`. -/
def readPlainFrom (inside : Bool) (least : Int) :
    Nat → List Char → List Char → Bool → Cursor → PlainScalar
  | 0, text, _, broken, c => ⟨text, c, broken⟩
  | fuel + 1, text, gap, broken, c =>
      let run := plainRun inside c.rest
      if run.isEmpty || c.rest.head? == some '#' then ⟨text, c, broken⟩
      else
        let g := readPlainGap (c.skip run.length)
        let text := text ++ gap ++ run
        if g.text.isEmpty || g.stop.rest.head? == some '#' ||
            (!inside && (g.stop.column : Int) < least) then ⟨text, g.stop, g.broken⟩
        else readPlainFrom inside least fuel text g.text g.broken g.stop

/-- A plain scalar in a block with a given indentation. -/
def readPlain (inside : Bool) (indent : Int) (c : Cursor) : PlainScalar :=
  readPlainFrom inside (indent + 1) (c.rest.length + 1) [] [] false c

end TemplateEngine.Yaml
