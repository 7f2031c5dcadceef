/-
**A place in a YAML document.**

A cursor holds the text that is left and counts characters, lines and columns.  A line ends at a
line feed or at U+0085, which both read as line feeds, and at the separators U+2028 and U+2029,
which stand for themselves.  **Only spaces indent**: a tab is a gap behind a word, but outside of
brackets no word may follow it.

Main definitions:

* `Failure` — why a text is not read;
* `Cursor.next`, `Cursor.skip`, `Cursor.skipWhile` — steps;
* `isBreak`, `endsLine`, `atGap` — line ends and gaps;
* `Cursor.atMarker` — whether a document begins or ends here.
-/
import TemplateEngine.Value.Kind

set_option autoImplicit false

namespace TemplateEngine.Yaml

/-- Why a text is not read: it is not well formed, or a scalar in it stands for no value. -/
inductive Failure where
  | malformed
  | fault (f : Fault)
  /-- A scalar is declared to be a truth value and is no word for one. -/
  | noTruthWord
  /-- A scalar is declared to be a number and is empty. -/
  | noNumber
  deriving DecidableEq, Repr

/-! ### Characters -/

/-- Whether a character ends a line. -/
def isBreak (c : Char) : Bool := c == '\n' || c == '\x85' || c == '\u2028' || c == '\u2029'

/-- What the end of a line reads as. -/
def breakOf (c : Char) : Char := if c == '\x85' then '\n' else c

/-- Whether a character is a blank inside a line. -/
def isBlank (c : Char) : Bool := c == ' ' || c == '\t'

/-- Whether a text is empty or begins with the end of a line. -/
def endsLine : List Char → Bool
  | [] => true
  | c :: _ => c == '\n' || c == '\x85'

/-- Whether a text is empty or begins with a blank or the end of a line. -/
def atGap : List Char → Bool
  | [] => true
  | c :: rest => isBlank c || endsLine (c :: rest)

/-! ### Cursors -/

/-- The text that is left, and its place. -/
structure Cursor where
  rest : List Char
  index : Nat := 0
  line : Nat := 0
  column : Nat := 0

namespace Cursor

/-- Pass over one character.  A byte order mark takes no column. -/
def next (c : Cursor) : Cursor :=
  match c.rest with
  | [] => c
  | d :: rest =>
      if isBreak d then ⟨rest, c.index + 1, c.line + 1, 0⟩
      else ⟨rest, c.index + 1, c.line, if d == '\ufeff' then c.column else c.column + 1⟩

/-- Pass over a number of characters. -/
def skip : Nat → Cursor → Cursor
  | 0, c => c
  | n + 1, c => skip n c.next

/-- Pass over characters of a kind. -/
def skipWhile (p : Char → Bool) (c : Cursor) : Cursor := c.skip (c.rest.takeWhile p).length

/-- Whether a marker of three characters stands here with a gap behind it. -/
def marks (marker : List Char) (c : Cursor) : Bool :=
  marker.isPrefixOf c.rest && atGap (c.rest.drop 3)

/-- Whether a document begins or ends here, at the start of a line. -/
def atMarker (c : Cursor) : Bool := c.marks "---".toList || c.marks "...".toList

/-- Whether an indicator with a gap behind it stands here. -/
def atIndicator (indicator : Char) (c : Cursor) : Bool :=
  match c.rest with
  | d :: rest => d == indicator && atGap rest
  | [] => false

end Cursor

end TemplateEngine.Yaml
