/-
**Block YAML scalars.**

Behind `|` the lines of a scalar stand as they are, behind `>` they are folded: a line end between
two lines that begin with no blank becomes a space.  The first line that is not empty gives the
indentation, unless the header does; the header also says whether the line ends behind the last
line are dropped (`-`) or kept (`+`).

Main definitions:

* `BlockHeader` — what the header says;
* `readBlock` — a block scalar.
-/
import TemplateEngine.Yaml.Cursor

set_option autoImplicit false

namespace TemplateEngine.Yaml

/-! ### Headers -/

/-- What becomes of the line ends behind the last line. -/
inductive Chomping where
  | strip
  | clip
  | keep
  deriving DecidableEq, Repr

/-- What a header says. -/
structure BlockHeader where
  chomping : Chomping
  /-- How much further than its surroundings the scalar is indented. -/
  increment? : Option Nat

/-- The chomping that an indicator means. -/
def chompingOf? : Char → Option Chomping
  | '-' => some .strip
  | '+' => some .keep
  | _ => none

/-- The increment that an indicator means. -/
def incrementOf? (c : Char) : Option Nat :=
  if c.isDigit && c != '0' then some (c.toNat - '0'.toNat) else none

/-- The header at a cursor: at most one indicator of each sort. -/
def readHeader (c : Cursor) : BlockHeader × Cursor :=
  let first? := c.rest.head?
  match first?.bind chompingOf?, first?.bind incrementOf? with
  | some chomping, _ =>
      match c.next.rest.head?.bind incrementOf? with
      | some n => (⟨chomping, some n⟩, c.skip 2)
      | none => (⟨chomping, none⟩, c.next)
  | none, some n =>
      match c.next.rest.head?.bind chompingOf? with
      | some chomping => (⟨chomping, some n⟩, c.skip 2)
      | none => (⟨.clip, some n⟩, c.next)
  | none, none => (⟨.clip, none⟩, c)

/-- The start of the line behind a header, which only a comment may follow. -/
def skipHeaderLine (c : Cursor) : Option Cursor :=
  let d := c.skipWhile (· == ' ')
  let d := if d.rest.head? == some '#' then d.skipWhile fun e => !endsLine [e] else d
  if atGap c.rest && endsLine d.rest then some d.next else none

/-! ### Lines -/

/-- Pass over spaces up to a column. -/
def indentTo (column : Nat) : Nat → Cursor → Cursor
  | 0, c => c
  | fuel + 1, c =>
      if c.column < column && c.rest.head? == some ' ' then indentTo column fuel c.next else c

/-- The empty lines at a cursor, and the place where the next line begins behind its
indentation. -/
def blockBreaks (indent : Nat) : Nat → Cursor → List Char × Cursor
  | 0, c => ([], c)
  | fuel + 1, c =>
      let d := indentTo indent c.rest.length c
      match d.rest with
      | b :: _ =>
          if isBreak b then
            let (more, e) := blockBreaks indent fuel d.next
            (breakOf b :: more, e)
          else ([], d)
      | [] => ([], d)

/-- What stands before the first line that is not empty. -/
structure Lead where
  breaks : List Char := []
  /-- The largest column that a space reaches. -/
  widest : Nat := 0
  /-- The column where the first empty line ends. -/
  first? : Option Nat := none
  stop : Cursor

/-- The empty lines and spaces at a cursor. -/
def readLead : Nat → Lead → Lead
  | 0, l => l
  | fuel + 1, l =>
      match l.stop.rest with
      | b :: _ =>
          let stop := l.stop.next
          if b == ' ' then readLead fuel { l with stop, widest := max l.widest stop.column }
          else if isBreak b then
            let first? := l.first?.or (some l.stop.column)
            readLead fuel { l with stop, first?, breaks := l.breaks ++ [breakOf b] }
          else l
      | [] => l

/-- The lines from a cursor on: their text, the last line end and the empty lines behind it, and
the place behind these.  `outermost` tells that a document may end between two lines. -/
def readLines (folds outermost : Bool) (indent : Nat) :
    Nat → List Char → Cursor → List Char × List Char × Cursor
  | 0, breaks, c => ([], breaks, c)
  | fuel + 1, breaks, c =>
      let line := c.rest.takeWhile fun d => !endsLine [d]
      let d := c.skip line.length
      let ending := (d.rest.head?.map breakOf).toList
      let (after, e) := blockBreaks indent d.rest.length d.next
      let ends := outermost && e.column == 0 && e.atMarker
      if !ends && e.column == indent && !e.rest.isEmpty then
        let folded := folds && ending == ['\n'] && !line.head?.any isBlank &&
          !e.rest.head?.any isBlank
        let between := if folded then (if after.isEmpty then [' '] else []) else ending
        let (text, tail, stop) := readLines folds outermost indent fuel after e
        (breaks ++ line ++ between ++ text, tail, stop)
      else (breaks ++ line, ending ++ after, e)

/-- The text of a block scalar, and the place behind it; the cursor is behind the indicator and
`indent` is the indentation around the scalar. -/
def readBlock (folds : Bool) (indent : Int) (c : Cursor) : Except Failure (List Char × Cursor) :=
  let (header, c) := readHeader c
  match skipHeaderLine c with
  | none => .error .malformed
  | some c => do
      let least := (indent + 1).toNat
      let fuel := c.rest.length + 1
      let (width, breaks, start) ← match header.increment? with
        | none =>
            let lead := readLead fuel { stop := c }
            if lead.first?.any fun n => 0 < n && n < lead.widest then throw .malformed
            pure (max least lead.widest, lead.breaks, lead.stop)
        | some n =>
            let width := max least 1 + n - 1
            let (breaks, start) := blockBreaks width fuel c
            pure (width, breaks, start)
      let outermost := least == 0 && header.increment?.isNone
      if start.column = width && !start.rest.isEmpty then
        let (text, tail, stop) := readLines folds outermost width fuel breaks start
        return (text ++ match header.chomping with
          | .strip => []
          | .clip => tail.take 1
          | .keep => tail, stop)
      else
        return (if header.chomping = .keep then breaks else [], start)

end TemplateEngine.Yaml
