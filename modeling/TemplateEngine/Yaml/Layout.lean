/-
**The layout of a YAML document.**

A document is read as tokens.  Blocks are laid out by indentation: a first entry or key further to
the right opens a block, and a token further to the left closes blocks.  **What is a key shows
only when its colon comes**: until then its place is kept, and the colon puts the mark of the key,
and perhaps of a new block, in front of it.  A key must begin and end on one line and is at most
`KeyPlace.reach` characters long.

Main definitions:

* `Layout` — what is read so far;
* `Layout.step` — read one token;
* `readTokens` — the tokens of a text.
-/
import TemplateEngine.Yaml.Block
import TemplateEngine.Yaml.Plain
import TemplateEngine.Yaml.Quoted
import TemplateEngine.Yaml.Token

set_option autoImplicit false

namespace TemplateEngine.Yaml

/-! ### The state of reading -/

/-- The place where a key may have begun: before the token number `position`.  A key is required
where a block mapping can only go on with one. -/
structure KeyPlace where
  position : Nat
  required : Bool
  index : Nat
  line : Nat
  column : Nat

/-- The greatest distance of a colon from the place of its key. -/
def KeyPlace.reach : Nat := 1024

/-- The brackets of a collection. -/
inductive Bracket where
  | square
  | curly
  deriving DecidableEq, Repr

/-- What is read so far. -/
structure Layout where
  cursor : Cursor
  tokens : List Token := []
  /-- The indentation of the innermost block, and those of the blocks around it. -/
  indent : Int := -1
  outer : List Int := []
  /-- The brackets that are open, innermost first. -/
  brackets : List Bracket := []
  /-- The places of possible keys, at most one for each depth of brackets. -/
  places : List (Nat × KeyPlace) := []
  /-- Whether a key may begin here. -/
  keyAllowed : Bool := true

namespace Layout

/-- Whether no bracket is open. -/
def inBlock (s : Layout) : Bool := s.brackets.isEmpty

/-- The depth of brackets. -/
def depth (s : Layout) : Nat := s.brackets.length

/-- Add a token. -/
def emit (s : Layout) (t : Token) : Layout := { s with tokens := s.tokens ++ [t] }

/-- Add a token of a number of characters. -/
def emitOver (s : Layout) (n : Nat) (t : Token) : Layout :=
  { s.emit t with cursor := s.cursor.skip n }

/-! ### Possible keys -/

/-- Whether the place of a key is out of reach. -/
def outOfReach (s : Layout) (p : KeyPlace) : Bool :=
  p.line != s.cursor.line || KeyPlace.reach + p.index < s.cursor.index

/-- Give up the places that are out of reach. -/
def dropPlaces (s : Layout) : Except Failure Layout :=
  if s.places.any fun e => e.2.required && s.outOfReach e.2 then .error .malformed
  else .ok { s with places := s.places.filter fun e => !s.outOfReach e.2 }

/-- Give up the place at this depth. -/
def forgetPlace (s : Layout) : Except Failure Layout :=
  if (s.places.lookup s.depth).any KeyPlace.required then .error .malformed
  else .ok { s with places := s.places.filter fun e => e.1 != s.depth }

/-- Keep this place, if a key may begin here. -/
def keepPlace (s : Layout) : Except Failure Layout :=
  if s.keyAllowed then do
    let s ← s.forgetPlace
    let c := s.cursor
    let required := s.inBlock && s.indent == c.column
    return { s with
      places := (s.depth, ⟨s.tokens.length, required, c.index, c.line, c.column⟩) :: s.places }
  else .ok s

/-! ### Blocks -/

/-- The indentations that are left, and the number of blocks that are closed, when a token stands
in a column. -/
def closeBlocks (column : Int) : Int → List Int → Nat × Int × List Int
  | indent, [] => (0, indent, [])
  | indent, next :: outer =>
      if column < indent then
        let (n, rest) := closeBlocks column next outer
        (n + 1, rest)
      else (0, indent, next :: outer)

/-- Close the blocks that are indented further than a column; inside brackets indentation means
nothing. -/
def unwind (s : Layout) (column : Int) : Layout :=
  if s.inBlock then
    let (n, indent, outer) := closeBlocks column s.indent s.outer
    { s with indent, outer, tokens := s.tokens ++ List.replicate n .blockEnd }
  else s

/-- Open a block at the cursor, unless one with this indentation is open. -/
def openBlock (s : Layout) (start : Token) : Layout :=
  if s.indent < s.cursor.column then
    { s.emit start with indent := s.cursor.column, outer := s.indent :: s.outer }
  else s

/-! ### Gaps -/

/-- Whether a character separates tokens: a space, and inside brackets a tab too. -/
def isSpacing (s : Layout) (c : Char) : Bool := c == ' ' || (!s.inBlock && c == '\t')

/-- Pass over spacing, comments and line ends; behind a line end in a block a key may begin. -/
def skipGapFrom : Nat → Layout → Layout
  | 0, s => s
  | fuel + 1, s =>
      let c := s.cursor.skipWhile s.isSpacing
      let c := if c.rest.head? == some '#' then c.skipWhile fun d => !endsLine [d] else c
      if c.rest.head?.any isBreak then
        skipGapFrom fuel { s with cursor := c.next, keyAllowed := s.keyAllowed || s.inBlock }
      else { s with cursor := c }

/-- Pass over a byte order mark at the start of the text, and over spacing, comments and line
ends. -/
def skipGap (s : Layout) : Layout :=
  let marked := s.cursor.index = 0 && s.cursor.rest.head? == some '\ufeff'
  skipGapFrom (s.cursor.rest.length + 1) (if marked then { s with cursor := s.cursor.next } else s)

/-! ### Tokens of one or three characters -/

/-- Open a bracket; it may be the start of a key, and so may what follows it. -/
def openBracket (s : Layout) (b : Bracket) (t : Token) : Except Failure Layout := do
  let s ← s.keepPlace
  return { s.emitOver 1 t with brackets := b :: s.brackets, keyAllowed := true }

/-- Close a bracket. -/
def closeBracket (s : Layout) (t : Token) : Except Failure Layout := do
  let s ← s.forgetPlace
  return { s.emitOver 1 t with brackets := s.brackets.tail, keyAllowed := false }

/-- Separate two items inside brackets. -/
def separate (s : Layout) : Except Failure Layout := do
  let s ← s.forgetPlace
  return { s.emitOver 1 .separator with keyAllowed := true }

/-- Begin an entry of a block sequence. -/
def beginEntry (s : Layout) : Except Failure Layout := do
  if s.inBlock && !s.keyAllowed then throw .malformed
  let s := if s.inBlock then s.openBlock .blockSequenceStart else s
  let s ← s.forgetPlace
  return { s.emitOver 1 .entry with keyAllowed := true }

/-- Begin a key that is marked as one. -/
def beginKey (s : Layout) : Except Failure Layout := do
  if s.inBlock && !s.keyAllowed then throw .malformed
  let s := if s.inBlock then s.openBlock .blockMappingStart else s
  let s ← s.forgetPlace
  return { s.emitOver 1 .key with keyAllowed := s.inBlock }

/-- Begin a value.  If a key may have begun before, it did. -/
def beginValue (s : Layout) : Except Failure Layout :=
  match s.places.lookup s.depth with
  | some p =>
      let opens := s.inBlock && s.indent < p.column
      let marks : List Token := if opens then [.blockMappingStart, .key] else [.key]
      let s := { s with
        places := s.places.filter fun e => e.1 != s.depth
        tokens := s.tokens.take p.position ++ marks ++ s.tokens.drop p.position
        keyAllowed := false }
      let s := if opens then { s with indent := p.column, outer := s.indent :: s.outer } else s
      .ok (s.emitOver 1 .value)
  | none => do
      if s.inBlock && !s.keyAllowed then throw .malformed
      let s := if s.inBlock then s.openBlock .blockMappingStart else s
      let s ← s.forgetPlace
      return { s.emitOver 1 .value with keyAllowed := s.inBlock }

/-- Close all blocks before a token that belongs to no block. -/
def leaveBlocks (s : Layout) : Except Failure Layout := do
  let s ← (s.unwind (-1)).forgetPlace
  return { s with keyAllowed := false }

/-- Begin or end a document. -/
def markDocument (s : Layout) (t : Token) : Except Failure Layout := do
  return (← s.leaveBlocks).emitOver 3 t

/-! ### Directives, anchors, declarations -/

/-- Whether a directive is well formed: it has a name, and a version must be `1` with a second
number and nothing but a comment behind it. -/
def isDirective (line : List Char) : Bool :=
  let name := line.takeWhile fun c => c.isAlphanum || c == '-' || c == '_'
  let rest := line.drop name.length
  if name.isEmpty || !atGap rest then false
  else if name == "YAML".toList then
    let version := rest.dropWhile (· == ' ')
    let minor := (version.drop 2).takeWhile Char.isDigit
    let comment := (version.drop (2 + minor.length)).dropWhile (· == ' ')
    version.take 2 == "1.".toList && !minor.isEmpty && atGap (version.drop (2 + minor.length)) &&
      (comment.isEmpty || comment.head? == some '#')
  else true

/-- Read a directive. -/
def readDirective (s : Layout) : Except Failure Layout := do
  let s ← s.leaveBlocks
  let line := s.cursor.rest.takeWhile fun c => !endsLine [c]
  if isDirective (line.drop 1) then return s.emitOver line.length .directive
  else throw .malformed

/-- Whether a character may stand in the name of an anchor. -/
def isNameCharacter (c : Char) : Bool :=
  !isFlowIndicator c && c != '\ufeff' && !isBreak c && (0x21 ≤ c.toNat && c.toNat ≤ 0x7e ||
    0xa0 ≤ c.toNat)

/-- Whether the name of an anchor may end before a text. -/
def endsName : List Char → Bool
  | [] => true
  | c :: _ => isBlank c || isBreak c || "?:,[]\x7b\x7d%@".toList.contains c || c == '\x60'

/-- Read an anchor or a reference to one. -/
def readName (s : Layout) (make : List Char → Token) : Except Failure Layout := do
  let s ← s.keepPlace
  let name := s.cursor.next.rest.takeWhile isNameCharacter
  if name.isEmpty || !endsName (s.cursor.next.rest.drop name.length) then throw .malformed
  return { s.emitOver (name.length + 1) (make name) with keyAllowed := false }

/-- Whether a character may stand in a declaration. -/
def isUriCharacter (c : Char) : Bool :=
  c.isAlphanum || "-;/?:@&=+$,_.!~*'()[]%".toList.contains c

/-- What a declaration behind its exclamation mark means. -/
def declarationOf? : List Char → Option Declaration
  | [] => some .plain
  | '<' :: rest =>
      let uri := rest.takeWhile (· != '>')
      if uri.isEmpty || rest.drop uri.length != ['>'] || !uri.all isUriCharacter then none
      else if "tag:yaml.org,2002:".toList.isPrefixOf uri then
        some (.standard (String.ofList (uri.drop 18)))
      else if uri == ['!'] then some .plain else some .other
  | '!' :: name =>
      if name.isEmpty || !name.all isUriCharacter then none
      else some (.standard (String.ofList name))
  -- no handles but the two that are always there are declared
  | name => if name.contains '!' || !name.all isUriCharacter then none else some .other

/-- Read a declaration, which ends at a space or a line end. -/
def readDeclaration (s : Layout) : Except Failure Layout := do
  let s ← s.keepPlace
  let text := s.cursor.next.rest.takeWhile fun c => c != ' ' && !isBreak c
  match declarationOf? text with
  | some d => return { s.emitOver (text.length + 1) (.declaration d) with keyAllowed := false }
  | none => throw .malformed

/-! ### Scalars -/

/-- Read a scalar in quotes. -/
def readQuotedScalar (s : Layout) (quote : Char) : Except Failure Layout := do
  let s ← s.keepPlace
  let (text, cursor) ← readQuoted quote s.cursor
  return { s.emit (.scalar false text) with cursor, keyAllowed := false }

/-- Read a plain scalar. -/
def readPlainScalar (s : Layout) : Except Failure Layout := do
  let s ← s.keepPlace
  let p := readPlain (!s.inBlock) s.indent s.cursor
  return { s.emit (.scalar true p.text) with cursor := p.stop, keyAllowed := p.broken }

/-- Read a block scalar; a key may follow it. -/
def readBlockScalar (s : Layout) (folds : Bool) : Except Failure Layout := do
  let s ← s.forgetPlace
  let (text, cursor) ← readBlock folds s.indent s.cursor.next
  return { s.emit (.scalar false text) with cursor, keyAllowed := true }

/-! ### Steps -/

/-- Whether a colon at the cursor begins a value.  Inside square brackets, and in curly ones behind
the colon of a value whose key is not settled, it does so only before a gap. -/
def isValueMark (s : Layout) (unsettled : Bool) : Bool :=
  match s.brackets with
  | [] => s.cursor.atIndicator ':'
  | .square :: _ => s.cursor.atIndicator ':'
  | .curly :: _ =>
      s.cursor.atIndicator ':' || !(unsettled && s.tokens.getLast? == some .value)

/-- Read the token at the cursor. -/
def readToken (s : Layout) (unsettled : Bool) : Except Failure Layout :=
  let c := s.cursor
  match c.rest with
  | [] => do return (← s.leaveBlocks).emit .streamEnd
  | d :: _ =>
      if d == '%' && c.column = 0 then s.readDirective
      else if c.column = 0 && c.marks "---".toList then s.markDocument .documentStart
      else if c.column = 0 && c.marks "...".toList then s.markDocument .documentEnd
      else if d == '[' then s.openBracket .square .flowSequenceStart
      else if d == '\x7b' then s.openBracket .curly .flowMappingStart
      else if d == ']' then s.closeBracket .flowSequenceEnd
      else if d == '\x7d' then s.closeBracket .flowMappingEnd
      else if d == ',' then s.separate
      else if c.atIndicator '-' then s.beginEntry
      else if d == '?' && (!s.inBlock || c.atIndicator '?') then s.beginKey
      else if d == ':' && s.isValueMark unsettled then s.beginValue
      else if d == '*' then s.readName .reference
      else if d == '&' then s.readName .anchor
      else if d == '!' then s.readDeclaration
      else if d == '|' && s.inBlock then s.readBlockScalar false
      else if d == '>' && s.inBlock then s.readBlockScalar true
      else if d == '\'' || d == '"' then s.readQuotedScalar d
      else if startsPlain (!s.inBlock) c.rest then s.readPlainScalar
      else .error .malformed

/-- Read one token. -/
def step (s : Layout) : Except Failure Layout := do
  let s ← s.dropPlaces
  let unsettled := !s.places.isEmpty
  let s ← s.skipGap.dropPlaces
  (s.unwind s.cursor.column).readToken unsettled

/-- Read tokens up to the end of the text. -/
def finish : Nat → Layout → Except Failure (List Token)
  | 0, s => .ok s.tokens
  | fuel + 1, s => do
      let s ← s.step
      if s.tokens.getLast? == some .streamEnd then return s.tokens else finish fuel s

end Layout

/-- The tokens of a text; the last of them marks its end. -/
def readTokens (text : List Char) : Except Failure (List Token) :=
  Layout.finish (text.length + 1) { cursor := { rest := text } }

end TemplateEngine.Yaml
