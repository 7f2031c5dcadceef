/-
**Taking the markup out of HTML.**

First scripts, style sheets and comments go, with all that stands in them; then every tag.  What
is not closed stays.  The names of the blocks are read in either case, and the letters that fold
to `s` and `i` count as these.

Main definitions:

* `stripBlocks`, `stripTags` — the two phases;
* `strip` — one after the other;
* `removeMatches` — leftmost matches that do not overlap are removed.
-/

set_option autoImplicit false

namespace TemplateEngine.Html

/-! ### Removing matches -/

/-- Remove every match, from left to right.  `matchLength? cs` is the length of the match at the
start of `cs`, and `skip` counts the characters of the current match still to be passed over. -/
def removeMatches (matchLength? : List Char → Option Nat) : Nat → List Char → List Char
  | _, [] => []
  | skip + 1, _ :: rest => removeMatches matchLength? skip rest
  | 0, c :: rest =>
      match matchLength? (c :: rest) with
      | some n => removeMatches matchLength? (n - 1) rest
      | none => c :: removeMatches matchLength? 0 rest

/-- The length up to the end of the first match of a mark. -/
def lengthThrough (isMark : List Char → Bool) (markLength : Nat) : List Char → Option Nat
  | [] => none
  | c :: rest =>
      if isMark (c :: rest) then some markLength
      else (lengthThrough isMark markLength rest).map (· + 1)

/-! ### Blocks -/

/-- Whether `c` is the small letter `p` up to case. -/
def foldsTo (p c : Char) : Bool :=
  c == p || c == p.toUpper || (p == 's' && c == 'ſ') || (p == 'i' && (c == 'ı' || c == 'İ'))

/-- Whether a text begins with a mark, up to case. -/
def beginsWith : List Char → List Char → Bool
  | [], _ => true
  | _ :: _, [] => false
  | p :: ps, c :: cs => foldsTo p c && beginsWith ps cs

/-- The length of a block that opens and closes with two marks. -/
def blockLength? (opening closing cs : List Char) : Option Nat :=
  if beginsWith opening cs then
    (lengthThrough (beginsWith closing) closing.length (cs.drop opening.length)).map
      (· + opening.length)
  else none

/-- The blocks that go with all that stands in them: opening and closing marks. -/
def blocks : List (List Char × List Char) :=
  [("<script".toList, "</script>".toList), ("<style".toList, "</style>".toList),
    ("<!--".toList, "-->".toList)]

/-- The length of the block at the start of a text. -/
def anyBlockLength? (cs : List Char) : Option Nat :=
  blocks.findSome? fun b => blockLength? b.1 b.2 cs

/-- Remove scripts, style sheets and comments. -/
def stripBlocks (cs : List Char) : List Char := removeMatches anyBlockLength? 0 cs

/-! ### Tags -/

/-- The length of the tag at the start of a text. -/
def tagLength? : List Char → Option Nat
  | '<' :: rest => (lengthThrough (fun cs => cs.head? == some '>') 1 rest).map (· + 1)
  | _ => none

/-- Remove every tag. -/
def stripTags (cs : List Char) : List Char := removeMatches tagLength? 0 cs

/-- Remove all markup. -/
def strip (cs : List Char) : List Char := stripTags (stripBlocks cs)

end TemplateEngine.Html
