/-
**Finding, cutting and replacing pieces of text.**

All searches go from left to right and never overlap: after a match the search goes on behind
it.  The empty piece matches before every character and at the end.

Main definitions:

* `occursIn` — whether a text contains a piece;
* `splitOn` — the parts between the matches of a piece;
* `replaceAll`, `replaceFirst` — the text with a piece replaced;
* `joinWith` — parts with a glue between them.
-/

set_option autoImplicit false

namespace TemplateEngine.Text

/-- Whether `piece` occurs in a text as consecutive characters. -/
def occursIn (piece : List Char) : List Char → Bool
  | [] => piece.isEmpty
  | c :: rest => piece.isPrefixOf (c :: rest) || occursIn piece rest

/-- Cut at the matches of `piece`.  `part` is the part being read, last character first, and
`skip` counts the characters of the current match still to be passed over. -/
def splitFrom (piece part : List Char) : Nat → List Char → List (List Char)
  | _, [] => [part.reverse]
  | skip + 1, _ :: rest => splitFrom piece part skip rest
  | 0, c :: rest =>
      if piece.isPrefixOf (c :: rest) then
        part.reverse :: splitFrom piece [] (piece.length - 1) rest
      else splitFrom piece (c :: part) 0 rest

/-- The parts of a text between the matches of a piece that is not empty. -/
def splitOn (piece cs : List Char) : List (List Char) := splitFrom piece [] 0 cs

/-- The parts in a row with `glue` between neighbours. -/
def joinWith (glue : List Char) : List (List Char) → List Char
  | [] => []
  | [part] => part
  | part :: rest => part ++ glue ++ joinWith glue rest

/-- Replace every match of `piece`; the empty piece stands around every character. -/
def replaceAll (piece replacement cs : List Char) : List Char :=
  if piece.isEmpty then replacement ++ cs.flatMap (· :: replacement)
  else joinWith replacement (splitOn piece cs)

/-- Replace the first match of `piece`. -/
def replaceFirst (piece replacement : List Char) : List Char → List Char
  | [] => if piece.isEmpty then replacement else []
  | c :: rest =>
      if piece.isPrefixOf (c :: rest) then replacement ++ (c :: rest).drop piece.length
      else c :: replaceFirst piece replacement rest

/-- Joining without glue puts the parts end to end. -/
theorem joinWith_nil (parts : List (List Char)) : joinWith [] parts = parts.flatten := by
  induction parts with
  | nil => rfl
  | cons part rest ih =>
      cases rest with
      | nil => simp [joinWith]
      | cons q rest => simp [joinWith, ih]

end TemplateEngine.Text
