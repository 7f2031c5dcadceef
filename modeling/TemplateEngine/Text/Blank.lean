/-
**Blank characters, and words between them.**

A character is blank when it separates words: the Unicode white space, and the four separators
U+001C to U+001F.  `trim` cuts blanks off both ends of a text and `words` cuts a text at every
run of blanks, so that no word is empty.

Main definitions and results:

* `isBlank` — the class;
* `trim`, `words` — texts without blanks around them;
* `isBlank_of_isWhitespace` — the class holds every ASCII white space.
-/
import TemplateEngine.Text.CharRanges

set_option autoImplicit false

namespace TemplateEngine.Text

/-! ### The class -/

/-- The blank code points. -/
def blankRanges : CharRanges :=
  [(0x9, 0xd), (0x1c, 0x20), (0x85, 0x85), (0xa0, 0xa0), (0x1680, 0x1680), (0x2000, 0x200a),
   (0x2028, 0x2029), (0x202f, 0x202f), (0x205f, 0x205f), (0x3000, 0x3000)]

/-- Whether `c` separates words. -/
def isBlank (c : Char) : Bool := blankRanges.contains c

/-- Every ASCII white space is blank. -/
theorem isBlank_of_isWhitespace {c : Char} (h : c.isWhitespace = true) : isBlank c = true := by
  simp only [Char.isWhitespace, Bool.or_eq_true, decide_eq_true_eq] at h
  rcases h with ((h | h) | h) | h <;> subst h <;> decide

/-! ### Trimming and words -/

/-- The text without the blanks at its start. -/
def trimStart (cs : List Char) : List Char := cs.dropWhile isBlank

/-- The text without the blanks at its end. -/
def trimEnd (cs : List Char) : List Char := (trimStart cs.reverse).reverse

/-- The text without the blanks around it. -/
def trim (cs : List Char) : List Char := trimEnd (trimStart cs)

/-- Cut at every run of blanks; `word` is the word being read, last character first. -/
def wordsFrom (word : List Char) : List Char → List (List Char)
  | [] => if word.isEmpty then [] else [word.reverse]
  | c :: rest =>
      if isBlank c then
        if word.isEmpty then wordsFrom [] rest else word.reverse :: wordsFrom [] rest
      else wordsFrom (c :: word) rest

/-- The maximal runs of characters that are not blank. -/
def words (cs : List Char) : List (List Char) := wordsFrom [] cs

end TemplateEngine.Text
