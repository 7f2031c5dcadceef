/-
**Filters on texts.**

Each of them reads the rendered text of its value and parameters.  Case is that of Unicode;
lengths count characters.
-/
import TemplateEngine.Filter.Operation
import TemplateEngine.Html.Escape
import TemplateEngine.Html.Strip
import TemplateEngine.Text.Blank
import TemplateEngine.Text.Case
import TemplateEngine.Value.Number

set_option autoImplicit false

namespace TemplateEngine.TextFilter

/-! ### Bodies over the text of a value -/

/-- A body that maps the text of its value. -/
def onText (f : List Char → List Char) (v : Value) : Except Failure Value := do
  let s ← v.text
  return .str (String.ofList (f s.toList))

/-- A body that maps the texts of its value and of a parameter. -/
def onTexts (f : List Char → List Char → List Char) (v p : Value) : Except Failure Value := do
  let s ← v.text
  let t ← p.text
  return .str (String.ofList (f s.toList t.toList))

/-- A body that replaces one piece by another. -/
def replacing (f : List Char → List Char → List Char → List Char) (v piece replacement : Value) :
    Except Failure Value := do
  let s ← v.text
  let p ← piece.text
  let r ← replacement.text
  return .str (String.ofList (f p.toList r.toList s.toList))

/-! ### The texts -/

/-- The text with its first character in upper case. -/
def capitalize : List Char → List Char
  | [] => []
  | c :: rest => Text.upperOf c ++ rest

/-- The text without line ends. -/
def stripNewlines (cs : List Char) : List Char := cs.filter fun c => c != '\r' && c != '\n'

/-- The parts of a text: its characters if the separator is empty.  **Empty parts at the end are
dropped.** -/
def split (separator cs : List Char) : List (List Char) :=
  let parts := if separator.isEmpty then cs.map ([·]) else Text.splitOn separator cs
  (parts.reverse.dropWhile List.isEmpty).reverse

/-- A text of at most `length` characters, the ellipsis included; a text that is short enough is
left alone. -/
def truncate (length : Int) (ellipsis cs : List Char) : List Char :=
  if (cs.length : Int) ≤ length then cs
  else cs.take (length - ellipsis.length).toNat ++ ellipsis

/-- The first `count` words, and one at least, with the ellipsis behind them; a text of no more
words is left alone. -/
def truncateWords (count : Int) (ellipsis cs : List Char) : List Char :=
  let words := Text.words cs
  if (words.length : Int) ≤ count then cs
  else Text.joinWith [' '] (words.take (max count 1).toNat) ++ ellipsis

/-- The length that a text is cut to if none is given. -/
def defaultLength : Int := 50

/-- The number of words that a text is cut to if none is given. -/
def defaultWords : Int := 15

/-- The ellipsis if none is given. -/
def defaultEllipsis : String := "..."

/-- A body that cuts a text to a size. -/
def cutting (f : Int → List Char → List Char → List Char) (defaultSize : Int) (v : Value)
    (size? ellipsis? : Option Value) : Except Failure Value := do
  let s ← v.text
  let size ← match size? with
    | some p => p.integer
    | none => pure defaultSize
  let ellipsis ← match ellipsis? with
    | some p => p.text
    | none => pure defaultEllipsis
  return .str (String.ofList (f size ellipsis.toList s.toList))

/-- A body that splits a text. -/
def splitting (v separator : Value) : Except Failure Value := do
  let s ← v.text
  let p ← separator.text
  return .list ((split p.toList s.toList).map fun part => .str (String.ofList part))

end TemplateEngine.TextFilter
