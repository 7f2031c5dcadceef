/-
**Escaping for HTML.**

Five characters have a meaning of their own in HTML and are written as entities.  Escaping once
more must not touch the entities that are there already: an ampersand that begins one is kept.

Main definitions:

* `escape` — every one of the five characters becomes its entity;
* `escapeOnce` — the same, but entities are left alone;
* `startsEntity` — whether an entity follows an ampersand: a name, or a number in decimal or
  hexadecimal digits, and a semicolon.
-/
import TemplateEngine.Text.Digit

set_option autoImplicit false

namespace TemplateEngine.Html

/-! ### Entities -/

/-- The text of a character in HTML. -/
def escapeChar : Char → List Char
  | '&' => "&amp;".toList
  | '<' => "&lt;".toList
  | '>' => "&gt;".toList
  | '"' => "&quot;".toList
  | '\'' => "&#39;".toList
  | c => [c]

/-- Whether a text begins with one or more characters of a class and a semicolon. -/
def endsAfter (inClass : Char → Bool) (cs : List Char) : Bool :=
  let body := cs.takeWhile inClass
  !body.isEmpty && (cs.drop body.length).head? == some ';'

/-- Whether a character is a hexadecimal digit. -/
def isHexDigit (c : Char) : Bool :=
  c.isDigit || ('a' ≤ c && c ≤ 'f') || ('A' ≤ c && c ≤ 'F')

/-- Whether the text behind an ampersand completes an entity. -/
def startsEntity : List Char → Bool
  | '#' :: 'x' :: rest => endsAfter isHexDigit rest
  | '#' :: 'X' :: rest => endsAfter isHexDigit rest
  | '#' :: rest => endsAfter Text.isDecimalDigit rest
  | c :: rest => c.isAlpha && endsAfter Char.isAlphanum (c :: rest)
  | [] => false

/-! ### Escaping -/

/-- Write the five characters as entities. -/
def escape (cs : List Char) : List Char := cs.flatMap escapeChar

/-- Write the five characters as entities, except for ampersands that begin one. -/
def escapeOnce : List Char → List Char
  | [] => []
  | c :: rest =>
      if c = '&' ∧ startsEntity rest = true then c :: escapeOnce rest
      else escapeChar c ++ escapeOnce rest

end TemplateEngine.Html
