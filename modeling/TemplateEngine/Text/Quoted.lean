/-
**Quoted texts.**

The quoted form of a text stands in messages and inside printed collections.  It takes single
quotes unless the text holds a single quote and no double one; the quote in use and the
backslash are escaped by a backslash, line ends and tabs by their letters, and every other
character that is not printable by its code point in two, four or eight hexadecimal digits.
-/
import TemplateEngine.Text.Printable

set_option autoImplicit false

namespace TemplateEngine.Text

/-- The `width` lowest hexadecimal digits of `n`. -/
def hexDigits (n : Nat) : Nat → List Char
  | 0 => []
  | width + 1 => hexDigits (n / 16) width ++ [Nat.digitChar (n % 16)]

/-- A code point spelled out, in the shortest of the three lengths that holds it. -/
def codePointEscape (n : Nat) : List Char :=
  if n < 0x100 then ['\\', 'x'] ++ hexDigits n 2
  else if n < 0x10000 then ['\\', 'u'] ++ hexDigits n 4
  else ['\\', 'U'] ++ hexDigits n 8

/-- A character inside quotes of the kind `quote`. -/
def quotedChar (quote c : Char) : List Char :=
  if c = quote then ['\\', c]
  else match c with
    | '\\' => ['\\', '\\']
    | '\n' => ['\\', 'n']
    | '\r' => ['\\', 'r']
    | '\t' => ['\\', 't']
    | _ => if isPrintable c then [c] else codePointEscape c.toNat

/-- The quote that a text takes. -/
def quoteFor (cs : List Char) : Char :=
  if cs.contains '\'' && !cs.contains '"' then '"' else '\''

/-- The text in quotes. -/
def quoted (cs : List Char) : List Char :=
  let quote := quoteFor cs
  quote :: cs.flatMap (quotedChar quote) ++ [quote]

end TemplateEngine.Text
