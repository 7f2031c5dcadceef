/-
**Quoted YAML scalars.**

In single quotes a quote is written twice and nothing else has a meaning of its own; in double
quotes a backslash begins an escape.  A line end becomes a space, empty lines become line ends,
and the blanks around line ends are dropped.  A document may not end inside quotes.

Main definitions:

* `readQuoted` — a scalar in quotes;
* `readEscape` — what stands behind a backslash.
-/
import TemplateEngine.Yaml.Cursor

set_option autoImplicit false

namespace TemplateEngine.Yaml

/-! ### Line ends -/

/-- The empty lines at the start of a line and the blanks behind them; `fuel` bounds the number
of lines. -/
def readBreaks : Nat → Cursor → Except Failure (List Char × Cursor)
  | 0, c => .ok ([], c)
  | fuel + 1, c =>
      if c.atMarker then .error .malformed
      else
        let d := c.skipWhile isBlank
        match d.rest with
        | b :: _ =>
            if isBreak b then do
              let (more, e) ← readBreaks fuel d.next
              return (breakOf b :: more, e)
            else return ([], d)
        | [] => return ([], d)

/-- The blanks and line ends at a cursor, and what they stand for. -/
def readGap (c : Cursor) : Except Failure (List Char × Cursor) :=
  let d := c.skipWhile isBlank
  match d.rest with
  | [] => .error .malformed
  | b :: _ =>
      if isBreak b then do
        let (more, e) ← readBreaks c.rest.length d.next
        -- a single line end is a space, unless it stands for itself
        let first := if breakOf b == '\n' then (if more.isEmpty then [' '] else []) else [b]
        return (first ++ more, e)
      else return (c.rest.takeWhile isBlank, d)

/-! ### Escapes -/

/-- The character of an escape of one letter. -/
def escapeOf? : Char → Option Char
  | '0' => some '\x00'
  | 'a' => some '\x07'
  | 'b' => some '\x08'
  | 't' => some '\t'
  | '\t' => some '\t'
  | 'n' => some '\n'
  | 'v' => some '\x0b'
  | 'f' => some '\x0c'
  | 'r' => some '\r'
  | 'e' => some '\x1b'
  | ' ' => some ' '
  | '"' => some '"'
  | '/' => some '/'
  | '\\' => some '\\'
  | 'N' => some '\x85'
  | '_' => some '\xa0'
  | 'L' => some '\u2028'
  | 'P' => some '\u2029'
  | _ => none

/-- The number of hexadecimal digits of an escape by code point. -/
def escapeWidth? : Char → Option Nat
  | 'x' => some 2
  | 'u' => some 4
  | 'U' => some 8
  | _ => none

/-- The value of a hexadecimal digit. -/
def hexValue? (c : Char) : Option Nat :=
  if c.isDigit then some (c.toNat - '0'.toNat)
  else if 'a' ≤ c ∧ c ≤ 'f' then some (c.toNat - 'a'.toNat + 10)
  else if 'A' ≤ c ∧ c ≤ 'F' then some (c.toNat - 'A'.toNat + 10)
  else none

/-- The number of a list of digits in a base. -/
def numberOf (base : Nat) (digits : List Nat) : Nat :=
  digits.foldl (fun n d => n * base + d) 0

/-- The character with a code point. -/
def characterOf (code : Nat) : Except Failure Char :=
  if code < 0x110000 then .ok (Char.ofNat code)
  else .error (.fault (if code < 0x80000000 then .noSuchCharacter else .beyondCodes))

/-- What an escape stands for; the cursor is behind its backslash. -/
def readEscape (c : Cursor) : Except Failure (List Char × Cursor) :=
  match c.rest with
  | [] => .error .malformed
  | e :: rest =>
      match escapeOf? e, escapeWidth? e with
      | some d, _ => .ok ([d], c.next)
      | none, some width =>
          match (rest.take width).mapM hexValue? with
          | some digits =>
              if digits.length = width then do
                let d ← characterOf (numberOf 16 digits)
                return ([d], c.skip (width + 1))
              else .error .malformed
          | none => .error .malformed
      | none, none =>
          -- a line end behind a backslash goes, empty lines behind it stay
          if isBreak e then readBreaks rest.length.succ c.next else .error .malformed

/-! ### Scalars -/

/-- Read on inside quotes; `written` is the text so far, its last character first. -/
def readQuotedFrom (quote : Char) : Nat → List Char → Cursor → Except Failure (List Char × Cursor)
  | 0, _, _ => .error .malformed
  | fuel + 1, written, c =>
      match c.rest with
      | [] => .error .malformed
      | d :: rest =>
          if d == quote then
            if quote == '\'' && rest.head? == some '\'' then
              readQuotedFrom quote fuel ('\'' :: written) (c.skip 2)
            else .ok (written.reverse, c.next)
          else if d == '\\' && quote == '"' then do
            let (text, e) ← readEscape c.next
            readQuotedFrom quote fuel (text.reverse ++ written) e
          else if isBlank d || isBreak d then do
            let (text, e) ← readGap c
            readQuotedFrom quote fuel (text.reverse ++ written) e
          else readQuotedFrom quote fuel (d :: written) c.next

/-- The text of a scalar in quotes, and the place behind it. -/
def readQuoted (quote : Char) (c : Cursor) : Except Failure (List Char × Cursor) :=
  readQuotedFrom quote (c.rest.length + 1) [] c.next

end TemplateEngine.Yaml
