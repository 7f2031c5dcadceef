/-
**The standard filters.**

The 29 filters that every registry starts with: their names, and what they do.

Main definitions:

* `StandardFilter` — the filters, `StandardFilter.all` in order of name;
* `StandardFilter.operation` — what a filter does, given the current moment.
-/
import TemplateEngine.Filter.Collection
import TemplateEngine.Filter.Date
import TemplateEngine.Filter.Number
import TemplateEngine.Filter.Text

set_option autoImplicit false

namespace TemplateEngine

/-- The standard filters. -/
inductive StandardFilter where
  | append | capitalize | date | dividedBy | downcase | escape | escapeOnce | first | h | join
  | last | map | minus | modulo | plus | prepend | remove | removeFirst | replace | replaceFirst
  | size | sort | split | stripHtml | stripNewlines | times | truncate | truncatewords | upcase
  deriving DecidableEq, Repr

namespace StandardFilter

/-- All standard filters, in order of name. -/
def all : List StandardFilter :=
  [append, capitalize, date, dividedBy, downcase, escape, escapeOnce, first, h, join, last, map,
    minus, modulo, plus, prepend, remove, removeFirst, replace, replaceFirst, size, sort, split,
    stripHtml, stripNewlines, times, truncate, truncatewords, upcase]

/-- The name that a filter is registered under. -/
def name : StandardFilter → String
  | append => "append"
  | capitalize => "capitalize"
  | date => "date"
  | dividedBy => "divided_by"
  | downcase => "downcase"
  | escape => "escape"
  | escapeOnce => "escape_once"
  | first => "first"
  | h => "h"
  | join => "join"
  | last => "last"
  | map => "map"
  | minus => "minus"
  | modulo => "modulo"
  | plus => "plus"
  | prepend => "prepend"
  | remove => "remove"
  | removeFirst => "remove_first"
  | replace => "replace"
  | replaceFirst => "replace_first"
  | size => "size"
  | sort => "sort"
  | split => "split"
  | stripHtml => "strip_html"
  | stripNewlines => "strip_newlines"
  | times => "times"
  | truncate => "truncate"
  | truncatewords => "truncatewords"
  | upcase => "upcase"

/-- The title of a filter: its name in capitalized words without gaps. -/
def title : StandardFilter → String
  | append => "Append"
  | capitalize => "Capitalize"
  | date => "Date"
  | dividedBy => "DividedBy"
  | downcase => "Downcase"
  | escape => "Escape"
  | escapeOnce => "EscapeOnce"
  | first => "First"
  | h => "H"
  | join => "Join"
  | last => "Last"
  | map => "Map"
  | minus => "Minus"
  | modulo => "Modulo"
  | plus => "Plus"
  | prepend => "Prepend"
  | remove => "Remove"
  | removeFirst => "RemoveFirst"
  | replace => "Replace"
  | replaceFirst => "ReplaceFirst"
  | size => "Size"
  | sort => "Sort"
  | split => "Split"
  | stripHtml => "StripHtml"
  | stripNewlines => "StripNewlines"
  | times => "Times"
  | truncate => "Truncate"
  | truncatewords => "Truncatewords"
  | upcase => "Upcase"

open TextFilter NumberFilter CollectionFilter in
/-- What a filter does. -/
def operation (now : Moment) : StandardFilter → Operation
  | append => .unary (onTexts fun s t => s ++ t)
  | prepend => .unary (onTexts fun s t => t ++ s)
  | capitalize => .plain (onText TextFilter.capitalize)
  | downcase => .plain (onText Text.lower)
  | upcase => .plain (onText Text.upper)
  | remove => .unary (onTexts fun s t => Text.replaceAll t [] s)
  | removeFirst => .unary (onTexts fun s t => Text.replaceFirst t [] s)
  | replace => .binary (replacing Text.replaceAll)
  | replaceFirst => .binary (replacing Text.replaceFirst)
  | split => .unary splitting
  | stripNewlines => .plain (onText TextFilter.stripNewlines)
  | truncate => .optional₂ (cutting TextFilter.truncate defaultLength)
  | truncatewords => .optional₂ (cutting TextFilter.truncateWords defaultWords)
  | escape => .plain (onText Html.escape)
  | h => .plain (onText Html.escape)
  | escapeOnce => .plain (onText Html.escapeOnce)
  | stripHtml => .plain (onText Html.strip)
  | plus => .unary (combining Number.add)
  | minus => .unary (combining Number.sub)
  | times => .unary (combining Number.mul)
  | dividedBy => .unary (dividing Number.div)
  | modulo => .unary (dividing Number.mod)
  | first => .plain fun v => CollectionFilter.first v
  | last => .plain fun v => CollectionFilter.last v
  | size => .plain fun v => do return .int (← CollectionFilter.size v)
  | join => .optional joining
  | map => .unary mapping
  | sort => .optional sorting
  | date => .unary (DateFilter.dating now)

end StandardFilter

end TemplateEngine
