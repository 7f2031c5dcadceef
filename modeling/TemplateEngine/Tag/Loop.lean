/-
**Loops: `for`, `tablerow`.**

A loop has a variable, a collection and a body; attributes may stand anywhere among them, and of
several attributes with one name the last counts.  The items are fixed before the first turn.
**Signals from the body end here**: `break` ends the loop, `continue` the turn, and the text
written before the signal stays.

Main definitions:

* `window` — offset, limit and direction;
* `collectItems` — the items of a loop;
* `forTag`, `tablerowTag` — the loops.
-/
import TemplateEngine.Render

set_option autoImplicit false

namespace TemplateEngine.Tags

/-! ### Attributes and items -/

/-- The renders of attributes, by name. -/
abbrev Attributes := Table String (Render Value)

/-- The parts that are no attributes, in order. -/
def positional (parts : List Part) : List Part := parts.filter (!·.isAttribute)

/-- The attributes; of several with one name the last counts. -/
def attributes (parts : List Part) : Attributes :=
  Table.ofList <| parts.filterMap fun
    | .attribute name r => some (name, r)
    | _ => none

/-- Drop items at the start, keep a number of them, and turn them around. -/
def window {α : Type} (offset? limit? : Option Int) (reversed : Bool) (items : List α) : List α :=
  let items := match offset? with
    | some n => items.drop n.toNat
    | none => items
  let items := match limit? with
    | some n => items.take n.toNat
    | none => items
  if reversed then items.reverse else items

/-- The value of an attribute as an integer. -/
def integerAttribute (attributes : Attributes) (name : String) : Render (Option Int) :=
  match attributes.find? name with
  | none => pure none
  | some r => do
      let v ← r
      let n ← Render.integer v
      return some n

/-- Whether an attribute is there and neither nothing, nor zero, nor empty. -/
def flagAttribute (attributes : Attributes) (name : String) : Render Bool :=
  match attributes.find? name with
  | none => pure false
  | some r => do
      let v ← r
      return v.isFilled

/-- The items of a collection, with `offset`, `limit` and `reversed` applied in this order. -/
def collectItems (collection : Part) (attributes : Attributes) : Render (List Value) := do
  let v ← collection.run
  let items ← Render.liftFault v.listed
  let offset? ← integerAttribute attributes "offset"
  let limit? ← integerAttribute attributes "limit"
  let reversed ← flagAttribute attributes "reversed"
  return window offset? limit? reversed items

/-! ### Turns -/

/-- The text of one turn, and whether the loop ends with it. -/
def runBody (body : Part) : Render (String × Bool) := do
  let v ← body.run
  let (text, signal?) ← Render.split v
  return (text, signal? = some .break)

/-- What a body can read about its turn: the name of the variable, the number of turns, and its
place among them. -/
def turnFields (name : String) (index length : Nat) : List (Value × Value) :=
  [(.str "name", .str name),
    (.str "length", .int length),
    (.str "index", .int (index + 1)),
    (.str "index0", .int index),
    (.str "rindex", .int (length - index)),
    (.str "rindex0", .int (length - index - 1)),
    (.str "first", .bool (index = 0)),
    (.str "last", .bool (index + 1 = length))]

/-- The turns of a `for` loop from turn `index` on. -/
def forTurns (name : String) (length : Nat) (body : Part) : Nat → List Value → Render String
  | _, [] => pure ""
  | index, item :: rest => do
      Render.bindLocal name item
      Render.bindLocal "forloop" (.map (turnFields name index length))
      let (text, stop) ← runBody body
      if stop then return text
      else
        let others ← forTurns name length body (index + 1) rest
        return text ++ others

/-- The `for` tag. -/
def forTag (parts : List Part) : Render Value :=
  match positional parts with
  | binder :: collection :: body :: _ => do
      let name ← binder.text
      let items ← collectItems collection (attributes parts)
      let text ← Render.inScope ∅ (forTurns name items.length body 0 items)
      return .str text
  | _ => throw .incompleteLoop

/-! ### Table rows -/

/-- A natural number as a text. -/
def numberText (n : Nat) : String := String.ofList (Nat.toDigits 10 n)

/-- The place of a turn in a table of `cols` columns. -/
def cellFields (cols col row : Nat) : List (Value × Value) :=
  [(.str "col", .int col),
    (.str "col0", .int ((col : Int) - 1)),
    (.str "col_first", .bool (col = 1)),
    (.str "col_last", .bool (col = cols)),
    (.str "row", .int row)]

/-- The turns of a `tablerow` loop from turn `index` on, in column `col` of row `row`. -/
def rowTurns (name : String) (length cols : Nat) (body : Part) :
    Nat → Nat → Nat → List Value → Render String
  | _, _, _, [] => pure ""
  | index, row, col, item :: rest => do
      Render.bindLocal name item
      Render.bindLocal "tablerowloop"
        (.map (turnFields name index length ++ cellFields cols col row))
      let (text, stop) ← runBody body
      let cell := "<td class=\"col" ++ numberText col ++ "\">" ++ text ++ "</td>"
      if stop then return cell
      else if col = cols ∧ index + 1 ≠ length then
        let others ← rowTurns name length cols body (index + 1) (row + 1) 1 rest
        return cell ++ "</tr>\n<tr class=\"row" ++ numberText (row + 1) ++ "\">" ++ others
      else
        let others ← rowTurns name length cols body (index + 1) row (col + 1) rest
        return cell ++ others

/-- The number of columns: what is asked for, if that is positive, else one for each item. -/
def columnCount (cols? : Option Int) (length : Nat) : Nat :=
  match cols? with
  | some n => if 0 < n then n.toNat else max length 1
  | none => max length 1

/-- The `tablerow` tag. -/
def tablerowTag (parts : List Part) : Render Value :=
  match positional parts with
  | binder :: collection :: body :: _ => do
      let name ← binder.text
      let items ← collectItems collection (attributes parts)
      let cols? ← integerAttribute (attributes parts) "cols"
      let cols := columnCount cols? items.length
      let text ← Render.inScope ∅ (rowTurns name items.length cols body 0 1 1 items)
      return .str ("<tr class=\"row1\">\n" ++ text ++ "</tr>\n")
  | _ => throw .incompleteLoop

end TemplateEngine.Tags
