/-
**Filters on collections.**

`first`, `last` and `join` take lists, tuples and ranges for collections; `map` and `sort` take
the items of any value.  Sorting by a property puts the items without it behind all others, in
the order in which they stood.
-/
import TemplateEngine.Filter.Operation
import TemplateEngine.Value.Order
import TemplateEngine.Value.Property
import TemplateEngine.Value.Sort

set_option autoImplicit false

namespace TemplateEngine.CollectionFilter

/-- The items of a list, tuple or range. -/
def items? : Value → Option (List Value)
  | .list items => some items
  | .tuple items => some items
  | .range start stop => some (Value.intsFrom start stop)
  | _ => none

/-- The first item, nil if there is none.  A range is counted, and not gone through. -/
def first : Value → Except Fault Value
  | .list items => .ok (items.head?.getD .nil)
  | .tuple items => .ok (items.head?.getD .nil)
  | .range start stop => do
      let n ← Value.rangeSize start stop
      return if n = 0 then .nil else .int start
  | _ => .ok .nil

/-- The last item, nil if there is none.  A range is counted, and not gone through. -/
def last : Value → Except Fault Value
  | .list items => .ok (items.getLast?.getD .nil)
  | .tuple items => .ok (items.getLast?.getD .nil)
  | .range start stop => do
      let n ← Value.rangeSize start stop
      return if n = 0 then .nil else .int (stop - 1)
  | _ => .ok .nil

/-- The number of characters, items or entries; 0 for a value that has none. -/
def size : Value → Except Fault Nat
  | .str s => .ok s.length
  | .list items => .ok items.length
  | .tuple items => .ok items.length
  | .map entries => .ok entries.length
  | .range start stop => Value.rangeSize start stop
  | _ => .ok 0

/-- A body that joins the texts of the items, by a space if no glue is given. -/
def joining (v : Value) (glue? : Option Value) : Except Failure Value := do
  let glue ← match glue? with
    | some p => p.text
    | none => pure " "
  match items? v with
  | none => return .str (← v.text)
  | some items =>
      let parts ← items.mapM fun item => (item.text : Except Failure String)
      return .str (String.ofList (Text.joinWith glue.toList (parts.map String.toList)))

/-- A body that takes one property of every item. -/
def mapping (v key : Value) : Except Failure Value := do
  let items ← v.listed
  let properties ← items.mapM fun item => (item.property key : Except Failure Value)
  return .list properties

/-! ### Sorting -/

/-- Every item with its property. -/
def keyed (key : Value) (items : List Value) : Except Mismatch (List (Value × Value)) :=
  items.mapM fun item => return (← item.property key, item)

/-- Whether a property is missing. -/
def isMissing : Value → Bool
  | .nil => true
  | _ => false

/-- The items in order, by themselves or by a property. -/
def sorted (items : List Value) (key? : Option Value) : Except Mismatch (List Value) :=
  match key? with
  | none => Sorting.sort Value.less items
  | some key => do
      let pairs ← keyed key items
      let present := pairs.filter fun p => !isMissing p.1
      let missing := pairs.filter fun p => isMissing p.1
      return ((← Sorting.sortBy Value.less present) ++ missing).map (·.2)

/-- A body that sorts the items; it refuses items that cannot be compared. -/
def sorting (v : Value) (key? : Option Value) : Except Failure Value := do
  match sorted (← v.listed) key? with
  | .ok items => return .list items
  | .error m => throw (.refused ("cannot compare elements: " ++ m.message))

end TemplateEngine.CollectionFilter
