/-
**Parts of values.**

A path leads from a value to its parts: entries of a map by key, items of a list, tuple or text
by number (negative numbers count from the end), and the properties `size`, `first` and `last`.
A step that leads nowhere gives nil.

Main definitions:

* `Value.step` — one step of a path;
* `Value.contains` — whether a value holds another one.
-/
import TemplateEngine.Value.Equality
import TemplateEngine.Value.Text

set_option autoImplicit false

namespace TemplateEngine

namespace Value

/-- The integer that a key is: booleans are 0 and 1. -/
def index? : Value → Option Int
  | .bool b => some (if b then 1 else 0)
  | .int n => some n
  | _ => none

/-- Such an integer is what the key is in a comparison of numbers. -/
theorem numeric?_of_index? {v : Value} {n : Int} (h : v.index? = some n) :
    v.numeric? = some (.int n) := by
  cases v <;> simp_all [index?, numeric?]

/-- The item with a number; negative numbers count from the end. -/
def itemAt {α : Type} (items : List α) (i : Int) : Option α :=
  if 0 ≤ i then items[i.toNat]?
  else if -(items.length : Int) ≤ i then items[(items.length + i).toNat]? else none

/-- The named properties of a sequence or a map of `size` items. -/
def namedProperty (size : Nat) (first? last? : Option Value) (key : Value) : Value :=
  match key with
  | .str "size" => .int size
  | .str "first" => first?.getD .nil
  | .str "last" => last?.getD .nil
  | _ => .nil

/-- The part of a list or tuple that a key names. -/
def sequenceStep (items : List Value) (key : Value) : Value :=
  match key.index? with
  | some i => (itemAt items i).getD .nil
  | none => namedProperty items.length items.head? items.getLast? key

/-- The part of a value that a key names, nil if it names none. -/
def step (target key : Value) : Except Mismatch Value :=
  match target with
  | .map entries => do
      return (← keyed? entries key).getD (namedProperty entries.length none none key)
  | .list items => .ok (sequenceStep items key)
  | .tuple items => .ok (sequenceStep items key)
  | .str s =>
      match key.index? with
      | some i => .ok (((itemAt s.toList i).map fun c => .str (String.singleton c)).getD .nil)
      | none => .ok (namedProperty s.length none none key)
  | _ => .ok .nil

/-- Follow a path; nil leads to nil. -/
def follow : Value → List Value → Except Mismatch Value
  | v, [] => .ok v
  | .nil, _ :: _ => .ok .nil
  | v, key :: path => do follow (← v.step key) path

/-- Whether a value holds another one: a text the shown form of it, a list or tuple an equal
item, a map an equal key. -/
def contains (whole part : Value) : Except Fault Bool :=
  match whole with
  | .str s =>
      match part with
      | .nil => .ok false
      | v => do return Text.occursIn (← v.shownText).toList s.toList
  | .list items => .ok (items.any (same · part))
  | .tuple items => .ok (items.any (same · part))
  | .map entries => ((keyed? entries part).map (·.isSome)).mapError .mismatch
  | _ => .ok false

/-- The entry of a map under a key, nil for what is no map or has no such key. -/
def property (item key : Value) : Except Mismatch Value :=
  match item with
  | .map entries => do return (← keyed? entries key).getD .nil
  | _ => .ok .nil

end Value

end TemplateEngine
