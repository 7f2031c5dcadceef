/-
**Values.**

The values that variables hold, filters take and nodes give.  A map lists its entries in order
of arrival; its keys are values, and two keys that are equal as values are one key.

Main definitions:

* `Value`, `Signal` — the types;
* `Value.kind` — the kind that messages name;
* `Value.isTruthy` — truth in templates: **only nil and false are false**;
* `Value.isFilled` — neither nothing, nor zero, nor empty;
* `Value.toList`, `Value.listed` — the items of a value, and the same unless they are too many.
-/
import TemplateEngine.Calendar.Moment
import TemplateEngine.Value.Kind

set_option autoImplicit false

namespace TemplateEngine

/-- The two ways to leave the body of a loop early. -/
inductive Signal where
  | break
  | continue
  deriving DecidableEq, Repr

/-- The word for a signal in a template. -/
def Signal.keyword : Signal → String
  | .break => "break"
  | .continue => "continue"

/-- What variables hold and nodes give. -/
inductive Value where
  | nil
  | bool (b : Bool)
  | int (n : Int)
  | float (x : Float)
  | str (s : String)
  | list (items : List Value)
  | tuple (items : List Value)
  | map (entries : List (Value × Value))
  /-- The integers from `start` to below `stop`. -/
  | range (start stop : Int)
  | date (d : Date)
  | moment (m : Moment)
  /-- A signal on its way to the loop that it leaves. -/
  | signal (s : Signal)
  /-- A signal together with the text that was written before it. -/
  | interrupted (text : String) (s : Signal)

instance : Inhabited Value := ⟨.nil⟩

namespace Value

/-- The kind of a value. -/
def kind : Value → Kind
  | .nil => .nil
  | .bool _ => .bool
  | .int _ => .int
  | .float _ => .float
  | .str _ => .str
  | .list _ => .list
  | .tuple _ => .tuple
  | .map _ => .map
  | .range _ _ => .range
  | .date _ => .date
  | .moment _ => .moment
  | .signal _ => .signal
  | .interrupted _ _ => .interrupted

/-- Truth in templates. -/
def isTruthy : Value → Bool
  | .nil => false
  | .bool b => b
  | _ => true

/-- Whether a value is neither nothing, nor zero, nor empty. -/
def isFilled : Value → Bool
  | .nil => false
  | .bool b => b
  | .int n => n != 0
  | .float x => x != 0
  | .str s => !s.isEmpty
  | .list items => !items.isEmpty
  | .tuple items => !items.isEmpty
  | .map entries => !entries.isEmpty
  | .range start stop => start < stop
  | _ => true

/-- Whether a value carries a signal. -/
def isSignal : Value → Bool
  | .signal _ => true
  | .interrupted _ _ => true
  | _ => false

/-- The integers from `start` to below `stop`. -/
def intsFrom (start stop : Int) : List Value :=
  (List.range (stop - start).toNat).map fun (i : Nat) => .int (start + (i : Int))

/-- The greatest number of integers that is counted, `2⁶³ - 1`. -/
def countLimit : Nat := 9223372036854775807

/-- The greatest number of items that a list has room for, `2³⁶`. -/
def roomLimit : Nat := 68719476736

/-- How many integers there are from `start` to below `stop`. -/
def rangeSize (start stop : Int) : Except Fault Nat :=
  let n := (stop - start).toNat
  if n ≤ countLimit then .ok n else .error .uncounted

/-- The list of the integers from `start` to below `stop`. -/
def rangeItems (start stop : Int) : Except Fault (List Value) := do
  let n ← rangeSize start stop
  if n ≤ roomLimit then return intsFrom start stop else throw .noRoom

/-- The items of a value as a list: a map gives its entries as pairs, nil gives nothing, and
anything that is no collection gives itself. -/
def toList : Value → List Value
  | .nil => []
  | .list items => items
  | .tuple items => items
  | .range start stop => intsFrom start stop
  | .map entries => entries.map fun e => .list [e.1, e.2]
  | v => [v]

/-- The items of a value as a list, if there is room for them. -/
def listed (v : Value) : Except Fault (List Value) :=
  match v with
  | .range start stop => rangeItems start stop
  | v => .ok v.toList

end Value

end TemplateEngine
