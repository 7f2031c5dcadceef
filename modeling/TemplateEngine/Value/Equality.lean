/-
**Equality of values, and maps.**

Booleans count as the integers 0 and 1, and numbers are compared exactly; otherwise only values
of one kind are equal.  Collections are equal item by item; the order of the entries of a map
does not matter.  What is not a number is equal to nothing, not even to itself.

Main definitions:

* `Value.same` — equality;
* `Value.hashable` — whether a value can be looked up in a map;
* `Value.keyed?`, `Value.ofEntries` — looking up a key, and building a map.
-/
import TemplateEngine.Value.Basic
import TemplateEngine.Number.Basic

set_option autoImplicit false

namespace TemplateEngine

namespace Value

/-- The number that a value is in a comparison; booleans are 0 and 1. -/
def numeric? : Value → Option Number
  | .bool b => some (.int (if b then 1 else 0))
  | .int n => some (.int n)
  | .float x => some (.float x)
  | _ => none

/-- Whether two values are numbers and equal. -/
def sameNumber (a b : Value) : Bool :=
  match a.numeric?, b.numeric? with
  | some x, some y => x.same y
  | _, _ => false

/-- Whether two ranges hold the same numbers. -/
def sameRange (a b c d : Int) : Bool :=
  if a < b then a = c && b = d else d ≤ c

mutual

/-- Whether two values are equal. -/
def same : Value → Value → Bool
  | .nil, .nil => true
  | .str s, .str t => s == t
  | .list xs, .list ys => sameItems xs ys
  | .tuple xs, .tuple ys => sameItems xs ys
  | .map xs, .map ys => xs.length == ys.length && sameEntries xs ys
  | .range a b, .range c d => sameRange a b c d
  | .date d, .date e => d == e
  | .moment m, .moment n => m.same n
  | .signal s, .signal t => s == t
  | .interrupted s a, .interrupted t b => s == t && a == b
  | a, b => sameNumber a b

/-- Whether two lists have equal items in the same order. -/
def sameItems : List Value → List Value → Bool
  | [], [] => true
  | x :: xs, y :: ys => same x y && sameItems xs ys
  | _, _ => false

/-- Whether every entry has its like among others. -/
def sameEntries : List (Value × Value) → List (Value × Value) → Bool
  | [], _ => true
  | (k, v) :: rest, others =>
      (match others.find? fun e => same k e.1 with
        | some e => same v e.2
        | none => false) && sameEntries rest others

end

/-- Only a text equals a text. -/
theorem same_str_right {v : Value} {s : String} : v.same (.str s) = true ↔ v = .str s := by
  cases v <;> simp [same, sameNumber, numeric?]

mutual

/-- The first part of a value that cannot be looked up in a map. -/
def unhashable? : Value → Option Kind
  | .list _ => some .list
  | .map _ => some .map
  | .tuple items => unhashableItem? items
  | _ => none

/-- The first part of a list of values that cannot be looked up in a map. -/
def unhashableItem? : List Value → Option Kind
  | [] => none
  | x :: rest => (unhashable? x).or (unhashableItem? rest)

end

/-- Fail unless a value can be looked up in a map. -/
def hashable (v : Value) : Except Mismatch Unit :=
  match v.unhashable? with
  | none => .ok ()
  | some k => .error (.unhashable k)

/-! ### Maps -/

/-- The value of the entry of a key. -/
def lookupEntry (entries : List (Value × Value)) (key : Value) : Option Value :=
  (entries.find? fun e => same e.1 key).map (·.2)

/-- The value of the entry of a key that may be any value. -/
def keyed? (entries : List (Value × Value)) (key : Value) : Except Mismatch (Option Value) := do
  hashable key
  return lookupEntry entries key

/-- Add an entry; an equal key keeps its place and takes the new value. -/
def insertEntry (key value : Value) : List (Value × Value) → List (Value × Value)
  | [] => [(key, value)]
  | e :: rest => if same e.1 key then (e.1, value) :: rest else e :: insertEntry key value rest

/-- The map of a list of entries. -/
def ofEntries (entries : List (Value × Value)) : Value :=
  .map (entries.foldl (fun es e => insertEntry e.1 e.2 es) [])

end Value

end TemplateEngine
