/-
**A context read and written by keys.**

Code outside a template asks a context for values by keys, and a key may be any value that can be
looked up.  **A text names a variable**; the other keys are kept in a list, and a scope binds
their numbers, so equal keys are one key.  A key that cannot be looked up fails.

Main definitions and results:

* `Context.keyOf?`, `Context.learn`, `Context.keyValue` — between values and keys;
* `Context.get`, `Context.getD`, `Context.containsKey`, `Context.resolveKey` — reading;
* `Context.put`, `Context.delete`, `Context.pull`, `Context.fill`, `Context.update` — writing;
* `Context.ofEntries`, `Context.enter`, `Context.items` — from maps to scopes and back;
* `Context.get_str`, `Context.put_str`, `Context.delete_str` — by a text each of these does what
  the operation on names does.
-/
import TemplateEngine.Context
import TemplateEngine.Value.Equality

set_option autoImplicit false

namespace TemplateEngine

/-! ### Pairs -/

namespace Value

/-- What one goes through: the items of a collection, the characters of a text, the keys of a
map.  Of a range only the first item is told, for a number is no pair. -/
def members? : Value → Option (List Value)
  | .str s => some (s.toList.map fun c => .str (String.singleton c))
  | .list items => some items
  | .tuple items => some items
  | .map entries => some (entries.map Prod.fst)
  | .range start stop => some (if start < stop then [.int start] else [])
  | _ => none

/-- The key and the value that a pair is. -/
def pair : Value → Except Fault (Value × Value)
  | .range start stop =>
      if stop - start = 2 then .ok (.int start, .int (start + 1)) else .error .notAPair
  | v =>
      match v.members? with
      | some [key, x] => .ok (key, x)
      | some _ => .error .notAPair
      | none => .error .noItems

/-- The entries that bindings stand for: those of a map, or one for each pair in a collection.
What is empty stands for none. -/
def bindings (v : Value) : Except Fault (List (Value × Value)) :=
  if !v.isFilled then .ok []
  else match v with
    | .map entries => .ok entries
    | v =>
        match v.members? with
        | none => .error .noItems
        | some items =>
            items.foldlM (fun entries item => do
              let (key, x) ← item.pair
              let () ← (hashable key).mapError .mismatch
              return insertEntry key x entries) []

end Value

namespace Context

/-! ### Keys -/

/-- The value that a key stands for. -/
def keyValue (c : Context) : Key → Value
  | .name s => .str s
  | .other number => c.others[number]?.getD .nil

/-- The key that stands for a value, if the context knows it. -/
def keyOf? (c : Context) (v : Value) : Except Error (Option Key) :=
  match v.unhashable? with
  | some k => .error (.fault (.mismatch (.unhashable k)))
  | none =>
      match v with
      | .str s => .ok (some (.name s))
      | v => .ok ((c.others.findIdx? (Value.same · v)).map .other)

/-- The key that stands for a value, and a context that knows it. -/
def learn (c : Context) (v : Value) : Except Error (Key × Context) := do
  match ← c.keyOf? v with
  | some key => return (key, c)
  | none => return (.other c.others.length, { c with others := c.others ++ [v] })

/-- A text stands for the variable of that name. -/
theorem keyOf?_str (c : Context) (name : String) : c.keyOf? (.str name) = .ok (some name) := rfl

/-- A text is known. -/
theorem learn_str (c : Context) (name : String) : c.learn (.str name) = .ok (.name name, c) := rfl

/-- The value that a value is bound to as a key. -/
def valueOf? (c : Context) (v : Value) : Except Error (Option Value) := do
  let key? ← c.keyOf? v
  return key?.bind c.find?

/-- The visible variables with their keys as values. -/
def items (c : Context) : List (Value × Value) :=
  c.visible.entries.map fun b => (c.keyValue b.1, b.2)

/-! ### Reading -/

/-- The value of a key, which must be bound. -/
def get (c : Context) (key : Value) : Except Error Value := do
  match ← c.valueOf? key with
  | some v => return v
  | none => throw .missingKey

/-- The value of a key, or another value if it is not bound. -/
def getD (c : Context) (key other : Value) : Except Error Value := do
  let v? ← c.valueOf? key
  return v?.getD other

/-- Whether a key is bound. -/
def containsKey (c : Context) (key : Value) : Except Error Bool := do
  let v? ← c.valueOf? key
  return v?.isSome

/-- The value of a key; without one it is nil or, in strict mode, an error. -/
def resolveKey (c : Context) (strict : Bool) (key : Value) : Except Error Value := do
  match ← c.valueOf? key with
  | some v => return v
  | none =>
      if strict then throw (.undefinedVariable (String.ofList key.shown)) else return .nil

/-! ### Writing -/

/-- Bind a key in the root. -/
def put (c : Context) (key v : Value) : Except Error Context := do
  let (k, c) ← c.learn key
  return c.assign k v

/-- Remove a key from the root, which must bind it. -/
def delete (c : Context) (key : Value) : Except Error Context := do
  match ← c.keyOf? key with
  | some k => c.remove k
  | none => throw .missingKey

/-- The value of a key, which is removed from the root; `default?` is for a key that is not
bound. -/
def pull (c : Context) (key : Value) (default? : Option Value) :
    Except Error (Value × Context) := do
  match ← c.keyOf? key, default? with
  | some k, _ => c.take k default?
  | none, some v => return (v, c)
  | none, none => throw .missingKey

/-- The value of a key, which is bound in the root to `v` if it has none. -/
def fill (c : Context) (key v : Value) : Except Error (Value × Context) := do
  let (k, c) ← c.learn key
  return c.setDefault k v

/-- Bind pairs in the root one after another, up to the first that fails; what is bound before
stays. -/
def putPairs (c : Context) : List (Except Fault (Value × Value)) → Except Error Unit × Context
  | [] => (.ok (), c)
  | .error f :: _ => (.error (.fault f), c)
  | .ok (key, v) :: rest =>
      match c.put key v with
      | .ok c => c.putPairs rest
      | .error e => (.error e, c)

/-- Bind the entries of a map, or the pairs in a collection, in the root. -/
def update (c : Context) (v : Value) : Except Error Unit × Context :=
  match v with
  | .map entries => c.putPairs (entries.map .ok)
  | v =>
      match v.members? with
      | some items => c.putPairs (items.map Value.pair)
      | none => (.error (.fault .noItems), c)

/-! ### Scopes -/

/-- The scope that binds entries, and a context that knows their keys. -/
def scopeOf (c : Context) : List (Value × Value) → Except Error (Scope × Context) :=
  List.foldlM (fun (scope, c) e => do
    let (key, c) ← c.learn e.1
    return (scope.insert key e.2, c)) (Table.empty, c)

/-- The context with the entries of a map for variables. -/
def ofEntries (entries : List (Value × Value)) : Except Error Context := do
  let (root, c) ← (ofVariables Table.empty).scopeOf entries
  return { c with root }

/-- Open a scope with bindings, and tell the map that it is. -/
def enter (c : Context) (bindings : Value) : Except Error (Value × Context) := do
  let entries ← bindings.bindings.mapError .fault
  let (scope, c) ← c.scopeOf entries
  return (.map entries, c.push scope)

/-- Close the innermost scope, which must not be the root. -/
def leave (c : Context) : Except Error Context :=
  if c.inner.isEmpty then .error .missingChild else .ok c.pop

/-! ### Texts as keys -/

/-- Reading by a text reads the variable of that name. -/
theorem get_str (c : Context) (name : String) :
    c.get (.str name) = match c.find? name with
      | some v => .ok v
      | none => .error .missingKey := by
  have h : c.valueOf? (.str name) = .ok (c.find? name) := rfl
  rw [get, h]
  cases c.find? name <;> rfl

/-- Writing by a text binds the variable of that name in the root. -/
theorem put_str (c : Context) (name : String) (v : Value) :
    c.put (.str name) v = .ok (c.assign name v) := rfl

/-- Removing by a text removes the variable of that name from the root. -/
theorem delete_str (c : Context) (name : String) : c.delete (.str name) = c.remove name := rfl

end Context

end TemplateEngine
