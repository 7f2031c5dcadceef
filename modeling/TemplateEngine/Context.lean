/-
**The context of a render.**

A context is a stack of scopes.  Reading a variable looks through the scopes from the innermost
one to the root; **writing always goes to the root**, so what a loop body assigns outlives the
loop.  Inner scopes hold the bindings of tags, such as loop variables, and go with them.  Next
to the variables a context keeps the positions of cycles.

Templates bind and read names.  Code outside a template may use other keys, which are told by
their numbers.

Main definitions:

* `Key` — what a scope binds;
* `Context.find?`, `Context.visible` — reading;
* `Context.assign`, `Context.remove`, `Context.take`, `Context.clear` — writing;
* `Context.push`, `Context.pop`, `Context.bind` — scopes.
-/
import TemplateEngine.Error
import TemplateEngine.Table

set_option autoImplicit false

namespace TemplateEngine

/-- What a scope binds: the variable of a name, or the key with a number among the keys that are
no names. -/
inductive Key where
  | name (s : String)
  | other (number : Nat)
  deriving DecidableEq, Repr

/-- A name is a key. -/
instance : Coe String Key := ⟨Key.name⟩

/-- Variables and their values. -/
abbrev Scope := Table Key Value

/-- What tells cycles apart: the name of a group, or the texts of the values. -/
inductive CycleKey where
  | group (name : String)
  | values (texts : List String)
  deriving DecidableEq, Repr

/-- The scopes of a render, innermost first and the root by itself, and the number of times that
each cycle was rendered. -/
structure Context where
  inner : List Scope
  root : Scope
  cycles : Table CycleKey Nat
  /-- The keys that are no names, by number.  A render neither reads nor changes them. -/
  others : List Value

namespace Context

/-- The context with given variables and no inner scope. -/
def ofVariables (root : Scope) : Context := ⟨[], root, Table.empty, []⟩

/-- The number of scopes. -/
def depth (c : Context) : Nat := c.inner.length + 1

/-- All scopes, innermost first. -/
def scopes (c : Context) : List Scope := c.inner ++ [c.root]

/-! ### Reading -/

/-- The value of a variable: that of the innermost scope which binds it. -/
def find? (c : Context) (key : Key) : Option Value := c.scopes.findSome? (·.find? key)

/-- Whether a variable has a value. -/
def contains (c : Context) (key : Key) : Bool := (c.find? key).isSome

/-- The visible variables, those of inner scopes first. -/
def visible (c : Context) : Scope := c.scopes.foldl Table.orElse Table.empty

/-- The value of a variable; without one it is nil or, in strict mode, an error. -/
def resolve (c : Context) (strict : Bool) (name : String) : Except Error Value :=
  match c.find? name with
  | some v => .ok v
  | none => if strict then .error (.undefinedVariable name) else .ok .nil

/-! ### Writing -/

/-- Bind a variable in the root. -/
def assign (c : Context) (key : Key) (v : Value) : Context :=
  { c with root := c.root.insert key v }

/-- Remove a variable from the root, which must bind it. -/
def remove (c : Context) (key : Key) : Except Error Context :=
  if c.root.contains key then .ok { c with root := c.root.erase key } else .error .missingKey

/-- The value of a variable, which is bound in the root to `v` if it has none. -/
def setDefault (c : Context) (key : Key) (v : Value) : Value × Context :=
  match c.find? key with
  | some w => (w, c)
  | none => (v, c.assign key v)

/-- The value of a variable, which is removed from the root. -/
def take (c : Context) (key : Key) (default? : Option Value) :
    Except Error (Value × Context) :=
  match c.find? key with
  | some v => return (v, ← c.remove key)
  | none =>
      match default? with
      | some v => .ok (v, c)
      | none => .error .missingKey

/-- The first visible variable with its value, which is removed from the root. -/
def takeFirst (c : Context) : Except Error ((Key × Value) × Context) :=
  match c.visible.entries with
  | [] => .error .missingKey
  | b :: _ => return (b, ← c.remove b.1)

/-- Remove first variables, at most `fuel` of them, for as long as that succeeds. -/
def clearFuel : Nat → Context → Context
  | 0, c => c
  | fuel + 1, c =>
      match c.takeFirst with
      | .ok (_, c') => clearFuel fuel c'
      | .error _ => c

/-- Remove first variables for as long as that succeeds: a variable of an inner scope that the
root does not bind ends it. -/
def clear (c : Context) : Context := clearFuel (c.root.size + 1) c

/-! ### Scopes -/

/-- Open a scope. -/
def push (c : Context) (scope : Scope) : Context := { c with inner := scope :: c.inner }

/-- Close the innermost scope. -/
def pop (c : Context) : Context := { c with inner := c.inner.tail }

/-- Bind a variable in the innermost scope. -/
def bind (c : Context) (key : Key) (v : Value) : Context :=
  match c.inner with
  | [] => c.assign key v
  | scope :: rest => { c with inner := scope.insert key v :: rest }

/-- The number of times that a cycle was rendered, counting it once more. -/
def advance (c : Context) (key : CycleKey) : Nat × Context :=
  let position := (c.cycles.find? key).getD 0
  (position, { c with cycles := c.cycles.insert key (position + 1) })

end Context

end TemplateEngine
