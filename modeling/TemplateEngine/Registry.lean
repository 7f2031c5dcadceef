/-
**Names, and registries of named items.**

A name is a text that is not empty; its case counts.  A registry holds items by their names, the
last registration of a name counts, and the names are listed in the order of their code points.

Main definitions:

* `Name.ofValue` — the name that a value is;
* `Name.derive`, `Name.describe` — the name of a kind of items without one, and how an item shows
  itself;
* `Registry.register`, `Registry.get`, `Registry.find`, `Registry.names` — registration, lookup;
* `Query`, `Answer`, `Registry.answer` — what a registry may be asked, and its answer;
* `defaultSet` — items under distinct names.
-/
import TemplateEngine.Error
import TemplateEngine.Table
import TemplateEngine.Text.Case
import TemplateEngine.Value.Equality

set_option autoImplicit false

namespace TemplateEngine

/-! ### Names -/

namespace Name

/-- A text, if it is a name. -/
def check (s : String) : Except Error String :=
  if s = "" then .error (.invalidName (.str s)) else .ok s

/-- The name that a value is. -/
def ofValue : Value → Except Error String
  | .str s => check s
  | v => .error (.invalidName v)

/-- The name of an item: the one that is given, else that of its kind, else the title of its kind
in lower case.  Nil gives no name, and a kind without a name may have any empty value for it. -/
def derive (title : String) (kindName given : Value) : Except Error String :=
  match given with
  | .nil =>
      if kindName.isFilled then ofValue kindName
      else check (String.ofList (Text.lower title.toList))
  | v => ofValue v

/-- How an item shows itself. -/
def describe (title name : String) : String := "<" ++ title ++ " '" ++ name ++ "'>"

end Name

/-! ### Registries -/

/-- Items that a registry holds: their name, and the error for a name without an item. -/
class Named (α : Type) where
  name : α → String
  missing : String → Error

/-- What a registry may be asked. -/
inductive Query where
  /-- For the item with a name, which has to be there. -/
  | get (name : String)
  | find (name : String)
  | contains (key : Value)
  | names
  | size

/-- What a registry of items answers. -/
inductive Answer (α : Type) where
  | item (a : α)
  | found (a? : Option α)
  | contained (b : Bool)
  | names (names : List String)
  | size (n : Nat)

/-- Items by their names. -/
structure Registry (α : Type) where
  items : Table String α

namespace Registry

variable {α : Type}

/-- Names in the order of their code points. -/
def sortNames (names : List String) : List String := names.mergeSort fun a b => a ≤ b

/-- The item with a name. -/
def find (r : Registry α) (name : String) : Option α := r.items.find? name

/-- Whether a name has an item. -/
def contains (r : Registry α) (name : String) : Bool := r.items.contains name

/-- The number of names. -/
def size (r : Registry α) : Nat := r.items.size

/-- All names, in order. -/
def names (r : Registry α) : List String := sortNames r.items.keys

/-- Whether a value is a name that has an item; only what can be looked up may be asked for. -/
def containsKey (r : Registry α) (key : Value) : Except Mismatch Bool := do
  key.hashable
  match key with
  | .str s => return r.contains s
  | _ => return false

/-- The names are listed in order, each of them once. -/
theorem names_increasing (r : Registry α) : r.names.Pairwise (· < ·) := by
  have htrans : ∀ a b c : String, decide (a ≤ b) = true → decide (b ≤ c) = true →
      decide (a ≤ c) = true := fun a b c hab hbc =>
    decide_eq_true (String.le_trans (of_decide_eq_true hab) (of_decide_eq_true hbc))
  have htotal : ∀ a b : String, (decide (a ≤ b) || decide (b ≤ a)) = true := fun a b => by
    rcases String.le_total a b with h | h <;> simp [h]
  have hsorted : r.names.Pairwise fun a b => decide (a ≤ b) = true :=
    List.pairwise_mergeSort htrans htotal r.items.keys
  have hnodup : r.names.Nodup := (List.mergeSort_perm r.items.keys _).nodup_iff.2 r.items.nodup
  exact (hsorted.and hnodup).imp fun h => Std.lt_of_le_of_ne (of_decide_eq_true h.1) h.2

/-- The listed names are the keys. -/
theorem mem_names {r : Registry α} {name : String} : name ∈ r.names ↔ name ∈ r.items.keys :=
  (List.mergeSort_perm r.items.keys _).mem_iff

/-- As many names are listed as there are. -/
theorem length_names (r : Registry α) : r.names.length = r.size := by
  rw [names, sortNames, List.length_mergeSort, Table.keys, List.length_map, size, Table.size]

variable [Named α]

/-- Hold an item under its name, in place of an earlier one. -/
def register (r : Registry α) (item : α) : Except Error (Registry α) := do
  let name ← Name.check (Named.name item)
  return ⟨r.items.insert name item⟩

/-- The item with a name, or the error that there is none. -/
def get (r : Registry α) (name : String) : Except Error α :=
  match r.find name with
  | some item => .ok item
  | none => .error (Named.missing α name)

/-- What a registry answers. -/
def answer (r : Registry α) : Query → Except Error (Answer α)
  | .get name => (r.get name).map .item
  | .find name => .ok (.found (r.find name))
  | .contains key =>
      ((r.containsKey key).mapError fun m => .fault (.mismatch m)).map .contained
  | .names => .ok (.names r.names)
  | .size => .ok (.size r.size)

/-- The registry of items whose names are known to be distinct. -/
def ofItems (items : List α) : Registry α :=
  ⟨Table.ofList (items.map fun item => (Named.name item, item))⟩

/-! ### What registries hold -/

/-- The registry of some items finds an item by its name. -/
theorem find_ofItems {items : List α} (hitems : (items.map Named.name).Nodup) (name : String) :
    (ofItems items).find name = items.find? fun item => Named.name item = name := by
  have hkeys : ((items.map fun item => (Named.name item, item)).map Prod.fst).Nodup := by
    rwa [List.map_map]
  rw [find, ofItems, Table.find?_ofList hkeys, List.find?_map, Option.map_map]
  exact Option.map_id_apply

/-- The registry of some items has their names. -/
theorem mem_keys_ofItems {items : List α} {name : String} :
    name ∈ (ofItems items).items.keys ↔ name ∈ items.map Named.name := by
  rw [ofItems, Table.ofList, Table.mem_keys_insertAll, List.map_map]
  exact or_iff_right List.not_mem_nil

end Registry

/-- Items under what should be their names; these must be names, and distinct. -/
def defaultSet {α : Type} (items : List (Value × α)) : Except Error (Table String α) :=
  items.foldlM (fun table item => do
    let name ← Name.ofValue item.1
    if table.contains name then throw (.duplicateName name)
    return table.insert name item.2) Table.empty

end TemplateEngine
