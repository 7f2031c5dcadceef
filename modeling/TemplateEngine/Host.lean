/-
**Engines and threads side by side.**

Every engine has registries of its own, unless it is made for a thread: such an engine shares the
registries of its thread.  A thread gets a registry when it first asks for it.  Registries start
with the standard items, and no registration in one of them shows in another.

Main definitions:

* `ItemKind` — filters and tags, the items that registries are kept of;
* `Host`, `Owner` — the engines, and the owners of registries;
* `Host.newEngine`, `Host.engine?` — engines;
* `Host.ownerOf`, `Host.registry`, `Host.touch`, `Host.register` — registries.
-/
import TemplateEngine.Engine

set_option autoImplicit false

namespace TemplateEngine

/-! ### Kinds of items -/

/-- What registries are kept of. -/
inductive ItemKind where
  | filter
  | tag
  deriving DecidableEq, Repr

namespace ItemKind

/-- The items of a kind. -/
def Item : ItemKind → Type
  | filter => Filter
  | tag => Tag

instance (k : ItemKind) : Named k.Item :=
  match k with
  | filter => inferInstanceAs (Named Filter)
  | tag => inferInstanceAs (Named Tag)

/-- The items that every registry of a kind starts with. -/
def standardItems : (k : ItemKind) → List k.Item
  | filter => StandardFilter.all.map Filter.ofStandard
  | tag => StandardTag.all.map Tag.ofStandard

/-- The registry that every owner starts with. -/
def standard : (k : ItemKind) → Registry k.Item
  | filter => standardFilters
  | tag => standardTags

/-- An item with another name. -/
def rename : (k : ItemKind) → String → k.Item → k.Item
  | filter, name, f => ({ f with name } : Filter)
  | tag, name, t => ({ t with name } : Tag)

/-- The standard registry holds the standard items. -/
theorem standard_eq (k : ItemKind) : k.standard = Registry.ofItems k.standardItems := by
  cases k <;> rfl

/-- An item with another name has that name. -/
@[simp] theorem name_rename (k : ItemKind) (name : String) (item : k.Item) :
    Named.name (k.rename name item) = name := by
  cases k <;> rfl

end ItemKind

/-! ### Hosts -/

/-- Whose registries are meant: those of an engine, or those of a thread. -/
inductive Owner where
  | engine (number : Nat)
  | thread (name : String)
  deriving DecidableEq, Repr

/-- An engine apart from its registries. -/
structure Installation where
  config : Config
  templates : Table String Node
  owner : Owner

/-- Engines, numbered in the order in which they were made, and the registries in use. -/
structure Host where
  engines : List Installation
  filters : Table Owner (Registry Filter)
  tags : Table Owner (Registry Tag)

namespace Host

/-- The host without engines. -/
def empty : Host := ⟨[], Table.empty, Table.empty⟩

/-! ### Registries -/

/-- The registries of one kind that are in use. -/
def registries (h : Host) : (k : ItemKind) → Table Owner (Registry k.Item)
  | .filter => h.filters
  | .tag => h.tags

/-- The registry that an owner has, or will have. -/
def registry (h : Host) (k : ItemKind) (o : Owner) : Registry k.Item :=
  ((h.registries k).find? o).getD k.standard

/-- Change the registry of an owner. -/
def setRegistry (h : Host) : (k : ItemKind) → Owner → Registry k.Item → Host
  | .filter, o, r => { h with filters := h.filters.insert o r }
  | .tag, o, r => { h with tags := h.tags.insert o r }

/-- Make the registry of an owner, unless it is there already. -/
def touch (h : Host) (k : ItemKind) (o : Owner) : Host :=
  if (h.registries k).contains o then h else h.setRegistry k o k.standard

/-- Register an item with an owner under what should be a name. -/
def register (h : Host) (k : ItemKind) (o : Owner) (name : Value) (item : k.Item) :
    Except Error Unit × Host :=
  -- the registry is made even if the name is refused
  let h := h.touch k o
  match (Name.ofValue name).bind fun n => (h.registry k o).register (k.rename n item) with
  | .ok r => (.ok (), h.setRegistry k o r)
  | .error e => (.error e, h)

/-! ### Engines -/

/-- The owner of the registries of the next engine, and these made: new ones, or those of a
thread. -/
def equip (h : Host) : Option String → Owner × Host
  | none =>
      let own := Owner.engine h.engines.length
      (own, (h.setRegistry .filter own ItemKind.filter.standard).setRegistry .tag own
        ItemKind.tag.standard)
  | some name =>
      let shared := Owner.thread name
      (shared, (h.touch .filter shared).touch .tag shared)

/-- Make an engine, for a thread if one is given, and tell its number. -/
def newEngine (h : Host) (config : Config) (thread? : Option String) : Nat × Host :=
  let equipped := h.equip thread?
  (h.engines.length,
    { equipped.2 with engines := h.engines ++ [⟨config, Table.empty, equipped.1⟩] })

/-- Whose registries an engine or a thread uses, if the engine has been made. -/
def ownerOf (h : Host) : Owner → Option Owner
  | .engine number => h.engines[number]?.map (·.owner)
  | .thread name => some (.thread name)

/-- The engine with a number. -/
def engine? (h : Host) (number : Nat) : Option Engine :=
  h.engines[number]?.map fun i =>
    ⟨i.config, h.registry .filter i.owner, h.registry .tag i.owner, i.templates⟩

/-- Keep a template under a name in an engine. -/
def registerTemplate (h : Host) (number : Nat) (name : Value) (template : Node) :
    Except Error Host := do
  match h.engines[number]?, h.engine? number with
  | some i, some e =>
      let e ← e.registerTemplate name template
      return { h with engines := h.engines.set number { i with templates := e.templates } }
  | _, _ => return h

/-! ### What changes, and what does not -/

section Frame

variable {h : Host} {k k' : ItemKind} {o o' : Owner} {r : Registry k.Item}

@[simp] theorem engines_setRegistry : (h.setRegistry k o r).engines = h.engines := by
  cases k <;> rfl

@[simp] theorem engines_touch : (h.touch k o).engines = h.engines := by
  unfold touch
  split
  · rfl
  · exact engines_setRegistry

/-- An owner whose registry is changed has that registry. -/
theorem registry_setRegistry_self : (h.setRegistry k o r).registry k o = r := by
  have hmade : (h.setRegistry k o r).registries k = (h.registries k).insert o r := by
    cases k <;> rfl
  rw [registry, hmade, Table.find?_insert, if_pos rfl, Option.getD_some]

/-- **Every other registry is as before.** -/
theorem registry_setRegistry_of_ne (hne : ¬(k' = k ∧ o' = o)) :
    (h.setRegistry k o r).registry k' o' = h.registry k' o' := by
  rw [registry, registry]
  by_cases hk : k' = k
  · subst hk
    have hmade : (h.setRegistry k' o r).registries k' = (h.registries k').insert o r := by
      cases k' <;> rfl
    rw [hmade, Table.find?_insert, if_neg fun ho => hne ⟨rfl, ho⟩]
  · have hmade : (h.setRegistry k o r).registries k' = h.registries k' := by
      cases k <;> cases k'
      · exact absurd rfl hk
      · rfl
      · rfl
      · exact absurd rfl hk
    rw [hmade]

/-- **No registry shows whether it has been made.** -/
@[simp] theorem registry_touch : (h.touch k o).registry k' o' = h.registry k' o' := by
  unfold touch
  split
  · rfl
  · next hmade =>
      by_cases hself : k' = k ∧ o' = o
      · obtain ⟨rfl, rfl⟩ := hself
        have hnone : (h.registries k').find? o' = none := by
          simpa [Table.contains] using hmade
        rw [registry_setRegistry_self, registry, hnone, Option.getD_none]
      · exact registry_setRegistry_of_ne hself

/-- New registries are standard, and no others change. -/
theorem registry_equip {thread? : Option String}
    (hnew : ∀ k, h.registry k (.engine h.engines.length) = k.standard) :
    (h.equip thread?).2.registry k o = h.registry k o := by
  cases thread? with
  | some name => rw [equip, registry_touch, registry_touch]
  | none =>
      have hrenew (h : Host) (k' : ItemKind) (own : Owner) (hown : h.registry k' own = k'.standard) :
          (h.setRegistry k' own k'.standard).registry k o = h.registry k o := by
        by_cases hself : k = k' ∧ o = own
        · obtain ⟨rfl, rfl⟩ := hself
          rw [registry_setRegistry_self, hown]
        · exact registry_setRegistry_of_ne hself
      rw [equip, hrenew, hrenew _ _ _ (hnew .filter)]
      rw [registry_setRegistry_of_ne (by simp), hnew]

/-- Whose registries are used does not depend on what they hold. -/
theorem ownerOf_congr {h' : Host} (hengines : h.engines = h'.engines) (user : Owner) :
    h.ownerOf user = h'.ownerOf user := by
  cases user with
  | engine number => rw [ownerOf, ownerOf, hengines]
  | thread name => rfl

/-- An item is registered under a text that is not empty. -/
theorem register_of_name {name : String} (hname : name ≠ "") (item : k.Item) :
    h.register k o (.str name) item = (.ok (), (h.touch k o).setRegistry k o
      ⟨(h.registry k o).items.insert name (k.rename name item)⟩) := by
  simp [register, Name.ofValue, Name.check, hname, Except.bind, Registry.register, bind, pure,
    Except.pure]

/-- Under everything else it is refused. -/
theorem register_of_noName {name : Value} (hname : ∀ s, s ≠ "" → name ≠ .str s) (item : k.Item) :
    h.register k o name item = (.error (.invalidName name), h.touch k o) := by
  have hcheck : Name.ofValue name = .error (.invalidName name) := by
    unfold Name.ofValue
    split
    · next s =>
        have hs : s = "" := Decidable.byContradiction fun hs => hname s hs rfl
        rw [Name.check, if_pos hs]
    · rfl
  rw [register, hcheck]
  rfl

end Frame

end Host

end TemplateEngine
