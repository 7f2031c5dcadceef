/-
**A context as a mapping.**

From outside, a context is a mapping from keys to values.  It is kept as a stack of scopes, which
are read from the innermost one to the root, while writing and removing go to the root.  So a
mapping's laws hold in another form: what is written is read back **unless an inner scope binds the
same key**, and what an inner scope binds cannot be removed.

While a scope is open, much may happen to the context.  `Context.Changes` lists what a single change
can be, and tells the keys that are written or removed in the root; the operations on contexts are
series of such changes, and so is every render.  When the scope is closed, all other keys have the
values again that they had before, or none if they had none.

Main definitions and results:

* `Context.Innermost` — the value that the innermost scope binding a key gives it;
* `Context.Changes`, `Context.Kept`, `Context.Changes.kept` — what may happen to a context, and
  what it keeps;
* `Context.Changes.clear`, `Engine.changes_of_render` — operations and renders are such changes;
* `Context.ReadsAsMap`, `Context.WritesRoot`, `Context.RemovesRoot`, `Context.ClosesScopes` — the
  laws;
* `Context.consistent_mapping` — **every context obeys them**.
-/
import TemplateEngine.Context.Keyed
import TemplateEngine.Proofs.Scopes
import Mathlib.Data.List.Dedup

set_option autoImplicit false

namespace TemplateEngine

namespace Context

variable (c : Context) (key : Key)

/-! ### Reading -/

/-- **The innermost scope that binds a key** binds it to `v`. -/
def Innermost (v : Value) : Prop :=
  ∃ (closer : List Scope) (scope : Scope) (farther : List Scope),
    c.scopes = closer ++ scope :: farther ∧ (∀ s ∈ closer, key ∉ s.keys) ∧
      scope.find? key = some v

/-- A lookup finds what the innermost scope has. -/
theorem find?_eq_some (v : Value) : c.find? key = some v ↔ c.Innermost key v := by
  rw [find?, List.findSome?_eq_some_iff]
  constructor
  · rintro ⟨closer, scope, farther, hscopes, hv, hcloser⟩
    exact ⟨closer, scope, farther, hscopes, fun s hs => Table.find?_eq_none.1 (hcloser s hs), hv⟩
  · rintro ⟨closer, scope, farther, hscopes, hcloser, hv⟩
    exact ⟨closer, scope, farther, hscopes, hv, fun s hs => Table.find?_eq_none.2 (hcloser s hs)⟩

/-- A key has a value if some scope binds it. -/
theorem contains_iff : c.contains key = true ↔ ∃ scope ∈ c.scopes, key ∈ scope.keys := by
  rw [contains, find?, List.findSome?_isSome_iff]
  constructor
  · rintro ⟨scope, hscope, hkey⟩
    exact ⟨scope, hscope, (scope.contains_iff key).1 hkey⟩
  · rintro ⟨scope, hscope, hkey⟩
    exact ⟨scope, hscope, (scope.contains_iff key).2 hkey⟩

/-- Scopes put behind a table are searched behind it, by induction on the scopes. -/
theorem find?_foldl_orElse (scopes : List Scope) (t : Scope) :
    (scopes.foldl Table.orElse t).find? key =
      (t.find? key).or (scopes.findSome? (·.find? key)) := by
  induction scopes generalizing t with
  | nil => exact (Option.or_none ..).symm
  | cons scope rest ih =>
      rw [List.foldl_cons, ih, Table.find?_orElse, Option.or_assoc, List.findSome?_cons]
      cases scope.find? key with
      | none => rfl
      | some v => rfl

/-- What one sees of a key is its value. -/
theorem find?_visible : c.visible.find? key = c.find? key := by
  rw [visible, find?_foldl_orElse, Table.find?_empty, Option.none_or, find?]

/-- A key is seen if it has a value. -/
theorem mem_keys_visible : key ∈ c.visible.keys ↔ c.contains key = true := by
  rw [← Table.contains_iff, Table.contains, find?_visible, contains]

/-- No key is seen twice. -/
theorem nodup_keys_visible : c.visible.keys.Nodup := c.visible.nodup

/-- There are as many visible keys as keys in all scopes, each counted once. -/
theorem size_visible : c.visible.size = (c.scopes.flatMap Table.keys).dedup.length := by
  have hkeys : c.visible.keys.Perm (c.scopes.flatMap Table.keys).dedup := by
    rw [List.perm_ext_iff_of_nodup c.nodup_keys_visible (List.nodup_dedup _)]
    intro key
    rw [mem_keys_visible, contains_iff, List.mem_dedup, List.mem_flatMap]
  rw [Table.size, ← hkeys.length_eq, Table.keys, List.length_map]

/-! ### Writing and removing -/

/-- The value of any other key is what it was. -/
theorem find?_assign_of_ne {other : Key} (h : other ≠ key) (v : Value) :
    (c.assign key v).find? other = c.find? other := by
  rw [find?_eq_or, find?_eq_or]
  show (c.inner.findSome? (·.find? other)).or ((c.root.insert key v).find? other) = _
  rw [Table.find?_insert, if_neg h]

/-- A key that an inner scope binds has the value that it had. -/
theorem find?_assign_of_shadowed (h : ∃ scope ∈ c.inner, key ∈ scope.keys) (v : Value) :
    (c.assign key v).find? key = c.find? key := by
  have hkeeps : c.Keeps True (c.assign key v) := .of_inner rfl fun h => (h trivial).elim
  obtain ⟨scope, hscope, hkey⟩ := h
  exact hkeeps.find? key ⟨scope, hscope, (scope.contains_iff key).2 hkey⟩

/-- **Whatever is written is read back, exactly if no inner scope binds the key.** -/
theorem find?_assign_iff :
    (∀ v, (c.assign key v).find? key = some v) ↔ ∀ scope ∈ c.inner, key ∉ scope.keys := by
  constructor
  · intro h scope hscope hkey
    have hsame (v : Value) : c.find? key = some v :=
      (c.find?_assign_of_shadowed key ⟨scope, hscope, hkey⟩ v).symm.trans (h v)
    cases (hsame .nil).symm.trans (hsame (.bool true))
  · exact c.find?_assign_of_free key

/-- A key can be removed if the root binds it. -/
theorem remove_of_mem (h : key ∈ c.root.keys) :
    c.remove key = .ok { c with root := c.root.erase key } := by
  rw [remove, if_pos ((c.root.contains_iff key).2 h)]

theorem remove_of_not_mem (h : key ∉ c.root.keys) : c.remove key = .error .missingKey := by
  rw [remove, if_neg (mt (c.root.contains_iff key).1 h)]

/-- **What a successful removal did.** -/
theorem remove_eq_ok {c' : Context} :
    c.remove key = .ok c' ↔ key ∈ c.root.keys ∧ c' = { c with root := c.root.erase key } := by
  by_cases h : key ∈ c.root.keys
  · rw [remove_of_mem c key h, Except.ok.injEq, eq_comm]
    exact (and_iff_right h).symm
  · rw [remove_of_not_mem c key h]
    constructor
    · intro hok
      cases hok
    · rintro ⟨hkey, -⟩
      exact absurd hkey h

/-! ### What may happen to a context -/

/-- **A series of changes of a context**, with the keys that are written or removed in the root on
the way.  A tag binds variables in its own scope, and it may open scopes for other tags. -/
inductive Changes : List Key → Context → Context → Prop
  | done (c : Context) : Changes [] c c
  | assign {keys : List Key} {c c' : Context} (key : Key) (v : Value) :
      Changes keys (c.assign key v) c' → Changes (key :: keys) c c'
  | remove {keys : List Key} {c c₁ c' : Context} {key : Key} :
      c.remove key = .ok c₁ → Changes keys c₁ c' → Changes (key :: keys) c c'
  | bind {keys : List Key} {c c' : Context} {scope : Scope} {rest : List Scope}
      (key : Key) (v : Value) : c.inner = scope :: rest →
      Changes keys (c.bind key v) c' → Changes keys c c'
  | within {inside keys : List Key} {c c₁ c' : Context} (scope : Scope) :
      Changes inside (c.push scope) c₁ → Changes keys c₁.pop c' → Changes (inside ++ keys) c c'
  | aside {keys : List Key} {c c' : Context} (cycles : Table CycleKey Nat) (others : List Value) :
      Changes keys { c with cycles, others } c' → Changes keys c c'

/-- What changes keep: the scopes under the innermost one, and in the root what is bound to the
keys that are not concerned. -/
structure Kept (keys : List Key) (c c' : Context) : Prop where
  depth : c'.inner.length = c.inner.length
  under : c'.inner.tail = c.inner.tail
  root (key : Key) : key ∉ keys → c'.root.find? key = c.root.find? key

namespace Kept

variable {keys more : List Key} {c c₁ c' : Context}

theorem refl (c : Context) : Kept [] c c := ⟨rfl, rfl, fun _ _ => rfl⟩

theorem trans (h : Kept keys c c₁) (h' : Kept more c₁ c') : Kept (keys ++ more) c c' where
  depth := h'.depth.trans h.depth
  under := h'.under.trans h.under
  root key hkey := by
    rw [List.mem_append, not_or] at hkey
    exact (h'.root key hkey.2).trans (h.root key hkey.1)

theorem assign (c : Context) (key : Key) (v : Value) : Kept [key] c (c.assign key v) where
  depth := rfl
  under := rfl
  root other hother := by
    rw [Context.assign, Table.find?_insert, if_neg (mt List.mem_singleton.2 hother)]

theorem remove {key : Key} (h : c.remove key = .ok c₁) : Kept [key] c c₁ := by
  obtain ⟨-, rfl⟩ := (remove_eq_ok c key).1 h
  refine ⟨rfl, rfl, fun other hother => ?_⟩
  rw [Table.find?_erase, if_neg (mt List.mem_singleton.2 hother)]

/-- A binding in an inner scope does not concern the root. -/
theorem bind {scope : Scope} {rest : List Scope} (h : c.inner = scope :: rest) (key : Key)
    (v : Value) : Kept [] c (c.bind key v) := by
  rw [Context.bind, h]
  exact ⟨by simp [h], by simp [h], fun _ _ => rfl⟩

/-- What is under a scope is there again when the scope is closed. -/
theorem inner_pop {scope : Scope} (h : Kept keys (c.push scope) c₁) : c₁.pop.inner = c.inner :=
  h.under

/-- Closing a scope keeps what was kept inside of it. -/
theorem within {scope : Scope} (h : Kept keys (c.push scope) c₁) : Kept keys c c₁.pop where
  depth := congrArg List.length h.inner_pop
  under := congrArg List.tail h.inner_pop
  root := h.root

end Kept

/-- **Changes keep the scopes under the innermost one and the rest of the root**, by induction on
the changes: each of them keeps that. -/
theorem Changes.kept {keys : List Key} {c c' : Context} (h : Changes keys c c') :
    Kept keys c c' := by
  induction h with
  | done c => exact .refl c
  | assign key v _ ih => exact (Kept.assign _ key v).trans ih
  | remove hremove _ ih => exact (Kept.remove hremove).trans ih
  | bind key v hinner _ ih => exact (Kept.bind hinner key v).trans ih
  | within scope _ _ ihinside ih => exact ihinside.within.trans ih
  | aside cycles others _ ih => exact ⟨ih.depth, ih.under, ih.root⟩

/-- **A closed scope leaves nothing behind** but what was written or removed in the root. -/
theorem Changes.find?_pop {keys : List Key} {c c' : Context} {scope : Scope}
    (h : Changes keys (c.push scope) c') {key : Key} (hkey : key ∉ keys) :
    c'.pop.find? key = c.find? key := by
  rw [find?_eq_or, find?_eq_or, h.kept.inner_pop]
  congr 1
  exact h.kept.root key hkey

/-! ### Operations and renders are changes -/

namespace Changes

variable {keys more : List Key} {c c₁ c' : Context}

/-- Changes one after another are changes. -/
theorem trans (h : Changes keys c c₁) (h' : Changes more c₁ c') : Changes (keys ++ more) c c' := by
  induction h with
  | done _ => exact h'
  | assign key v _ ih => exact .assign key v (ih h')
  | remove hremove _ ih => exact .remove hremove (ih h')
  | bind key v hinner _ ih => exact .bind key v hinner (ih h')
  | within scope hinside _ _ ih =>
      rw [List.append_assoc]
      exact .within scope hinside (ih h')
  | aside cycles others _ ih => exact .aside cycles others (ih h')

/-- Bindings written in the root one after another. -/
theorem insertAll (c : Context) (bs : List (Key × Value)) :
    Changes (bs.map Prod.fst) c { c with root := c.root.insertAll bs } := by
  induction bs generalizing c with
  | nil => exact .done c
  | cons b rest ih => exact .assign b.1 b.2 (ih (c.assign b.1 b.2))

/-- A context with bindings written to the root has undergone changes. -/
theorem of_root {bs : List (Key × Value)} (hinner : c'.inner = c.inner)
    (hroot : c'.root = c.root.insertAll bs) : Changes (bs.map Prod.fst) c c' := by
  obtain ⟨inner, root, cycles, others⟩ := c'
  subst hinner hroot
  exact .aside cycles others (insertAll { c with cycles, others } bs)

/-- A default is written, or nothing is. -/
theorem setDefault (c : Context) (key : Key) (v : Value) :
    ∃ keys, keys ⊆ [key] ∧ Changes keys c (c.setDefault key v).2 := by
  rw [Context.setDefault]
  cases c.find? key with
  | some w => exact ⟨[], List.nil_subset _, .done c⟩
  | none => exact ⟨[key], List.Subset.refl _, .assign key v (.done _)⟩

/-- What is taken is removed, unless it is the default. -/
theorem take {key : Key} {default? : Option Value} {v : Value}
    (h : c.take key default? = .ok (v, c')) : ∃ keys, keys ⊆ [key] ∧ Changes keys c c' := by
  unfold Context.take at h
  cases hv : c.find? key with
  | some w =>
      rw [hv] at h
      cases hremove : c.remove key with
      | error e =>
          rw [hremove] at h
          cases h
      | ok c₁ =>
          rw [hremove] at h
          cases h
          exact ⟨[key], List.Subset.refl _, .remove hremove (.done _)⟩
  | none =>
      rw [hv] at h
      cases default? with
      | some w =>
          cases h
          exact ⟨[], List.nil_subset _, .done c⟩
      | none => cases h

/-- The first variable is removed. -/
theorem takeFirst {b : Key × Value} (h : c.takeFirst = .ok (b, c')) : Changes [b.1] c c' := by
  rw [Context.takeFirst] at h
  cases hentries : c.visible.entries with
  | nil =>
      rw [hentries] at h
      cases h
  | cons first rest =>
      rw [hentries] at h
      cases hremove : c.remove first.1 with
      | error e =>
          simp only [hremove] at h
          cases h
      | ok c₁ =>
          simp only [hremove] at h
          cases h
          exact .remove hremove (.done _)

/-- First variables are removed one after another. -/
theorem clear (c : Context) : ∃ keys, Changes keys c c.clear := by
  rw [Context.clear]
  generalize c.root.size + 1 = fuel
  induction fuel generalizing c with
  | zero => exact ⟨[], .done c⟩
  | succ fuel ih =>
      rw [clearFuel]
      cases hfirst : c.takeFirst with
      | error e => exact ⟨[], .done c⟩
      | ok taken =>
          obtain ⟨keys, hrest⟩ := ih taken.2
          exact ⟨_, (takeFirst hfirst).trans hrest⟩

end Changes

end Context

/-- All the time the root is `root` with some bindings written to it. -/
def Upkeep.bindings (kinds : StandardTag → Bool) (root : Scope) : Upkeep where
  values := .all
  Uses kind := kinds kind = true
  trees := .madeOf kinds
  observer _ r := r
  Strays := True
  Scoped _ := True
  Kept s := ∃ bs, s.context.root = root.insertAll bs

theorem Upkeep.bindings_lawful (kinds : StandardTag → Bool) (root : Scope) :
    (Upkeep.bindings kinds root).Lawful where
  scoped_empty := trivial
  scoped_insert _ _ _ := trivial
  kept_withInner _ h := h
  resolve _ _ _ := fun _ _ => trivial
  assign {s v} name _ _ h := by
    obtain ⟨bs, hbs⟩ := h
    refine ⟨bs ++ [(.name name, v)], ?_⟩
    show s.context.root.insert name v = root.insertAll (bs ++ [(.name name, v)])
    rw [hbs, Table.insertAll_concat]
  advance _ _ h := h
  applyFilter _ _ _ _ _ _ _ := ⟨fun _ _ => trivial, fun _ _ _ => trivial⟩
  observe _ h := h

/-- **A render of standard tags is a series of changes**, whatever its outcome. -/
theorem Engine.changes_of_render {e : Engine} {kinds : StandardTag → Bool} (he : e.MadeOf kinds)
    {n : Node} (hn : n.isMadeOf kinds = true) (now : Moment) (depth : Nat) (s : State) :
    ∃ keys, Context.Changes keys s.context
      (n.render.runOn (e.surroundings now depth) s).2.context := by
  have hT := (Upkeep.bindings_lawful kinds s.context.root).onEngine he now depth
  have hfollows := (hT.part n .statement (l := .free) (fun h => by cases h) hn).run
  have hgood : (Upkeep.bindings kinds s.context.root).Good s := ⟨fun _ _ => trivial, [], rfl⟩
  obtain ⟨hinner, ⟨bs, hroot⟩, -, -⟩ := (Upkeep.of_follows hfollows hgood).2
  exact ⟨bs.map Prod.fst, .of_root hinner hroot⟩

/-! ### The laws -/

namespace Context

variable (c : Context)

/-- **How a context is read.** -/
structure ReadsAsMap : Prop where
  /-- One sees no key twice. -/
  once : c.visible.keys.Nodup
  /-- One sees the keys that some scope binds. -/
  yields (key : Key) : key ∈ c.visible.keys ↔ ∃ scope ∈ c.scopes, key ∈ scope.keys
  /-- The size counts each of them once. -/
  size : c.visible.size = (c.scopes.flatMap Table.keys).dedup.length
  /-- A lookup finds something exactly if one sees the key. -/
  succeeds (key : Key) : (∃ v, c.find? key = some v) ↔ key ∈ c.visible.keys
  contains (key : Key) : c.contains key = true ↔ key ∈ c.visible.keys
  /-- It finds what the innermost scope binding the key has. -/
  value (key : Key) (v : Value) : c.find? key = some v ↔ c.Innermost key v
  /-- So does one who goes through keys and values together. -/
  item (key : Key) : c.visible.find? key = c.find? key
  /-- A lookup by a text finds the variable of that name, or fails. -/
  get (name : String) (v : Value) : c.get (.str name) = .ok v ↔ c.Innermost name v
  missing (name : String) :
    c.get (.str name) = .error .missingKey ↔ Key.name name ∉ c.visible.keys

/-- **How a key is written.** -/
structure WritesRoot (key : Key) : Prop where
  /-- Nothing changes but the root, and there nothing but the key. -/
  inner (v : Value) : (c.assign key v).inner = c.inner
  root (v : Value) (other : Key) : other ≠ key →
    (c.assign key v).root.find? other = c.root.find? other
  aside (v : Value) : (c.assign key v).cycles = c.cycles ∧ (c.assign key v).others = c.others
  /-- Afterwards one sees the key. -/
  visible (v : Value) : key ∈ (c.assign key v).visible.keys
  /-- What is written is read back exactly if no inner scope binds the key. -/
  readBack : (∀ v, (c.assign key v).find? key = some v) ↔ ∀ scope ∈ c.inner, key ∉ scope.keys
  /-- Otherwise the value of the key is what it was. -/
  shadowed (v : Value) : (∃ scope ∈ c.inner, key ∈ scope.keys) →
    (c.assign key v).find? key = c.find? key
  /-- The value of any other key is what it was. -/
  rest (v : Value) (other : Key) : other ≠ key → (c.assign key v).find? other = c.find? other

/-- **How a key is removed.**  A removal that fails leaves the context as it is. -/
structure RemovesRoot (key : Key) : Prop where
  succeeds : (∃ c', c.remove key = .ok c') ↔ key ∈ c.root.keys
  fails : key ∉ c.root.keys → c.remove key = .error .missingKey
  /-- Nothing changes but the root, where the key is bound no longer. -/
  removed (c' : Context) : c.remove key = .ok c' →
    c'.inner = c.inner ∧ key ∉ c'.root.keys ∧ c'.cycles = c.cycles ∧ c'.others = c.others ∧
      ∀ other, other ≠ key → c'.root.find? other = c.root.find? other

/-- **How a scope is closed**, whatever has happened since it was opened. -/
structure ClosesScopes : Prop where
  /-- The scopes are those from before. -/
  inner {scope : Scope} {keys : List Key} {c' : Context} : Changes keys (c.push scope) c' →
    c'.leave = .ok c'.pop ∧ c'.pop.inner = c.inner
  /-- A key that was not written or removed in the root has its value again, or none. -/
  restored {scope : Scope} {keys : List Key} {c' : Context} {key : Key} :
    Changes keys (c.push scope) c' → key ∉ keys →
      (key ∈ c'.pop.visible.keys ↔ key ∈ c.visible.keys) ∧ c'.pop.find? key = c.find? key

theorem readsAsMap : c.ReadsAsMap where
  once := c.nodup_keys_visible
  yields key := (c.mem_keys_visible key).trans (c.contains_iff key)
  size := c.size_visible
  succeeds key := by rw [mem_keys_visible, contains, Option.isSome_iff_exists]
  contains key := (c.mem_keys_visible key).symm
  value key v := c.find?_eq_some key v
  item key := c.find?_visible key
  get name v := by
    rw [get_str, ← find?_eq_some]
    cases c.find? name with
    | none => simp
    | some w => simp
  missing name := by
    rw [get_str, mem_keys_visible, contains]
    cases c.find? name with
    | none => simp
    | some w => simp

theorem writesRoot (key : Key) : c.WritesRoot key where
  inner _ := rfl
  root v other hother := by rw [assign, Table.find?_insert, if_neg hother]
  aside _ := ⟨rfl, rfl⟩
  visible v := by
    rw [mem_keys_visible, contains_iff]
    refine ⟨c.root.insert key v, List.mem_append_right _ (List.mem_singleton.2 rfl), ?_⟩
    rw [← Table.contains_iff, Table.contains, Table.find?_insert, if_pos rfl]
    rfl
  readBack := c.find?_assign_iff key
  shadowed v h := c.find?_assign_of_shadowed key h v
  rest v _ hother := c.find?_assign_of_ne key hother v

theorem removesRoot (key : Key) : c.RemovesRoot key where
  succeeds := by
    constructor
    · rintro ⟨c', h⟩
      exact ((remove_eq_ok c key).1 h).1
    · intro h
      exact ⟨_, remove_of_mem c key h⟩
  fails := remove_of_not_mem c key
  removed c' h := by
    obtain ⟨-, rfl⟩ := (remove_eq_ok c key).1 h
    refine ⟨rfl, ?_, rfl, rfl, fun other hother => ?_⟩
    · rw [← Table.find?_eq_none, Table.find?_erase, if_pos rfl]
    · rw [Table.find?_erase, if_neg hother]

theorem closesScopes : c.ClosesScopes where
  inner {scope keys c'} h := by
    have hdepth : c'.inner.length = c.inner.length + 1 := h.kept.depth
    refine ⟨?_, h.kept.inner_pop⟩
    rw [leave]
    cases hinner : c'.inner with
    | nil => simp [hinner] at hdepth
    | cons _ _ => rfl
  restored {scope keys c' key} h hkey := by
    have hvalue := h.find?_pop hkey
    refine ⟨?_, hvalue⟩
    rw [mem_keys_visible, mem_keys_visible, contains, contains, hvalue]

/-- **A context is a consistent mapping**, with any scopes whatever: it is read as a map of what
one sees, a key is written to and removed from the root, and a scope that is closed leaves nothing
behind but what was written to the root meanwhile. -/
theorem consistent_mapping :
    c.ReadsAsMap ∧ (∀ key, c.WritesRoot key) ∧ (∀ key, c.RemovesRoot key) ∧ c.ClosesScopes :=
  ⟨c.readsAsMap, c.writesRoot, c.removesRoot, c.closesScopes⟩

/-- What is written under a variable of an inner scope is seen when that scope is closed. -/
example :
    let c := ((ofVariables ∅).push (Table.ofList [("x", .int 1)])).assign "x" (.int 2)
    c.find? "x" = some (.int 1) ∧ c.pop.find? "x" = some (.int 2) := ⟨rfl, rfl⟩

end Context

end TemplateEngine
