/-
**Finite maps that remember the order of arrival.**

A `Table κ α` binds each of its keys once.  Binding a key again keeps the key's place and
replaces its value; a new key goes to the end.  Variables, registries, templates, tag attributes
and cycle counters are all kept in tables, so the order in which they are listed is the order in
which they were first written.

Main definitions and results:

* `Table.find?`, `Table.insert`, `Table.erase` — lookup, update, removal;
* `Table.ofList`, `Table.insertAll` — many bindings at once, **the last value of a key wins**;
* `Table.orElse` — one table with another one behind it;
* `Table.find?_insert`, `Table.keys_insert`, `Table.find?_erase` — what each operation does;
* `Table.find?_insertAll`, `Table.find?_ofList` — what many bindings do;
* `Table.contains_iff` — the bound keys are the listed ones.
-/

set_option autoImplicit false

namespace TemplateEngine

variable {κ α : Type}

/-! ### Lists of bindings -/

namespace Bindings

variable [DecidableEq κ]

/-- The value of the first binding of `k`. -/
def lookup (k : κ) : List (κ × α) → Option α
  | [] => none
  | b :: rest => if b.1 = k then some b.2 else lookup k rest

/-- Bind `k` to `v`: in place if `k` is bound already, else at the end. -/
def insert (k : κ) (v : α) : List (κ × α) → List (κ × α)
  | [] => [(k, v)]
  | b :: rest => if b.1 = k then (k, v) :: rest else b :: insert k v rest

/-- Drop the bindings of `k`. -/
def erase (k : κ) : List (κ × α) → List (κ × α)
  | [] => []
  | b :: rest => if b.1 = k then erase k rest else b :: erase k rest

/-- Binding a new key puts it at the end; a bound key keeps its place. -/
theorem keys_insert (k : κ) (v : α) (bs : List (κ × α)) :
    (insert k v bs).map Prod.fst =
      if k ∈ bs.map Prod.fst then bs.map Prod.fst else bs.map Prod.fst ++ [k] := by
  induction bs with
  | nil => simp [insert]
  | cons b rest ih =>
      by_cases h : b.1 = k
      · simp [insert, h]
      · have h' : ¬ k = b.1 := fun e => h e.symm
        by_cases hk : k ∈ rest.map Prod.fst
        · simp only [insert, h, if_false, List.map_cons, ih, hk, if_true, List.mem_cons, or_true]
        · simp only [insert, h, if_false, List.map_cons, ih, hk, List.mem_cons, h', or_self,
            List.cons_append]

/-- Binding keeps the keys distinct. -/
theorem nodup_keys_insert (k : κ) (v : α) {bs : List (κ × α)}
    (h : (bs.map Prod.fst).Nodup) : ((insert k v bs).map Prod.fst).Nodup := by
  rw [keys_insert]
  split
  · exact h
  · next hk =>
      refine List.nodup_append.2 ⟨h, List.pairwise_singleton _ _, fun a ha b hb => ?_⟩
      rintro rfl
      exact hk (List.mem_singleton.1 hb ▸ ha)

/-- What is left after a removal was there before. -/
theorem mem_erase {k : κ} {bs : List (κ × α)} {b : κ × α} (h : b ∈ erase k bs) : b ∈ bs := by
  induction bs with
  | nil => exact h
  | cons c rest ih =>
      rw [erase] at h
      split at h
      · exact List.mem_cons_of_mem _ (ih h)
      · rcases List.mem_cons.1 h with rfl | h
        · exact List.mem_cons_self
        · exact List.mem_cons_of_mem _ (ih h)

/-- What is there after binding `k` was there before, or is the new binding. -/
theorem mem_insert {k : κ} {v : α} {bs : List (κ × α)} {b : κ × α} (h : b ∈ insert k v bs) :
    b = (k, v) ∨ b ∈ bs := by
  induction bs with
  | nil => exact Or.inl (List.mem_singleton.1 h)
  | cons c rest ih =>
      rw [insert] at h
      split at h
      · rcases List.mem_cons.1 h with h | h
        · exact Or.inl h
        · exact Or.inr (List.mem_cons_of_mem _ h)
      · rcases List.mem_cons.1 h with rfl | h
        · exact Or.inr List.mem_cons_self
        · exact (ih h).imp_right (List.mem_cons_of_mem _)

/-- What a lookup finds is there. -/
theorem mem_of_lookup {k : κ} {v : α} {bs : List (κ × α)} (h : lookup k bs = some v) :
    (k, v) ∈ bs := by
  induction bs with
  | nil => cases h
  | cons b rest ih =>
      rw [lookup] at h
      split at h
      · next hb =>
          cases h
          exact hb ▸ List.mem_cons_self
      · exact List.mem_cons_of_mem _ (ih h)

/-- Removing keeps the keys distinct. -/
theorem nodup_keys_erase (k : κ) {bs : List (κ × α)} (h : (bs.map Prod.fst).Nodup) :
    ((erase k bs).map Prod.fst).Nodup := by
  induction bs with
  | nil => exact h
  | cons b rest ih =>
      rw [List.map_cons, List.nodup_cons] at h
      rw [erase]
      split
      · exact ih h.2
      · rw [List.map_cons, List.nodup_cons]
        refine ⟨fun hb => h.1 ?_, ih h.2⟩
        obtain ⟨c, hc, hcb⟩ := List.mem_map.1 hb
        exact List.mem_map.2 ⟨c, mem_erase hc, hcb⟩

/-- **After binding `k`, a lookup of `k` finds the new value**, and other lookups are as before. -/
theorem lookup_insert (k k' : κ) (v : α) (bs : List (κ × α)) :
    lookup k' (insert k v bs) = if k' = k then some v else lookup k' bs := by
  induction bs with
  | nil => simp only [insert, lookup, eq_comm]
  | cons b rest ih =>
      by_cases hb : b.1 = k
      · by_cases h : k' = k
        · simp [insert, hb, lookup, h]
        · have h' : ¬ k = k' := fun e => h e.symm
          simp [insert, hb, lookup, h, h']
      · by_cases h : b.1 = k'
        · have h' : ¬ k' = k := fun e => hb (h.trans e)
          simp [insert, lookup, h, h']
        · simp [insert, hb, lookup, h, ih]

/-- After removing `k`, a lookup of `k` finds nothing, and other lookups are as before. -/
theorem lookup_erase (k k' : κ) (bs : List (κ × α)) :
    lookup k' (erase k bs) = if k' = k then none else lookup k' bs := by
  induction bs with
  | nil => simp [erase, lookup]
  | cons b rest ih =>
      by_cases hb : b.1 = k
      · by_cases h : k' = k
        · subst h
          simp [erase, hb, ih]
        · have h' : ¬ k = k' := fun e => h e.symm
          simp [erase, hb, ih, h, h', lookup]
      · by_cases h : b.1 = k'
        · have h' : ¬ k' = k := fun e => hb (h.trans e)
          simp [erase, lookup, h, h']
        · simp [erase, hb, lookup, h, ih]

/-- After binding `k`, the rest is what it was. -/
theorem erase_insert (k k' : κ) (v : α) (bs : List (κ × α)) :
    erase k' (insert k v bs) = if k = k' then erase k' bs else insert k v (erase k' bs) := by
  induction bs with
  | nil => simp only [insert, erase]
  | cons b rest ih =>
      by_cases hb : b.1 = k
      · by_cases hk : k = k'
        · simp [insert, erase, hb, hk]
        · simp [insert, erase, hb, hk]
      · rw [insert, if_neg hb, erase, erase, ih]
        by_cases hb' : b.1 = k'
        · rw [if_pos hb', if_pos hb']
        · rw [if_neg hb', if_neg hb']
          by_cases hk : k = k'
          · rw [if_pos hk, if_pos hk]
          · rw [if_neg hk, if_neg hk, insert, if_neg hb]

/-- A lookup of `k` finds something exactly if `k` is one of the keys. -/
theorem lookup_isSome (k : κ) (bs : List (κ × α)) :
    (lookup k bs).isSome = true ↔ k ∈ bs.map Prod.fst := by
  induction bs with
  | nil => simp [lookup]
  | cons b rest ih =>
      by_cases h : b.1 = k
      · simp [lookup, h]
      · have h' : ¬ k = b.1 := fun e => h e.symm
        simp only [lookup, h, if_false, ih, List.map_cons, List.mem_cons, h', false_or]

/-- Where the keys are distinct, the last binding of `k` is the first one. -/
theorem find?_reverse (k : κ) {bs : List (κ × α)} (h : (bs.map Prod.fst).Nodup) :
    (bs.reverse.find? fun b => b.1 = k) = bs.find? fun b => b.1 = k := by
  induction bs with
  | nil => rfl
  | cons b rest ih =>
      rw [List.map_cons, List.nodup_cons] at h
      rw [List.reverse_cons, List.find?_append, ih h.2, List.find?_singleton, List.find?_cons]
      by_cases hb : b.1 = k
      · have hrest : (rest.find? fun b => b.1 = k) = none := by
          rw [List.find?_eq_none]
          intro c hc hck
          exact h.1 (List.mem_map.2 ⟨c, hc, (of_decide_eq_true hck).trans hb.symm⟩)
        simp [hb, hrest]
      · simp [hb]

end Bindings

/-! ### Tables -/

/-- Bindings in order of arrival, **each key bound once**. -/
structure Table (κ α : Type) where
  entries : List (κ × α)
  nodup : (entries.map Prod.fst).Nodup

namespace Table

/-- The table without bindings. -/
def empty : Table κ α := ⟨[], List.nodup_nil⟩

instance : EmptyCollection (Table κ α) := ⟨empty⟩

instance : Inhabited (Table κ α) := ⟨empty⟩

/-- The keys, in order of arrival. -/
def keys (t : Table κ α) : List κ := t.entries.map Prod.fst

/-- The number of bindings. -/
def size (t : Table κ α) : Nat := t.entries.length

variable [DecidableEq κ]

/-- The value bound to `k`. -/
def find? (t : Table κ α) (k : κ) : Option α := Bindings.lookup k t.entries

/-- Whether `k` is bound. -/
def contains (t : Table κ α) (k : κ) : Bool := (t.find? k).isSome

/-- Bind `k` to `v`; a bound key keeps its place. -/
def insert (t : Table κ α) (k : κ) (v : α) : Table κ α :=
  ⟨Bindings.insert k v t.entries, Bindings.nodup_keys_insert k v t.nodup⟩

/-- Remove the binding of `k`. -/
def erase (t : Table κ α) (k : κ) : Table κ α :=
  ⟨Bindings.erase k t.entries, Bindings.nodup_keys_erase k t.nodup⟩

/-- Add bindings one after another. -/
def insertAll (t : Table κ α) (bs : List (κ × α)) : Table κ α :=
  bs.foldl (fun t b => t.insert b.1 b.2) t

/-- The bindings of `t`, and behind them those of `s` for keys that `t` does not bind. -/
def orElse (t s : Table κ α) : Table κ α :=
  s.entries.foldl (fun t b => if t.contains b.1 then t else t.insert b.1 b.2) t

/-- The table of a list of bindings; of several bindings of a key the last one counts. -/
def ofList (bs : List (κ × α)) : Table κ α := empty.insertAll bs

/-- What is there after many bindings was there before, or is one of them. -/
theorem mem_insertAll {bs : List (κ × α)} {b : κ × α} :
    ∀ {t : Table κ α}, b ∈ (t.insertAll bs).entries → b ∈ t.entries ∨ b ∈ bs := by
  induction bs with
  | nil => exact fun h => Or.inl h
  | cons c rest ih =>
      intro t h
      rcases ih h with h | h
      · rcases Bindings.mem_insert h with rfl | h
        · exact Or.inr List.mem_cons_self
        · exact Or.inl h
      · exact Or.inr (List.mem_cons_of_mem _ h)

/-- **A table of a list of bindings binds nothing else.** -/
theorem mem_of_find?_ofList {bs : List (κ × α)} {k : κ} {v : α}
    (h : (ofList bs).find? k = some v) : (k, v) ∈ bs := by
  rcases mem_insertAll (Bindings.mem_of_lookup h) with h | h
  · cases h
  · exact h

/-- The empty table binds nothing. -/
theorem find?_empty (k : κ) : (empty : Table κ α).find? k = none := rfl

/-- **After binding `k`, a lookup of `k` finds the new value**, and other lookups are as before. -/
theorem find?_insert (t : Table κ α) (k k' : κ) (v : α) :
    (t.insert k v).find? k' = if k' = k then some v else t.find? k' :=
  Bindings.lookup_insert k k' v t.entries

/-- After removing `k`, a lookup of `k` finds nothing, and other lookups are as before. -/
theorem find?_erase (t : Table κ α) (k k' : κ) :
    (t.erase k).find? k' = if k' = k then none else t.find? k' :=
  Bindings.lookup_erase k k' t.entries

/-- After binding `k`, the rest is what it was. -/
theorem erase_insert (t : Table κ α) (k k' : κ) (v : α) :
    (t.insert k v).erase k' = if k = k' then t.erase k' else (t.erase k').insert k v := by
  have h := Bindings.erase_insert k k' v t.entries
  unfold erase insert
  split
  · next hk =>
      rw [if_pos hk] at h
      simp only [h]
  · next hk =>
      rw [if_neg hk] at h
      simp only [h]

/-- A key is bound exactly if it is listed. -/
theorem contains_iff (t : Table κ α) (k : κ) : t.contains k = true ↔ k ∈ t.keys :=
  Bindings.lookup_isSome k t.entries

/-- A lookup finds nothing if `k` is not bound. -/
theorem find?_eq_none {t : Table κ α} {k : κ} : t.find? k = none ↔ k ∉ t.keys := by
  rw [← contains_iff, contains, Option.not_isSome_iff_eq_none]

/-- The keys after binding `k`: a new key is the last one, a bound key keeps its place. -/
theorem keys_insert (t : Table κ α) (k : κ) (v : α) :
    (t.insert k v).keys = if k ∈ t.keys then t.keys else t.keys ++ [k] :=
  Bindings.keys_insert k v t.entries

/-! ### Other values -/

section MapValues

variable {β : Type}

omit [DecidableEq κ] in
/-- The table with every value changed. -/
def mapValues (f : α → β) (t : Table κ α) : Table κ β :=
  ⟨t.entries.map fun b => (b.1, f b.2), by
    rw [List.map_map]
    exact t.nodup⟩

omit [DecidableEq κ] in
/-- The keys stay what they are. -/
theorem keys_mapValues (f : α → β) (t : Table κ α) : (t.mapValues f).keys = t.keys := by
  rw [keys, keys, mapValues, List.map_map]
  rfl

/-- A lookup finds the changed value. -/
theorem find?_mapValues (f : α → β) (t : Table κ α) (k : κ) :
    (t.mapValues f).find? k = (t.find? k).map f := by
  show Bindings.lookup k (t.entries.map fun b => (b.1, f b.2)) = (Bindings.lookup k t.entries).map f
  induction t.entries with
  | nil => rfl
  | cons b rest ih =>
      rw [List.map_cons, Bindings.lookup, Bindings.lookup, ih]
      split <;> rfl

end MapValues

/-! ### Many bindings -/

/-- Many bindings and one more. -/
theorem insertAll_concat (t : Table κ α) (bs : List (κ × α)) (b : κ × α) :
    t.insertAll (bs ++ [b]) = (t.insertAll bs).insert b.1 b.2 := by
  rw [insertAll, insertAll, List.foldl_append, List.foldl_cons, List.foldl_nil]

/-- **After many bindings, a lookup finds the last one of the key**, else what was there before. -/
theorem find?_insertAll (t : Table κ α) (bs : List (κ × α)) (k : κ) :
    (t.insertAll bs).find? k =
      ((bs.reverse.find? fun b => b.1 = k).map Prod.snd).or (t.find? k) := by
  induction bs generalizing t with
  | nil => rfl
  | cons b rest ih =>
      rw [insertAll, List.foldl_cons]
      refine (ih _).trans ?_
      rw [find?_insert, List.reverse_cons, List.find?_append, List.find?_singleton]
      cases rest.reverse.find? fun b => b.1 = k with
      | some c => rfl
      | none =>
          by_cases hk : b.1 = k
          · simp [hk]
          · simp [hk, Ne.symm hk]

/-- The keys after many bindings are the keys before and the new ones. -/
theorem mem_keys_insertAll {t : Table κ α} {bs : List (κ × α)} {k : κ} :
    k ∈ (t.insertAll bs).keys ↔ k ∈ t.keys ∨ k ∈ bs.map Prod.fst := by
  induction bs generalizing t with
  | nil => simp [insertAll]
  | cons b rest ih =>
      rw [insertAll, List.foldl_cons]
      refine ih.trans ?_
      rw [keys_insert, List.map_cons, List.mem_cons]
      split
      · next hb =>
          refine ⟨Or.imp_right Or.inr, ?_⟩
          rintro (h | rfl | h)
          · exact .inl h
          · exact .inl hb
          · exact .inr h
      · rw [List.mem_append, List.mem_singleton, or_assoc]

/-- **A lookup in one table behind another one** finds what the first one has, or else what the
second one has. -/
theorem find?_orElse (t s : Table κ α) (k : κ) :
    (t.orElse s).find? k = (t.find? k).or (s.find? k) := by
  show (t.orElse s).find? k = (t.find? k).or (Bindings.lookup k s.entries)
  rw [orElse]
  induction s.entries generalizing t with
  | nil => exact (Option.or_none ..).symm
  | cons b rest ih =>
      rw [List.foldl_cons, ih, Bindings.lookup]
      by_cases hb : b.1 = k
      · subst hb
        cases ht : t.find? b.1 with
        | none => simp [contains, ht, find?_insert]
        | some v => simp [contains, ht]
      · have hbound : (if t.contains b.1 then t else t.insert b.1 b.2).find? k = t.find? k := by
          split
          · rfl
          · rw [find?_insert, if_neg (Ne.symm hb)]
        rw [hbound, if_neg hb]

/-- A table of a list of bindings with distinct keys finds what the list has. -/
theorem find?_ofList {bs : List (κ × α)} (hbs : (bs.map Prod.fst).Nodup) (k : κ) :
    (ofList bs).find? k = (bs.find? fun b => b.1 = k).map Prod.snd := by
  rw [ofList, find?_insertAll, Bindings.find?_reverse k hbs, find?_empty, Option.or_none]

end Table

end TemplateEngine
