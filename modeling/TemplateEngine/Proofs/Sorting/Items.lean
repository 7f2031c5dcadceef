/-
**The `sort` filter.**

The filter sorts the items of a value by themselves, or by their entries under a name; then it
first takes out the items without such an entry, and puts them behind all others.  Keys that are
all integers, booleans among them, or all texts are never incomparable, and the comparison of
values tells which of two is smaller.  **So the filter succeeds, and it is a stable sort**, the
items without a key having the greatest rank.

Main definitions and results:

* `Value.entry` — the entry of an item under a name;
* `CollectionFilter.Keys` — keys that are in a linear order, `Keys.ints`, `Keys.texts`;
* `CollectionFilter.SortedBy` — what a stable sort of items by their keys gives;
* `CollectionFilter.sorted_stablySorted` — the items are sorted by the places of their keys;
* `CollectionFilter.sort_filter_stable` — **the filter is a stable sort**: sorting once more
  changes nothing, and only the order within equal keys can be seen in the result.
-/
import Mathlib.Data.String.Basic
import Mathlib.Order.WithBot
import TemplateEngine.Filter.Basic
import TemplateEngine.Proofs.Sorting.Stable

set_option autoImplicit false

namespace TemplateEngine

/-! ### Comparisons of keys -/

namespace Value

/-- The entry of a map under a name, nil for what is no map or has no such entry. -/
def entry (name : String) : Value → Value
  | .map entries => (lookupEntry entries (.str name)).getD .nil
  | _ => .nil

/-- The property that a text names is the entry under this name. -/
theorem property_str (item : Value) (name : String) :
    item.property (.str name) = .ok (item.entry name) := by
  cases item <;> rfl

/-- **Texts are compared as lists of characters**, a shorter one before its extensions. -/
theorem compareText_isLT (s : List Char) : ∀ t, (compareText s t).isLT = decide (s < t) := by
  induction s with
  | nil =>
      intro t
      cases t with
      | nil => simp [compareText]
      | cons d ds => simp [compareText]
  | cons c cs ih =>
      intro t
      cases t with
      | nil => simp [compareText]
      | cons d ds =>
          rcases lt_trichotomy c.toNat d.toNat with hlt | heq | hgt
          · have hcompare : compare c.toNat d.toNat = .lt := Nat.compare_eq_lt.2 hlt
            have hcd : c < d := hlt
            simp [compareText, hcompare, List.cons_lt_cons_iff, hcd]
          · obtain rfl : c = d := Char.toNat_inj.1 heq
            simp [compareText, ih]
          · have hcompare : compare c.toNat d.toNat = .gt := Nat.compare_eq_gt.2 hgt
            have hdc : d < c := hgt
            simp [compareText, hcompare, List.cons_lt_cons_iff, not_lt_of_gt hdc, ne_of_gt hdc]

theorem less_str (s t : String) : (Value.str s).less (.str t) = .ok (decide (s < t)) := by
  simp only [less, related, Relation.holds, compareText_isLT, String.lt_iff]

/-- **Integers are compared by size**, booleans being 0 and 1. -/
theorem related_of_index? {a b : Value} {m n : Int} (ha : a.index? = some m)
    (hb : b.index? = some n) (r : Relation) : related r a b = .ok (r.holds (compare m n)) := by
  have hatoms : related r a b = relatedAtoms r a b := by
    cases a <;> cases b <;> first | rfl | cases ha
  rw [hatoms, relatedAtoms, numeric?_of_index? ha, numeric?_of_index? hb]
  rfl

theorem less_of_index? {a b : Value} {m n : Int} (ha : a.index? = some m)
    (hb : b.index? = some n) : a.less b = .ok (decide (m < n)) := by
  rw [less, related_of_index? ha hb]
  rcases lt_trichotomy m n with hlt | heq | hgt
  · simp [Relation.holds, Int.compare_eq_lt.2 hlt, hlt]
  · simp [Relation.holds, heq]
  · simp [Relation.holds, Int.compare_eq_gt.2 hgt, not_lt_of_gt hgt]

end Value

namespace CollectionFilter

/-- **Keys in a linear order**, which the comparison of values tells. -/
structure Keys (κ : Type) [LinearOrder κ] where
  holds : Value → Prop
  rank : Value → κ
  less_eq {a b : Value} : holds a → holds b → a.less b = .ok (decide (rank a < rank b))

namespace Keys

/-- Integers, booleans being 0 and 1. -/
def ints : Keys Int where
  holds v := v.index?.isSome
  rank v := v.index?.getD 0
  less_eq {a b} ha hb := by
    obtain ⟨m, hm⟩ := Option.isSome_iff_exists.1 ha
    obtain ⟨n, hn⟩ := Option.isSome_iff_exists.1 hb
    rw [Value.less_of_index? hm hn, hm, hn, Option.getD_some, Option.getD_some]

/-- Texts. -/
def texts : Keys String where
  holds v := ∃ s, v = .str s
  rank
    | .str s => s
    | _ => ""
  less_eq := by
    rintro _ _ ⟨s, rfl⟩ ⟨t, rfl⟩
    exact Value.less_str s t

end Keys

/-! ### Items and their keys -/

variable {κ : Type} [LinearOrder κ] (K : Keys κ) (name? : Option String)

/-- The key of an item: the item itself, or its entry under a name. -/
def sortKey (name? : Option String) (item : Value) : Value :=
  match name? with
  | none => item
  | some name => item.entry name

/-- Whether an item lacks the entry that it is sorted by: it is no map, has no entry under the
name, or has nil there. -/
def lacksKey (name? : Option String) (item : Value) : Bool :=
  match name? with
  | none => false
  | some name => isMissing (item.entry name)

/-- Whether the key of an item has a rank. -/
def hasRank (k : κ) (item : Value) : Bool :=
  !lacksKey name? item && K.rank (sortKey name? item) = k

/-- The place of an item: by its key, **behind all others if it lacks one**. -/
def place (item : Value) : WithTop κ :=
  if lacksKey name? item then ⊤ else (K.rank (sortKey name? item) : κ)

/-- **All items have keys of one kind**, unless they lack them. -/
def AllKeys (items : List Value) : Prop :=
  ∀ item ∈ items, lacksKey name? item = false → K.holds (sortKey name? item)

/-- **What a stable sort gives**: the same items, those with a key in front in the order of their
keys, those of one key as they stood, and the others behind, as they stood. -/
structure SortedBy (items out : List Value) : Prop where
  perm : out.Perm items
  order : ∃ front, out = front ++ items.filter (lacksKey name?) ∧
    (∀ item ∈ front, lacksKey name? item = false) ∧
    front.Pairwise fun a b => K.rank (sortKey name? a) ≤ K.rank (sortKey name? b)
  stable (k : κ) : out.filter (hasRank K name? k) = items.filter (hasRank K name? k)

variable {K name?} {items out : List Value}

/-- An item has the last place if and only if it lacks a key. -/
theorem lacksKey_iff_place (item : Value) :
    lacksKey name? item = true ↔ place K name? item = ⊤ := by
  cases h : lacksKey name? item <;> simp [place, h]

theorem filter_place_top (items : List Value) :
    items.filter (place K name? · = ⊤) = items.filter (lacksKey name?) := by
  refine List.filter_congr fun item _ => ?_
  rw [Bool.eq_iff_iff, decide_eq_true_eq, lacksKey_iff_place (K := K)]

theorem filter_place_coe (k : κ) (items : List Value) :
    items.filter (place K name? · = k) = items.filter (hasRank K name? k) := by
  refine List.filter_congr fun item _ => ?_
  cases h : lacksKey name? item <;> simp [place, hasRank, h]

/-- **Sorted by places** is sorted by keys, with the items that lack one behind the others. -/
theorem SortedBy.of_places (h : Sorting.StablySorted (place K name?) items out) :
    SortedBy K name? items out := by
  have hstable : ∀ k, out.filter (hasRank K name? k) = items.filter (hasRank K name? k) := by
    intro k
    rw [← filter_place_coe, ← filter_place_coe]
    exact h.stable k
  have hlacking : out.filter (lacksKey name?) = items.filter (lacksKey name?) := by
    rw [← filter_place_top (K := K), ← filter_place_top (K := K)]
    exact h.stable ⊤
  -- what is in order falls into a front and the last places
  have hfront : (out.filter fun item => !lacksKey name? item).Pairwise
      fun a b => place K name? a ≤ place K name? b := h.sorted.filter _
  have hsplit : out =
      (out.filter fun item => !lacksKey name? item) ++ items.filter (lacksKey name?) := by
    rw [← hlacking]
    have hout := (Sorting.StablySorted.self hfront).append_last fun item _ =>
      lacksKey_iff_place item
    exact (Sorting.StablySorted.self h.sorted).unique hout fun _ => rfl
  have hkeys : ∀ item ∈ out.filter fun item => !lacksKey name? item,
      lacksKey name? item = false := by
    intro item hitem
    simpa using (List.mem_filter.1 hitem).2
  refine ⟨h.perm, ⟨_, hsplit, hkeys, ?_⟩, hstable⟩
  refine hfront.imp_of_mem fun {a b} ha hb hab => ?_
  simpa [place, hkeys a ha, hkeys b hb] using hab

/-! ### The filter -/

/-- An item with its entry under a name. -/
def withEntry (name : String) (item : Value) : Value × Value := (item.entry name, item)

/-- Every item gets its entry. -/
theorem keyed_str (name : String) (items : List Value) :
    keyed (.str name) items = .ok (items.map (withEntry name)) := by
  simp only [keyed, Value.property_str]
  exact List.mapM_pure

/-- Sorting by a name sorts the items that have an entry, with their entries. -/
theorem sorted_str (name : String) (items : List Value) :
    sorted items (some (.str name)) =
      (Sorting.sort (fun p q : Value × Value => p.1.less q.1)
        ((items.filter fun item => !lacksKey (some name) item).map (withEntry name))).map
          fun pairs => pairs.map Prod.snd ++ items.filter (lacksKey (some name)) := by
  have hfilter : ∀ p : Value × Value → Bool, (items.map (withEntry name)).filter p =
      (items.filter fun item => p (withEntry name item)).map (withEntry name) := fun p => by
    rw [List.filter_map]
    rfl
  simp only [sorted, keyed_str, Sorting.sortBy, bind, Except.bind, hfilter]
  have hlacks : ∀ item, isMissing (withEntry name item).1 = lacksKey (some name) item :=
    fun _ => rfl
  simp only [hlacks]
  cases Sorting.sort (fun p q : Value × Value => p.1.less q.1)
      ((items.filter fun item => !lacksKey (some name) item).map (withEntry name)) with
  | error e => rfl
  | ok pairs => simp [Except.map, pure, Except.pure, withEntry, Function.comp_def]

/-- Where no item lacks a key, places tell the comparisons of the keys. -/
theorem asks_place (h : AllKeys K name? items)
    (hitems : ∀ item ∈ items, lacksKey name? item = false) :
    Sorting.Asks (fun a b => (sortKey name? a).less (sortKey name? b)) (place K name?) items := by
  intro a ha b hb
  refine (K.less_eq (h a ha (hitems a ha)) (h b hb (hitems b hb))).trans ?_
  simp [place, hitems a ha, hitems b hb]

/-- The same with the items that have entries. -/
theorem asks_pairs {name : String} (h : AllKeys K (some name) items) :
    Sorting.Asks (fun p q : Value × Value => p.1.less q.1) (fun p => place K (some name) p.2)
      ((items.filter fun item => !lacksKey (some name) item).map (withEntry name)) := by
  intro p hp q hq
  obtain ⟨a, ha, rfl⟩ := List.mem_map.1 hp
  obtain ⟨b, hb, rfl⟩ := List.mem_map.1 hq
  refine asks_place (fun item hitem => h item (List.mem_filter.1 hitem).1) ?_ a ha b hb
  intro item hitem
  simpa using (List.mem_filter.1 hitem).2

/-- **The items are sorted by the places of their keys.** -/
theorem sorted_stablySorted (h : AllKeys K name? items) :
    ∃ out, sorted items (name?.map .str) = .ok out ∧
      Sorting.StablySorted (place K name?) items out := by
  cases name? with
  | none => exact Sorting.sort_stablySorted (asks_place h fun _ _ => rfl)
  | some name =>
      obtain ⟨pairs, hpairs, hsorted⟩ := Sorting.sort_stablySorted (asks_pairs h)
      have hpresent : Sorting.StablySorted (place K (some name))
          (items.filter fun item => !lacksKey (some name) item) (pairs.map Prod.snd) := by
        have hitems : Sorting.StablySorted (place K (some name)) _ (pairs.map Prod.snd) :=
          hsorted.map Prod.snd fun _ => rfl
        simpa [List.map_map, Function.comp_def, withEntry] using hitems
      refine ⟨_, ?_, hpresent.append_last fun item _ => lacksKey_iff_place item⟩
      rw [Option.map_some, sorted_str, hpairs]
      rfl

/-- What the filter gives, sorting by the items themselves or by their entries under a name. -/
def sortFilter (now : Moment) (name? : Option String) (v : Value) : Except Error Value :=
  (Filter.ofStandard .sort).apply now v (name?.map .str).toList

/-- The filter gives the items of the value in order, or refuses a comparison. -/
theorem sortFilter_eq {now : Moment} {v : Value} (hv : v.listed = .ok items) :
    sortFilter now name? v = match sorted items (name?.map .str) with
      | .ok out => .ok (.list out)
      | .error m => .error (.filterFailed "sort" ("cannot compare elements: " ++ m.message)) := by
  have hrun : sortFilter now name? v =
      (sorting v (name?.map .str)).mapError (Failure.toError "sort") := by
    cases name? with
    | none => rfl
    | some name => rfl
  have hitems : (liftM (Except.ok items : Except Fault _) : Except Failure _) = .ok items := rfl
  rw [hrun, sorting, hv, hitems]
  simp only [bind, Except.bind]
  cases sorted items (name?.map .str) with
  | ok out => rfl
  | error m => rfl

/-- The filter sorts the items of the value. -/
theorem sortFilter_eq_ok {now : Moment} {v : Value} (hv : v.listed = .ok items)
    (hsorted : sorted items (name?.map .str) = .ok out) :
    sortFilter now name? v = .ok (.list out) := by
  rw [sortFilter_eq hv, hsorted]

/-- Lists whose items of each key stand in the same order, and likewise those that lack a key. -/
def AlikeByKey (K : Keys κ) (name? : Option String) (items others : List Value) : Prop :=
  (∀ k, others.filter (hasRank K name? k) = items.filter (hasRank K name? k)) ∧
    others.filter (lacksKey name?) = items.filter (lacksKey name?)

/-- **A value is sorted by its keys**: its items are in order, sorting them once more changes
nothing, and whatever differs from them only in the order of unequal keys is sorted alike. -/
def SortsStably (K : Keys κ) (now : Moment) (name? : Option String) (v : Value)
    (items : List Value) : Prop :=
  ∃ out, sortFilter now name? v = .ok (.list out) ∧ SortedBy K name? items out ∧
    sortFilter now name? (.list out) = .ok (.list out) ∧
    ∀ others, AlikeByKey K name? items others →
      sortFilter now name? (.list others) = .ok (.list out)

/-- Lists that differ only in the order of unequal keys differ only in the order of places. -/
theorem AlikeByKey.places {others : List Value} (h : AlikeByKey K name? items others)
    (k : WithTop κ) :
    others.filter (place K name? · = k) = items.filter (place K name? · = k) := by
  induction k using WithTop.recTopCoe with
  | top => rw [filter_place_top, filter_place_top, h.2]
  | coe k => rw [filter_place_coe, filter_place_coe, h.1 k]

/-- They have the same items, so keys of the same kind. -/
theorem AlikeByKey.allKeys {others : List Value} (h : AlikeByKey K name? items others)
    (hitems : AllKeys K name? items) : AllKeys K name? others := fun item hitem =>
  hitems item (Sorting.mem_of_filter_eq h.places hitem)

theorem sortsStably {now : Moment} {v : Value} (hv : v.listed = .ok items)
    (h : AllKeys K name? items) : SortsStably K now name? v items := by
  obtain ⟨out, hout, hstable⟩ := sorted_stablySorted h
  have hothers : ∀ others, AlikeByKey K name? items others →
      sortFilter now name? (.list others) = .ok (.list out) := by
    intro others halike
    obtain ⟨out', hout', hstable'⟩ := sorted_stablySorted (halike.allKeys h)
    rw [hstable.unique hstable' fun k => (halike.places k).symm]
    exact sortFilter_eq_ok rfl hout'
  have hsorted : SortedBy K name? items out := .of_places hstable
  have halike : AlikeByKey K name? items out := by
    refine ⟨hsorted.stable, ?_⟩
    rw [← filter_place_top (K := K), ← filter_place_top (K := K)]
    exact hstable.stable ⊤
  exact ⟨out, sortFilter_eq_ok hv hout, hsorted, hothers out halike, hothers⟩

/-- **The filter is a stable sort**, for keys that are all integers, booleans among them, and for
keys that are all texts. -/
theorem sort_filter_stable (now : Moment) (name? : Option String) {v : Value} {items : List Value}
    (hv : v.listed = .ok items) :
    (AllKeys Keys.ints name? items → SortsStably Keys.ints now name? v items) ∧
      (AllKeys Keys.texts name? items → SortsStably Keys.texts now name? v items) :=
  ⟨sortsStably hv, sortsStably hv⟩

/-- Items with ranks, among others without. -/
def ranked : List Value :=
  [.map [(.str "rank", .int 2)], .str "first", .map [(.str "rank", .nil)],
    .map [(.str "rank", .int 1), (.str "name", .str "one")],
    .map [(.str "rank", .bool true)], .map [(.str "name", .str "last")]]

theorem sort_filter_stable_ranked :
    (AllKeys Keys.ints (some "rank") ranked ∧
      SortsStably Keys.ints default (some "rank") (.tuple ranked) ranked ∧
      sortFilter default (some "rank") (.tuple ranked) = .ok (.list
        [.map [(.str "rank", .int 1), (.str "name", .str "one")], .map [(.str "rank", .bool true)],
          .map [(.str "rank", .int 2)], .str "first", .map [(.str "rank", .nil)],
          .map [(.str "name", .str "last")]])) ∧
    (AllKeys Keys.texts none [.str "b", .str "", .str "ab"] ∧
      SortsStably Keys.texts default none (.list [.str "b", .str "", .str "ab"])
        [.str "b", .str "", .str "ab"]) := by
  have hints : AllKeys Keys.ints (some "rank") ranked := by
    intro item hitem hkey
    simp only [ranked, List.mem_cons, List.not_mem_nil, or_false] at hitem
    rcases hitem with rfl | rfl | rfl | rfl | rfl | rfl <;> first | rfl | cases hkey
  have htexts : AllKeys Keys.texts none [.str "b", .str "", .str "ab"] := by
    intro item hitem _
    simp only [List.mem_cons, List.not_mem_nil, or_false] at hitem
    rcases hitem with rfl | rfl | rfl <;> exact ⟨_, rfl⟩
  exact ⟨⟨hints, (sort_filter_stable default (some "rank") rfl).1 hints, rfl⟩,
    htexts, (sort_filter_stable default none rfl).2 htexts⟩

end CollectionFilter

end TemplateEngine
