/-
**Sorting integers and texts.**

An integer and a text have no order, so a sort that compares the one with the other fails.  It need
not make this comparison for the first two keys, but it cannot end without it: each key is compared
with one that has its place already, and so those of the second kind meet the first kind, wherever
they stand.  **The filter refuses what has keys of both kinds**, and sorts all else.  Nothing is
returned that was sorted in part.

Main definitions and results:

* `FailsWith` — whatever a computation fails with satisfies a property;
* `Sorting.sort_failsWith` — **a sort fails only as a comparison of two of its elements does**;
* `CollectionFilter.keysOf` — the keys of items, `CollectionFilter.IsMixture` — keys of both kinds;
* `CollectionFilter.sort_mixture` — a sort of such keys fails;
* `CollectionFilter.sort_refuses_mixtures` — **when the filter refuses, and what it says**.
-/
import Mathlib.Data.List.Pairwise
import TemplateEngine.Proofs.SortSuccess
import TemplateEngine.Proofs.Sorting.Items

set_option autoImplicit false

namespace TemplateEngine

variable {α β ε : Type}

/-! ### Failures -/

/-- Whatever a computation fails with satisfies `E`. -/
def FailsWith (E : ε → Prop) (x : Except ε α) : Prop := ∀ e, x = .error e → E e

namespace FailsWith

variable {E : ε → Prop}

theorem ok (a : α) : FailsWith E (.ok a : Except ε α) := by
  intro e he
  cases he

/-- Steps one after another. -/
theorem bind {x : Except ε α} {f : α → Except ε β} (hx : FailsWith E x)
    (hf : ∀ a, x = .ok a → FailsWith E (f a)) : FailsWith E (x >>= f) := by
  cases x with
  | ok a => exact hf a rfl
  | error e =>
      intro e' he
      cases he
      exact hx e rfl

theorem mono {E' : ε → Prop} {x : Except ε α} (hx : FailsWith E x) (h : ∀ e, E e → E' e) :
    FailsWith E' x := by
  intro e he
  exact h e (hx e he)

end FailsWith

namespace Sorting

variable {smaller : α → α → Except ε Bool} {xs : List α}

/-- A failure of a comparison of two of some elements. -/
def Blames (smaller : α → α → Except ε Bool) (xs : List α) (e : ε) : Prop :=
  ∃ x ∈ xs, ∃ y ∈ xs, smaller x y = .error e

theorem Blames.mono {ys : List α} {e : ε} (h : Blames smaller ys e) (hys : ∀ y ∈ ys, y ∈ xs) :
    Blames smaller xs e := by
  obtain ⟨x, hx, y, hy, he⟩ := h
  exact ⟨x, hys x hx, y, hys y hy, he⟩

theorem continueRun_failsWith (down : Bool) : ∀ {xs : List α} (last : α),
    FailsWith (Blames smaller (last :: xs)) (continueRun smaller down last xs) := by
  intro xs
  induction xs with
  | nil => exact fun last => .ok _
  | cons x rest ih =>
      intro last
      have hanswer : FailsWith (Blames smaller (last :: x :: rest)) (smaller x last) := by
        intro e he
        exact ⟨x, by simp, last, by simp, he⟩
      refine hanswer.bind fun answer _ => ?_
      by_cases hdown : answer = down
      · rw [if_pos hdown]
        have hrest : FailsWith (Blames smaller (last :: x :: rest))
            (continueRun smaller down x rest) :=
          (ih x).mono fun e he => he.mono fun y hy => List.mem_cons_of_mem last hy
        exact hrest.bind fun r _ => .ok _
      · rw [if_neg hdown]
        exact .ok _

theorem initialRun_failsWith : FailsWith (Blames smaller xs) (initialRun smaller xs) := by
  match xs with
  | [] => exact .ok _
  | [x] => exact .ok _
  | x :: y :: rest =>
      have hanswer : FailsWith (Blames smaller (x :: y :: rest)) (smaller y x) := by
        intro e he
        exact ⟨y, by simp, x, by simp, he⟩
      refine hanswer.bind fun down _ => ?_
      have hrun : FailsWith (Blames smaller (x :: y :: rest)) (continueRun smaller down y rest) :=
        (continueRun_failsWith down y).mono fun e he =>
          he.mono fun z hz => List.mem_cons_of_mem x hz
      exact hrun.bind fun r _ => .ok _

/-- An insertion fails as a comparison with an element that has its place. -/
theorem insertFuel_failsWith (x : α) (fuel : Nat) : ∀ sorted : List α,
    FailsWith (fun e => ∃ y ∈ sorted, smaller x y = .error e)
      (insertFuel smaller x fuel sorted) := by
  induction fuel with
  | zero => exact fun sorted => .ok _
  | succ fuel ih =>
      intro sorted
      -- the elements of either half are elements of the whole
      have hpart : ∀ part : List α, (∀ y ∈ part, y ∈ sorted) →
          FailsWith (fun e => ∃ y ∈ sorted, smaller x y = .error e)
            (insertFuel smaller x fuel part) := by
        intro part hpart
        refine (ih part).mono ?_
        rintro e ⟨y, hy, he⟩
        exact ⟨y, hpart y hy, he⟩
      rw [insertFuel]
      split
      · exact .ok _
      · next middle right hright =>
          have hmem : ∀ y ∈ middle :: right, y ∈ sorted := by
            intro y hy
            exact List.mem_of_mem_drop (hright ▸ hy)
          have hanswer : FailsWith (fun e => ∃ y ∈ sorted, smaller x y = .error e)
              (smaller x middle) := by
            intro e he
            exact ⟨middle, hmem middle (by simp), he⟩
          refine hanswer.bind fun answer _ => ?_
          cases answer with
          | true =>
              have hleft := hpart (sorted.take (sorted.length / 2)) fun y => List.mem_of_mem_take
              exact hleft.bind fun ys _ => .ok _
          | false =>
              have hbehind := hpart right fun y hy => hmem y (List.mem_cons_of_mem middle hy)
              exact hbehind.bind fun ys _ => .ok _

theorem insertAll_failsWith : ∀ xs sorted : List α,
    FailsWith (Blames smaller (sorted ++ xs)) (insertAll smaller sorted xs)
  | [], _ => .ok _
  | x :: rest, sorted => by
      have hinsert : FailsWith (Blames smaller (sorted ++ x :: rest)) (insert smaller x sorted) :=
        (insertFuel_failsWith x _ sorted).mono fun e he => by
          obtain ⟨y, hy, he⟩ := he
          exact ⟨x, by simp, y, by simp [hy], he⟩
      refine hinsert.bind fun ys hys => ?_
      have hperm : ys.Perm (x :: sorted) := perm_insertFuel smaller x _ sorted ys hys
      refine (insertAll_failsWith rest ys).mono fun e he => he.mono fun y hy => ?_
      -- what is inserted is one of the elements that waited
      rcases List.mem_append.1 hy with hy | hy
      · rcases List.mem_cons.1 (hperm.subset hy) with rfl | hy
        · simp
        · simp [hy]
      · simp [hy]

/-- **A sort fails only as a comparison of two of its elements does.** -/
theorem sort_failsWith (xs : List α) : FailsWith (Blames smaller xs) (sort smaller xs) := by
  refine initialRun_failsWith.bind fun r hr => ?_
  have hperm : (r.1 ++ r.2).Perm xs := perm_initialRun smaller xs r hr
  exact (insertAll_failsWith r.2 r.1).mono fun e he => he.mono fun x hx => hperm.subset hx

end Sorting

namespace CollectionFilter

/-! ### Two kinds of keys -/

/-- An integer, which a boolean is too, or a text. -/
def IsKey (v : Value) : Prop := Keys.ints.holds v ∨ Keys.texts.holds v

/-- Two integers, or two texts. -/
def SameKind (a b : Value) : Prop :=
  (Keys.ints.holds a ∧ Keys.ints.holds b) ∨ (Keys.texts.holds a ∧ Keys.texts.holds b)

/-- An integer and a text, in either order. -/
def OfTwoKinds (a b : Value) : Prop :=
  (Keys.ints.holds a ∧ Keys.texts.holds b) ∨ (Keys.texts.holds a ∧ Keys.ints.holds b)

variable {a b d : Value}

/-- No value is an integer and a text. -/
theorem not_ints_of_texts (h : Keys.texts.holds a) : ¬Keys.ints.holds a := by
  obtain ⟨s, rfl⟩ := h
  exact Bool.false_ne_true

theorem SameKind.symm (h : SameKind a b) : SameKind b a := by
  rcases h with ⟨ha, hb⟩ | ⟨ha, hb⟩
  · exact .inl ⟨hb, ha⟩
  · exact .inr ⟨hb, ha⟩

theorem SameKind.trans (h : SameKind a b) (h' : SameKind b d) : SameKind a d := by
  rcases h with ⟨ha, hb⟩ | ⟨ha, hb⟩ <;> rcases h' with ⟨hb', hd⟩ | ⟨hb', hd⟩
  · exact .inl ⟨ha, hd⟩
  · exact absurd hb (not_ints_of_texts hb')
  · exact absurd hb' (not_ints_of_texts hb)
  · exact .inr ⟨ha, hd⟩

theorem OfTwoKinds.not_sameKind (h : OfTwoKinds a b) : ¬SameKind a b := by
  rintro (⟨ha, hb⟩ | ⟨ha, hb⟩) <;> rcases h with ⟨ha', hb'⟩ | ⟨ha', hb'⟩
  · exact not_ints_of_texts hb' hb
  · exact not_ints_of_texts ha' ha
  · exact not_ints_of_texts ha ha'
  · exact not_ints_of_texts hb hb'

theorem IsKey.sameKind_or_ofTwoKinds (ha : IsKey a) (hb : IsKey b) :
    SameKind a b ∨ OfTwoKinds a b := by
  rcases ha with ha | ha <;> rcases hb with hb | hb
  · exact .inl (.inl ⟨ha, hb⟩)
  · exact .inr (.inl ⟨ha, hb⟩)
  · exact .inr (.inr ⟨ha, hb⟩)
  · exact .inl (.inr ⟨ha, hb⟩)

theorem SameKind.less_succeeds (h : SameKind a b) : Succeeds (a.less b) := by
  rcases h with ⟨ha, hb⟩ | ⟨ha, hb⟩
  · exact ⟨_, Keys.ints.less_eq ha hb⟩
  · exact ⟨_, Keys.texts.less_eq ha hb⟩

/-- **An integer and a text have no order**, and the failure names their kinds. -/
theorem OfTwoKinds.less_eq (h : OfTwoKinds a b) :
    a.less b = .error (.unordered .lt a.kind b.kind) := by
  rcases h with ⟨ha, s, rfl⟩ | ⟨⟨s, rfl⟩, hb⟩
  · cases a <;> first | rfl | cases ha
  · cases b <;> first | rfl | cases hb

/-- Keys can be compared if they are of one kind. -/
theorem IsKey.less_succeeds_iff_sameKind (ha : IsKey a) (hb : IsKey b) :
    Succeeds (a.less b) ↔ SameKind a b := by
  constructor
  · rintro ⟨answer, hanswer⟩
    rcases ha.sameKind_or_ofTwoKinds hb with h | h
    · exact h
    · rw [h.less_eq] at hanswer
      cases hanswer
  · exact SameKind.less_succeeds

/-- Keys of both kinds. -/
def IsMixture (keys : List Value) : Prop :=
  (∃ key ∈ keys, Keys.ints.holds key) ∧ ∃ key ∈ keys, Keys.texts.holds key

/-- **A sort of keys of both kinds fails**, with an integer and a text that have no order. -/
theorem sort_mixture {key : α → Value} {xs : List α} (hkeys : ∀ a ∈ xs.map key, IsKey a)
    (hmixture : IsMixture (xs.map key)) :
    ∃ a ∈ xs.map key, ∃ b ∈ xs.map key, OfTwoKinds a b ∧
      Sorting.sort (fun x y => (key x).less (key y)) xs =
        .error (.unordered .lt a.kind b.kind) := by
  have hkey : ∀ x ∈ xs, IsKey (key x) := fun x hx => hkeys _ (List.mem_map_of_mem hx)
  cases hsort : Sorting.sort (fun x y => (key x).less (key y)) xs with
  | ok ys =>
      -- a sort that succeeds has keys of one kind only
      have hsame : xs.Pairwise fun x y => SameKind (key x) (key y) :=
        (Sorting.sort_succeeds_iff (P := fun x => IsKey (key x))
          (R := fun x y => SameKind (key x) (key y)) (fun _ _ => SameKind.symm)
          (fun _ _ _ => SameKind.trans) (fun _ _ hx hy => hx.less_succeeds_iff_sameKind hy)
          hkey).1 ⟨ys, hsort⟩
      have hsymm : Std.Symm fun x y => SameKind (key x) (key y) := ⟨fun _ _ => SameKind.symm⟩
      obtain ⟨⟨a, ha, hint⟩, b, hb, htext⟩ := hmixture
      obtain ⟨x, hx, rfl⟩ := List.mem_map.1 ha
      obtain ⟨y, hy, rfl⟩ := List.mem_map.1 hb
      have hne : x ≠ y := by
        rintro rfl
        exact not_ints_of_texts htext hint
      exact absurd (hsame.forall hx hy hne) (OfTwoKinds.not_sameKind (.inl ⟨hint, htext⟩))
  | error e =>
      obtain ⟨x, hx, y, hy, hfails⟩ := Sorting.sort_failsWith xs e hsort
      have hless : (key x).less (key y) = .error e := hfails
      rcases (hkey x hx).sameKind_or_ofTwoKinds (hkey y hy) with h | h
      · obtain ⟨answer, hanswer⟩ := h.less_succeeds
        rw [hanswer] at hless
        cases hless
      · rw [h.less_eq] at hless
        cases hless
        exact ⟨key x, List.mem_map_of_mem hx, key y, List.mem_map_of_mem hy, h, rfl⟩

/-! ### The filter -/

/-- **The keys of items**: the items themselves, or the entries of those that have one. -/
def keysOf (name? : Option String) (items : List Value) : List Value :=
  (items.filter fun item => !lacksKey name? item).map (sortKey name?)

/-- The refusal of the filter to compare two keys. -/
def refusal (a b : Value) : Error :=
  .filterFailed "sort" ("cannot compare elements: " ++
    (Mismatch.unordered .lt a.kind b.kind).message)

variable {name? : Option String} {v : Value} {items : List Value}

theorem keysOf_none (items : List Value) : keysOf none items = items := by
  have hall : items.filter (fun item => !lacksKey none item) = items := List.filter_eq_self.2 (by
    intro item _
    rfl)
  rw [keysOf, hall]
  exact List.map_id items

theorem keysOf_some (name : String) (items : List Value) :
    keysOf (some name) items =
      ((items.filter fun item => !lacksKey (some name) item).map (withEntry name)).map
        Prod.fst := by
  rw [keysOf, List.map_map]
  rfl

theorem sorted_mixture (hkeys : ∀ key ∈ keysOf name? items, IsKey key)
    (hmixture : IsMixture (keysOf name? items)) :
    ∃ a ∈ keysOf name? items, ∃ b ∈ keysOf name? items, OfTwoKinds a b ∧
      sorted items (name?.map .str) = .error (.unordered .lt a.kind b.kind) := by
  cases name? with
  | none =>
      rw [keysOf_none, ← List.map_id items] at hkeys hmixture
      have hsort := sort_mixture hkeys hmixture
      rw [List.map_id] at hsort
      rw [keysOf_none]
      exact hsort
  | some name =>
      rw [keysOf_some] at hkeys hmixture ⊢
      obtain ⟨a, ha, b, hb, htwo, hsort⟩ := sort_mixture hkeys hmixture
      refine ⟨a, ha, b, hb, htwo, ?_⟩
      rw [Option.map_some, sorted_str, hsort]
      rfl

/-- Keys that are no mixture are all of one kind. -/
theorem allKeys_of_not_isMixture (hkeys : ∀ key ∈ keysOf name? items, IsKey key)
    (h : ¬IsMixture (keysOf name? items)) :
    AllKeys Keys.ints name? items ∨ AllKeys Keys.texts name? items := by
  have hmem : ∀ item ∈ items, lacksKey name? item = false →
      sortKey name? item ∈ keysOf name? items := by
    intro item hitem hkey
    exact List.mem_map_of_mem (List.mem_filter.2 ⟨hitem, by simp [hkey]⟩)
  by_cases htext : ∃ key ∈ keysOf name? items, Keys.texts.holds key
  · right
    intro item hitem hkey
    rcases hkeys _ (hmem item hitem hkey) with hint | htext'
    · exact absurd ⟨⟨_, hmem item hitem hkey, hint⟩, htext⟩ h
    · exact htext'
  · left
    intro item hitem hkey
    rcases hkeys _ (hmem item hitem hkey) with hint | htext'
    · exact hint
    · exact absurd ⟨_, hmem item hitem hkey, htext'⟩ htext

/-- **When the filter refuses.**  If each key is an integer or a text, the filter fails exactly if
there are keys of both kinds, in whatever order they stand; then it names an integer and a text
among the keys.  Otherwise it gives the list that is sorted by the keys. -/
theorem sort_refuses_mixtures (now : Moment) (name? : Option String) {v : Value}
    {items : List Value} (hv : v.listed = .ok items)
    (hkeys : ∀ key ∈ keysOf name? items, IsKey key) :
    ((∃ reason, sortFilter now name? v = .error (.filterFailed "sort" reason)) ↔
      IsMixture (keysOf name? items)) ∧
    (IsMixture (keysOf name? items) → ∃ a ∈ keysOf name? items, ∃ b ∈ keysOf name? items,
      OfTwoKinds a b ∧ sortFilter now name? v = .error (refusal a b)) ∧
    (¬IsMixture (keysOf name? items) → ∃ out, sortFilter now name? v = .ok (.list out) ∧
      (SortedBy Keys.ints name? items out ∨ SortedBy Keys.texts name? items out)) := by
  have hrefuses : IsMixture (keysOf name? items) → ∃ a ∈ keysOf name? items,
      ∃ b ∈ keysOf name? items, OfTwoKinds a b ∧
        sortFilter now name? v = .error (refusal a b) := by
    intro hmixture
    obtain ⟨a, ha, b, hb, htwo, hsorted⟩ := sorted_mixture hkeys hmixture
    refine ⟨a, ha, b, hb, htwo, ?_⟩
    rw [sortFilter_eq hv, hsorted]
    rfl
  have hsorts : ¬IsMixture (keysOf name? items) → ∃ out, sortFilter now name? v = .ok (.list out) ∧
      (SortedBy Keys.ints name? items out ∨ SortedBy Keys.texts name? items out) := by
    intro hmixture
    rcases allKeys_of_not_isMixture hkeys hmixture with h | h
    · obtain ⟨out, hout, hstable⟩ := sorted_stablySorted h
      exact ⟨out, sortFilter_eq_ok hv hout, .inl (.of_places hstable)⟩
    · obtain ⟨out, hout, hstable⟩ := sorted_stablySorted h
      exact ⟨out, sortFilter_eq_ok hv hout, .inr (.of_places hstable)⟩
  refine ⟨⟨?_, ?_⟩, hrefuses, hsorts⟩
  · rintro ⟨reason, hreason⟩
    by_contra hmixture
    obtain ⟨out, hout, -⟩ := hsorts hmixture
    rw [hout] at hreason
    cases hreason
  · intro hmixture
    obtain ⟨a, -, b, -, -, h⟩ := hrefuses hmixture
    exact ⟨_, h⟩

/-- Ranks that descend, with a text behind them and items without a rank in between. -/
def mixedRanks : List Value :=
  [.map [(.str "rank", .int 3)], .map [(.str "rank", .int 2)], .str "first",
    .map [(.str "rank", .bool true)], .map [(.str "rank", .str "last")]]

theorem sort_refuses_mixtures_mixedRanks :
    (∀ key ∈ keysOf (some "rank") mixedRanks, IsKey key) ∧
    IsMixture (keysOf (some "rank") mixedRanks) ∧
    (∃ reason, sortFilter default (some "rank") (.list mixedRanks) =
      .error (.filterFailed "sort" reason)) ∧
    sortFilter default (some "rank") (.list mixedRanks) = .error (.filterFailed "sort"
      "cannot compare elements: '<' not supported between instances of 'str' and 'bool'") := by
  have hlist : keysOf (some "rank") mixedRanks =
      [.int 3, .int 2, .bool true, .str "last"] := rfl
  have hkeys : ∀ key ∈ keysOf (some "rank") mixedRanks, IsKey key := by
    rw [hlist]
    intro key hkey
    simp only [List.mem_cons, List.not_mem_nil, or_false] at hkey
    rcases hkey with rfl | rfl | rfl | rfl
    · exact .inl rfl
    · exact .inl rfl
    · exact .inl rfl
    · exact .inr ⟨_, rfl⟩
  have hmixture : IsMixture (keysOf (some "rank") mixedRanks) := by
    rw [hlist]
    exact ⟨⟨.int 3, by simp, rfl⟩, .str "last", by simp, _, rfl⟩
  exact ⟨hkeys, hmixture, (sort_refuses_mixtures default (some "rank") rfl hkeys).1.2 hmixture, rfl⟩

end CollectionFilter

end TemplateEngine
