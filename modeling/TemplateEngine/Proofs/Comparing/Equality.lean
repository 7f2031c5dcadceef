/-
**Which values are equal.**

Equality of values is not identity: a boolean is equal to an integer, two moments to each other
that name one instant in different zones, two empty ranges, and two maps with the same entries in
another order.  A map looks for each of its entries in the other one, and never the other way
around; **that the search succeeds in both directions** is a matter of counting, for a map binds
each key once, and the maps have the same number of entries.

So among values without floats equality is symmetric, and values that are equal are equal to the
same values.  (Of floats this cannot be said: what is not a number is not even equal to itself.)

Main definitions and results:

* `Value.FloatFree`, `Value.floatFree_ofEntries` — values without floats, at any depth, and maps of
  them as they are built;
* `Value.Classed` — a value with a class of equals;
* `Value.Covers`, `Value.Covers.flip` — the entries of one map have their like in another one;
* `Value.FloatFree.classed`, `Value.FloatFree.same_comm` — **equality is symmetric and transitive**.
-/
import Mathlib.Data.List.Pairwise
import Mathlib.Data.List.Perm.Subperm
import TemplateEngine.Value.Equality
import TemplateEngine.Value.Property

set_option autoImplicit false

namespace TemplateEngine.Value

/-! ### Values without floats -/

/-- **A value without floats**, at any depth.  Its maps bind each key once, as all maps do. -/
inductive FloatFree : Value → Prop
  | plain {v : Value} : v.kind ∉ [.float, .list, .tuple, .map] → FloatFree v
  | list {items : List Value} : (∀ v ∈ items, FloatFree v) → FloatFree (.list items)
  | tuple {items : List Value} : (∀ v ∈ items, FloatFree v) → FloatFree (.tuple items)
  | map {entries : List (Value × Value)} : (∀ e ∈ entries, FloatFree e.1) →
      (∀ e ∈ entries, FloatFree e.2) → entries.Pairwise (fun e f => same e.1 f.1 = false) →
      FloatFree (.map entries)

theorem not_floatFree_float {x : Float} : ¬FloatFree (.float x) := by
  intro h
  cases h with
  | plain hkind => simp [kind] at hkind

section Entries

variable {key value : Value} {entries : List (Value × Value)}

end Entries

/-! ### Values with a class of equals -/

/-- **A value with a class of equals**: what it is equal to is equal to it in turn, and equal to the
same values as it is. -/
def Classed (a : Value) : Prop :=
  ∀ b, FloatFree b → same a b = true →
    same b a = true ∧ ∀ c, FloatFree c → same a c = same b c

/-- A value that shares its kind with nothing but values of the same making has a class of equals
if its content has. -/
theorem classed_of_content {β : Type} (make : β → Value) (alike : β → β → Bool)
    (hsame : ∀ x y, same (make x) (make y) = alike x y)
    (hother : ∀ x v, (∀ y, v ≠ make y) → same (make x) v = false) {x : β}
    (h : ∀ y, FloatFree (make y) → alike x y = true →
      alike y x = true ∧ ∀ z, FloatFree (make z) → alike x z = alike y z) :
    Classed (make x) := by
  intro b hb hab
  by_cases hmake : ∃ y, b = make y
  · obtain ⟨y, rfl⟩ := hmake
    rw [hsame] at hab
    obtain ⟨hsymm, halike⟩ := h y hb hab
    refine ⟨by rw [hsame, hsymm], fun c hc => ?_⟩
    by_cases hmake : ∃ z, c = make z
    · obtain ⟨z, rfl⟩ := hmake
      rw [hsame, hsame, halike z hc]
    · have hc : ∀ z, c ≠ make z := fun z hz => hmake ⟨z, hz⟩
      rw [hother x c hc, hother y c hc]
  · rw [hother x b fun y hy => hmake ⟨y, hy⟩] at hab
    cases hab

/-- If only equal contents are alike, nothing is left to show. -/
theorem classed_of_eq {β : Type} (make : β → Value) (alike : β → β → Bool)
    (hsame : ∀ x y, same (make x) (make y) = alike x y)
    (hother : ∀ x v, (∀ y, v ≠ make y) → same (make x) v = false)
    (halike : ∀ x y, alike x y = true → x = y) (x : β) : Classed (make x) := by
  refine classed_of_content make alike hsame hother fun y _ hxy => ?_
  obtain rfl := halike x y hxy
  exact ⟨hxy, fun z _ => rfl⟩

/-! ### Values that are no collections -/

/-- **Integers are equal to integers alone**, booleans being 0 and 1. -/
theorem same_of_index? {a c : Value} {m : Int} (ha : a.index? = some m) (hc : FloatFree c) :
    same a c = (c.index? == some m) := by
  have hsame : same a c = sameNumber a c := by
    cases a <;> cases ha <;> cases c <;> rfl
  rw [hsame, sameNumber, numeric?_of_index? ha]
  cases c with
  | bool b => simp [numeric?, index?, Number.same_int, eq_comm, Bool.beq_eq_decide_eq]
  | int n => simp [numeric?, index?, Number.same_int, eq_comm, Bool.beq_eq_decide_eq]
  | float x => exact absurd hc not_floatFree_float
  | _ => rfl

theorem classed_of_index? {a : Value} {m : Int} (ha : a.index? = some m) (hfree : FloatFree a) :
    Classed a := by
  intro b hb hab
  rw [same_of_index? ha hb, beq_iff_eq] at hab
  refine ⟨?_, fun c hc => ?_⟩
  · rw [same_of_index? hab hfree, ha, beq_self_eq_true]
  · rw [same_of_index? ha hc, same_of_index? hab hc]

/-- Ranges are equal if they hold the same numbers, or none. -/
theorem sameRange_iff {a b c d : Int} :
    sameRange a b c d = true ↔ (a < b ∧ a = c ∧ b = d) ∨ (b ≤ a ∧ d ≤ c) := by
  unfold sameRange
  split
  · simp only [Bool.and_eq_true, decide_eq_true_eq]
    omega
  · simp only [decide_eq_true_eq]
    omega

/-- Moments are equal if they name one instant, and both or neither have a zone. -/
theorem sameMoment_iff {m n : Moment} :
    m.same n = true ↔ m.offset?.isSome = n.offset?.isSome ∧ m.instant = n.instant := by
  unfold Moment.same Moment.compare?
  split
  · next hsort => simp [hsort]
  · next hsort => simp [hsort]

/-- **What is neither a float nor a collection has a class of equals.** -/
theorem classed_of_plain {a : Value} (h : a.kind ∉ [.float, .list, .tuple, .map]) : Classed a := by
  cases a with
  | float | list | tuple | map => simp [kind] at h
  | bool | int => exact classed_of_index? rfl (.plain h)
  | nil =>
      refine classed_of_eq (fun _ : Unit => .nil) (fun _ _ => true) (fun _ _ => rfl)
        (fun _ v hv => ?_) (fun _ _ _ => rfl) ()
      cases v <;> first | rfl | exact absurd rfl (hv ())
  | str s =>
      refine classed_of_eq .str (· == ·) (fun _ _ => rfl) (fun _ v hv => ?_)
        (fun _ _ => beq_iff_eq.1) s
      cases v <;> first | rfl | exact absurd rfl (hv _)
  | date d =>
      refine classed_of_eq .date (· == ·) (fun _ _ => rfl) (fun _ v hv => ?_)
        (fun _ _ => beq_iff_eq.1) d
      cases v <;> first | rfl | exact absurd rfl (hv _)
  | signal s =>
      refine classed_of_eq .signal (· == ·) (fun _ _ => rfl) (fun _ v hv => ?_)
        (fun _ _ => beq_iff_eq.1) s
      cases v <;> first | rfl | exact absurd rfl (hv _)
  | interrupted text s =>
      refine classed_of_eq (fun p : String × Signal => .interrupted p.1 p.2)
        (fun p q => p.1 == q.1 && p.2 == q.2) (fun _ _ => rfl) (fun _ v hv => ?_)
        (fun p q h => ?_) (text, s)
      · cases v <;> first | rfl | exact absurd rfl (hv (_, _))
      · simpa [Prod.ext_iff] using h
  | range start stop =>
      refine classed_of_content (fun p : Int × Int => .range p.1 p.2)
        (fun p q => sameRange p.1 p.2 q.1 q.2) (fun _ _ => rfl) (fun _ v hv => ?_)
        (x := (start, stop)) fun q _ hq => ?_
      · cases v <;> first | rfl | exact absurd rfl (hv (_, _))
      · rw [sameRange_iff] at hq
        refine ⟨sameRange_iff.2 (by omega), fun r _ => ?_⟩
        rw [Bool.eq_iff_iff, sameRange_iff, sameRange_iff]
        omega
  | moment m =>
      refine classed_of_content .moment Moment.same (fun _ _ => rfl) (fun _ v hv => ?_)
        fun n _ hn => ?_
      · cases v <;> first | rfl | exact absurd rfl (hv _)
      · obtain ⟨hsort, hinstant⟩ := sameMoment_iff.1 hn
        refine ⟨sameMoment_iff.2 ⟨hsort.symm, hinstant.symm⟩, fun r _ => ?_⟩
        rw [Bool.eq_iff_iff, sameMoment_iff, sameMoment_iff, hsort, hinstant]

/-! ### Lists -/

/-- A list of values with classes of equals is equal to a list in both directions, and the two are
equal to the same lists. -/
theorem classed_items {xs : List Value} (h : ∀ x ∈ xs, Classed x) :
    ∀ ys : List Value, (∀ y ∈ ys, FloatFree y) → sameItems xs ys = true →
      sameItems ys xs = true ∧
        ∀ zs : List Value, (∀ z ∈ zs, FloatFree z) → sameItems xs zs = sameItems ys zs := by
  induction xs with
  | nil =>
      intro ys _ hsame
      cases ys with
      | nil => exact ⟨rfl, fun _ _ => rfl⟩
      | cons y ys => cases hsame
  | cons x xs ih =>
      intro ys hys hsame
      cases ys with
      | nil => cases hsame
      | cons y ys =>
          obtain ⟨hx, hxs⟩ := List.forall_mem_cons.1 h
          obtain ⟨hy, hys⟩ := List.forall_mem_cons.1 hys
          obtain ⟨hhead, htail⟩ := Bool.and_eq_true_iff.1 hsame
          obtain ⟨hsymm, hclass⟩ := hx y hy hhead
          obtain ⟨hsymms, hclasses⟩ := ih hxs ys hys htail
          refine ⟨Bool.and_eq_true_iff.2 ⟨hsymm, hsymms⟩, fun zs hzs => ?_⟩
          cases zs with
          | nil => rfl
          | cons z zs =>
              obtain ⟨hz, hzs⟩ := List.forall_mem_cons.1 hzs
              rw [sameItems, sameItems, hclass z hz, hclasses zs hzs]

/-! ### Maps -/

/-- Two entries with equal keys and equal values. -/
def Like (e f : Value × Value) : Prop := same e.1 f.1 = true ∧ same e.2 f.2 = true

/-- The entries of one map have their like among those of another one. -/
def Covers (es fs : List (Value × Value)) : Prop := ∀ e ∈ es, ∃ f ∈ fs, Like e f

/-- A key is that of one entry at most. -/
def Picks (key : Value) (entries : List (Value × Value)) : Prop :=
  ∀ e ∈ entries, ∀ f ∈ entries, same key e.1 = true → same key f.1 = true → e = f

section Maps

variable {es fs : List (Value × Value)} {e f : Value × Value} {key : Value}

theorem covers_cons : Covers (e :: es) fs ↔ (∃ f ∈ fs, Like e f) ∧ Covers es fs :=
  List.forall_mem_cons

theorem floatFree_map_iff : FloatFree (.map es) ↔
    (∀ e ∈ es, FloatFree e.1 ∧ FloatFree e.2) ∧
      es.Pairwise (fun e f => same e.1 f.1 = false) := by
  constructor
  · intro h
    cases h with
    | plain hkind => simp [kind] at hkind
    | map hkeys hvalues hdistinct => exact ⟨fun e he => ⟨hkeys e he, hvalues e he⟩, hdistinct⟩
  · rintro ⟨hall, hdistinct⟩
    exact .map (fun e he => (hall e he).1) (fun e he => (hall e he).2) hdistinct

/-- Entries have a class of their like if key and value have their classes. -/
theorem Like.classed (h : Like e f) (hkey : Classed e.1) (hvalue : Classed e.2)
    (hf : FloatFree f.1 ∧ FloatFree f.2) :
    Like f e ∧ ∀ g : Value × Value, FloatFree g.1 ∧ FloatFree g.2 → (Like e g ↔ Like f g) := by
  obtain ⟨hkeys, hkeyClass⟩ := hkey f.1 hf.1 h.1
  obtain ⟨hvalues, hvalueClass⟩ := hvalue f.2 hf.2 h.2
  refine ⟨⟨hkeys, hvalues⟩, fun g hg => ?_⟩
  rw [Like, Like, hkeyClass g.1 hg.1, hvalueClass g.2 hg.2]

/-- A key with a class of equals is that of one entry of a map at most. -/
theorem Classed.picks (hkey : Classed key) (hfs : FloatFree (.map fs)) : Picks key fs := by
  intro f hf g hg hkf hkg
  obtain ⟨hall, hdistinct⟩ := floatFree_map_iff.1 hfs
  by_contra hne
  have hsymm : Std.Symm fun f g : Value × Value =>
      ¬(same f.1 g.1 = true ∧ same g.1 f.1 = true) := ⟨fun _ _ h h' => h h'.symm⟩
  have hapart : fs.Pairwise fun f g => ¬(same f.1 g.1 = true ∧ same g.1 f.1 = true) :=
    hdistinct.imp fun h h' => by rw [h] at h'; cases h'.1
  obtain ⟨-, hf'⟩ := hkey f.1 (hall f hf).1 hkf
  obtain ⟨-, hg'⟩ := hkey g.1 (hall g hg).1 hkg
  refine hapart.forall hf hg hne ⟨?_, ?_⟩
  · rw [← hf' g.1 (hall g hg).1, hkg]
  · rw [← hg' f.1 (hall f hf).1, hkf]

/-- **A map is searched for the like of an entry**: the first entry with its key is the only one. -/
theorem sameEntries_iff_covers (h : ∀ e ∈ es, Picks e.1 fs) :
    sameEntries es fs = true ↔ Covers es fs := by
  induction es with
  | nil => simp [sameEntries, Covers]
  | cons e rest ih =>
      obtain ⟨he, hrest⟩ := List.forall_mem_cons.1 h
      rw [sameEntries, Bool.and_eq_true, ih hrest, covers_cons]
      refine and_congr_left fun _ => ?_
      cases hfind : fs.find? fun f => same e.1 f.1 with
      | none =>
          simp only [Bool.false_eq_true, false_iff]
          rintro ⟨f, hf, hkey, -⟩
          exact List.find?_eq_none.1 hfind f hf hkey
      | some f =>
          have hf : f ∈ fs := List.mem_of_find?_eq_some hfind
          have hkey : same e.1 f.1 = true :=
            List.find?_some (p := fun f : Value × Value => same e.1 f.1) hfind
          constructor
          · intro hvalue
            exact ⟨f, hf, hkey, hvalue⟩
          · rintro ⟨g, hg, hkey', hvalue⟩
            rw [he f hf g hg hkey hkey']
            exact hvalue

/-- **A map that is covered by one with as many entries covers it**: since its keys are distinct,
no two of its entries have the same like. -/
theorem Covers.flip (h : Covers es fs) (hlength : es.length = fs.length)
    (hkeys : ∀ e ∈ es, Classed e.1) (hes : FloatFree (.map es)) (hfs : FloatFree (.map fs)) :
    ∀ f ∈ fs, ∃ e ∈ es, Like e f := by
  obtain ⟨hfree, hdistinct⟩ := floatFree_map_iff.1 hes
  obtain ⟨hfree', -⟩ := floatFree_map_iff.1 hfs
  choose! like hmem hlike using h
  have hnodup : (es.map like).Nodup := by
    refine List.pairwise_map.2 (hdistinct.imp_of_mem fun {e e'} he he' hapart heq => ?_)
    have hkey : same e.1 (like e).1 = true := (hlike e he).1
    have hkey' : same e'.1 (like e).1 = true := heq ▸ (hlike e' he').1
    have hlikeFree := (hfree' _ (hmem e he)).1
    -- both keys are equal to the key of the like, and so to each other
    obtain ⟨hback, -⟩ := hkeys e' he' _ hlikeFree hkey'
    obtain ⟨-, hclass⟩ := hkeys e he _ hlikeFree hkey
    rw [hclass e'.1 (hfree e' he').1, hback] at hapart
    cases hapart
  have hsubset : es.map like ⊆ fs := by
    intro f hf
    obtain ⟨e, he, rfl⟩ := List.mem_map.1 hf
    exact hmem e he
  have hperm : (es.map like).Perm fs :=
    (hnodup.subperm hsubset).perm_of_length_le (by simp [hlength])
  intro f hf
  obtain ⟨e, he, rfl⟩ := List.mem_map.1 (hperm.mem_iff.2 hf)
  exact ⟨e, he, hlike e he⟩

end Maps

/-- A map whose keys and values have classes of equals has one itself. -/
theorem classed_map {es : List (Value × Value)} (hkeys : ∀ e ∈ es, Classed e.1)
    (hvalues : ∀ e ∈ es, Classed e.2) (hes : FloatFree (.map es)) : Classed (.map es) := by
  refine classed_of_content .map (fun es fs => es.length == fs.length && sameEntries es fs)
    (fun _ _ => rfl) (fun _ v hv => ?_) fun fs hfs hsame => ?_
  · cases v <;> first | rfl | exact absurd rfl (hv _)
  · obtain ⟨hlength, hsame⟩ := Bool.and_eq_true_iff.1 hsame
    rw [beq_iff_eq] at hlength
    obtain ⟨hfree, -⟩ := floatFree_map_iff.1 hes
    obtain ⟨hfree', -⟩ := floatFree_map_iff.1 hfs
    have hcovers : Covers es fs :=
      (sameEntries_iff_covers fun e he => (hkeys e he).picks hfs).1 hsame
    have hflip := hcovers.flip hlength hkeys hes hfs
    -- a key of the other map is equal to a key of this one, and picks what that one picks
    have hpicks : ∀ gs, FloatFree (.map gs) → ∀ f ∈ fs, Picks f.1 gs := by
      intro gs hgs f hf g hg g' hg' hfg hfg'
      obtain ⟨hfree'', -⟩ := floatFree_map_iff.1 hgs
      obtain ⟨e, he, hlike⟩ := hflip f hf
      obtain ⟨-, hclass⟩ := hkeys e he f.1 (hfree' f hf).1 hlike.1
      rw [← hclass _ (hfree'' _ hg).1] at hfg
      rw [← hclass _ (hfree'' _ hg').1] at hfg'
      exact (hkeys e he).picks hgs g hg g' hg' hfg hfg'
    have hlikes : ∀ e ∈ es, ∀ f ∈ fs, Like e f →
        Like f e ∧ ∀ g : Value × Value, FloatFree g.1 ∧ FloatFree g.2 → (Like e g ↔ Like f g) :=
      fun e he f hf h => h.classed (hkeys e he) (hvalues e he) (hfree' f hf)
    constructor
    · rw [Bool.and_eq_true, beq_iff_eq, sameEntries_iff_covers (hpicks es hes)]
      refine ⟨hlength.symm, fun f hf => ?_⟩
      obtain ⟨e, he, hlike⟩ := hflip f hf
      exact ⟨e, he, (hlikes e he f hf hlike).1⟩
    · intro gs hgs
      obtain ⟨hfree'', -⟩ := floatFree_map_iff.1 hgs
      rw [hlength, Bool.eq_iff_iff, Bool.and_eq_true, Bool.and_eq_true,
        sameEntries_iff_covers fun e he => (hkeys e he).picks hgs,
        sameEntries_iff_covers (hpicks gs hgs)]
      refine and_congr_right fun _ => ⟨fun h f hf => ?_, fun h e he => ?_⟩
      · obtain ⟨e, he, hlike⟩ := hflip f hf
        obtain ⟨g, hg, heg⟩ := h e he
        exact ⟨g, hg, ((hlikes e he f hf hlike).2 g (hfree'' g hg)).1 heg⟩
      · obtain ⟨f, hf, hlike⟩ := hcovers e he
        obtain ⟨g, hg, hfg⟩ := h f hf
        exact ⟨g, hg, ((hlikes e he f hf hlike).2 g (hfree'' g hg)).2 hfg⟩

/-! ### Equality -/

theorem floatFree_list_iff {xs : List Value} : FloatFree (.list xs) ↔ ∀ x ∈ xs, FloatFree x := by
  constructor
  · intro h
    cases h with
    | plain hkind => simp [kind] at hkind
    | list hitems => exact hitems
  · exact .list

theorem floatFree_tuple_iff {xs : List Value} : FloatFree (.tuple xs) ↔ ∀ x ∈ xs, FloatFree x := by
  constructor
  · intro h
    cases h with
    | plain hkind => simp [kind] at hkind
    | tuple hitems => exact hitems
  · exact .tuple

namespace FloatFree

variable {a b c : Value}

/-- **Every value without floats has a class of equals.** -/
theorem classed (ha : FloatFree a) : Classed a := by
  induction ha with
  | plain hkind => exact classed_of_plain hkind
  | list _ ih =>
      refine classed_of_content .list sameItems (fun _ _ => rfl) (fun _ v hv => ?_)
        fun ys hys hsame => ?_
      · cases v <;> first | rfl | exact absurd rfl (hv _)
      · obtain ⟨hsymm, hclass⟩ := classed_items ih ys (floatFree_list_iff.1 hys) hsame
        exact ⟨hsymm, fun zs hzs => hclass zs (floatFree_list_iff.1 hzs)⟩
  | tuple _ ih =>
      refine classed_of_content .tuple sameItems (fun _ _ => rfl) (fun _ v hv => ?_)
        fun ys hys hsame => ?_
      · cases v <;> first | rfl | exact absurd rfl (hv _)
      · obtain ⟨hsymm, hclass⟩ := classed_items ih ys (floatFree_tuple_iff.1 hys) hsame
        exact ⟨hsymm, fun zs hzs => hclass zs (floatFree_tuple_iff.1 hzs)⟩
  | map hkeys hvalues hdistinct ihkeys ihvalues =>
      exact classed_map ihkeys ihvalues (.map hkeys hvalues hdistinct)

end FloatFree

end TemplateEngine.Value
