/-
**The sort is stable.**

Where every comparison tells which of two elements has the lower rank, in a linear order of ranks,
a sort succeeds and puts the elements in the order of their ranks, those of one rank in the order
in which they stood.  Only one arrangement of the elements is like that, so nothing else about the
order in which they stood can be seen in the result.

Each step of the sort keeps one invariant up: some elements have their places, in order of rank,
the others wait, and of every rank the elements stand as they stood at the start.

Main definitions and results:

* `Sorting.Asks` — comparisons of ranks;
* `Sorting.Placing` — the invariant, `Sorting.StablySorted` — what is left of it when none waits;
* `Sorting.initialRun_placing`, `Sorting.Placing.insert`, `Sorting.Placing.insertAll` — the run, one
  insertion and all of them;
* `Sorting.sort_stablySorted` — **the sort is stable**;
* `Sorting.StablySorted.unique` — **there is only one stable arrangement**.
-/
import Mathlib.Data.List.Basic
import Mathlib.Order.BoundedOrder.Basic
import Mathlib.Order.Lattice
import TemplateEngine.Proofs.Yields

set_option autoImplicit false

namespace TemplateEngine.Sorting

variable {α κ ε : Type} [LinearOrder κ] {rank : α → κ} {smaller : α → α → Except ε Bool}
  {xs ys out out' placed waiting : List α} {x : α}

/-- **Comparisons of ranks**: any two of some elements can be compared, and the one is smaller if
it has the lower rank. -/
def Asks (smaller : α → α → Except ε Bool) (rank : α → κ) (xs : List α) : Prop :=
  ∀ x ∈ xs, ∀ y ∈ xs, smaller x y = .ok (decide (rank x < rank y))

/-- Fewer elements are compared in the same way. -/
theorem Asks.mono (h : Asks smaller rank xs) (hys : ∀ y ∈ ys, y ∈ xs) : Asks smaller rank ys := by
  intro x hx y hy
  exact h x (hys x hx) y (hys y hy)

/-! ### Elements that have their places -/

/-- **Some elements have their places and the others wait**: together they are `xs`, and of every
rank they stand as they stand in `xs`. -/
structure Placing (rank : α → κ) (xs placed waiting : List α) : Prop where
  perm : (placed ++ waiting).Perm xs
  sorted : placed.Pairwise fun a b => rank a ≤ rank b
  stable (k : κ) : (placed ++ waiting).filter (rank · = k) = xs.filter (rank · = k)

/-- **All elements have their places**: they are in the order of their ranks, those of one rank in
the order in which they stand in `xs`. -/
structure StablySorted (rank : α → κ) (xs out : List α) : Prop where
  perm : out.Perm xs
  sorted : out.Pairwise fun a b => rank a ≤ rank b
  stable (k : κ) : out.filter (rank · = k) = xs.filter (rank · = k)

/-- Where none waits, all have their places. -/
theorem Placing.stablySorted (h : Placing rank xs out []) : StablySorted rank xs out := by
  obtain ⟨hperm, hsorted, hstable⟩ := h
  simp only [List.append_nil] at hperm hstable
  exact ⟨hperm, hsorted, hstable⟩

/-- What is in order already has its places. -/
theorem StablySorted.self (h : xs.Pairwise fun a b => rank a ≤ rank b) : StablySorted rank xs xs :=
  ⟨.refl _, h, fun _ => rfl⟩

/-- Sorting things by the ranks of what is in them sorts what is in them. -/
theorem StablySorted.map {β : Type} {rank' : β → κ} (f : α → β) (hf : ∀ x, rank' (f x) = rank x)
    (h : StablySorted rank xs out) : StablySorted rank' (xs.map f) (out.map f) := by
  refine ⟨h.perm.map f, ?_, ?_⟩
  · rw [List.pairwise_map]
    simpa only [hf] using h.sorted
  · intro k
    have hfilter : ∀ ys : List α,
        (ys.map f).filter (rank' · = k) = (ys.filter (rank · = k)).map f := by
      intro ys
      simp only [List.filter_map, Function.comp_def, hf]
    rw [hfilter, hfilter, h.stable k]

/-- If all elements with `q` have `p`, they are found among those with `p`, and none of them among
the others. -/
theorem filter_of_imp {p q : α → Bool} (h : ∀ x ∈ xs, q x = true → p x = true) :
    (xs.filter p).filter q = xs.filter q ∧ (xs.filter fun x => !p x).filter q = [] := by
  rw [List.filter_filter, List.filter_filter]
  constructor
  · refine List.filter_congr fun x hx => ?_
    cases hq : q x with
    | false => rfl
    | true => exact h x hx hq
  · rw [List.filter_eq_nil_iff]
    intro x hx hboth
    obtain ⟨hq, hp⟩ := Bool.and_eq_true_iff.1 hboth
    simp [h x hx hq] at hp

/-- **What has the greatest rank may wait till the end**: it stands behind all others, as it
stood. -/
theorem StablySorted.append_last [OrderTop κ] {p : α → Bool}
    (hlast : ∀ x ∈ xs, p x = true ↔ rank x = ⊤)
    (h : StablySorted rank (xs.filter fun x => !p x) out) :
    StablySorted rank xs (out ++ xs.filter p) := by
  have hranks : ∀ x ∈ xs.filter p, rank x = ⊤ := by
    intro x hx
    obtain ⟨hx, hp⟩ := List.mem_filter.1 hx
    exact (hlast x hx).1 hp
  refine ⟨?_, List.pairwise_append.2 ⟨h.sorted, ?_, ?_⟩, ?_⟩
  · have hall : (xs.filter p ++ xs.filter fun x => !p x).Perm xs := List.filter_append_perm p xs
    exact ((h.perm.append_right _).trans List.perm_append_comm).trans hall
  · exact List.pairwise_of_forall_mem_list fun x hx y hy => by rw [hranks x hx, hranks y hy]
  · intro x _ y hy
    rw [hranks y hy]
    exact le_top
  · intro k
    rw [List.filter_append, h.stable k]
    by_cases hk : k = ⊤
    · have hp : ∀ x ∈ xs, decide (rank x = k) = true → p x = true := fun x hx hrank =>
        (hlast x hx).2 ((of_decide_eq_true hrank).trans hk)
      obtain ⟨hsame, hnone⟩ := filter_of_imp hp
      rw [hsame, hnone, List.nil_append]
    · have hp : ∀ x ∈ xs, decide (rank x = k) = true → (!p x) = true := by
        intro x hx hrank
        rw [Bool.not_eq_true', ← Bool.not_eq_true, hlast x hx, of_decide_eq_true hrank]
        exact hk
      obtain ⟨hsame, hnone⟩ := filter_of_imp hp
      simp only [Bool.not_not] at hnone
      rw [hsame, hnone, List.append_nil]

/-! ### The initial run -/

/-- Two elements in the direction of a run: it descends strictly, or it ascends. -/
def InRun (rank : α → κ) (down : Bool) (a b : α) : Prop := decide (rank b < rank a) = down

theorem InRun.trans {down : Bool} {a b c : α} (hab : InRun rank down a b)
    (hbc : InRun rank down b c) : InRun rank down a c := by
  cases down with
  | true =>
      simp only [InRun, decide_eq_true_eq] at hab hbc ⊢
      exact lt_trans hbc hab
  | false =>
      simp only [InRun, decide_eq_false_iff_not, not_lt] at hab hbc ⊢
      exact le_trans hab hbc

/-- A run goes on in its direction, and nothing is lost. -/
theorem continueRun_inRun (down : Bool) : ∀ {xs : List α} {last : α},
    Asks smaller rank (last :: xs) → ∃ r, continueRun smaller down last xs = .ok r ∧
      r.1 ++ r.2 = xs ∧ (last :: r.1).Pairwise (InRun rank down) := by
  intro xs
  induction xs with
  | nil =>
      intro last _
      exact ⟨([], []), rfl, rfl, List.pairwise_singleton _ _⟩
  | cons x rest ih =>
      intro last h
      have hanswer : smaller x last = .ok (decide (rank x < rank last)) :=
        h x (by simp) last (by simp)
      have hrest : Asks smaller rank (x :: rest) := h.mono fun y hy => List.mem_cons_of_mem last hy
      by_cases hdown : decide (rank x < rank last) = down
      · obtain ⟨r, hr, happend, hrun⟩ := ih hrest
        refine ⟨(x :: r.1, r.2), ?_, by simp [happend], ?_⟩
        · rw [continueRun, hanswer]
          simp [hdown, hr, bind, Except.bind, pure, Except.pure]
        · refine List.pairwise_cons.2 ⟨?_, hrun⟩
          intro y hy
          rcases List.mem_cons.1 hy with rfl | hy
          · exact hdown
          · exact InRun.trans hdown ((List.pairwise_cons.1 hrun).1 y hy)
      · refine ⟨([], x :: rest), ?_, rfl, List.pairwise_singleton _ _⟩
        rw [continueRun, hanswer]
        simp [hdown, bind, Except.bind, pure, Except.pure]

/-- In a run that descends strictly there is at most one element of each rank, so **turning it
around keeps equals as they stand**. -/
theorem filter_reverse_of_descending (h : xs.Pairwise (InRun rank true)) (k : κ) :
    xs.reverse.filter (rank · = k) = xs.filter (rank · = k) := by
  induction xs with
  | nil => rfl
  | cons x rest ih =>
      obtain ⟨hx, hrest⟩ := List.pairwise_cons.1 h
      rw [List.reverse_cons, List.filter_append, ih hrest]
      by_cases hk : rank x = k
      · have hnone : rest.filter (rank · = k) = [] := by
          rw [List.filter_eq_nil_iff]
          intro y hy
          have hlt : rank y < rank x := of_decide_eq_true (hx y hy)
          simpa [← hk] using ne_of_lt hlt
        simp [hk, hnone]
      · simp [hk]

/-- **The initial run has its place.** -/
theorem initialRun_placing (h : Asks smaller rank xs) :
    ∃ r, initialRun smaller xs = .ok r ∧ Placing rank xs r.1 r.2 := by
  match xs with
  | [] => exact ⟨_, rfl, .refl _, List.Pairwise.nil, fun _ => rfl⟩
  | [x] => exact ⟨_, rfl, .refl _, List.pairwise_singleton _ _, fun _ => rfl⟩
  | x :: y :: rest =>
      have hanswer : smaller y x = .ok (decide (rank y < rank x)) := h y (by simp) x (by simp)
      obtain ⟨r, hr, happend, hrun⟩ := continueRun_inRun (decide (rank y < rank x))
        (h.mono fun z hz => List.mem_cons_of_mem x hz)
      have hinitial : initialRun smaller (x :: y :: rest) =
          .ok (if decide (rank y < rank x) then (x :: y :: r.1).reverse else x :: y :: r.1,
            r.2) := by
        rw [initialRun, hanswer]
        simp only [bind, Except.bind, hr]
        rfl
      -- the first element goes in the direction of the others
      have hall : (x :: y :: r.1).Pairwise (InRun rank (decide (rank y < rank x))) := by
        refine List.pairwise_cons.2 ⟨?_, hrun⟩
        intro z hz
        have hxy : InRun rank (decide (rank y < rank x)) x y := rfl
        rcases List.mem_cons.1 hz with rfl | hz
        · exact hxy
        · exact hxy.trans ((List.pairwise_cons.1 hrun).1 z hz)
      have hlist : x :: y :: r.1 ++ r.2 = x :: y :: rest := by
        simp [happend]
      refine ⟨_, hinitial, perm_initialRun smaller _ _ hinitial, ?_, ?_⟩
      · cases hdown : decide (rank y < rank x) with
        | true =>
            rw [hdown] at hall
            rw [if_pos rfl, List.pairwise_reverse]
            exact hall.imp fun hab => le_of_lt (of_decide_eq_true hab)
        | false =>
            rw [hdown] at hall
            exact hall.imp fun hab => not_lt.1 (of_decide_eq_false hab)
      · intro k
        rw [← hlist, List.filter_append, List.filter_append]
        congr 1
        cases hdown : decide (rank y < rank x) with
        | true =>
            rw [hdown] at hall
            exact filter_reverse_of_descending hall k
        | false => rfl

/-! ### Insertions -/

/-- **An element is inserted behind those of its rank**, wherever the halving leads. -/
theorem insertFuel_behind_equals (fuel : Nat) : ∀ {sorted : List α}, sorted.length ≤ fuel →
    (sorted.Pairwise fun a b => rank a ≤ rank b) →
    (∀ y ∈ sorted, smaller x y = .ok (decide (rank x < rank y))) →
      ∃ before behind, sorted = before ++ behind ∧
        insertFuel smaller x fuel sorted = .ok (before ++ x :: behind) ∧
        (∀ y ∈ before, rank y ≤ rank x) ∧ ∀ y ∈ behind, rank x < rank y := by
  induction fuel with
  | zero =>
      intro sorted hlength _ _
      obtain rfl := List.length_eq_zero_iff.1 (Nat.le_zero.1 hlength)
      exact ⟨[], [], rfl, rfl, by simp, by simp⟩
  | succ fuel ih =>
      intro sorted hlength hsorted hasks
      have hsplit := List.take_append_drop (sorted.length / 2) sorted
      rw [insertFuel]
      split
      · next hright =>
          -- only an empty list has no second half
          have hle := List.drop_eq_nil_iff.1 hright
          obtain rfl : sorted = [] := List.length_eq_zero_iff.1 (by omega)
          exact ⟨[], [], rfl, rfl, by simp, by simp⟩
      · next middle right hright =>
          rw [hright] at hsplit
          generalize hleft : sorted.take (sorted.length / 2) = left at hsplit ⊢
          have hlengths : left.length = sorted.length / 2 := by
            rw [← hleft, List.length_take]
            omega
          subst hsplit
          rw [List.length_append, List.length_cons] at hlength hlengths
          obtain ⟨hsortedleft, hsortedright, hbetween⟩ := List.pairwise_append.1 hsorted
          obtain ⟨hmiddle, hsortedright⟩ := List.pairwise_cons.1 hsortedright
          rw [hasks middle (by simp)]
          by_cases hlt : rank x < rank middle
          · -- the place is in the first half, and the middle element stays behind it
            obtain ⟨before, behind, rfl, hinsert, hbefore, hbehind⟩ := ih (by omega) hsortedleft
              fun y hy => hasks y (by simp [hy])
            refine ⟨before, behind ++ middle :: right, by simp, ?_, hbefore, ?_⟩
            · simp [hlt, hinsert, bind, Except.bind, pure, Except.pure]
            · intro y hy
              rcases List.mem_append.1 hy with hy | hy
              · exact hbehind y hy
              · rcases List.mem_cons.1 hy with rfl | hy
                · exact hlt
                · exact lt_of_lt_of_le hlt (hmiddle y hy)
          · -- the place is in the second half, behind the middle element
            have hle : rank middle ≤ rank x := not_lt.1 hlt
            obtain ⟨before, behind, rfl, hinsert, hbefore, hbehind⟩ := ih (by omega) hsortedright
              fun y hy => hasks y (by simp [hy])
            refine ⟨left ++ middle :: before, behind, by simp, ?_, ?_, hbehind⟩
            · simp [hlt, hinsert, bind, Except.bind, pure, Except.pure]
            · intro y hy
              rcases List.mem_append.1 hy with hy | hy
              · exact le_trans (hbetween y hy middle (by simp)) hle
              · rcases List.mem_cons.1 hy with rfl | hy
                · exact hle
                · exact hbefore y hy

/-- **One insertion**: an element that waits gets its place. -/
theorem Placing.insert (h : Placing rank xs placed (x :: waiting)) (hasks : Asks smaller rank xs) :
    ∃ ys, Sorting.insert smaller x placed = .ok ys ∧ Placing rank xs ys waiting := by
  have hmem : ∀ y ∈ placed ++ x :: waiting, y ∈ xs := fun y hy => h.perm.subset hy
  obtain ⟨before, behind, rfl, hinsert, hbefore, hbehind⟩ := insertFuel_behind_equals (x := x) _
    (Nat.le_refl placed.length) h.sorted fun y hy =>
      hasks x (hmem x (by simp)) y (hmem y (List.mem_append_left _ hy))
  obtain ⟨hsortedbefore, hsortedbehind, hbetween⟩ := List.pairwise_append.1 h.sorted
  refine ⟨_, hinsert, ?_, ?_, ?_⟩
  · refine List.Perm.trans ?_ h.perm
    have hgrown := perm_insertFuel smaller x _ _ _ hinsert
    exact (hgrown.append_right waiting).trans List.perm_middle.symm
  · refine List.pairwise_append.2 ⟨hsortedbefore, List.pairwise_cons.2 ⟨?_, hsortedbehind⟩, ?_⟩
    · intro y hy
      exact le_of_lt (hbehind y hy)
    · intro y hy z hz
      rcases List.mem_cons.1 hz with rfl | hz
      · exact hbefore y hy
      · exact hbetween y hy z hz
  · intro k
    rw [← h.stable k]
    simp only [List.filter_append, List.filter_cons, List.append_assoc]
    by_cases hk : rank x = k
    · -- behind its place there is none of its rank
      have hnone : behind.filter (rank · = k) = [] := by
        rw [List.filter_eq_nil_iff]
        intro y hy
        simpa [← hk] using ne_of_gt (hbehind y hy)
      simp [hk, hnone]
    · simp [hk]

/-- **All insertions**: in the end none waits. -/
theorem Placing.insertAll : ∀ {waiting placed : List α}, Placing rank xs placed waiting →
    Asks smaller rank xs → ∃ out, Sorting.insertAll smaller placed waiting = .ok out ∧
      Placing rank xs out []
  | [], placed, h, _ => ⟨placed, rfl, h⟩
  | x :: rest, placed, h, hasks => by
      obtain ⟨ys, hys, hplacing⟩ := h.insert hasks
      obtain ⟨out, hout, hdone⟩ := hplacing.insertAll hasks
      refine ⟨out, ?_, hdone⟩
      rw [Sorting.insertAll, hys]
      exact hout

/-- **The sort is stable.** -/
theorem sort_stablySorted (h : Asks smaller rank xs) :
    ∃ out, sort smaller xs = .ok out ∧ StablySorted rank xs out := by
  obtain ⟨r, hr, hplacing⟩ := initialRun_placing h
  obtain ⟨out, hout, hdone⟩ := hplacing.insertAll h
  refine ⟨out, ?_, hdone.stablySorted⟩
  rw [sort, hr]
  exact hout

/-! ### There is only one stable arrangement -/

/-- What is in one list is in the other if the lists have the same elements of each rank. -/
theorem mem_of_filter_eq (h : ∀ k, out.filter (rank · = k) = out'.filter (rank · = k))
    (hx : x ∈ out) : x ∈ out' := by
  have hmem : x ∈ out.filter (rank · = rank x) := List.mem_filter.2 ⟨hx, by simp⟩
  rw [h] at hmem
  exact (List.mem_filter.1 hmem).1

/-- The head of a list in the order of rank has the lowest rank. -/
theorem rank_head_le (h : (x :: out).Pairwise fun a b => rank a ≤ rank b) {y : α}
    (hy : y ∈ x :: out) : rank x ≤ rank y := by
  rcases List.mem_cons.1 hy with rfl | hy
  · exact le_refl _
  · exact (List.pairwise_cons.1 h).1 y hy

/-- **Lists in the order of rank are equal if those of each rank stand in the same order.** -/
theorem eq_of_filter_eq : ∀ {out out' : List α}, (out.Pairwise fun a b => rank a ≤ rank b) →
    (out'.Pairwise fun a b => rank a ≤ rank b) →
    (∀ k, out.filter (rank · = k) = out'.filter (rank · = k)) → out = out' := by
  intro out
  induction out with
  | nil =>
      intro out' _ _ h
      refine (List.eq_nil_iff_forall_not_mem.2 fun y hy => ?_).symm
      exact List.not_mem_nil (mem_of_filter_eq (fun k => (h k).symm) hy)
  | cons x rest ih =>
      intro out' hsorted hsorted' h
      cases out' with
      | nil => exact absurd (mem_of_filter_eq h List.mem_cons_self) List.not_mem_nil
      | cons y rest' =>
          -- each head is in the other list, so they have the same rank, the lowest one
          have hxy : rank x ≤ rank y :=
            rank_head_le hsorted (mem_of_filter_eq (fun k => (h k).symm) List.mem_cons_self)
          have hyx : rank y ≤ rank x :=
            rank_head_le hsorted' (mem_of_filter_eq h List.mem_cons_self)
          have hrank : rank y = rank x := le_antisymm hyx hxy
          have hheads := h (rank x)
          rw [List.filter_cons_of_pos (by simp),
            List.filter_cons_of_pos (by simp [hrank])] at hheads
          obtain rfl := (List.cons.inj hheads).1
          have hrests : ∀ k, rest.filter (rank · = k) = rest'.filter (rank · = k) := by
            intro k
            have hk := h k
            by_cases hxk : rank x = k
            · rw [List.filter_cons_of_pos (by simp [hxk]),
                List.filter_cons_of_pos (by simp [hxk])] at hk
              exact (List.cons.inj hk).2
            · rwa [List.filter_cons_of_neg (by simp [hxk]),
                List.filter_cons_of_neg (by simp [hxk])] at hk
          rw [ih hsorted.of_cons hsorted'.of_cons hrests]

/-- **There is only one stable arrangement**: it depends on the order of the elements only within
each rank. -/
theorem StablySorted.unique (h : StablySorted rank xs out) (h' : StablySorted rank ys out')
    (heq : ∀ k, xs.filter (rank · = k) = ys.filter (rank · = k)) : out = out' := by
  refine eq_of_filter_eq h.sorted h'.sorted fun k => ?_
  rw [h.stable k, heq k, h'.stable k]

end TemplateEngine.Sorting
