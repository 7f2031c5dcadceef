/-
**When a sort succeeds.**

A comparison may fail, and then the sort fails with it.  A sort does not make all comparisons, so
it need not meet a pair that has no order.  Where comparisons set apart classes of elements it
does: each element is compared with one that has its place already, and **so no sort of elements of
two classes succeeds**, whatever their arrangement.

Main definitions and results:

* `Succeeds` — a computation that gives something;
* `Sorting.AllComparable` — any two elements of a list can be compared;
* `Sorting.sort_succeeds` — the sort of such a list succeeds;
* `Sorting.allComparable_of_sort` — where comparisons set apart classes, no other sort does;
* `Sorting.sort_succeeds_iff` — **so it is the classes that decide**.
-/
import TemplateEngine.Proofs.Yields

set_option autoImplicit false

namespace TemplateEngine

variable {α β ε : Type}

/-- A computation gives something. -/
def Succeeds (x : Except ε α) : Prop := ∃ a, x = .ok a

namespace Succeeds

theorem ok (a : α) : Succeeds (.ok a : Except ε α) := ⟨a, rfl⟩

/-- Steps one after another. -/
theorem bind {x : Except ε α} {f : α → Except ε β} (hx : Succeeds x)
    (hf : ∀ a, x = .ok a → Succeeds (f a)) : Succeeds (x >>= f) := by
  obtain ⟨a, rfl⟩ := hx
  exact hf a rfl

end Succeeds

namespace Sorting

variable {smaller : α → α → Except ε Bool} {xs ys sorted : List α}

/-- **Any two elements of a list can be compared**, in either order. -/
def AllComparable (smaller : α → α → Except ε Bool) (xs : List α) : Prop :=
  xs.Pairwise fun x y => Succeeds (smaller x y) ∧ Succeeds (smaller y x)

/-! ### Sorts that succeed -/

/-- The arrangement of the elements does not matter. -/
theorem AllComparable.perm (h : AllComparable smaller xs) (hperm : ys.Perm xs) :
    AllComparable smaller ys :=
  (List.Perm.pairwise_iff And.symm hperm).2 h

theorem continueRun_succeeds (down : Bool) (h : AllComparable smaller xs) : ∀ last : α,
    (∀ x ∈ xs, Succeeds (smaller x last)) → Succeeds (continueRun smaller down last xs) := by
  induction xs with
  | nil => exact fun _ _ => .ok _
  | cons x rest ih =>
      intro last hlast
      obtain ⟨hx, hrest⟩ := List.pairwise_cons.1 h
      refine (hlast x List.mem_cons_self).bind fun answer _ => ?_
      by_cases hdown : answer = down
      · rw [if_pos hdown]
        exact (ih hrest x fun y hy => (hx y hy).2).bind fun r _ => .ok _
      · rw [if_neg hdown]
        exact .ok _

theorem initialRun_succeeds (h : AllComparable smaller xs) : Succeeds (initialRun smaller xs) := by
  match xs with
  | [] => exact .ok _
  | [x] => exact .ok _
  | x :: y :: rest =>
      obtain ⟨hx, hrest⟩ := List.pairwise_cons.1 h
      obtain ⟨hy, hrest⟩ := List.pairwise_cons.1 hrest
      refine (hx y List.mem_cons_self).2.bind fun down _ => ?_
      exact (continueRun_succeeds down hrest y fun z hz => (hy z hz).2).bind fun r _ => .ok _

theorem insertFuel_succeeds (x : α) (fuel : Nat) : ∀ sorted : List α,
    (∀ y ∈ sorted, Succeeds (smaller x y)) → Succeeds (insertFuel smaller x fuel sorted) := by
  induction fuel with
  | zero => exact fun _ _ => .ok _
  | succ fuel ih =>
      intro sorted h
      rw [insertFuel]
      split
      · exact .ok _
      · next middle right hright =>
          have hmem : ∀ y ∈ middle :: right, y ∈ sorted := fun y hy =>
            List.mem_of_mem_drop (hright ▸ hy)
          refine (h middle (hmem middle List.mem_cons_self)).bind fun answer _ => ?_
          cases answer with
          | true =>
              exact (ih _ fun y hy => h y (List.mem_of_mem_take hy)).bind fun ys _ => .ok _
          | false =>
              have hbehind : ∀ y ∈ right, Succeeds (smaller x y) := fun y hy =>
                h y (hmem y (List.mem_cons_of_mem middle hy))
              exact (ih _ hbehind).bind fun ys _ => .ok _

theorem insertAll_succeeds : ∀ (xs sorted : List α), AllComparable smaller (sorted ++ xs) →
    Succeeds (insertAll smaller sorted xs)
  | [], _, _ => .ok _
  | x :: rest, sorted, h => by
      have hx : ∀ y ∈ sorted, Succeeds (smaller x y) := fun y hy =>
        ((List.pairwise_append.1 h).2.2 y hy x List.mem_cons_self).2
      refine (insertFuel_succeeds x _ sorted hx).bind fun ys hys => ?_
      have hperm : ys.Perm (x :: sorted) := perm_insertFuel smaller x _ sorted ys hys
      -- the elements that have their place and those that wait are still the same
      have hall : (ys ++ rest).Perm (sorted ++ x :: rest) :=
        (hperm.append_right rest).trans List.perm_middle.symm
      exact insertAll_succeeds rest ys (h.perm hall)

/-- **The sort of elements that can be compared succeeds.** -/
theorem sort_succeeds (h : AllComparable smaller xs) : Succeeds (sort smaller xs) := by
  refine (initialRun_succeeds h).bind fun r hr => ?_
  exact insertAll_succeeds r.2 r.1 (h.perm (perm_initialRun smaller xs r hr))

/-! ### Sorts of one class -/

section Classes

-- `C` is a class among the elements with `P`: what is compared with one of the class is in it
variable {P C : α → Prop} (hC : ∀ x y, P x → Succeeds (smaller x y) → C y → C x)

include hC

/-- A run stays in the class of its last element. -/
theorem class_continueRun (down : Bool) (hxs : ∀ x ∈ xs, P x) : ∀ last : α, C last →
      Yields (fun r => ∀ x ∈ r.1, C x) (continueRun smaller down last xs) := by
  induction xs with
  | nil => exact fun _ _ => Yields.pure fun x hx => by cases hx
  | cons x rest ih =>
      intro last hlast
      have hanswer : Yields (fun _ => C x) (smaller x last) := fun answer h =>
        hC x last (hxs x List.mem_cons_self) ⟨answer, h⟩ hlast
      refine hanswer.bind fun answer hx => ?_
      by_cases hdown : answer = down
      · rw [if_pos hdown]
        have hrest := ih (fun y hy => hxs y (List.mem_cons_of_mem x hy)) x hx
        exact hrest.bind fun r hr => Yields.pure (List.forall_mem_cons.2 ⟨hx, hr⟩)
      · rw [if_neg hdown]
        exact Yields.pure fun y hy => by cases hy

/-- What is inserted among elements of a class is in this class. -/
theorem class_insert {x : α} (hx : P x) (hsorted : ∀ y ∈ sorted, C y) (hne : sorted ≠ []) :
    Yields (fun _ => C x) (insert smaller x sorted) := by
  obtain ⟨n, hn⟩ := Nat.exists_eq_succ_of_ne_zero (mt List.length_eq_zero_iff.1 hne)
  rw [insert, hn, insertFuel]
  split
  · next hnil =>
      -- a list that is not empty has a second half
      have hle := List.drop_eq_nil_iff.1 hnil
      omega
  · next middle right hright =>
      have hmiddle : C middle := hsorted middle (List.mem_of_mem_drop (hright ▸ List.mem_cons_self))
      have hanswer : Yields (fun _ => C x) (smaller x middle) := fun answer h =>
        hC x middle hx ⟨answer, h⟩ hmiddle
      refine hanswer.bind fun answer hclass => ?_
      cases answer with
      | true => exact (Yields.anything _).bind fun _ _ => Yields.pure hclass
      | false => exact (Yields.anything _).bind fun _ _ => Yields.pure hclass

/-- What is inserted one by one is in the class of the elements that have their place. -/
theorem class_insertAll : ∀ xs sorted : List α, (∀ x ∈ xs, P x) → (∀ y ∈ sorted, C y) →
    sorted ≠ [] → Yields (fun _ => ∀ x ∈ xs, C x) (insertAll smaller sorted xs)
  | [], _, _, _, _ => fun _ _ x hx => by cases hx
  | x :: rest, sorted, hxs, hsorted, hne => by
      have hinsert : Yields (fun ys => ys.Perm (x :: sorted) ∧ C x) (insert smaller x sorted) :=
        fun ys hys => ⟨perm_insertFuel smaller x _ sorted ys hys,
          class_insert hC (hxs x List.mem_cons_self) hsorted hne ys hys⟩
      refine hinsert.bind fun ys hys => ?_
      obtain ⟨hperm, hx⟩ := hys
      have hplaced : ∀ y ∈ ys, C y := fun y hy =>
        List.forall_mem_cons.2 ⟨hx, hsorted⟩ y (hperm.subset hy)
      have hplacedne : ys ≠ [] := fun h => by
        rw [h] at hperm
        exact List.cons_ne_nil _ _ (List.nil_perm.1 hperm)
      have hrest := class_insertAll rest ys (List.forall_mem_cons.1 hxs).2 hplaced hplacedne
      exact hrest.mono fun _ hrest => List.forall_mem_cons.2 ⟨hx, hrest⟩

/-- The initial run is in the class of the first element. -/
theorem class_initialRun {x y : α} (hxs : ∀ z ∈ x :: y :: xs, P z) (hx : C x) :
    Yields (fun r => r.1 ≠ [] ∧ ∀ z ∈ r.1, C z) (initialRun smaller (x :: y :: xs)) := by
  have hdown : Yields (fun _ => C y) (smaller y x) := fun down h =>
    hC y x (hxs y (List.mem_cons_of_mem x List.mem_cons_self)) ⟨down, h⟩ hx
  refine hdown.bind fun down hy => ?_
  have hrun := class_continueRun hC down
    (fun z hz => hxs z (List.mem_cons_of_mem x (List.mem_cons_of_mem y hz))) y hy
  refine hrun.bind fun r hr => Yields.pure ?_
  have hall : ∀ z ∈ x :: y :: r.1, C z :=
    List.forall_mem_cons.2 ⟨hx, List.forall_mem_cons.2 ⟨hy, hr⟩⟩
  cases down with
  | true =>
      exact ⟨mt List.reverse_eq_nil_iff.1 (List.cons_ne_nil _ _),
        fun z hz => hall z (List.mem_reverse.1 hz)⟩
  | false => exact ⟨List.cons_ne_nil _ _, hall⟩

/-- All elements are in the class of the first one, if there is another one. -/
theorem class_sort {x y : α} (hxs : ∀ z ∈ x :: y :: xs, P z) (hx : C x) :
    Yields (fun _ => ∀ z ∈ x :: y :: xs, C z) (sort smaller (x :: y :: xs)) := by
  have hrun : Yields (fun r => (r.1 ≠ [] ∧ ∀ z ∈ r.1, C z) ∧ (r.1 ++ r.2).Perm (x :: y :: xs))
      (initialRun smaller (x :: y :: xs)) := fun r hr =>
    ⟨class_initialRun hC hxs hx r hr, perm_initialRun smaller _ r hr⟩
  refine hrun.bind fun r hr => ?_
  obtain ⟨⟨hne, hplaced⟩, hperm⟩ := hr
  have hothers : ∀ z ∈ r.2, P z := fun z hz =>
    hxs z (hperm.subset (List.mem_append_right r.1 hz))
  refine (class_insertAll hC r.2 r.1 hothers hplaced hne).mono fun _ hrest z hz => ?_
  rcases List.mem_append.1 (hperm.symm.subset hz) with hz | hz
  · exact hplaced z hz
  · exact hrest z hz

end Classes

/-- The first question of a sort is whether the second element is smaller than the first. -/
theorem asks_sort (x y : α) (xs : List α) :
    Yields (fun _ => Succeeds (smaller y x)) (sort smaller (x :: y :: xs)) := by
  have hrun : Yields (fun _ => Succeeds (smaller y x)) (initialRun smaller (x :: y :: xs)) := by
    have hanswer : Yields (fun _ => Succeeds (smaller y x)) (smaller y x) := fun a h => ⟨a, h⟩
    exact hanswer.bind fun down h => (Yields.anything _).bind fun r _ => Yields.pure h
  exact hrun.bind fun r h ys _ => h

/-- **Where comparisons set apart classes, only a sort of elements of one class succeeds.** -/
theorem allComparable_of_sort {P : α → Prop} (hsymm : ∀ x y, P x → P y → Succeeds (smaller x y) →
      Succeeds (smaller y x))
    (htrans : ∀ x y z, P x → P y → P z → Succeeds (smaller x y) → Succeeds (smaller y z) →
      Succeeds (smaller x z))
    (hxs : ∀ x ∈ xs, P x) : Yields (fun _ => AllComparable smaller xs) (sort smaller xs) := by
  intro ys hys
  match xs with
  | [] => exact List.Pairwise.nil
  | [x] => exact List.pairwise_singleton _ x
  | x :: y :: rest =>
      have hx := hxs x List.mem_cons_self
      have hy := hxs y (List.mem_cons_of_mem x List.mem_cons_self)
      have hyx : Succeeds (smaller y x) := asks_sort x y rest ys hys
      have hxx : Succeeds (smaller x x) := htrans x y x hx hy hx (hsymm y x hy hx hyx) hyx
      -- the class of the first element
      have hclass : ∀ z ∈ x :: y :: rest, P z ∧ Succeeds (smaller z x) :=
        class_sort (C := fun z => P z ∧ Succeeds (smaller z x))
          (fun z w hz hzw hw => ⟨hz, htrans z w x hz hw.1 hx hzw hw.2⟩) hxs ⟨hx, hxx⟩ ys hys
      have hany : ∀ z ∈ x :: y :: rest, ∀ w ∈ x :: y :: rest, Succeeds (smaller z w) := by
        intro z hz w hw
        obtain ⟨hz, hzx⟩ := hclass z hz
        obtain ⟨hw, hwx⟩ := hclass w hw
        exact htrans z x w hz hx hw hzx (hsymm w x hw hx hwx)
      exact List.pairwise_of_forall_mem_list fun z hz w hw => ⟨hany z hz w hw, hany w hw z hz⟩

/-- **Where exactly the elements of one class can be compared, a sort succeeds if and only if it is
given elements of one class.** -/
theorem sort_succeeds_iff {P : α → Prop} {R : α → α → Prop} (hsymm : ∀ x y, R x y → R y x)
    (htrans : ∀ x y z, R x y → R y z → R x z)
    (hcompared : ∀ x y, P x → P y → (Succeeds (smaller x y) ↔ R x y)) (hxs : ∀ x ∈ xs, P x) :
    Succeeds (sort smaller xs) ↔ xs.Pairwise R := by
  constructor
  · rintro ⟨ys, hys⟩
    have hall : AllComparable smaller xs := allComparable_of_sort
      (fun x y hx hy h => (hcompared y x hy hx).2 (hsymm x y ((hcompared x y hx hy).1 h)))
      (fun x y z hx hy hz hxy hyz => (hcompared x z hx hz).2
        (htrans x y z ((hcompared x y hx hy).1 hxy) ((hcompared y z hy hz).1 hyz)))
      hxs ys hys
    exact hall.imp_of_mem fun hx hy h => (hcompared _ _ (hxs _ hx) (hxs _ hy)).1 h.1
  · intro h
    refine sort_succeeds (h.imp_of_mem fun {x y} hx hy hxy => ?_)
    exact ⟨(hcompared x y (hxs x hx) (hxs y hy)).2 hxy,
      (hcompared y x (hxs y hy) (hxs x hx)).2 (hsymm x y hxy)⟩

end Sorting

end TemplateEngine
