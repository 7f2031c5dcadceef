/-
**What a computation that may fail gives, if it gives anything.**

Operations on values and filters may fail.  A fact about their results goes through their steps
one by one, and failures need no attention.

Main definitions and results:

* `Yields` — whatever a computation gives satisfies a property;
* `Yields.bind`, `Yields.mapM` — steps one after another, and one for each item;
* `Sorting.perm_sort` — **a sort that succeeds gives the elements that it was given**.
-/
import TemplateEngine.Filter.Operation
import TemplateEngine.Value.Sort

set_option autoImplicit false

namespace TemplateEngine

variable {α β ε ε' : Type}

/-- Whatever a computation gives satisfies `P`. -/
def Yields (P : α → Prop) (x : Except ε α) : Prop := ∀ a, x = .ok a → P a

namespace Yields

variable {P : α → Prop} {Q : β → Prop}

theorem pure {a : α} (h : P a) : Yields P (Pure.pure a : Except ε α) := by
  intro b hb
  cases hb
  exact h

theorem error (e : ε) : Yields P (.error e : Except ε α) := by
  intro a ha
  cases ha

/-- Nothing is said of the result. -/
theorem anything (x : Except ε α) : Yields (fun _ => True) x := fun _ _ => trivial

/-- **Steps one after another.** -/
theorem bind {x : Except ε α} {f : α → Except ε β} (hx : Yields P x)
    (hf : ∀ a, P a → Yields Q (f a)) : Yields Q (x >>= f) := by
  cases x with
  | ok a => exact hf a (hx a rfl)
  | error e => exact error e

theorem mono {x : Except ε α} {P' : α → Prop} (hx : Yields P x) (h : ∀ a, P a → P' a) :
    Yields P' x := fun a ha => h a (hx a ha)

/-- The wording of a failure does not matter. -/
theorem mapError {x : Except ε α} (f : ε → ε') (hx : Yields P x) : Yields P (x.mapError f) := by
  cases x with
  | ok a => exact pure (hx a rfl)
  | error e => exact error (f e)

/-- One step for each item. -/
theorem mapM {f : α → Except ε β} {xs : List α} (h : ∀ x ∈ xs, Yields Q (f x)) :
    Yields (fun ys => ∀ y ∈ ys, Q y) (xs.mapM f) := by
  induction xs with
  | nil => exact pure fun y hy => by cases hy
  | cons x rest ih =>
      rw [List.mapM_cons]
      have hrest := ih fun y hy => h y (List.mem_cons_of_mem _ hy)
      refine bind (h x List.mem_cons_self) fun y hy => bind hrest fun ys hys => pure ?_
      intro z hz
      rcases List.mem_cons.1 hz with rfl | hz
      · exact hy
      · exact hys z hz

end Yields

/-! ### Sorting -/

namespace Sorting

variable (smaller : α → α → Except ε Bool)

/-- A run and what follows it are what there was. -/
theorem append_continueRun (down : Bool) (xs : List α) : ∀ last,
    Yields (fun r => r.1 ++ r.2 = xs) (continueRun smaller down last xs) := by
  induction xs with
  | nil => exact fun _ => Yields.pure rfl
  | cons x rest ih =>
      intro last
      refine (Yields.anything _).bind fun answer _ => ?_
      by_cases h : answer = down
      · rw [if_pos h]
        refine (ih x).bind fun r hr => Yields.pure ?_
        rw [List.cons_append, hr]
      · rw [if_neg h]
        exact Yields.pure rfl

theorem perm_initialRun (xs : List α) :
    Yields (fun r => (r.1 ++ r.2).Perm xs) (initialRun smaller xs) := by
  match xs with
  | [] => exact Yields.pure (List.Perm.refl _)
  | [x] => exact Yields.pure (List.Perm.refl _)
  | x :: y :: rest =>
      refine (Yields.anything _).bind fun down _ => ?_
      refine (append_continueRun smaller down rest y).bind fun r hr => Yields.pure ?_
      have hrun : (if down then (x :: y :: r.1).reverse else x :: y :: r.1).Perm (x :: y :: r.1) := by
        cases down with
        | true => exact List.reverse_perm _
        | false => exact List.Perm.refl _
      have hall : x :: y :: r.1 ++ r.2 = x :: y :: rest := by
        rw [List.cons_append, List.cons_append, hr]
      exact hall ▸ hrun.append_right r.2

/-- Inserting adds the element and keeps the others. -/
theorem perm_insertFuel (x : α) (fuel : Nat) : ∀ sorted : List α,
    Yields (fun ys => ys.Perm (x :: sorted)) (insertFuel smaller x fuel sorted) := by
  induction fuel with
  | zero => exact fun _ => Yields.pure (List.Perm.refl _)
  | succ fuel ih =>
      intro sorted
      rw [insertFuel]
      have hsplit := List.take_append_drop (sorted.length / 2) sorted
      split
      · next hright =>
          -- only an empty list has no second half
          have hlen : sorted.length ≤ sorted.length / 2 := List.drop_eq_nil_iff.1 hright
          have hnil : sorted = [] := List.length_eq_zero_iff.1 (by omega)
          rw [hnil]
          exact Yields.pure (List.Perm.refl _)
      · next middle right hright =>
          rw [hright] at hsplit
          generalize sorted.take (sorted.length / 2) = left at hsplit ⊢
          subst hsplit
          refine (Yields.anything _).bind fun answer _ => ?_
          cases answer with
          | true =>
              refine (ih left).bind fun ys hys => Yields.pure ?_
              exact hys.append_right (middle :: right)
          | false =>
              refine (ih right).bind fun ys hys => Yields.pure ?_
              have hmiddle : (left ++ middle :: ys).Perm (left ++ middle :: x :: right) :=
                (hys.cons middle).append_left left
              have hswap : (left ++ middle :: x :: right).Perm (left ++ x :: middle :: right) :=
                (List.Perm.swap x middle right).append_left left
              exact (hmiddle.trans hswap).trans List.perm_middle

theorem perm_insertAll (xs : List α) : ∀ sorted : List α,
    Yields (fun ys => ys.Perm (sorted ++ xs)) (insertAll smaller sorted xs) := by
  induction xs with
  | nil =>
      intro sorted
      rw [List.append_nil]
      exact Yields.pure (List.Perm.refl _)
  | cons x rest ih =>
      intro sorted
      refine (perm_insertFuel smaller x _ sorted).bind fun grown hgrown => ?_
      refine (ih grown).mono fun ys hys => ?_
      exact hys.trans ((hgrown.append_right rest).trans List.perm_middle.symm)

/-- **A sort that succeeds gives the elements that it was given.** -/
theorem perm_sort (xs : List α) : Yields (fun ys => ys.Perm xs) (sort smaller xs) := by
  refine (perm_initialRun smaller xs).bind fun r hr => ?_
  exact (perm_insertAll smaller r.2 r.1).mono fun ys hys => hys.trans hr

end Sorting

end TemplateEngine
