/-
**A variable of inner scopes that nothing looks up.**

Tags bind variables in the scopes that they open, and what they bind there is gone when the scope
is closed.  A part that does not look up such a variable cannot tell what it is bound to: it ends
alike whatever that is, and leaves the same root, the same cycles and the same notes behind.

So two runs are compared whose inner scopes differ in one variable at most.  What they write goes
to the root, and is the same on both sides.

Main definitions and results:

* `TwoRuns.unread` — runs in inner scopes that agree on every other name;
* `TwoRuns.unread_lawful` — no primitive step tells them apart;
* `Part.Ignores` — **a part that cannot tell what a variable of inner scopes is**;
* `Engine.ignores_part` — every standard tree that does not look the variable up is one.
-/
import TemplateEngine.Proofs.Noninterference
import TemplateEngine.Proofs.Loops.Turns

set_option autoImplicit false

namespace TemplateEngine

/-! ### Runs in scopes that differ in one variable -/

/-- **Runs of standard trees that do not look up `x`**, on one state but for inner scopes that
differ in `x`. -/
def TwoRuns.unread (x : String) (left right : Surroundings) : TwoRuns where
  values := .all
  Reads name := Mention.variable name ≠ .variable x
  Calls name := Mention.filter name ≠ .variable x
  Uses _ := True
  trees := .mentioning (· ≠ .variable x)
  observer _ r := r
  left := left
  right := right
  Reported _ := True
  Strays := True
  Stacks := List.Forall₂ (Scope.AgreesOn (· ≠ x))
  Frames := Scope.AgreesOn (· ≠ x)
  Rest s s' := s.withInner [] = s'.withInner []

namespace TwoRuns

variable {x : String} {left right : Surroundings}

/-- The state of the second run is that of the first one with other inner scopes. -/
theorem unread_at {i i' : List Scope} {s s' : State} :
    (unread x left right).At i i' s s' ↔ s.context.inner = i ∧ s' = s.withInner i' := by
  constructor
  · rintro ⟨hs, hs', hrest⟩
    exact ⟨hs, State.eq_of_withInner hs' (Eq.symm hrest)⟩
  · rintro ⟨hs, rfl⟩
    exact ⟨hs, rfl, rfl⟩

/-- **No primitive step tells the runs apart.** -/
theorem unread_lawful (hnow : left.now = right.now)
    (hmode : left.strictVariables = right.strictVariables)
    (htemplate : ∀ name, (unread x left right).Included name) : (unread x left right).Lawful where
  stacks_cons hi hf := .cons hf hi
  frames_empty _ _ := rfl
  frames_insert key hf _ := hf.insert key _
  rest_withInner i i' hrest := by
    show State.withInner _ _ = State.withInner _ _
    rw [State.withInner_withInner, State.withInner_withInner]
    exact hrest
  resolve {name} hname := by
    refine Follows.resolving trivial (fun _ => trivial) hmode fun i i' s s' hi hat => ?_
    obtain ⟨rfl, rfl⟩ := unread_at.1 hat
    have hne : name ≠ x := fun h => hname (congrArg Mention.variable h)
    rw [Context.find?_eq_or, Context.find?_eq_or, Scope.findSome?_agreesOn hi hne]
    rfl
  assign name _ _ := by
    intro i i' _ s s' hat
    obtain ⟨rfl, rfl⟩ := unread_at.1 hat
    exact ⟨trivial, _, rfl, unread_at.2 ⟨rfl, rfl⟩⟩
  advance key _ := by
    intro i i' _ s s' hat
    obtain ⟨rfl, rfl⟩ := unread_at.1 hat
    exact ⟨trivial, _, rfl, unread_at.2 ⟨rfl, rfl⟩⟩
  applyFilter _ _ _ := by
    refine Follows.filtering trivial (fun _ => trivial) hnow fun i i' s s' _ hat => ?_
    obtain ⟨rfl, rfl⟩ := unread_at.1 hat
    rfl
  template name _ := htemplate name
  observe _ h := h

end TwoRuns

/-! ### Parts that cannot tell -/

/-- **A part that cannot tell what a variable of inner scopes is**: it leaves the scopes around it
alone, and in scopes that differ in this variable it ends alike, with all else the same. -/
structure Part.Ignores (p : Part) (env : Surroundings) (x : String) : Prop where
  keepsScopes : p.KeepsScopes env
  runOn_withInner {s : State} {i : List Scope} :
    List.Forall₂ (Scope.AgreesOn (· ≠ x)) s.context.inner i →
      p.run.runOn env (s.withInner i) =
        ((p.run.runOn env s).1, (p.run.runOn env s).2.withInner i)

namespace Engine

variable {e : Engine} {x : String}

/-- Templates that do not look up the variable cannot tell, either. -/
theorem unread_lawful (he : e.MadeOf fun _ => true)
    (hx : ∀ key n, e.findTemplate key = .ok n → .variable x ∉ n.mentions) (now : Moment)
    (depth : Nat) :
    (TwoRuns.unread x (e.surroundings now depth) (e.surroundings now depth)).Lawful := by
  refine (TwoRuns.unread x (e.surroundings now 0) (e.surroundings now 0)).lawful_between rfl
    now 0 (fun _ => rfl) (fun _ => rfl) (fun key n hn => ⟨he key n hn, ?_⟩)
    (fun depth htemplate => TwoRuns.unread_lawful rfl rfl htemplate) depth
  rintro m hm rfl
  exact hx key n hn hm

/-- **A standard tree that does not look up a variable cannot tell what it is** in inner scopes. -/
theorem ignores_part (he : e.MadeOf fun _ => true)
    (hx : ∀ key n, e.findTemplate key = .ok n → .variable x ∉ n.mentions) {n : Node}
    (hn : n.isMadeOf (fun _ => true) = true) (hnx : .variable x ∉ n.mentions) (now : Moment)
    (depth : Nat) : n.part.Ignores (e.surroundings now depth) x where
  keepsScopes := keepsScopes_part he hn now depth
  runOn_withInner {s i} hi := by
    have hfollows := (unread_lawful he hx now depth).unwatched_node rfl (l := .free)
      ⟨hn, fun m hm hmx => hnx (hmx ▸ hm)⟩
    have hstacks : List.Forall₂ (Scope.AgreesOn (· ≠ x)) s.context.inner
        (s.withInner i).context.inner := hi
    obtain ⟨t', hrun, hat⟩ := hfollows.runOn hstacks rfl fun _ _ => trivial
    obtain ⟨-, rfl⟩ := TwoRuns.unread_at.1 hat
    exact hrun

end Engine

end TemplateEngine
