/-
**Two runs on one state.**

Two runs of a standard tree are twins if their states differ in their inner scopes at most, and
reading a variable finds the same in both.  Twins stay twins: whatever scopes are opened on both
sides, writing to the root, counting cycles and applying filters is the same on both sides.  The
engines of twins have the same templates; the first one may be stricter, and the second one may
follow inclusions more deeply, as long as the errors that tell of it need not be believed.

Main definitions and results:

* `TwoRuns.Indistinct` — stacks of inner scopes in which the same is found;
* `TwoRuns.twins` — runs on one state, but for such stacks;
* `TwoRuns.Indistinct.lawful` — twins satisfy the laws;
* `TwoRuns.Indistinct.onEngines` — **so they do on two engines with the same templates**;
* `TwoRuns.twins_runOn` — what the second twin does, if the first one is to be believed.
-/
import TemplateEngine.Proofs.Scopes

set_option autoImplicit false

namespace TemplateEngine

variable {α : Type}

namespace TwoRuns

/-! ### Twins -/

/-- Stacks of inner scopes in which the same is found, also under scopes that both sides open. -/
structure Indistinct (Stacks : List Scope → List Scope → Prop) : Prop where
  cons {i i' : List Scope} (f : Scope) : Stacks i i' → Stacks (f :: i) (f :: i')
  findSome? {i i' : List Scope} (key : Key) :
    Stacks i i' → i.findSome? (·.find? key) = i'.findSome? (·.find? key)

/-- In one stack the same is found. -/
theorem Indistinct.eq : Indistinct (fun i i' => i = i') where
  cons _ h := by rw [h]
  findSome? _ h := by rw [h]

/-- **Runs of standard trees on one state**, but for inner scopes that `Stacks` ties together.
The second run has to report the errors in `Reported`. -/
def twins (kinds : StandardTag → Bool) (Stacks : List Scope → List Scope → Prop)
    (Reported : Error → Prop) (left right : Surroundings) : TwoRuns where
  values := .all
  Reads _ := True
  Calls _ := True
  Uses kind := kinds kind = true
  trees := .madeOf kinds
  observer _ r := r
  left := left
  right := right
  Reported := Reported
  Strays := True
  Stacks := Stacks
  Frames f f' := f = f'
  Rest s s' := s.withInner [] = s'.withInner []

section Lawful

variable {kinds : StandardTag → Bool} {Stacks : List Scope → List Scope → Prop}
  {Reported : Error → Prop} {left right : Surroundings}

/-- The state of the second twin is that of the first one with other inner scopes. -/
theorem twins_at {i i' : List Scope} {s s' : State} :
    (twins kinds Stacks Reported left right).At i i' s s' ↔
      s.context.inner = i ∧ s' = s.withInner i' := by
  constructor
  · rintro ⟨hs, hs', hrest⟩
    exact ⟨hs, State.eq_of_withInner hs' (Eq.symm hrest)⟩
  · rintro ⟨hs, rfl⟩
    exact ⟨hs, rfl, rfl⟩

namespace Indistinct

/-- Twins find the same. -/
theorem find?_withInner (hstacks : Indistinct Stacks) {i' : List Scope} {s : State}
    (hi : Stacks s.context.inner i') (key : Key) :
    (s.withInner i').context.find? key = s.context.find? key := by
  rw [Context.find?_eq_or, Context.find?_eq_or, hstacks.findSome? key hi]
  rfl

/-- **Twins satisfy the laws** if they read the same moment, the first one is the stricter one if
only one of them is strict, and their templates follow each other wherever some are included. -/
theorem lawful (hstacks : Indistinct Stacks) (hnow : left.now = right.now)
    (hmode : left.strictVariables = right.strictVariables ∨
      (left.strictVariables = true ∧ ∀ name, ¬ Reported (.undefinedVariable name)))
    (htemplate : ∀ name, kinds .include = true →
      (twins kinds Stacks Reported left right).TemplatesFollow (left.template name)
        (right.template name)) : (twins kinds Stacks Reported left right).Lawful where
  stacks_cons {_ _ f _} hi hf := by
    cases hf
    exact hstacks.cons f hi
  frames_empty := rfl
  frames_insert _ hf _ := by
    cases hf
    rfl
  rest_withInner i i' hrest := by
    show State.withInner _ _ = State.withInner _ _
    rw [State.withInner_withInner, State.withInner_withInner]
    exact hrest
  resolve {name} _ := by
    intro i i' hi s s' hat
    obtain ⟨rfl, rfl⟩ := twins_at.1 hat
    show Outcome.Matches _ _ _ (s.context.resolve left.strictVariables name, s)
      ((s.withInner i').context.resolve right.strictVariables name, s.withInner i')
    rw [Context.resolve, Context.resolve, hstacks.find?_withInner hi]
    rcases hmode with hmode | ⟨hstrict, hundefined⟩
    · rw [hmode]
      exact matches_same hat trivial fun _ _ => trivial
    · cases s.context.find? name with
      | some v => exact ⟨trivial, _, rfl, hat⟩
      | none =>
          -- the first run is strict and fails; its error need not be believed
          rw [hstrict]
          exact ⟨fun _ => trivial, fun h => absurd h (hundefined name)⟩
  assign name _ _ := by
    intro i i' _ s s' hat
    obtain ⟨rfl, rfl⟩ := twins_at.1 hat
    exact ⟨trivial, _, rfl, twins_at.2 ⟨rfl, rfl⟩⟩
  advance key _ := by
    intro i i' _ s s' hat
    obtain ⟨rfl, rfl⟩ := twins_at.1 hat
    exact ⟨trivial, _, rfl, twins_at.2 ⟨rfl, rfl⟩⟩
  applyFilter _ _ _ := by
    refine Follows.filtering trivial (fun _ => trivial) hnow fun i i' s s' _ hat => ?_
    obtain ⟨rfl, rfl⟩ := twins_at.1 hat
    rfl
  template := htemplate
  observe _ h := h

/-- **Twins on two engines with the same standard templates.**  The first engine may be the
stricter one, and the second one may follow `more` inclusions inside each other. -/
theorem onEngines (hstacks : Indistinct Stacks) (Reported : Error → Prop) {e e' : Engine}
    (he : e.MadeOf kinds) (htemplates : e'.templates = e.templates)
    (hmode : e.config.strictVariables = e'.config.strictVariables ∨
      (e.config.strictVariables = true ∧ ∀ name, ¬ Reported (.undefinedVariable name)))
    (more : Nat) (hdeep : Reported .tooDeep → more = 0) (now : Moment) (depth : Nat) :
    (twins kinds Stacks Reported (e.surroundings now depth)
      (e'.surroundings now (depth + more))).Lawful := by
  have hsame (name : String) : e'.findTemplate name = e.findTemplate name := by
    rw [Engine.findTemplate, Engine.findTemplate, htemplates]
  refine (twins kinds Stacks Reported (e.surroundings now 0) (e'.surroundings now 0)).lawful_between
    rfl now more hsame hdeep he (fun depth htemplate => ?_) depth
  refine hstacks.lawful (by simp) ?_ fun name _ => htemplate name
  rw [Engine.strictVariables_surroundings, Engine.strictVariables_surroundings]
  exact hmode

end Indistinct

/-! ### What twins do -/

variable {Q : α → Prop}

/-- **The second twin ends as the first one does**, in the state that the first one has reached,
with the inner scopes that it had; only an error that need not be believed says nothing. -/
theorem twins_runOn {r r' : Render α} (h : (twins kinds Stacks Reported left right).Follows Q r r')
    {s : State} {i' : List Scope} (hi : Stacks s.context.inner i')
    (hreported : ∀ x, (r.runOn left s).1 = .error x → Reported x) :
    r'.runOn right (s.withInner i') =
        ((r.runOn left s).1, (r.runOn left s).2.withInner i') ∧
      (r.runOn left s).2.context.inner = s.context.inner := by
  have hstacks : (twins kinds Stacks Reported left right).Stacks s.context.inner
      (s.withInner i').context.inner := hi
  obtain ⟨t', hrun, hat⟩ := h.runOn hstacks rfl hreported
  obtain ⟨hinner, rfl⟩ := twins_at.1 hat
  exact ⟨hrun, hinner⟩

/-- Twins with the same inner scopes end in the same state. -/
theorem twins_runOn_eq {r r' : Render α}
    (h : (twins kinds (fun i i' => i = i') Reported left right).Follows Q r r') {s : State}
    (hreported : ∀ x, (r.runOn left s).1 = .error x → Reported x) :
    r'.runOn right s = r.runOn left s := by
  obtain ⟨hrun, hinner⟩ := twins_runOn h (s := s) rfl hreported
  rwa [State.withInner_inner, ← hinner, State.withInner_inner] at hrun

end Lawful

end TwoRuns

end TemplateEngine
