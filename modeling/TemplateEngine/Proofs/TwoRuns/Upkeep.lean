/-
**What one run keeps up.**

An invariant of a single render is a case of two runs side by side: both start in one state, and
they stay in one state.  An upkeep says what every scope and the rest of the state satisfy; the
first run may be watched, and the watch must not show.

Main definitions and results:

* `Upkeep`, `Upkeep.Good` — what is kept up, and the states in which it holds;
* `Upkeep.Lawful` — what reading, writing and filters have to satisfy;
* `Upkeep.Lawful.onEngine` — then it holds for two runs on an engine;
* `Upkeep.of_follows` — **the two runs have one outcome, and that is a good one**.
-/
import TemplateEngine.Proofs.TwoRuns.Nodes
import TemplateEngine.Proofs.Yields

set_option autoImplicit false

namespace TemplateEngine

/-- **What one run keeps up.** -/
structure Upkeep where
  values : ValueClass
  Uses : StandardTag → Prop
  trees : Discipline values (fun _ => True) (fun _ => True) Uses
  observer : Observer
  /-- Whether an error may tell of a stray signal. -/
  Strays : Prop
  /-- What every inner scope satisfies. -/
  Scoped : Scope → Prop
  /-- What the rest of the state satisfies. -/
  Kept : State → Prop

namespace Upkeep

variable (U : Upkeep) {α : Type} {Q : α → Prop} {left right : Surroundings}

/-- The states in which everything is kept up. -/
def Good (s : State) : Prop := (∀ scope ∈ s.context.inner, U.Scoped scope) ∧ U.Kept s

/-- An outcome in which everything is kept up, with the inner scopes that `s` had. -/
structure GoodEnd (Q : α → Prop) (s : State) (o : Outcome α) : Prop where
  inner : o.2.context.inner = s.context.inner
  kept : U.Kept o.2
  value : Yields Q o.1
  stray (e : Error) : o.1 = .error e → e.isStray = true → U.Strays

/-- One run beside itself: both are in one state, in which everything is kept up. -/
def runs (left right : Surroundings) : TwoRuns where
  values := U.values
  Reads _ := True
  Calls _ := True
  Uses := U.Uses
  trees := U.trees
  observer := U.observer
  left := left
  right := right
  Reported _ := True
  Strays := U.Strays
  Stacks i i' := i = i' ∧ ∀ scope ∈ i, U.Scoped scope
  Frames f f' := f = f' ∧ U.Scoped f
  Rest s s' := s.withInner [] = s'.withInner [] ∧ U.Kept s

variable {U}

/-- The two runs are in one and the same state, which is a good one. -/
theorem good_of_at {i i' : List Scope} (hi : (U.runs left right).Stacks i i') {s s' : State}
    (h : (U.runs left right).At i i' s s') : s = s' ∧ U.Good s := by
  obtain ⟨hs, hs', hrest, hkept⟩ := h
  obtain ⟨hi, hscoped⟩ := hi
  exact ⟨State.eq_of_withInner (hs.trans (hi.trans hs'.symm)) hrest, hs ▸ hscoped, hkept⟩

/-- A step that has one outcome on both sides, and a good one, follows itself. -/
theorem follows {r r' : Render α}
    (h : ∀ s, U.Good s → r.runOn left s = r'.runOn right s ∧ U.GoodEnd Q s (r'.runOn right s)) :
    (U.runs left right).Follows Q r r' := by
  intro i i' hi s s' hs
  obtain ⟨rfl, hgood⟩ := good_of_at hi hs
  obtain ⟨heq, hend⟩ := h s hgood
  obtain ⟨hs, hs', -⟩ := hs
  have hat : (U.runs left right).At i i' (r'.runOn right s).2 (r'.runOn right s).2 :=
    ⟨hend.inner.trans hs, hend.inner.trans hs', rfl, hend.kept⟩
  show Outcome.Matches _ _ _ (r.runOn left s) (r'.runOn right s)
  rw [heq]
  generalize r'.runOn right s = o at hend hat
  cases o with
  | mk result t =>
      cases result with
      | ok a => exact ⟨hend.value a rfl, t, rfl, hat⟩
      | error e => exact ⟨hend.stray e rfl, fun _ => ⟨t, rfl, hat⟩⟩

/-- **Steps that follow each other have one outcome, and that is a good one.** -/
theorem of_follows {r r' : Render α} (h : (U.runs left right).Follows Q r r') {s : State}
    (hs : U.Good s) : r.runOn left s = r'.runOn right s ∧ U.GoodEnd Q s (r'.runOn right s) := by
  have hstack : (U.runs left right).Stacks s.context.inner s.context.inner := ⟨rfl, hs.1⟩
  have hstart : (U.runs left right).At s.context.inner s.context.inner s s :=
    ⟨rfl, rfl, rfl, hs.2⟩
  have hmatch : Outcome.Matches _ _ _ (r.runOn left s) (r'.runOn right s) :=
    h _ _ hstack s s hstart
  cases hrun : r.runOn left s with
  | mk result t =>
      rw [hrun] at hmatch
      cases result with
      | ok a =>
          obtain ⟨ha, t', hrun', hend⟩ := hmatch
          obtain ⟨rfl, -, hkept⟩ := good_of_at hstack hend
          rw [hrun']
          exact ⟨rfl, hend.1, hkept, Yields.pure ha, fun e he => by cases he⟩
      | error e =>
          obtain ⟨hstray, h⟩ := hmatch
          obtain ⟨t', hrun', hend⟩ := h trivial
          obtain ⟨rfl, -, hkept⟩ := good_of_at hstack hend
          rw [hrun']
          exact ⟨rfl, hend.1, hkept, Yields.error e, fun x hx => by cases hx; exact hstray⟩

/-! ### What the primitive steps have to satisfy -/

variable (U) in
/-- **What reading, writing and filters have to satisfy.** -/
structure Lawful : Prop where
  scoped_empty : U.Scoped ∅
  scoped_insert {scope : Scope} {v : Value} (key : Key) :
    U.Scoped scope → U.values.Holds v → U.Scoped (scope.insert key v)
  kept_withInner {s : State} (i : List Scope) : U.Kept s → U.Kept (s.withInner i)
  resolve {s : State} (strict : Bool) (name : String) :
    U.Good s → Yields U.values.Holds (s.context.resolve strict name)
  assign {s : State} {v : Value} (name : String) : U.Uses .assign ∨ U.Uses .capture →
    U.values.Holds v → U.Kept s → U.Kept { s with context := s.context.assign name v }
  advance {s : State} (key : CycleKey) : U.Uses .cycle →
    U.Kept s → U.Kept { s with context := (s.context.advance key).2 }
  applyFilter {s : State} {f : Filter} {filter : String} (now : Moment) {v : Value}
    {params : List Value} : U.Kept s → s.filters.get filter = .ok f → U.values.Holds v →
      (∀ p ∈ params, U.values.Holds p) → Yields U.values.Holds (f.apply now v params) ∧
        ∀ e, f.apply now v params = .error e → e.isStray = true → U.Strays
  observe {left right : Surroundings} {pos : Position} {l : Licence} {r r' : Render Value} :
    (pos = .expression → l = .barred) → (U.runs left right).Follows (U.values.At l) r r' →
      (U.runs left right).Follows (U.values.At l) (U.observer pos r) r'

/-- A step that only reads has a good end. -/
theorem Good.goodEnd {s : State} (hs : U.Good s) {x : Except Error α} (hx : Yields Q x)
    (hstray : ∀ e, x = .error e → e.isStray = true → U.Strays) : U.GoodEnd Q s (x, s) :=
  ⟨rfl, hs.2, hx, hstray⟩

/-- A variable that is not there is no stray signal. -/
theorem isStray_resolve (c : Context) (strict : Bool) (name : String) {e : Error}
    (h : c.resolve strict name = .error e) : e.isStray = false := by
  unfold Context.resolve at h
  split at h
  · cases h
  · split at h
    · cases h
      rfl
    · cases h

/-- A filter that is not there is no stray signal. -/
theorem isStray_get {filters : Registry Filter} {name : String} {e : Error}
    (h : filters.get name = .error e) : e.isStray = false := by
  unfold Registry.get at h
  split at h
  · cases h
  · cases h
    rfl

/-- **The laws of an upkeep are laws of two runs** that read the same mode and moment, if their
templates follow each other. -/
theorem Lawful.runs (hU : U.Lawful) (hstrict : left.strictVariables = right.strictVariables)
    (hnow : left.now = right.now)
    (htemplate : ∀ name, (U.runs left right).TemplatesFollow (left.template name)
      (right.template name)) : (U.runs left right).Lawful where
  stacks_cons {i i' f f'} hi hf := by
    obtain ⟨rfl, hi⟩ := hi
    obtain ⟨rfl, hf⟩ := hf
    refine ⟨rfl, fun scope hscope => ?_⟩
    rcases List.mem_cons.1 hscope with rfl | hscope
    · exact hf
    · exact hi scope hscope
  frames_empty := ⟨rfl, hU.scoped_empty⟩
  frames_insert key hf hv := ⟨hf.1 ▸ rfl, hU.scoped_insert key hf.2 hv⟩
  rest_withInner i i' hrest := ⟨by simpa using hrest.1, hU.kept_withInner i hrest.2⟩
  resolve {name} _ := follows fun s hs => by
    refine ⟨?_, hs.goodEnd (hU.resolve right.strictVariables name hs) fun e he h => ?_⟩
    · show (s.context.resolve left.strictVariables name, s) = _
      rw [hstrict]
      rfl
    · rw [isStray_resolve _ _ _ he] at h
      cases h
  assign name hu hv := follows fun s hs =>
    ⟨rfl, rfl, hU.assign name hu hv hs.2, fun _ _ => trivial, fun e he => by cases he⟩
  advance key hu := follows fun s hs =>
    ⟨rfl, rfl, hU.advance key hu hs.2, fun _ _ => trivial, fun e he => by cases he⟩
  applyFilter {filter v params} _ hv hp := follows fun s hs => by
    refine ⟨?_, ?_⟩
    · show ((s.filters.get filter).bind fun f => f.apply left.now v params, s) = _
      rw [hnow]
      rfl
    · show U.GoodEnd _ s ((s.filters.get filter).bind fun f => f.apply right.now v params, s)
      cases hf : s.filters.get filter with
      | error e =>
          refine hs.goodEnd (Yields.error e) fun x hx h => ?_
          cases hx
          rw [isStray_get hf] at h
          cases h
      | ok f =>
          obtain ⟨hvalue, hstray⟩ := hU.applyFilter right.now hs.2 hf hv hp
          exact hs.goodEnd hvalue hstray
  template name _ := htemplate name
  observe := hU.observe

/-! ### Engines -/

variable (U) in
/-- One run beside itself on an engine; the first one is watched. -/
def onEngine (e : Engine) (now : Moment) (depth : Nat) : TwoRuns :=
  U.runs (e.observedSurroundings U.observer now depth) (e.surroundings now depth)

/-- **The laws hold on an engine whose templates obey.** -/
theorem Lawful.onEngine (hU : U.Lawful) {e : Engine}
    (he : ∀ name n, e.findTemplate name = .ok n → U.trees.Obeys .free n) (now : Moment)
    (depth : Nat) : (U.onEngine e now depth).Lawful := by
  refine TwoRuns.lawful_onEngine (U.onEngine e now 0) e now he (fun depth htemplate => ?_) depth
  -- no depth changes the mode or the moment
  refine hU.runs ?_ ?_ htemplate
  · cases depth <;> rfl
  · cases depth <;> rfl

end Upkeep

end TemplateEngine
