/-
**States that are alike but for one variable in the root.**

A render of trees that do not look up a variable cannot tell two states apart that differ in the
binding of that variable in the root scope.  It ends alike in both, and the states at its end are
again alike but for that binding: what it writes, it writes to both, under that name as under any
other.

Main definitions and results:

* `State.without` — a state without a binding in the root;
* `TwoRuns.apart` — runs on states that are alike without it;
* `Engine.apart_lawful` — **they stay alike** on an engine whose templates do not look it up.
-/
import TemplateEngine.Proofs.Noninterference
import TemplateEngine.Proofs.Writing

set_option autoImplicit false

namespace TemplateEngine

/-! ### Without a variable -/

/-- The state without the binding of a variable in the root. -/
def State.without (s : State) (x : String) : State :=
  { s with context := { s.context with root := s.context.root.erase x } }

namespace State

variable {s s' : State} {x : String}

/-- Binding the variable does not show without it. -/
theorem without_assign (s : State) (x : String) (v : Value) :
    (s.assign x v).without x = s.without x := by
  have hroot : (s.context.root.insert x v).erase x = s.context.root.erase x := by
    rw [Table.erase_insert, if_pos rfl]
  unfold State.assign without Context.assign
  rw [hroot]

theorem filters_eq_of_without (h : s.without x = s'.without x) : s.filters = s'.filters :=
  congrArg (·.filters) h

theorem inner_eq_of_without (h : s.without x = s'.without x) :
    s.context.inner = s'.context.inner := congrArg (·.context.inner) h

/-- Any other variable has the same value. -/
theorem find?_eq_of_without (h : s.without x = s'.without x) {name : String} (hname : name ≠ x) :
    s.context.find? name = s'.context.find? name := by
  have hroot : (s.context.root.erase x).find? name = (s'.context.root.erase x).find? name :=
    congrArg (fun t : State => t.context.root.find? name) h
  have hkey : (name : Key) ≠ x := fun e => hname (Key.name.inj e)
  rw [Table.find?_erase, Table.find?_erase, if_neg hkey, if_neg hkey] at hroot
  rw [Context.find?_eq_or, Context.find?_eq_or, inner_eq_of_without h, hroot]

/-- Counting a cycle finds the same position on both sides and keeps the states alike. -/
theorem advance_eq_of_without (h : s.without x = s'.without x) (key : CycleKey) :
    (s.context.advance key).1 = (s'.context.advance key).1 ∧
      State.without { s with context := (s.context.advance key).2 } x =
        State.without { s' with context := (s'.context.advance key).2 } x := by
  have hadvance (t : State) : t.context.advance key =
      (((t.without x).context.advance key).1, { t.context with
        cycles := ((t.without x).context.advance key).2.cycles }) := rfl
  rw [hadvance s, hadvance s', h]
  refine ⟨rfl, ?_⟩
  exact congrArg (fun t : State => { t with context := { t.context with
    cycles := ((s'.without x).context.advance key).2.cycles } }) h

/-- Binding the same on both sides keeps the states alike. -/
theorem without_assign_congr (h : s.without x = s'.without x) (name : String) (v : Value) :
    (s.assign name v).without x = (s'.assign name v).without x := by
  by_cases hname : name = x
  · rw [hname, without_assign, without_assign, h]
  · have hkey : (name : Key) ≠ x := fun e => hname (Key.name.inj e)
    have hroot (t : State) :
        (t.assign name v).without x = (t.without x).assign name v := by
      unfold State.assign without Context.assign
      simp only [Table.erase_insert, if_neg hkey]
    rw [hroot, hroot, h]

end State

/-! ### Runs on such states -/

/-- **Runs of standard trees that do not look up `x`**, on states that are alike but for the
binding of `x` in the root; they call the filters in `filters`. -/
def TwoRuns.apart (x : String) (filters : Registry Filter) (left right : Surroundings) :
    TwoRuns where
  values := .all
  Reads name := Mention.variable name ≠ .variable x
  Calls name := Mention.filter name ≠ .variable x
  Uses _ := True
  trees := .mentioning (· ≠ .variable x)
  observer _ r := r
  left := left
  right := right
  Reported _ := True
  Strays := True
  Stacks i i' := i = i'
  Frames f f' := f = f'
  Rest s s' := (s.withInner []).without x = (s'.withInner []).without x ∧ s.filters = filters

namespace TwoRuns

variable {x : String} {filters : Registry Filter} {left right : Surroundings}

/-- The states of the two runs. -/
theorem apart_at {i : List Scope} {s s' : State} :
    (apart x filters left right).At i i s s' ↔
      s.context.inner = i ∧ s.without x = s'.without x ∧ s.filters = filters := by
  constructor
  · rintro ⟨hs, hs', hrest, hfilters⟩
    refine ⟨hs, State.eq_of_withInner (hs.trans hs'.symm) hrest, hfilters⟩
  · rintro ⟨hs, hrest, hfilters⟩
    refine ⟨hs, (State.inner_eq_of_without hrest).symm.trans hs, ?_, hfilters⟩
    exact congrArg (·.withInner []) hrest

/-- **Being alike is kept up by every primitive step.** -/
theorem apart_lawful (hnow : left.now = right.now)
    (hmode : left.strictVariables = right.strictVariables)
    (htemplate : ∀ name, (apart x filters left right).Included name) :
    (apart x filters left right).Lawful where
  stacks_cons hi hf := by
    cases hi
    cases hf
    rfl
  frames_empty := rfl
  frames_insert _ hf _ := by
    cases hf
    rfl
  rest_withInner _ _ hrest := hrest
  resolve {name} hname := by
    refine Follows.resolving trivial (fun _ => trivial) hmode ?_
    rintro i _ s s' rfl hat
    have hne : name ≠ x := fun h => hname (congrArg Mention.variable h)
    exact State.find?_eq_of_without (apart_at.1 hat).2.1 hne
  assign {v} name _ _ := by
    rintro i _ rfl s s' hat
    obtain ⟨hs, hrest, hfilters⟩ := apart_at.1 hat
    exact ⟨trivial, s'.assign name v, rfl,
      apart_at.2 ⟨hs, State.without_assign_congr hrest name v, hfilters⟩⟩
  advance key _ := by
    rintro i _ rfl s s' hat
    obtain ⟨hs, hrest, hfilters⟩ := apart_at.1 hat
    obtain ⟨hposition, hadvanced⟩ := State.advance_eq_of_without hrest key
    refine ⟨trivial, { s' with context := (s'.context.advance key).2 }, ?_,
      apart_at.2 ⟨hs, hadvanced, hfilters⟩⟩
    show (Except.ok (s'.context.advance key).1, _) = (Except.ok (s.context.advance key).1, _)
    rw [hposition]
    rfl
  applyFilter _ _ _ := by
    refine Follows.filtering trivial (fun _ => trivial) hnow ?_
    rintro i _ s s' rfl hat
    rw [State.filters_eq_of_without (apart_at.1 hat).2.1]
  template name _ := htemplate name
  observe _ h := h

/-- **Runs from states that are alike but for `x` end alike**, in states that are so again, with
the inner scopes and filters that there were. -/
theorem apart_runOn {α : Type} {Q : α → Prop} {r r' : Render α} {s s' : State}
    (h : (apart x s.filters left right).Follows Q r r') (hs : s.without x = s'.without x) :
    ∃ t', r'.runOn right s' = ((r.runOn left s).1, t') ∧
      (r.runOn left s).2.without x = t'.without x ∧ (r.runOn left s).2.filters = s.filters := by
  have hstart : (apart x s.filters left right).At s.context.inner s.context.inner s s' :=
    apart_at.2 ⟨rfl, hs, rfl⟩
  have hstacks : (apart x s.filters left right).Stacks s.context.inner s'.context.inner :=
    State.inner_eq_of_without hs
  obtain ⟨t', hrun, hinner, hinner', hrest⟩ := h.runOn hstacks hstart.2.2 fun _ _ => trivial
  have hat : (apart x s.filters left right).At s.context.inner s.context.inner
      (r.runOn left s).2 t' := ⟨hinner, hinner'.trans (State.inner_eq_of_without hs).symm, hrest⟩
  exact ⟨t', hrun, (apart_at.1 hat).2⟩

end TwoRuns

/-! ### Engines -/

namespace Engine

variable {e : Engine} {x : String}

/-- **Templates that do not look up the variable stay alike, too.** -/
theorem apart_lawful (he : e.MadeOf fun _ => true)
    (hx : ∀ key n, e.findTemplate key = .ok n → .variable x ∉ n.mentions)
    (filters : Registry Filter) (now : Moment) (depth : Nat) :
    (TwoRuns.apart x filters (e.surroundings now depth) (e.surroundings now depth)).Lawful := by
  refine (TwoRuns.apart x filters (e.surroundings now 0) (e.surroundings now 0)).lawful_between rfl
    now 0 (fun _ => rfl) (fun _ => rfl) (fun key n hn => ⟨he key n hn, ?_⟩)
    (fun depth htemplate => TwoRuns.apart_lawful rfl rfl htemplate) depth
  rintro m hm rfl
  exact hx key n hn hm

end Engine

end TemplateEngine
