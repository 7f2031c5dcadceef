/-
**To include a template is to render it in place.**

An inclusion without a value opens an empty scope and renders the template in it.  What the
template writes goes to the root, below that scope, and the scopes that it opens lie above it, so
nobody can tell that the empty scope is there: it may be taken out wherever it lies.

An inclusion is rendered one level further down than what stands beside it, and an engine gives
up at some level.  A render that does not get there is the same with more levels.

Main results:

* `TwoRuns.Indistinct.emptyScope`, `Engine.runOn_emptyScope` — **an empty scope is not seen**;
* `Engine.runOn_deeper` — more levels do not change a render that ends without them;
* `Engine.include_eq_inline` — both together: inclusion is rendering in place.
-/
import TemplateEngine.Proofs.TwoRuns.Twins

set_option autoImplicit false

namespace TemplateEngine

/-! ### Empty scopes -/

/-- The second stack is the first one without an empty scope. -/
def TwoRuns.EmptyScopeOut (i i' : List Scope) : Prop :=
  ∃ above below, i = above ++ ∅ :: below ∧ i' = above ++ below

/-- **In an empty scope nothing is found**, wherever it lies. -/
theorem TwoRuns.Indistinct.emptyScope : Indistinct EmptyScopeOut where
  cons f := by
    rintro ⟨above, below, rfl, rfl⟩
    exact ⟨f :: above, below, rfl, rfl⟩
  findSome? key := by
    rintro ⟨above, below, rfl, rfl⟩
    rw [List.findSome?_append, List.findSome?_append, List.findSome?_cons]
    rfl

namespace Engine

variable {e : Engine} {n : Node}

/-- **An empty scope among the inner ones is not seen**: a standard tree gives the same value or
error without it, and does the same to the rest of the state. -/
theorem runOn_emptyScope (he : e.MadeOf fun _ => true) (hn : n.isMadeOf (fun _ => true) = true)
    (now : Moment) (depth : Nat) (s : State) (above below : List Scope) :
    n.render.runOn (e.surroundings now depth) (s.withInner (above ++ below)) =
      let o := n.render.runOn (e.surroundings now depth) (s.withInner (above ++ ∅ :: below))
      (o.1, o.2.withInner (above ++ below)) := by
  have hT := TwoRuns.Indistinct.emptyScope.onEngines (fun _ => True) he rfl (.inl rfl) 0
    (fun _ => rfl) now depth
  have hfollows := hT.unwatched_node rfl (l := .free) hn
  exact (TwoRuns.twins_runOn hfollows (s := s.withInner (above ++ ∅ :: below))
    ⟨above, below, rfl, rfl⟩ fun _ _ => trivial).1

/-! ### Levels -/

/-- **More levels do not change a render that ends without them.** -/
theorem runOn_deeper (he : e.MadeOf fun _ => true) (hn : n.isMadeOf (fun _ => true) = true)
    (now : Moment) {depth : Nat} (more : Nat) {s : State}
    (hends : (n.render.runOn (e.surroundings now depth) s).1 ≠ .error .tooDeep) :
    n.render.runOn (e.surroundings now (depth + more)) s =
      n.render.runOn (e.surroundings now depth) s := by
  have hT := TwoRuns.Indistinct.eq.onEngines (fun x => x ≠ .tooDeep) he rfl (.inl rfl) more
    (fun h => absurd rfl h) now depth
  exact TwoRuns.twins_runOn_eq (hT.unwatched_node rfl (l := .free) hn)
    fun x hx h => hends (by rw [hx, h])

/-! ### Inclusion -/

/-- The inclusion of the template with a name, without a value. -/
def inclusion (t : Tag) (name : String) : Node := .tag t [.literal (.str name)]

section Inclusion

variable {name : String} {t : Tag}

/-- An inclusion renders its template in place, one level further down. -/
theorem runOn_inclusion (he : e.MadeOf fun _ => true) (now : Moment)
    (hname : e.findTemplate name = .ok n) (ht : t.body = .standard .include) (depth : Nat)
    (s : State) :
    (inclusion t name).render.runOn (e.surroundings now (depth + 1)) s =
      n.render.runOn (e.surroundings now depth) s := by
  have hn := he name n hname
  have hkeeps := (keeps_node he hn now depth (s.withInner (∅ :: s.context.inner))).inner
  have hunseen := runOn_emptyScope he hn now depth s [] s.context.inner
  rw [List.nil_append, State.withInner_inner, List.nil_append] at hunseen
  rw [inclusion, Node.render_tag, Tag.run_of_standard ht, StandardTag.run,
    includeTag_template (Render.runOn_text_literal _ s name) hname (Prod.eta _).symm, hkeeps, hunseen]
  rfl

/-- An inclusion that ends before the engine gives up is a render in place on the same level. -/
theorem runOn_inclusion_of_ends (he : e.MadeOf fun _ => true) (now : Moment)
    (hname : e.findTemplate name = .ok n) (ht : t.body = .standard .include) {depth : Nat}
    {s : State}
    (hends : ((inclusion t name).render.runOn (e.surroundings now depth) s).1 ≠ .error .tooDeep) :
    (inclusion t name).render.runOn (e.surroundings now depth) s =
      n.render.runOn (e.surroundings now depth) s := by
  cases depth with
  | zero =>
      rw [inclusion, Node.render_tag, Tag.run_of_standard ht, StandardTag.run,
        includeTag_zero (Render.runOn_text_literal _ s name) hname] at hends
      exact absurd rfl hends
  | succ depth =>
      rw [runOn_inclusion he now hname ht] at hends ⊢
      exact (runOn_deeper he (he name n hname) now 1 hends).symm

/-- **To include a template is to render it in place.**  The inclusion has the same outcome, a
value or an error in the same state, as the template by itself one level further down; if it
ends, also on the same level.  This is so because no standard tree sees an empty scope. -/
theorem include_eq_inline (he : e.MadeOf fun _ => true) (now : Moment)
    (hname : e.findTemplate name = .ok n) (ht : t.body = .standard .include) (s : State) :
    (∀ depth, (inclusion t name).render.runOn (e.surroundings now (depth + 1)) s =
      n.render.runOn (e.surroundings now depth) s) ∧
    (∀ depth,
      ((inclusion t name).render.runOn (e.surroundings now depth) s).1 ≠ .error .tooDeep →
        (inclusion t name).render.runOn (e.surroundings now depth) s =
          n.render.runOn (e.surroundings now depth) s) ∧
    (∀ m : Node, m.isMadeOf (fun _ => true) = true → ∀ depth above below,
      m.render.runOn (e.surroundings now depth) (s.withInner (above ++ below)) =
        let o := m.render.runOn (e.surroundings now depth) (s.withInner (above ++ ∅ :: below))
        (o.1, o.2.withInner (above ++ below))) :=
  ⟨fun depth => runOn_inclusion he now hname ht depth s,
    fun _ => runOn_inclusion_of_ends he now hname ht,
    fun _ hm depth above below => runOn_emptyScope he hm now depth s above below⟩

/-- An engine with a template that writes to the root from inside a loop, and then leaves the loop
around it. -/
def writing : Engine :=
  { Engine.new {} with
    templates := Table.ofList [("part", .block
      [.tag (.ofStandard .for)
        [.text "i", .literal (.list [.int 1, .int 2]),
          .tag (.ofStandard .assign) [.text "x", .lookup "i" []]],
        .lookup "y" [], .signal .break])] }

/-- A state inside a scope that binds a variable. -/
def writingState : State := writing.start ⟨[Table.ofList [("y", .str "!")]], ∅, ∅, []⟩ ∅

/-- The inclusion sees the variable around it, leaves the loop behind its text, and writes to the
root; on the same level the template by itself does no less. -/
theorem include_eq_inline_writing :
    (writing.MadeOf fun _ => true) ∧
      ((inclusion (.ofStandard .include) "part").render.runOn (writing.surroundings default 1)
        writingState).1 = .ok (.interrupted "!" .break) ∧
      ((inclusion (.ofStandard .include) "part").render.runOn (writing.surroundings default 1)
        writingState).2.context.root.find? "x" = some (.int 2) ∧
      (∀ n, writing.findTemplate "part" = .ok n →
        (inclusion (.ofStandard .include) "part").render.runOn (writing.surroundings default 1)
          writingState = n.render.runOn (writing.surroundings default 1) writingState) := by
  have he : writing.MadeOf fun _ => true := by
    intro name n hn
    obtain ⟨-, rfl⟩ := Prod.mk.inj (List.mem_singleton.1 (mem_of_findTemplate rfl hn))
    rfl
  obtain ⟨hbelow, hsame, -⟩ := include_eq_inline he default (n := _) (t := .ofStandard .include)
    (show writing.findTemplate "part" = _ from rfl) rfl writingState
  have hvalue : ((inclusion (.ofStandard .include) "part").render.runOn
      (writing.surroundings default 1) writingState).1 = .ok (.interrupted "!" .break) := by
    rw [hbelow 0]
    rfl
  refine ⟨he, hvalue, ?_, fun n hn => ?_⟩
  · rw [hbelow 0]
    rfl
  · cases hn
    exact hsame 1 fun hdeep => by rw [hvalue] at hdeep; cases hdeep

end Inclusion

end Engine

end TemplateEngine
