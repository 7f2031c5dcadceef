/-
**A pipe in two pieces.**

The first stages of a pipe may be assigned to a variable and the others applied to that variable.
The two pieces do the work in another order: in one pipe all parameters are evaluated before the
first filter runs, in two the first filters run before the parameters of the others are evaluated.
Filters neither read nor change the context, and parameters that do not look up the variable do
not see it; so one way succeeds if the other does, with the same value.

Main definitions and results:

* `Registry.pipe` — what the filters of a pipe make of a value, as a function;
* `Node.prepare` — what a pipe is given before its filters run;
* `Engine.pipe_split` — **a pipe in two pieces does what it does in one**.
-/
import TemplateEngine.Proofs.Apart

set_option autoImplicit false

namespace TemplateEngine

/-! ### Pipes -/

/-- What the stages of a pipe make of a value. -/
def Registry.pipe (filters : Registry Filter) (now : Moment) (v : Value) :
    List Stage → Except Error Value
  | [] => .ok v
  | stage :: rest => do
      let w ← (filters.get stage.filter).bind fun f => f.apply now v stage.params
      filters.pipe now w rest

/-- A value goes through the first stages of a pipe and then through the others. -/
theorem Registry.pipe_append (filters : Registry Filter) (now : Moment) (v : Value)
    (stages more : List Stage) : filters.pipe now v (stages ++ more) =
      (filters.pipe now v stages).bind fun w => filters.pipe now w more := by
  induction stages generalizing v with
  | nil => rfl
  | cons stage rest ih =>
      rw [List.cons_append, pipe, pipe]
      cases (filters.get stage.filter).bind fun f => f.apply now v stage.params with
      | error x => rfl
      | ok w => exact ih w

section Append

variable {filters : Registry Filter} {now : Moment} {v : Value} {stages : List Stage}

theorem Registry.pipe_append_of_ok {w : Value} (h : filters.pipe now v stages = .ok w)
    (more : List Stage) : filters.pipe now v (stages ++ more) = filters.pipe now w more := by
  rw [pipe_append, h]
  rfl

theorem Registry.pipe_append_of_error {y : Error} (h : filters.pipe now v stages = .error y)
    (more : List Stage) : filters.pipe now v (stages ++ more) = .error y := by
  rw [pipe_append, h]
  rfl

end Append

/-- **Filters neither read nor change the context.** -/
theorem runOn_applyStages (env : Surroundings) (s : State) (v : Value) (stages : List Stage) :
    (applyStages v stages).runOn env s = (s.filters.pipe env.now v stages, s) := by
  induction stages generalizing v with
  | nil => rfl
  | cons stage rest ih =>
      rw [applyStages, Render.runOn_bind, Render.runOn_applyFilter, Registry.pipe]
      cases (s.filters.get stage.filter).bind fun f => f.apply env.now v stage.params with
      | error x => rfl
      | ok w => exact ih w

/-- The parameters of a pipe are evaluated stage after stage. -/
theorem evaluateStages_append (ps qs : List Part) : evaluateStages (ps ++ qs) = (do
    let stages ← evaluateStages ps
    let more ← evaluateStages qs
    return stages ++ more) := by
  induction ps with
  | nil => simp [evaluateStages]
  | cons p rest ih =>
      cases p with
      | stage filter params =>
          simp only [List.cons_append, evaluateStages, ih, bind_assoc, pure_bind]
      | content r => rfl
      | «attribute» name r => rfl

namespace Node

/-- What a pipe is given before its filters run: the value, and the stages with their parameters. -/
def prepare (expression : Node) (stages : List Node) : Render (Value × List Stage) := do
  let v ← expression.render
  let evaluated ← evaluateStages (parts stages)
  return (v, evaluated)

variable (env : Surroundings) (s : State)

/-- A longer pipe is given more stages. -/
theorem runOn_output_append (expression : Node) (fs gs : List Node) :
    (output expression (fs ++ gs)).render.runOn env s =
      match (prepare expression fs).runOn env s with
      | (.ok (v, stages), t) =>
          match (evaluateStages (parts gs)).runOn env t with
          | (.ok more, u) => (u.filters.pipe env.now v (stages ++ more), u)
          | (.error x, u) => (.error x, u)
      | (.error x, t) => (.error x, t) := by
  have hrender : (output expression (fs ++ gs)).render = (do
      let p ← prepare expression fs
      let more ← evaluateStages (parts gs)
      applyStages p.1 (p.2 ++ more)) := by
    rw [render_output, prepare]
    simp only [runPipe, parts_eq_map, List.map_append, evaluateStages_append, bind_assoc, pure_bind]
  rw [hrender, Render.runOn_bind]
  obtain ⟨result, t⟩ := (prepare expression fs).runOn env s
  cases result with
  | error x => rfl
  | ok p =>
      show (evaluateStages (parts gs) >>= fun more => applyStages p.1 (p.2 ++ more)).runOn env t = _
      rw [Render.runOn_bind]
      cases hmore : (evaluateStages (parts gs)).runOn env t with
      | mk result u =>
          cases result with
          | error x => simp only [hmore]
          | ok more => simp only [hmore, runOn_applyStages]

/-- The value of a variable goes through a pipe. -/
theorem runOn_output_lookup {x : String} {w : Value} (hx : s.context.find? x = some w)
    (gs : List Node) :
    (output (lookup x []) gs).render.runOn env s =
      match (evaluateStages (parts gs)).runOn env s with
      | (.ok more, u) => (u.filters.pipe env.now w more, u)
      | (.error y, u) => (.error y, u) := by
  rw [render_output, Render.runOn_bind_ok _ _ (runOn_lookup env hx), runPipe, Render.runOn_bind]
  obtain ⟨result, u⟩ := (evaluateStages (parts gs)).runOn env s
  cases result with
  | error y => rfl
  | ok more => exact runOn_applyStages env u w more

/-- An assignment to a name binds what the filters make of what the pipe is given. -/
theorem runOn_assign_pipe {t : Tag} (ht : t.body = .standard .assign) (x : String)
    (expression : Node) (fs : List Node) :
    (tag t (literal (.str x) :: expression :: fs)).render.runOn env s =
      match (prepare expression fs).runOn env s with
      | (.ok (v, stages), u) =>
          match u.filters.pipe env.now v stages with
          | .ok w => (.ok (.str ""), u.assign x w)
          | .error y => (.error y, u)
      | (.error y, u) => (.error y, u) := by
  have hassignment : Tags.assignment (literal (.str x)).part expression.part (parts fs) = (do
      let p ← prepare expression fs
      let w ← applyStages p.1 p.2
      return (x, w)) := by
    have htext : (literal (.str x)).part.text = pure x := by
      show (pure (.str x) >>= Render.text) = _
      rw [pure_bind, Render.text, Value.text_str]
      rfl
    simp only [Tags.assignment, htext, prepare, runPipe, render, bind_assoc, pure_bind]
  rw [runOn_assign env s ht, hassignment, Render.runOn_bind]
  obtain ⟨result, u⟩ := (prepare expression fs).runOn env s
  cases result with
  | error y => rfl
  | ok p =>
      have hpipe : (applyStages p.1 p.2 >>= fun w => pure (x, w)).runOn env u =
          ((u.filters.pipe env.now p.1 p.2).map fun w => (x, w), u) := by
        rw [Render.runOn_bind, runOn_applyStages]
        cases u.filters.pipe env.now p.1 p.2 <;> rfl
      simp only [hpipe]
      cases u.filters.pipe env.now p.1 p.2 <;> rfl

end Node

/-- The pipe in two pieces: its first stages are assigned to a variable, which goes through the
others. -/
def Node.inTwoPieces (t : Tag) (x : String) (expression : Node) (fs gs : List Node) :
    Render Value := do
  let _ ← (Node.tag t (.literal (.str x) :: expression :: fs)).render
  (Node.output (.lookup x []) gs).render

/-! ### One pipe or two -/

/-- One outcome is a success if the other one is, with the same value, and then their states are
alike but for the binding of `x` in the root. -/
structure Outcome.SucceedsLike {α : Type} (x : String) (o o' : Outcome α) : Prop where
  left (v : α) (s : State) : o = (.ok v, s) → ∃ s', o' = (.ok v, s') ∧ s.without x = s'.without x
  right (v : α) (s' : State) : o' = (.ok v, s') → ∃ s, o = (.ok v, s) ∧ s.without x = s'.without x

namespace Outcome.SucceedsLike

variable {α : Type} {x : String}

/-- Two failures, with whatever errors. -/
theorem of_errors (y z : Error) (s s' : State) :
    SucceedsLike x ((.error y, s) : Outcome α) (.error z, s') :=
  ⟨fun _ _ h => (by cases h), fun _ _ h => (by cases h)⟩

/-- The same result in states that are alike. -/
theorem of_result (result : Except Error α) {s s' : State} (h : s.without x = s'.without x) :
    SucceedsLike x (result, s) (result, s') := by
  refine ⟨fun v t ht => ?_, fun v t ht => ?_⟩
  · obtain ⟨rfl, rfl⟩ := Prod.mk.inj ht
    exact ⟨s', rfl, h⟩
  · obtain ⟨rfl, rfl⟩ := Prod.mk.inj ht
    exact ⟨s, rfl, h⟩

end Outcome.SucceedsLike

namespace Engine

variable {e : Engine} {x : String} {expression : Node} {fs gs : List Node}

/-- What a pipe is given is found without leaving a scope open. -/
theorem inner_prepare (he : e.MadeOf fun _ => true)
    (hexpression : expression.isMadeOf (fun _ => true) = true)
    (hfs : ∀ n ∈ fs, n.isMadeOf (fun _ => true) = true) (now : Moment) (depth : Nat) (s : State) :
    ((Node.prepare expression fs).runOn (e.surroundings now depth) s).2.context.inner =
      s.context.inner := by
  have hT := TwoRuns.Indistinct.eq.onEngines (fun _ => True) he rfl (.inl rfl) 0 (fun _ => rfl) now
    depth
  have hstages := hT.unwatched_parts rfl (l := .barred) hfs
  have hfollows := (hT.unwatched_node rfl (l := .barred) hexpression).bind fun v _ =>
    (TwoRuns.Lawful.evaluateStages hstages).bind fun a _ =>
      TwoRuns.Follows.pure (Q := fun _ => True) (a := (v, a)) trivial
  exact (TwoRuns.twins_runOn hfollows rfl fun _ _ => trivial).2

/-- **Parameters that do not look up a variable do not see what is bound to it**, and no parameter
changes the filters. -/
theorem evaluateStages_apart (he : e.MadeOf fun _ => true)
    (htemplates : ∀ key n, e.findTemplate key = .ok n → .variable x ∉ n.mentions)
    (hgs : ∀ n ∈ gs, n.isMadeOf (fun _ => true) = true ∧ .variable x ∉ n.mentions) (now : Moment)
    (depth : Nat) {s s' : State} (hs : s.without x = s'.without x) :
    ∃ t', (evaluateStages (Node.parts gs)).runOn (e.surroundings now depth) s' =
        (((evaluateStages (Node.parts gs)).runOn (e.surroundings now depth) s).1, t') ∧
      ((evaluateStages (Node.parts gs)).runOn (e.surroundings now depth) s).2.without x =
        t'.without x ∧
      ((evaluateStages (Node.parts gs)).runOn (e.surroundings now depth) s).2.filters =
        s.filters := by
  have hT := apart_lawful he htemplates s.filters now depth
  have hnames : ∀ n ∈ gs, n.NamesOnly (· ≠ .variable x) := by
    refine fun n hn => ⟨(hgs n hn).1, ?_⟩
    rintro m hm rfl
    exact (hgs n hn).2 hm
  have hparts := hT.unwatched_parts rfl (l := .barred) hnames
  exact TwoRuns.apart_runOn (TwoRuns.Lawful.evaluateStages hparts) hs

/-- **A pipe in two pieces does what it does in one.**  Where no inner scope binds `x`, and neither
the last stages nor a template looks it up, a pipe may be cut in two: the value that the first
stages give is assigned to `x`, and `x` goes through the last ones.  Either way succeeds if the
other does, with the same value, and the states at the end are alike but for the binding of `x`. -/
theorem pipe_split (he : e.MadeOf fun _ => true)
    (htemplates : ∀ key n, e.findTemplate key = .ok n → .variable x ∉ n.mentions)
    (hexpression : expression.isMadeOf (fun _ => true) = true)
    (hfs : ∀ n ∈ fs, n.isMadeOf (fun _ => true) = true)
    (hgs : ∀ n ∈ gs, n.isMadeOf (fun _ => true) = true ∧ .variable x ∉ n.mentions) {t : Tag}
    (ht : t.body = .standard .assign) (now : Moment) (depth : Nat) {s : State}
    (hx : ∀ scope ∈ s.context.inner, scope.contains x = false) :
    Outcome.SucceedsLike x
      ((Node.inTwoPieces t x expression fs gs).runOn (e.surroundings now depth) s)
      ((Node.output expression (fs ++ gs)).render.runOn (e.surroundings now depth) s) := by
  have hinner := inner_prepare he hexpression hfs now depth s
  rw [Node.runOn_output_append, Node.inTwoPieces, Render.runOn_bind, Node.runOn_assign_pipe _ _ ht]
  cases hprepare : (Node.prepare expression fs).runOn (e.surroundings now depth) s with
  | mk result u =>
  cases result with
  | error y => exact .of_errors y y _ _
  | ok given =>
  obtain ⟨v, stages⟩ := given
  rw [hprepare] at hinner
  simp only [now_surroundings]
  cases hpipe : u.filters.pipe now v stages with
  | error y =>
      -- in one pipe the filter fails as well, behind the parameters of the last stages
      obtain ⟨-, -, -, hfilters⟩ :=
        evaluateStages_apart he htemplates hgs now depth (Eq.refl (u.without x))
      cases hmore : (evaluateStages (Node.parts gs)).runOn (e.surroundings now depth) u with
      | mk result u' =>
          rw [hmore] at hfilters
          cases result with
          | error z => exact .of_errors y z _ _
          | ok more =>
              have hfails : u'.filters.pipe now v stages = .error y :=
                (congrArg (·.pipe now v stages) hfilters).trans hpipe
              simp only [Registry.pipe_append_of_error hfails]
              exact .of_errors y y _ _
  | ok w =>
      have hinner : u.context.inner = s.context.inner := hinner
      have hfind : (u.assign x w).context.find? x = some w :=
        State.find?_assign (fun scope hscope => hx scope (hinner ▸ hscope)) w
      obtain ⟨t', hrun, hwithout, hfilters⟩ :=
        evaluateStages_apart he htemplates hgs now depth (State.without_assign u x w)
      simp only [Node.runOn_output_lookup _ _ hfind, hrun, now_surroundings]
      cases hmore : (evaluateStages (Node.parts gs)).runOn (e.surroundings now depth)
          (u.assign x w) with
      | mk result t =>
          rw [hmore] at hwithout hfilters
          cases result with
          | error z => exact .of_errors z z _ _
          | ok more =>
              have hpipe' : t.filters.pipe now v stages = .ok w :=
                (congrArg (·.pipe now v stages) hfilters).trans hpipe
              have hsame : t.filters = t'.filters := State.filters_eq_of_without hwithout
              simp only [← hsame, Registry.pipe_append_of_ok hpipe']
              exact .of_result _ hwithout

/-- An engine with a template that gives its marks in turn. -/
def marking : Engine :=
  { Engine.new {} with
    templates := Table.ofList
      [("mark", .tag (.ofStandard .cycle) [.literal .nil, .text "!", .text "?"])] }

/-- A name in an inner scope, and an older value of the variable in the root. -/
def markingContext : Context :=
  ⟨[Table.ofList [("name", .str "Ann")]], Table.ofList [("loud", .int 1)], ∅, []⟩

/-- The stage that appends the next mark. -/
def markStage : Node := .stage "append" [.tag (.ofStandard .include) [.literal (.str "mark")]]

/-- A pipe whose last parameter includes a template, in one piece and in two. -/
theorem pipe_split_marking :
    (marking.MadeOf fun _ => true) ∧ ∃ u u',
      (Node.inTwoPieces (.ofStandard .assign) "loud" (.lookup "name" []) [.stage "upcase" []]
        [markStage]).runOn (marking.surroundings default 1) (marking.start markingContext ∅) =
          (.ok (.str "ANN!"), u) ∧
      (Node.output (.lookup "name" []) [.stage "upcase" [], markStage]).render.runOn
        (marking.surroundings default 1) (marking.start markingContext ∅) =
          (.ok (.str "ANN!"), u') ∧
      u.without "loud" = u'.without "loud" := by
  have htemplate : ∀ key n, marking.findTemplate key = .ok n →
      n = .tag (.ofStandard .cycle) [.literal .nil, .text "!", .text "?"] :=
    fun key n hn => (Prod.mk.inj (List.mem_singleton.1 (mem_of_findTemplate rfl hn))).2
  have he : marking.MadeOf fun _ => true := by
    intro key n hn
    rw [htemplate key n hn]
    rfl
  have hmentions : ∀ key n, marking.findTemplate key = .ok n → .variable "loud" ∉ n.mentions := by
    intro key n hn
    rw [htemplate key n hn]
    decide
  have hname : (Node.lookup "name" []).isMadeOf (fun _ => true) = true := rfl
  have hfirst : ∀ n ∈ [Node.stage "upcase" []], n.isMadeOf (fun _ => true) = true :=
    List.forall_mem_singleton.2 rfl
  have hlast : ∀ n ∈ [markStage], n.isMadeOf (fun _ => true) = true ∧
      .variable "loud" ∉ n.mentions := List.forall_mem_singleton.2 ⟨rfl, by decide⟩
  have hassign : (Tag.ofStandard .assign).body = .standard .assign := rfl
  have hshown : ∀ scope ∈ (marking.start markingContext ∅).context.inner,
      scope.contains "loud" = false := List.forall_mem_singleton.2 rfl
  have hsame := pipe_split he hmentions hname hfirst hlast hassign default 1 hshown
  obtain ⟨u', hwhole, hwithout⟩ := hsame.left (.str "ANN!") _ rfl
  exact ⟨he, _, u', rfl, hwhole, hwithout⟩

end Engine

end TemplateEngine
