/-
**The cycles of a whole session.**

A context may be used for one render after another.  Between two of them other code may bind
variables in it, register templates and filters with the engine, or change its mode; a render may
fail.  The counts of cycles go with the context.  So cycles take turns through all the renders
of a session, whatever comes between two with one key: the number of a cycle is the number of
those with its key that completed before it, in this render or in one before.

Main definitions:

* `Cycled.AccountsFor` — the cycles that completed in a run, and no others;
* `Rendering`, `Rendering.runEach` — renders one after another in one context.

Main results:

* `Rendering.accounted_run`, `Rendering.accounted_runEach` — one render, and all of a session;
* `Rendering.cycles_take_turns` — **cycles take turns**.
-/
import TemplateEngine.Proofs.Cycles.Logging

set_option autoImplicit false

namespace TemplateEngine

/-! ### The cycles of a run -/

/-- The cycles in `log` are those in `history` and behind them those that completed in a run whose
outcome is `o`, for this is what the logging run has noted down, whose outcome is `noted`; all
together they account for what is counted. -/
structure Cycled.AccountsFor {β : Type} (start : Table CycleKey Nat) (history : List Cycled)
    (noted o : β × State) (log : List Cycled) : Prop where
  /-- The logging run ends alike, and has noted the cycles that completed. -/
  noted : noted = (o.1, o.2.logged log)
  history : history <+: log
  accounts : Cycled.Accounts start log o.2.context.cycles

namespace Cycled.AccountsFor

variable {β : Type} {start : Table CycleKey Nat} {history : List Cycled} {noted o : β × State}

/-- The cycles of a run can be told from what the logging run has noted down. -/
theorem existsUnique (h : ∃ log, AccountsFor start history noted o log) :
    ∃! log, AccountsFor start history noted o log := by
  obtain ⟨log, hlog⟩ := h
  refine ⟨log, hlog, fun log' hlog' => ?_⟩
  exact State.logged_inj (congrArg (·.2.notes) (hlog'.noted.symm.trans hlog.noted))

/-- A run that follows the logging one. -/
theorem of_follows {α : Type} {Q : α → Prop} {left right : Surroundings} {r r' : Render α}
    (h : (TwoRuns.cycled start history left right).Follows Q r r') {s : State}
    (hs : Accounts start history s.context.cycles) :
    ∃ log, AccountsFor start history (r.runOn left (s.logged history)) (r'.runOn right s) log := by
  obtain ⟨log, hlog, hnoted, haccounts⟩ := TwoRuns.cycled_runOn h hs
  exact ⟨log, hnoted, hlog, haccounts⟩

end Cycled.AccountsFor

/-! ### Templates -/

namespace Template

/-- Whether a template is a stage of a pipe by itself, which is refused. -/
def isLoneStage : Template → Bool
  | .single (.stage _ _) => true
  | _ => false

theorem nodes_logging (t : Template) : t.logging.nodes = t.nodes.map Node.logging := by
  cases t <;> rfl

theorem isLoneStage_logging (t : Template) : t.logging.isLoneStage = t.isLoneStage := by
  cases t with
  | row _ => rfl
  | single n => cases n <;> rfl

end Template

theorem Engine.render_eq (e : Engine) (now : Moment) (policy : StrayPolicy) (t : Template)
    (s : State) : e.render now policy t s =
      if t.isLoneStage then (.error .loneStage, s) else e.renderNodes now policy t.nodes s := by
  cases t with
  | row _ => rfl
  | single n => cases n <;> rfl

/-! ### Sessions -/

/-- **One render of a session**: the engine as it is by then, what has been done to the variables of
the root since the render before, and what is rendered. -/
structure Rendering where
  engine : Engine
  rebind : Scope → Scope
  now : Moment
  policy : StrayPolicy
  template : Template

namespace Rendering

/-- The state in which the render begins, if `s` is the state that the one before has left. -/
def opening (r : Rendering) (s : State) : State :=
  { s with
    context := { s.context with root := r.rebind s.context.root }
    filters := r.engine.filters }

/-- What is rendered. -/
def run (r : Rendering) (s : State) : Outcome String :=
  r.engine.render r.now r.policy r.template (r.opening s)

/-- Renders one after another, each in the state that the one before has left, **whether it has
failed or not**. -/
def runEach : List Rendering → State → List (Except Error String) × State
  | [], s => ([], s)
  | r :: rest, s =>
      let o := r.run s
      let others := runEach rest o.2
      (o.1 :: others.1, others.2)

/-- The render in which cycles log. -/
def logging (r : Rendering) : Rendering :=
  { r with engine := r.engine.logging, template := r.template.logging }

/-- The template and those that it may include are made of standard tags. -/
structure IsStandard (r : Rendering) : Prop where
  engine : r.engine.MadeOf fun _ => true
  template : ∀ n ∈ r.template.nodes, n.isMadeOf (fun _ => true) = true

variable {r : Rendering} {start : Table CycleKey Nat} {history : List Cycled} {s : State}

/-- **One render**, behind any history. -/
theorem accounted_run (hr : r.IsStandard) (hs : Cycled.Accounts start history s.context.cycles) :
    ∃ log, Cycled.AccountsFor start history (r.logging.run (s.logged history)) (r.run s) log := by
  have hT := Engine.cycled_lawful hr.engine start history r.now Engine.maxDepth
  have hopening : r.logging.opening (s.logged history) = (r.opening s).logged history := rfl
  rw [run, run, hopening, Engine.render_eq, Engine.render_eq, logging,
    Template.isLoneStage_logging, Template.nodes_logging]
  cases r.template.isLoneStage with
  | true => exact ⟨history, rfl, List.prefix_refl _, hs⟩
  | false =>
      have hfollows := TwoRuns.cycled_top hT r.policy hr.template
      exact Cycled.AccountsFor.of_follows (s := r.opening s) hfollows hs

/-- **A whole session**: by induction on the renders, each of them goes on with the history that
the ones before have left. -/
theorem accounted_runEach {rs : List Rendering} (hrs : ∀ r ∈ rs, r.IsStandard) :
    ∀ {history : List Cycled} {s : State}, Cycled.Accounts start history s.context.cycles →
      ∃ log, Cycled.AccountsFor start history (runEach (rs.map logging) (s.logged history))
        (runEach rs s) log := by
  induction rs with
  | nil => exact fun hs => ⟨_, rfl, List.prefix_refl _, hs⟩
  | cons r rest ih =>
      intro history s hs
      obtain ⟨mid, hmid⟩ := accounted_run (hrs r List.mem_cons_self) hs
      obtain ⟨log, hlog⟩ := ih (fun u hu => hrs u (List.mem_cons_of_mem _ hu)) hmid.accounts
      refine ⟨log, ?_, hmid.history.trans hlog.history, hlog.accounts⟩
      rw [List.map_cons, runEach, runEach, hmid.noted, hlog.noted]

/-- **Cycles take turns.**  The cycles that complete in a session of renders, in whatever tags and
templates they stand, have been counted before or account for what is counted: the ones with one
key show, one after another, the values with the numbers 0, 1, 2 and so on, each counted round
through its own values, of which there is at least one.  So it is for every tree, behind any
history.  A cycle of which a value, the group or a text fails is not counted: it ends in the state
that it has reached on the way there.  Cycles with groups share a key if the groups have one text,
cycles without groups if their values have the same texts one by one, and a cycle with a group and
one without never do. -/
theorem cycles_take_turns :
    (∀ rs : List Rendering, (∀ r ∈ rs, r.IsStandard) → ∀ s : State,
      ∃! log, Cycled.AccountsFor s.context.cycles [] (runEach (rs.map logging) (s.logged []))
        (runEach rs s) log) ∧
    (∀ e : Engine, (e.MadeOf fun _ => true) → ∀ n : Node, n.isMadeOf (fun _ => true) = true →
      ∀ now depth start history (s : State), Cycled.Accounts start history s.context.cycles →
        ∃! log, Cycled.AccountsFor start history
          (n.logging.render.runOn (e.logging.surroundings now depth) (s.logged history))
          (n.render.runOn (e.surroundings now depth) s) log) ∧
    (∀ env (s : State) (t : Tag), t.body = .standard .cycle → ∀ (group first : Node) rest,
      (Node.tag t (group :: first :: rest)).render.runOn env s =
        match (Tags.cycling group.part (first.part :: Node.parts rest)).runOn env s with
        | (.ok c, s') => (.ok (c.due ((s'.context.cycles.find? c.key).getD 0)),
            { s' with context := (s'.context.advance c.key).2 })
        | (.error x, s') => (.error x, s')) ∧
    (∀ c d : Cycle, c.Sound → d.Sound →
      (c.group ≠ .nil → d.group ≠ .nil → (c.key = d.key ↔ c.group.text = d.group.text)) ∧
      (c.group ≠ .nil → d.group = .nil → c.key ≠ d.key) ∧
      (c.group = .nil → d.group = .nil →
        (c.key = d.key ↔ List.Forall₂ (fun v w => v.text = w.text) c.values d.values))) := by
  refine ⟨fun rs hrs s => ?_, fun e he n hn now depth start history s hs => ?_, ?_, ?_⟩
  · have hnone := Cycled.accounts_nil s.context.cycles
    exact Cycled.AccountsFor.existsUnique (accounted_runEach hrs hnone)
  · have hT := Engine.cycled_lawful he start history now depth
    have hfollows := (TwoRuns.cycled_part hT n hn).run
    exact Cycled.AccountsFor.existsUnique (Cycled.AccountsFor.of_follows hfollows hs)
  · exact fun env s t ht group first rest => Node.runOn_cycle env s ht group first rest
  · intro c d hc hd
    exact ⟨hc.key.named_inj hd.key, hc.key.named_ne_unnamed hd.key, hc.key.unnamed_inj hd.key⟩

/-- A `cycle` tag with texts for values. -/
def cycleOf (group : Value) (texts : List String) : Node :=
  .tag (.ofStandard .cycle) (.literal group :: texts.map .text)

/-- Nodes rendered by an engine without templates. -/
def plain (nodes : List Node) : Rendering where
  engine := .new {}
  rebind := id
  now := default
  policy := .error
  template := .row nodes

/-- A render with a cycle of a group and one without, and a render with another cycle of the group,
which has more values. -/
def resumed : List Rendering :=
  [plain [cycleOf (.str "g") ["a", "b"], cycleOf .nil ["x"]],
    plain [cycleOf (.str "g") ["c", "d", "e"]]]

/-- The group goes on where the first render has left it. -/
theorem cycles_take_turns_resumed :
    (∀ r ∈ resumed, r.IsStandard) ∧
      ∃ log, Cycled.AccountsFor ∅ []
          (runEach (resumed.map logging) (((Engine.new {}).start (.ofVariables ∅) ∅).logged []))
          (runEach resumed ((Engine.new {}).start (.ofVariables ∅) ∅)) log ∧
        log.map (fun c => (c.key, c.shown)) = [(.group "g", .str "a"),
          (.values ["x"], .str "x"), (.group "g", .str "d")] := by
  have hstandard : ∀ r ∈ resumed, r.IsStandard := by
    intro r hr
    have hnodes : ∀ r ∈ resumed, r.template.nodes.all (·.isMadeOf fun _ => true) = true := by
      decide
    refine ⟨fun name n hn => ?_, List.all_eq_true.1 (hnodes r hr)⟩
    simp only [resumed, List.mem_cons, List.not_mem_nil, or_false] at hr
    rcases hr with rfl | rfl <;> cases hn
  let s := (Engine.new {}).start (.ofVariables ∅) ∅
  obtain ⟨log, hlog, -⟩ := cycles_take_turns.1 resumed hstandard s
  let completed : List Cycled :=
    [⟨⟨.str "g", [.str "a", .str "b"], .group "g"⟩, .str "a"⟩,
      ⟨⟨.nil, [.str "x"], .values ["x"]⟩, .str "x"⟩,
      ⟨⟨.str "g", [.str "c", .str "d", .str "e"], .group "g"⟩, .str "d"⟩]
  have hnotes : (runEach (resumed.map logging) (s.logged [])).2.notes =
      (s.logged completed).notes := rfl
  have hnoted := congrArg (·.2.notes) hlog.noted
  obtain rfl := State.logged_inj (hnoted.symm.trans hnotes)
  exact ⟨hstandard, completed, hlog, rfl⟩

end Rendering

end TemplateEngine
