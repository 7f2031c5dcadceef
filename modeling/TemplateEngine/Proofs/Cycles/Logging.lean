/-
**Renders that log their cycles.**

A logging `cycle` tag does what the `cycle` tag does, and when it has completed it notes down its
group, its values, its key and what it has shown.  No standard tag reads notes or changes them, so
a tree whose `cycle` tags log renders as before and leaves a list of the cycles that completed, in
the order of time, wherever they stand: in loops, in branches, in included templates, or among the
values of another cycle.  One step keeps up that **the list accounts for what is counted**, and so
does the whole run, whatever its end.

Main definitions:

* `State.logged` — the state in which completed cycles are noted;
* `Tag.logging`, `Node.logging`, `Engine.logging` — logging tags, in trees and in templates;
* `TwoRuns.cycled` — a logging run beside a plain one.

Main results:

* `TwoRuns.cycled_advancing` — **one cycle** is due, and is logged;
* `TwoRuns.cycled_part`, `Engine.cycled_lawful` — trees and templates beside those that log;
* `TwoRuns.cycled_runOn` — **a run and the cycles in it**.
-/
import TemplateEngine.Proofs.Cycles.Rounds
import TemplateEngine.Proofs.Journal.Recording

set_option autoImplicit false

namespace TemplateEngine

/-! ### Notes -/

namespace Cycled

/-- The value that a completed cycle is noted down as. -/
def note (c : Cycled) : Value :=
  .tuple [c.group, .list c.values, (Entry.counted c.key).note, c.shown]

/-- Different cycles are noted down differently. -/
theorem note_injective : Function.Injective note := by
  intro c d h
  have hitems := Value.tuple.inj h
  simp only [List.cons.injEq, Value.list.injEq, Entry.note_injective.eq_iff, Entry.counted.injEq,
    and_true] at hitems
  obtain ⟨⟨_, _, _⟩, _⟩ := c
  obtain ⟨⟨_, _, _⟩, _⟩ := d
  obtain ⟨rfl, rfl, rfl, rfl⟩ := hitems
  rfl

end Cycled

namespace State

/-- The state in which nothing but completed cycles is noted. -/
def logged (s : State) (log : List Cycled) : State := s.keeping "cycles" (log.map Cycled.note)

/-- The state in which one more completed cycle is noted. -/
def log (s : State) (c : Cycled) : State := s.keep "cycles" c.note

theorem log_logged (s : State) (log : List Cycled) (c : Cycled) :
    (s.logged log).log c = s.logged (log ++ [c]) := by
  rw [logged, logged, List.map_append]
  exact keep_keeping s "cycles" (log.map Cycled.note) c.note

/-- The cycles that are noted can be told from the notes. -/
theorem logged_inj {s s' : State} {log log' : List Cycled}
    (h : (s.logged log).notes = (s'.logged log').notes) : log = log' :=
  List.map_injective_iff.2 Cycled.note_injective (keeping_inj h)

end State

/-! ### Logging tags -/

/-- A cycle goes on, shows what is due, and is logged. -/
def Tags.advancingLogged (c : Cycle) : Render Value := do
  let v ← advancing c
  Render.ofFunction fun _ s => (.ok v, s.log ⟨c, v⟩)

/-- The tag that logs, if it is a `cycle` tag. -/
def Tag.logging (t : Tag) : Tag :=
  match t.body with
  | .standard .cycle => { t with body := .custom "cycle" (Tags.cycleTagVia Tags.advancingLogged) }
  | _ => t

/-- The tree whose cycles log. -/
def Node.logging (n : Node) : Node := n.mapTags Tag.logging

/-- The template whose cycles log. -/
def Template.logging : Template → Template
  | .row nodes => .row (nodes.map Node.logging)
  | .single n => .single n.logging

/-- The engine in whose templates cycles log. -/
def Engine.logging (e : Engine) : Engine :=
  { e with templates := e.templates.mapValues Node.logging }

namespace Tag

variable {t : Tag} {kind : StandardTag}

theorem logging_of_ne (hbody : t.body = .standard kind) (hkind : kind ≠ .cycle) :
    t.logging = t := by
  unfold logging
  rw [hbody]
  cases kind <;> first | rfl | exact absurd rfl hkind

theorem run_logging (hbody : t.body = .standard .cycle) :
    t.logging.run = Tags.cycleTagVia Tags.advancingLogged := by
  funext parts
  unfold logging
  rw [hbody]
  rfl

end Tag

theorem Engine.findTemplate_logging (e : Engine) (name : String) :
    e.logging.findTemplate name = (e.findTemplate name).map Node.logging := by
  unfold findTemplate logging
  rw [Table.find?_mapValues, Table.keys_mapValues]
  cases e.templates.find? name <;> rfl

/-! ### A run beside the one that logs -/

/-- **A logging run beside a plain one**: behind the cycles of `history` the first run has logged
those that have completed since, which account for what the plain run has counted. -/
def TwoRuns.cycled (start : Table CycleKey Nat) (history : List Cycled)
    (left right : Surroundings) : TwoRuns where
  values := .all
  Reads _ := True
  Calls _ := True
  Uses kind := decide (kind ≠ .cycle) = true
  trees := .madeOf fun kind => decide (kind ≠ .cycle)
  observer _ r := r
  left := left
  right := right
  Reported _ := True
  Strays := True
  Stacks i i' := i = i'
  Frames f f' := f = f'
  Rest s s' := ∃ log, history <+: log ∧ Cycled.Accounts start log s'.context.cycles ∧
    s.withInner [] = (s'.logged log).withInner []

namespace TwoRuns

/-- What a step gives satisfies whatever the first run says of it, too. -/
theorem Follows.and_gives {T : TwoRuns} {α : Type} {P Q : α → Prop} {r r' : Render α}
    (h : T.Follows Q r r') (hgives : r.Gives T.left P) :
    T.Follows (fun a => Q a ∧ P a) r r' := by
  intro i i' hi s s' hs
  have hmatch : Outcome.Matches T _ Q (r.runOn T.left s) (r'.runOn T.right s') := h i i' hi s s' hs
  have hP := hgives s
  show Outcome.Matches T _ _ (r.runOn T.left s) (r'.runOn T.right s')
  generalize r.runOn T.left s = o at hmatch hP ⊢
  obtain ⟨result, t⟩ := o
  cases result with
  | ok a => exact ⟨⟨hmatch.1, hP a rfl⟩, hmatch.2⟩
  | error e => exact hmatch

variable {start : Table CycleKey Nat} {history : List Cycled} {left right : Surroundings}

/-- The state of the logging run is that of the plain one, with the completed cycles noted. -/
theorem cycled_at {i : List Scope} {s s' : State} :
    (cycled start history left right).At i i s s' ↔
      s'.context.inner = i ∧ ∃ log, history <+: log ∧
        Cycled.Accounts start log s'.context.cycles ∧ s = s'.logged log := by
  constructor
  · rintro ⟨hs, hs', log, hlog, haccounts, hrest⟩
    exact ⟨hs', log, hlog, haccounts, State.eq_of_withInner (hs.trans hs'.symm) hrest⟩
  · rintro ⟨hs', log, hlog, haccounts, rfl⟩
    exact ⟨hs', hs', log, hlog, haccounts, rfl⟩

/-- **One cycle**: what it shows is due, and the list with it accounts for one more count. -/
theorem cycled_advancing {c : Cycle} (hc : c.Sound) :
    (cycled start history left right).Follows (fun _ => True) (Tags.advancingLogged c)
      (Tags.advancing c) := by
  rintro i _ rfl s s' hat
  obtain ⟨hi, log, hlog, haccounts, rfl⟩ := cycled_at.1 hat
  let v := c.due ((s'.context.cycles.find? c.key).getD 0)
  let after : State := { s' with context := (s'.context.advance c.key).2 }
  have hright : (Tags.advancing c).runOn right s' = (.ok v, after) :=
    Tags.runOn_advancing right s' c
  have hleft : (Tags.advancingLogged c).runOn left (s'.logged log) =
      (.ok v, (after.logged log).log ⟨c, v⟩) :=
    Render.runOn_bind_ok left _ (Tags.runOn_advancing left (s'.logged log) c)
  show Outcome.Matches _ _ _ ((Tags.advancingLogged c).runOn left (s'.logged log))
    ((Tags.advancing c).runOn right s')
  rw [hleft, hright, State.log_logged]
  exact ⟨trivial, after, rfl, cycled_at.2 ⟨hi, log ++ [⟨c, v⟩],
    hlog.trans (List.prefix_append _ _), haccounts.concat hc, rfl⟩⟩

/-- **Accounting is kept up by every primitive step of a tag that is no cycle.** -/
theorem cycled_lawful (hnow : left.now = right.now)
    (hmode : left.strictVariables = right.strictVariables)
    (htemplate : ∀ name, (cycled start history left right).TemplatesFollow (left.template name)
      (right.template name)) : (cycled start history left right).Lawful where
  stacks_cons hi hf := by
    cases hi
    cases hf
    rfl
  frames_empty := rfl
  frames_insert _ hf _ := by
    cases hf
    rfl
  rest_withInner i i' := fun ⟨log, hlog, haccounts, h⟩ => ⟨log, hlog, haccounts, h⟩
  resolve _ := by
    refine Follows.resolving trivial (fun _ => trivial) hmode ?_
    rintro i _ s s' rfl hat
    obtain ⟨-, log, -, -, rfl⟩ := cycled_at.1 hat
    rfl
  assign {v} name _ _ := by
    rintro i _ rfl s s' hat
    obtain ⟨hi, log, hlog, haccounts, rfl⟩ := cycled_at.1 hat
    exact ⟨trivial, s'.assign name v, rfl, cycled_at.2 ⟨hi, log, hlog, haccounts, rfl⟩⟩
  advance _ hu := by simp [cycled] at hu
  applyFilter _ _ _ := by
    refine Follows.filtering trivial (fun _ => trivial) hnow ?_
    rintro i _ s s' rfl hat
    obtain ⟨-, log, -, -, rfl⟩ := cycled_at.1 hat
    rfl
  template name _ := htemplate name
  observe _ h := h

theorem cycled_unrestricted : (cycled start history left right).Unrestricted :=
  ⟨fun _ => trivial, fun _ => trivial, fun _ => trivial⟩

/-- The values and the group of a cycle may run cycles themselves, which come before it. -/
theorem cycled_cycling {group group' first first' : Part} {rest rest' : List Part}
    (hgroup : (cycled start history left right).PartFollows .barred group group')
    (hvalues : List.Forall₂ ((cycled start history left right).PartFollows .barred)
      (first :: rest) (first' :: rest')) :
    (cycled start history left right).Follows Cycle.Sound (Tags.cycling group (first :: rest))
      (Tags.cycling group' (first' :: rest')) := by
  have hcycling : (cycled start history left right).Follows (fun _ => True)
      (Tags.cycling group (first :: rest)) (Tags.cycling group' (first' :: rest')) :=
    (PartFollows.all hvalues).bind fun vs _ => hgroup.run.bind fun g _ =>
      (Lawful.cycleKey g vs).bind fun key _ => Follows.pure trivial
  exact (hcycling.and_gives (Tags.cycling_gives left group first rest)).mono fun c hc => hc.2

/-- A `cycle` tag follows the one that logs. -/
theorem cycled_cycleTag {ps ps' : List Part}
    (h : List.Forall₂ ((cycled start history left right).PartFollows .barred) ps ps') :
    (cycled start history left right).Follows (fun _ => True)
      (Tags.cycleTagVia Tags.advancingLogged ps) (Tags.cycleTag ps') := by
  rw [← Tags.cycleTagVia_advancing]
  match ps, ps', h with
  | [], _, .nil => exact Follows.pure trivial
  | [_], _, .cons _ .nil => exact Follows.pure trivial
  | _ :: _ :: _, _ :: _ :: _, .cons hgroup hvalues =>
      exact (cycled_cycling hgroup hvalues).bind fun c hc => cycled_advancing hc

/-- **A tree follows the one that logs.** -/
theorem cycled_part (hT : (cycled start history left right).Lawful) (n : Node) :
    n.isMadeOf (fun _ => true) = true →
      (cycled start history left right).PartFollows .barred n.logging.part n.part := by
  refine hT.part_mapTags cycled_unrestricted (fun t kind hbody => ?_) n
  by_cases hkind : kind = .cycle
  · cases hkind
    refine .inr fun ps ps' h => ?_
    rw [Tag.run_logging hbody]
    exact cycled_cycleTag h
  · exact .inl ⟨Tag.logging_of_ne hbody hkind, decide_eq_true hkind⟩

/-- Nodes at the top of a template. -/
theorem cycled_top (hT : (cycled start history left right).Lawful) (policy : StrayPolicy)
    {nodes : List Node} (hn : ∀ n ∈ nodes, n.isMadeOf (fun _ => true) = true) :
    (cycled start history left right).Follows (fun _ => True)
      (Engine.renderTop policy (Node.parts (nodes.map Node.logging)))
      (Engine.renderTop policy (Node.parts nodes)) :=
  renderTop_map trivial policy fun n hmem => cycled_part hT n (hn n hmem)

/-- **A run and the cycles in it**: behind those of its history it logs the ones that complete, and
all together account for what is counted at its end. -/
theorem cycled_runOn {α : Type} {Q : α → Prop} {r r' : Render α}
    (h : (cycled start history left right).Follows Q r r') {s : State}
    (hs : Cycled.Accounts start history s.context.cycles) :
    ∃ log, history <+: log ∧
      r.runOn left (s.logged history) =
        ((r'.runOn right s).1, (r'.runOn right s).2.logged log) ∧
      Cycled.Accounts start log (r'.runOn right s).2.context.cycles := by
  have hstart : (cycled start history left right).At s.context.inner s.context.inner
      (s.logged history) s := cycled_at.2 ⟨rfl, history, List.prefix_refl _, hs, rfl⟩
  have hstacks : (cycled start history left right).Stacks (s.logged history).context.inner
      s.context.inner := rfl
  obtain ⟨t, hrun, hat⟩ := h.runOn hstacks hstart.2.2 fun _ _ => trivial
  have hrun : r'.runOn right s = ((r.runOn left (s.logged history)).1, t) := hrun
  obtain ⟨-, log, hlog, haccounts, hlogged⟩ := cycled_at.1 hat
  refine ⟨log, hlog, ?_, ?_⟩
  · rw [hrun]
    exact Prod.ext rfl hlogged
  · rw [hrun]
    exact haccounts

end TwoRuns

/-! ### Engines -/

namespace Engine

/-- **Cycles in included templates are logged, too.** -/
theorem cycled_lawful {e : Engine} (he : e.MadeOf fun _ => true) (start : Table CycleKey Nat)
    (history : List Cycled) (now : Moment) (depth : Nat) :
    (TwoRuns.cycled start history (e.logging.surroundings now depth)
      (e.surroundings now depth)).Lawful :=
  (TwoRuns.cycled start history (e.surroundings now 0) (e.surroundings now 0)).lawful_mapTemplates
    now (findTemplate_logging e)
    (fun _ htemplate => TwoRuns.cycled_lawful (by simp) (by simp [logging]) htemplate)
    (fun _ hT name n hn => TwoRuns.cycled_part hT n (he name n hn)) depth

end Engine

end TemplateEngine
