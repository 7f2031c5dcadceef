/-
**Trees and engines run side by side.**

If the primitive steps of two runs satisfy the laws, then a watched tree that obeys the
discipline is followed by the tree itself: by induction on the tree, with one case for each kind
of node.  Nodes at the top of a template follow each other one after another.

Main results:

* `TwoRuns.Lawful.part` — **every tree that obeys**;
* `TwoRuns.Lawful.renderTop` — the nodes at the top, also under two policies;
* `TwoRuns.lawful_onEngines`, `TwoRuns.lawful_between` — engines, whose templates include each
  other.
-/
import TemplateEngine.Proofs.TwoRuns.Loops

set_option autoImplicit false

namespace TemplateEngine

/-- What a standard tag does is what its kind does. -/
theorem Tag.run_of_standard {t : Tag} {kind : StandardTag} (h : t.body = .standard kind) :
    t.run = kind.run := by
  funext parts
  rw [Tag.run, h]

theorem Tag.positions_of_standard {t : Tag} {kind : StandardTag} (h : t.body = .standard kind) :
    t.positions = kind.positions := by
  funext flags
  rw [Tag.positions, h]

/-- Watching leaves attributes attributes. -/
theorem Node.isAttribute_observed (o : Observer) (pos : Position) (n : Node) :
    (n.observed o pos).isAttribute = n.isAttribute := by
  cases n <;> rfl

theorem Node.isAttribute_observedAll (o : Observer) (positions : List Position)
    (ns : List Node) :
    (Node.observedAll o positions ns).map Part.isAttribute = ns.map Node.isAttribute := by
  induction ns generalizing positions with
  | nil => cases positions <;> rfl
  | cons n rest ih =>
      cases positions with
      | nil => simp only [observedAll, List.map_cons, isAttribute_observed, ih]
      | cons pos more => simp only [observedAll, List.map_cons, isAttribute_observed, ih]

/-- The children of a row obey iff all obey at the licence of the row. -/
theorem obeyAt_statements {Obeys : Licence → Node → Prop} {l : Licence} {ns : List Node} :
    ObeyAt Obeys l (ns.map fun _ => .statement) ns ↔ ∀ n ∈ ns, Obeys l n := by
  induction ns with
  | nil => simp [ObeyAt]
  | cons n rest ih =>
      rw [List.map_cons, ObeyAt, ih, List.forall_mem_cons]
      rfl

/-- Children that obey at every licence obey at every position. -/
theorem obeyAt_of_forall {Obeys : Licence → Node → Prop} {l : Licence} :
    ∀ {positions : List Position} {ns : List Node}, (∀ n ∈ ns, ∀ l, Obeys l n) →
      ObeyAt Obeys l positions ns
  | [], [], _ => trivial
  | _ :: _, [], _ => trivial
  | [], n :: _, h =>
      ⟨h n List.mem_cons_self _, obeyAt_of_forall fun m hm => h m (List.mem_cons_of_mem _ hm)⟩
  | _ :: _, n :: _, h =>
      ⟨h n List.mem_cons_self _, obeyAt_of_forall fun m hm => h m (List.mem_cons_of_mem _ hm)⟩

/-- Nodes without positions obey iff all obey as expressions. -/
theorem obeyAt_nil {Obeys : Licence → Node → Prop} {l : Licence} {ns : List Node} :
    ObeyAt Obeys l [] ns ↔ ∀ n ∈ ns, Obeys .barred n := by
  induction ns with
  | nil => simp [ObeyAt]
  | cons n rest ih => simp [ObeyAt, ih]

namespace TwoRuns

namespace Lawful

variable {T : TwoRuns}

/-! ### The nodes that are no tags -/

theorem rangeOf {start start' stop stop' : Render Value}
    (hstart : T.Follows T.values.Holds start start')
    (hstop : T.Follows T.values.Holds stop stop') :
    T.Follows T.values.Holds (Node.rangeOf start stop) (Node.rangeOf start' stop') := by
  have hint (v : Value) : T.Follows (fun _ => True) (Render.integer v) (Render.integer v) :=
    Follows.liftFault fun _ _ => trivial
  refine hstart.bind fun v _ => (hint v).bind fun a _ => ?_
  refine hstop.bind fun w _ => (hint w).bind fun b _ => ?_
  refine (Follows.liftFault (Q := fun items => T.values.Holds (.list items)) ?_).bind
    fun items h => Follows.pure h
  exact fun items h => T.values.rangeItems h

theorem compareOf (op : Comparison) {left left' right right' : Render Value}
    (hleft : T.Follows T.values.Holds left left')
    (hright : T.Follows T.values.Holds right right') :
    T.Follows T.values.Holds (Node.compareOf op left right)
      (Node.compareOf op left' right') := by
  refine hleft.bind fun a _ => hright.bind fun b _ => ?_
  -- a comparison that succeeds gives a truth value
  unfold Comparison.apply
  split
  · exact Follows.pure (T.values.bool _)
  · exact Follows.throw _ rfl
  · exact Follows.throw _ rfl

theorem connectOf (op : Connective) {left left' right right' : Render Value}
    (hleft : T.Follows T.values.Holds left left')
    (hright : T.Follows T.values.Holds right right') :
    T.Follows T.values.Holds (Node.connectOf op left right)
      (Node.connectOf op left' right') := by
  refine hleft.bind fun a _ => ?_
  cases op.shortcut? a.isTruthy with
  | some b => exact Follows.pure (T.values.bool b)
  | none => exact hright.bind fun b _ => Follows.pure (T.values.bool _)

theorem lookupOf (hT : T.Lawful) {name : String} (hname : T.Reads name) (path : List Value) :
    T.Follows T.values.Holds (Node.lookupOf name path) (Node.lookupOf name path) := by
  refine (hT.resolve hname).bind fun v hv => Follows.liftFault fun w hw => ?_
  cases hfollow : v.follow path with
  | ok u =>
      rw [hfollow] at hw
      cases hw
      exact T.values.follow hv hfollow
  | error m =>
      rw [hfollow] at hw
      cases hw

/-! ### All nodes -/

mutual

/-- **A tree that obeys the discipline follows its watched copy.**  An expression may give no
signal, so it has to obey where signals are barred. -/
theorem part (hT : T.Lawful) : ∀ (n : Node) (pos : Position) {l : Licence},
    (pos = .expression → l = .barred) → T.trees.Obeys l n →
      T.PartFollows l (n.observed T.observer pos) n.part
  | .literal _, _, _, hpos, h =>
      .content (hT.observe hpos (Follows.pure (T.values.at_of_holds (T.trees.literal h))))
  | .text s, _, _, hpos, _ =>
      .content (hT.observe hpos (Follows.pure (T.values.at_of_holds (T.values.str s))))
  | .lookup _ path, _, _, hpos, h =>
      .content (hT.observe hpos
        ((hT.lookupOf (T.trees.lookup h) path).mono fun _ => T.values.at_of_holds))
  | .range start stop, _, _, hpos, h => by
      obtain ⟨hstart, hstop⟩ := T.trees.range h
      have hstart := (part hT start .expression (fun _ => rfl) hstart).run
      have hstop := (part hT stop .expression (fun _ => rfl) hstop).run
      exact .content (hT.observe hpos ((rangeOf hstart hstop).mono fun _ => T.values.at_of_holds))
  | .compare op left right, _, _, hpos, h => by
      obtain ⟨hleft, hright⟩ := T.trees.compare h
      have hleft := (part hT left .expression (fun _ => rfl) hleft).run
      have hright := (part hT right .expression (fun _ => rfl) hright).run
      exact .content (hT.observe hpos
        ((compareOf op hleft hright).mono fun _ => T.values.at_of_holds))
  | .connect op left right, _, _, hpos, h => by
      obtain ⟨hleft, hright⟩ := T.trees.connect h
      have hleft := (part hT left .expression (fun _ => rfl) hleft).run
      have hright := (part hT right .expression (fun _ => rfl) hright).run
      exact .content (hT.observe hpos
        ((connectOf op hleft hright).mono fun _ => T.values.at_of_holds))
  | .output expression stages, _, l, hpos, h => by
      obtain ⟨hexpr, hstages⟩ := T.trees.output h
      have hexpr := (part hT expression .expression (fun _ => rfl) hexpr).run
      have hstages := (parts hT stages (l := l) (obeyAt_nil.2 hstages)).forall₂ .expression
        fun q hq => by cases hq
      refine .content (hT.observe hpos ((hexpr.bind fun v hv => ?_).mono fun _ =>
        T.values.at_of_holds))
      exact hT.runPipe hv hstages
  | .stage filter params, _, l, _, h => by
      obtain ⟨hcalls, hparams⟩ := T.trees.stage h
      have hparams := (parts hT params (l := l) (obeyAt_nil.2 hparams)).forall₂ .expression
        fun q hq => by cases hq
      exact .stage hcalls (List.forall₂_map_left_iff.2 (List.forall₂_map_right_iff.2
        (hparams.imp fun _ _ hp => hp.run)))
  | .block children, _, l, hpos, h => by
      have hparts := (parts hT children (obeyAt_statements.2 (T.trees.block h))).statements
      exact .content (hT.observe hpos (renderSequence hparts))
  | .tag t children, _, l, hpos, h => by
      obtain ⟨kind, hbody, hl, hu, hchildren⟩ := T.trees.tag h
      have hparts := parts hT children hchildren
      rw [Node.observed, Node.part, Tag.run_of_standard hbody, Tag.positions_of_standard hbody]
      refine .content (hT.observe hpos (hT.standardTag hu hl ?_))
      rw [Node.isAttribute_observedAll]
      exact hparts
  | .signal _, _, _, hpos, h => .content (hT.observe hpos (Follows.pure (T.trees.signal h)))
  | .attribute name value, pos, _, _, h => by
      have hvalue := (part hT value .expression (fun _ => rfl) (T.trees.attr h)).run
      exact .attr name (hT.observe (l := .barred) (fun _ => rfl) hvalue)
  | .placeholder, _, _, hpos, _ => .content (hT.observe hpos (Follows.throw _ rfl))

theorem parts (hT : T.Lawful) : ∀ (ns : List Node) {positions : List Position} {l : Licence},
    ObeyAt T.trees.Obeys l positions ns →
      T.PartsFollow l positions (Node.observedAll T.observer positions ns) (Node.parts ns)
  | [], [], _, _ => .nil
  | [], _ :: _, _, _ => .nil
  | n :: rest, [], _, ⟨hn, hrest⟩ =>
      .rest (part hT n .expression (fun _ => rfl) hn) (parts hT rest hrest)
  | n :: rest, pos :: more, _, ⟨hn, hrest⟩ =>
      .cons (part hT n pos (fun hpos => by rw [hpos]; rfl) hn) (parts hT rest hrest)

end

/-! ### The top of a template -/

/-- Nodes that stand as statements beside each other. -/
theorem statements (hT : T.Lawful) {ns : List Node} {l : Licence}
    (h : ∀ n ∈ ns, T.trees.Obeys l n) : List.Forall₂ (T.PartFollows l)
      (Node.observedAll T.observer (ns.map fun _ => .statement) ns) (Node.parts ns) :=
  (parts hT ns (obeyAt_statements.2 h)).statements

/-- **Nodes at the top follow each other under two policies**, if these agree on every signal that
gets to the top, or the first run refuses it and need not be believed. -/
theorem renderTop_policies (policy policy' : StrayPolicy) {l : Licence}
    (hl : ∀ v text s, T.values.At l v → v.split = .ok (text, some s) → T.Strays ∧
      (policy = policy' ∨ (policy = .error ∧ ¬ T.Reported (.straySignal s))))
    {ps ps' : List Part} (h : List.Forall₂ (T.PartFollows l) ps ps') :
    T.Follows (fun _ => True) (Engine.renderTop policy ps) (Engine.renderTop policy' ps') := by
  induction h with
  | nil => exact Follows.pure trivial
  | cons hp _ ih =>
      refine hp.run.bind fun v hv => ?_
      refine Follows.bind (Q := fun r => v.split = .ok r) (Follows.liftFault fun r hr => hr) ?_
      rintro ⟨text, signal?⟩ hsplit
      have hgo : T.Follows (fun _ => True) (do return text ++ (← Engine.renderTop policy _))
          (do return text ++ (← Engine.renderTop policy' _)) :=
        ih.bind fun _ _ => Follows.pure trivial
      cases signal? with
      | none => exact hgo
      | some s =>
          obtain ⟨hstrays, rfl | ⟨rfl, hs⟩⟩ := hl v text s hv hsplit
          · cases policy with
            | ignore => exact hgo
            | error => exact Follows.stray hstrays s
          · exact Follows.unreported _ (fun _ => hstrays) hs _

/-- **Nodes at the top follow each other**: under one policy both runs have the same text, or
drop or report the same signals; where no signal gets to the top, the policies do not matter. -/
theorem renderTop (policy policy' : StrayPolicy) {l : Licence}
    (hl : (policy = policy' ∧ T.Strays) ∨ ∀ v, T.values.At l v → v.isSignal = false)
    {ps ps' : List Part} (h : List.Forall₂ (T.PartFollows l) ps ps') :
    T.Follows (fun _ => True) (Engine.renderTop policy ps) (Engine.renderTop policy' ps') := by
  refine renderTop_policies policy policy' (fun v text s hv hsplit => ?_) h
  rcases hl with ⟨hpolicy, hstrays⟩ | hl
  · exact ⟨hstrays, .inl hpolicy⟩
  · -- what is split into a text and a signal is a signal
    have hsignal := hl v hv
    rw [Value.isSignal_of_split hsplit] at hsignal
    cases hsignal

/-! ### Runs that are not watched -/

/-- Trees that obey follow themselves, each for the tag around it. -/
theorem unwatched_parts (hT : T.Lawful) (hwatch : T.observer = fun _ r => r) {ns : List Node}
    {l : Licence} (hn : ∀ n ∈ ns, T.trees.Obeys l n) :
    List.Forall₂ (T.PartFollows l) (Node.parts ns) (Node.parts ns) := by
  have hparts := hT.statements hn
  rwa [hwatch, Node.observedAll_id] at hparts

/-- A tree that obeys follows itself. -/
theorem unwatched_node (hT : T.Lawful) (hwatch : T.observer = fun _ r => r) {n : Node}
    {l : Licence} (hn : T.trees.Obeys l n) : T.Follows (T.values.At l) n.render n.render := by
  have hfollows := (hT.part n .statement (fun h => by cases h) hn).run
  rwa [hwatch, Node.observed_id] at hfollows

/-- Trees that obey follow themselves at the top of a template. -/
theorem unwatched_top (hT : T.Lawful) (hwatch : T.observer = fun _ r => r)
    {policy policy' : StrayPolicy} (hpolicy : T.Strays ∧ (policy = policy' ∨
      (policy = .error ∧ ∀ s, ¬ T.Reported (.straySignal s)))) {nodes : List Node}
    {l : Licence} (hn : ∀ n ∈ nodes, T.trees.Obeys l n) :
    T.Follows (fun _ => True) (Engine.renderTop policy (Node.parts nodes))
      (Engine.renderTop policy' (Node.parts nodes)) := by
  refine renderTop_policies policy policy' (fun v text s _ _ => ⟨hpolicy.1, ?_⟩)
    (hT.unwatched_parts hwatch hn)
  exact hpolicy.2.imp_right fun h => ⟨h.1, h.2 s⟩

end Lawful

end TwoRuns

/-! ### Engines -/

/-- A template that is not there is no stray signal. -/
theorem Engine.isStray_findTemplate (e : Engine) {name : String} {x : Error}
    (h : e.findTemplate name = .error x) : x.isStray = false := by
  unfold findTemplate at h
  split at h
  · cases h
  · cases h
    rfl

namespace TwoRuns

variable (T : TwoRuns)

/-- Runs on two engines: the first one follows `depth` inclusions inside each other at most, the
second one `more` of them more.  The templates of the first run are watched. -/
def onEngines (e e' : Engine) (now : Moment) (more depth : Nat) : TwoRuns :=
  { T with
    left := e.observedSurroundings T.observer now depth
    right := e'.surroundings now (depth + more) }

/-- **The laws hold on two engines with the same templates**, all of which obey, if they hold as
soon as templates follow each other: by induction on the number of inclusions inside each other.
If the second run may go deeper, nothing is said where the first one has to give up. -/
theorem lawful_onEngines {e e' : Engine} (now : Moment) (more : Nat)
    (hsame : ∀ name, e'.findTemplate name = e.findTemplate name)
    (hdeep : T.Reported .tooDeep → more = 0)
    (hobeys : ∀ name n, e.findTemplate name = .ok n → T.trees.Obeys .free n)
    (hlaws : ∀ depth, (∀ name, (T.onEngines e e' now more depth).TemplatesFollow
        ((T.onEngines e e' now more depth).left.template name)
        ((T.onEngines e e' now more depth).right.template name)) →
          (T.onEngines e e' now more depth).Lawful)
    (depth : Nat) : (T.onEngines e e' now more depth).Lawful := by
  induction depth with
  | zero =>
      refine hlaws 0 fun name => ?_
      rw [onEngines, Engine.template_observedSurroundings_zero, Nat.zero_add]
      cases hn : e.findTemplate name with
      | error _ =>
          refine ⟨e.isStray_findTemplate hn, ?_⟩
          cases more <;>
            simp only [Engine.template_surroundings_zero, Engine.template_surroundings_succ, hsame,
              hn] <;> rfl
      | ok n =>
          cases more with
          | zero =>
              rw [Engine.template_surroundings_zero, hsame, hn]
              exact ⟨_, rfl, Follows.throw .tooDeep rfl⟩
          | succ more =>
              rw [Engine.template_surroundings_succ, hsame, hn]
              exact ⟨_, rfl, Follows.unreported .tooDeep (fun h => by cases h)
                (fun h => by cases hdeep h) _⟩
  | succ depth ih =>
      refine hlaws (depth + 1) fun name => ?_
      rw [onEngines, Engine.template_observedSurroundings_succ, Nat.add_right_comm,
        Engine.template_surroundings_succ, hsame]
      cases hn : e.findTemplate name with
      | error _ => exact ⟨e.isStray_findTemplate hn, rfl⟩
      | ok n =>
          -- the template is rendered one level further down, where the laws hold already
          have hfollow := (ih.part n .statement (fun h => by cases h) (hobeys name n hn)).run
          exact ⟨_, rfl, hfollow⟩

/-- Runs on two engines of which none is watched. -/
def between (e e' : Engine) (now : Moment) (more depth : Nat) : TwoRuns :=
  { T with
    left := e.surroundings now depth
    right := e'.surroundings now (depth + more) }

/-- The same for runs of which none is watched. -/
theorem lawful_between (hwatch : T.observer = fun _ r => r) {e e' : Engine} (now : Moment)
    (more : Nat) (hsame : ∀ name, e'.findTemplate name = e.findTemplate name)
    (hdeep : T.Reported .tooDeep → more = 0)
    (hobeys : ∀ name n, e.findTemplate name = .ok n → T.trees.Obeys .free n)
    (hlaws : ∀ depth, (∀ name, (T.between e e' now more depth).TemplatesFollow
        ((e.surroundings now depth).template name)
        ((e'.surroundings now (depth + more)).template name)) →
          (T.between e e' now more depth).Lawful)
    (depth : Nat) : (T.between e e' now more depth).Lawful := by
  have heq (depth : Nat) : T.onEngines e e' now more depth = T.between e e' now more depth := by
    rw [onEngines, between, hwatch, Engine.observedSurroundings_id]
  rw [← heq]
  refine T.lawful_onEngines now more hsame hdeep hobeys (fun depth htemplate => ?_) depth
  rw [heq] at htemplate ⊢
  exact hlaws depth htemplate

/-- Both runs on one engine, with `depth` inclusions inside each other at most; the templates of
the first run are watched. -/
def onEngine (e : Engine) (now : Moment) (depth : Nat) : TwoRuns :=
  { T with
    left := e.observedSurroundings T.observer now depth
    right := e.surroundings now depth }

/-- **The laws hold on an engine whose templates obey**, if they hold as soon as templates follow
each other. -/
theorem lawful_onEngine (e : Engine) (now : Moment)
    (hobeys : ∀ name n, e.findTemplate name = .ok n → T.trees.Obeys .free n)
    (hlaws : ∀ depth, (∀ name, (T.onEngine e now depth).TemplatesFollow
        ((T.onEngine e now depth).left.template name)
        ((T.onEngine e now depth).right.template name)) → (T.onEngine e now depth).Lawful)
    (depth : Nat) : (T.onEngine e now depth).Lawful :=
  T.lawful_onEngines now 0 (fun _ => rfl) (fun _ => rfl) hobeys hlaws depth

end TwoRuns

end TemplateEngine
