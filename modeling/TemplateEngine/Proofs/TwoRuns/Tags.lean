/-
**Tags run side by side.**

If the parts of a tag follow each other one by one, so does what the tag makes of them.  There is
one lemma for each way in which the tags that are no loops use their parts: rows and pipes,
branches, inclusion, and writing.

Main definitions and results:

* `TwoRuns.PartFollows`, `TwoRuns.PartsFollow` — parts that follow each other;
* `TwoRuns.Lawful.renderSequence`, `TwoRuns.Lawful.runPipe` — rows and pipes;
* `TwoRuns.Lawful.chooseBranch`, `TwoRuns.Lawful.chooseCase` — branches;
* `TwoRuns.Lawful.includeTag_of_name`, `TwoRuns.Lawful.assignTagBy`,
  `TwoRuns.Lawful.captureTagBy`, `TwoRuns.Lawful.cycleTagBy` — inclusion and writing.
-/
import TemplateEngine.Proofs.TwoRuns
import TemplateEngine.Proofs.Writing

set_option autoImplicit false

namespace TemplateEngine

namespace TwoRuns

variable {T : TwoRuns} {α : Type} {Q : α → Prop} {l : Licence}

/-! ### Parts that follow each other -/

variable (T) in
/-- The second part follows the first one; `l` is the licence of their nodes. -/
inductive PartFollows (l : Licence) : Part → Part → Prop
  | content {r r' : Render Value} :
      T.Follows (T.values.At l) r r' → PartFollows l (.content r) (.content r')
  | attr (name : String) {r r' : Render Value} :
      T.Follows T.values.Holds r r' → PartFollows l (.attribute name r) (.attribute name r')
  | stage {filter : String} {params params' : List (Render Value)} :
      T.Calls filter → List.Forall₂ (T.Follows T.values.Holds) params params' →
        PartFollows l (.stage filter params) (.stage filter params')

variable (T) in
/-- The parts of a tag with a licence follow each other, each at its position; what is without a
position is an expression. -/
inductive PartsFollow (l : Licence) : List Position → List Part → List Part → Prop
  | nil {positions : List Position} : PartsFollow l positions [] []
  | rest {p p' : Part} {ps ps' : List Part} :
      T.PartFollows .barred p p' → PartsFollow l [] ps ps' → PartsFollow l [] (p :: ps) (p' :: ps')
  | cons {pos : Position} {more : List Position} {p p' : Part} {ps ps' : List Part} :
      T.PartFollows (pos.licence l) p p' → PartsFollow l more ps ps' →
        PartsFollow l (pos :: more) (p :: ps) (p' :: ps')

/-- A result of an operation on values. -/
theorem Follows.liftFault {x : Except Fault α} (h : ∀ a, x = .ok a → Q a) :
    T.Follows Q (Render.liftFault x) (Render.liftFault x) := by
  refine Follows.lift (fun a ha => ?_) fun e he => ?_
  · cases x with
    | ok b => exact h a (by cases ha; rfl)
    | error f => cases ha
  · cases x with
    | ok b => cases he
    | error f =>
        cases he
        rfl

/-- The text of a value, about which nothing is said. -/
theorem Follows.text (v : Value) : T.Follows (fun _ => True) (Render.text v) (Render.text v) :=
  Follows.liftFault fun _ _ => trivial

namespace PartFollows

variable {p p' : Part}

theorem run (h : T.PartFollows l p p') : T.Follows (T.values.At l) p.run p'.run := by
  cases h with
  | content h => exact h
  | attr _ h => exact h.mono fun _ => T.values.at_of_holds
  | stage _ _ => exact Follows.throw _ rfl

theorem isAttribute_eq (h : T.PartFollows l p p') : p.isAttribute = p'.isAttribute := by
  cases h <;> rfl

/-- The text of a part, about which nothing is said. -/
theorem text (h : T.PartFollows l p p') : T.Follows (fun _ => True) p.text p'.text :=
  h.run.bind fun v _ => Follows.text v

/-- The values of parts in a row. -/
theorem all {ps ps' : List Part} (h : List.Forall₂ (T.PartFollows .barred) ps ps') :
    T.Follows (fun vs => ∀ v ∈ vs, T.values.Holds v) (Render.all (ps.map Part.run))
      (Render.all (ps'.map Part.run)) :=
  Follows.all (List.forall₂_map_left_iff.2 (List.forall₂_map_right_iff.2
    (h.imp fun _ _ hp => hp.run)))

end PartFollows

/-- A part that may give no signal may stand anywhere. -/
theorem PartFollows.of_barred {p p' : Part} (h : T.PartFollows .barred p p') :
    T.PartFollows l p p' := by
  cases h with
  | content h => exact .content (h.mono fun _ => T.values.at_of_holds)
  | attr name h => exact .attr name h
  | stage hcalls h => exact .stage hcalls h

theorem PartsFollow.length_eq {positions : List Position} {ps ps' : List Part}
    (h : T.PartsFollow l positions ps ps') : ps.length = ps'.length := by
  induction h with
  | nil => rfl
  | rest _ _ ih => rw [List.length_cons, List.length_cons, ih]
  | cons _ _ ih => rw [List.length_cons, List.length_cons, ih]

/-- Parts that are all at one position follow each other one by one. -/
theorem PartsFollow.forall₂ (pos : Position) {positions : List Position} {ps ps' : List Part}
    (h : T.PartsFollow l positions ps ps') (hpos : ∀ q ∈ positions, q = pos) :
    List.Forall₂ (T.PartFollows (pos.licence l)) ps ps' := by
  induction h with
  | nil => exact .nil
  | rest hp _ ih => exact .cons hp.of_barred (ih hpos)
  | cons hp _ ih =>
      refine .cons (hpos _ List.mem_cons_self ▸ hp) (ih fun q hq => ?_)
      exact hpos q (List.mem_cons_of_mem _ hq)

/-- Statements follow each other one by one. -/
theorem PartsFollow.statements {β : Type} {xs : List β} {ps ps' : List Part}
    (h : T.PartsFollow l (xs.map fun _ => .statement) ps ps') :
    List.Forall₂ (T.PartFollows l) ps ps' :=
  h.forall₂ .statement fun q hq => by
    obtain ⟨_, _, rfl⟩ := List.mem_map.1 hq
    rfl

/-- Expressions follow each other one by one. -/
theorem PartsFollow.expressions {β : Type} {xs : List β} {ps ps' : List Part}
    (h : T.PartsFollow l (xs.map fun _ => .expression) ps ps') :
    List.Forall₂ (T.PartFollows .barred) ps ps' :=
  h.forall₂ .expression fun q hq => by
    obtain ⟨_, _, rfl⟩ := List.mem_map.1 hq
    rfl

namespace Lawful

/-! ### Rows and pipes -/

/-- Parts in a row behind a text. -/
theorem renderSequenceFrom {ps ps' : List Part} (h : List.Forall₂ (T.PartFollows l) ps ps') :
    ∀ written, T.Follows (T.values.At l) (TemplateEngine.renderSequenceFrom written ps)
      (TemplateEngine.renderSequenceFrom written ps') := by
  induction h with
  | nil => exact fun written => Follows.pure (T.values.at_of_holds (T.values.str written))
  | cons hp _ ih =>
      intro written
      refine hp.run.bind fun v hv => ?_
      refine Follows.bind (Q := fun r => v.split = .ok r) (Follows.liftFault fun r hr => hr) ?_
      rintro ⟨text, _ | s⟩ hsplit
      · exact ih (written ++ text)
      · exact Follows.pure (T.values.at_interrupt _ hv hsplit)

theorem renderSequence {ps ps' : List Part} (h : List.Forall₂ (T.PartFollows l) ps ps') :
    T.Follows (T.values.At l) (TemplateEngine.renderSequence ps)
      (TemplateEngine.renderSequence ps') :=
  renderSequenceFrom h ""

/-- The parameters of all stages of a pipe. -/
theorem evaluateStages {ps ps' : List Part} (h : List.Forall₂ (T.PartFollows .barred) ps ps') :
    T.Follows (fun stages => ∀ stage ∈ stages, T.Calls stage.filter ∧
        ∀ p ∈ stage.params, T.values.Holds p)
      (TemplateEngine.evaluateStages ps) (TemplateEngine.evaluateStages ps') := by
  induction h with
  | nil => exact Follows.pure fun _ h => by cases h
  | cons hp _ ih =>
      cases hp with
      | content => exact Follows.throw _ rfl
      | attr => exact Follows.throw _ rfl
      | stage hcalls hparams =>
          refine (Follows.all hparams).bind fun values hvalues => ih.bind fun others ho => ?_
          refine Follows.pure fun stage hs => ?_
          rcases List.mem_cons.1 hs with rfl | hs
          · exact ⟨hcalls, hvalues⟩
          · exact ho stage hs

/-- A value that is sent through the stages of a pipe. -/
theorem applyStages (hT : T.Lawful) {stages : List Stage} : ∀ {v : Value},
    (∀ stage ∈ stages, T.Calls stage.filter ∧ ∀ p ∈ stage.params, T.values.Holds p) →
      T.values.Holds v →
        T.Follows T.values.Holds (TemplateEngine.applyStages v stages)
          (TemplateEngine.applyStages v stages) := by
  induction stages with
  | nil => exact fun _ hv => Follows.pure hv
  | cons stage rest ih =>
      intro v h hv
      obtain ⟨hcalls, hparams⟩ := h stage List.mem_cons_self
      exact (hT.applyFilter hcalls hv hparams).bind fun w hw =>
        ih (fun stage hs => h stage (List.mem_cons_of_mem _ hs)) hw

theorem runPipe (hT : T.Lawful) {v : Value} (hv : T.values.Holds v) {ps ps' : List Part}
    (h : List.Forall₂ (T.PartFollows .barred) ps ps') :
    T.Follows T.values.Holds (TemplateEngine.runPipe v ps) (TemplateEngine.runPipe v ps') :=
  (evaluateStages h).bind fun _ hs => hT.applyStages hs hv

/-! ### Branches -/

theorem chooseBranch : ∀ {ps ps' : List Part},
    T.PartsFollow l (branchPositions (ps.map Part.isAttribute)) ps ps' →
      T.Follows (T.values.At l) (Tags.chooseBranch ps) (Tags.chooseBranch ps')
  | [], _, h => by
      cases h
      exact Follows.pure (T.values.at_of_holds (T.values.str ""))
  | [_], _, .cons _ h => by
      cases h
      exact Follows.pure (T.values.at_of_holds (T.values.str ""))
  | _ :: _ :: rest, _, .cons hc (.cons hb h) => by
      refine hc.run.bind fun v _ => ?_
      by_cases hv : v.isTruthy = true
      · simp only [hv, if_true]
        exact hb.run
      · simp only [hv]
        exact chooseBranch h

/-- Pairs are checked by their number alone. -/
theorem checkPairs {positions : List Position} {ps ps' : List Part}
    (h : T.PartsFollow l positions ps ps') :
    T.Follows (fun _ => True) (Tags.checkPairs ps) (Tags.checkPairs ps') := by
  unfold Tags.checkPairs
  rw [h.length_eq]
  split
  · exact Follows.pure trivial
  · exact Follows.throw _ rfl

theorem ifTag {ps ps' : List Part}
    (h : T.PartsFollow l (branchPositions (ps.map Part.isAttribute)) ps ps') :
    T.Follows (T.values.At l) (Tags.ifTag ps) (Tags.ifTag ps') :=
  (checkPairs h).bind fun _ _ => chooseBranch h

theorem unlessTag {ps ps' : List Part}
    (h : T.PartsFollow l (branchPositions (ps.map Part.isAttribute)) ps ps') :
    T.Follows (T.values.At l) (Tags.unlessTag ps) (Tags.unlessTag ps') := by
  refine (checkPairs h).bind fun _ _ => ?_
  match ps, ps', h with
  | [], _, .nil => exact Follows.pure (T.values.at_of_holds (T.values.str ""))
  | [_], _, .cons _ .nil => exact Follows.pure (T.values.at_of_holds (T.values.str ""))
  | _ :: _ :: rest, _, .cons hc (.cons hb h) =>
      refine hc.run.bind fun v _ => ?_
      by_cases hv : v.isTruthy = true
      · simp only [hv, if_true]
        exact chooseBranch h
      · simp only [hv]
        exact hb.run

theorem chooseCase (subject : Value) : ∀ {ps ps' : List Part},
    T.PartsFollow l (casePositions (ps.map Part.isAttribute)) ps ps' →
      T.Follows (T.values.At l) (Tags.chooseCase subject ps) (Tags.chooseCase subject ps')
  | [], _, .nil => Follows.pure (T.values.at_of_holds (T.values.str ""))
  | [_], _, .cons hb .nil => hb.run
  | _ :: _ :: rest, _, .cons hc (.cons hb h) => by
      refine hc.run.bind fun v _ => ?_
      by_cases hv : v.same subject = true
      · simp only [hv, if_true]
        exact hb.run
      · simp only [hv]
        exact chooseCase subject h

theorem caseTag {ps ps' : List Part}
    (h : T.PartsFollow l (StandardTag.case.positions (ps.map Part.isAttribute)) ps ps') :
    T.Follows (T.values.At l) (Tags.caseTag ps) (Tags.caseTag ps') := by
  cases ps with
  | nil =>
      cases h
      exact Follows.pure (T.values.at_of_holds (T.values.str ""))
  | cons p ps =>
      cases h with
      | cons hs h => exact hs.run.bind fun v _ => chooseCase v h

/-! ### Inclusion -/

/-- Inclusions follow each other if the templates do that their names may stand for. -/
theorem includeTag_of_name (hT : T.Lawful) (hl : ∀ v, T.values.Stated v → T.values.At l v)
    {p p' : Part} {ps ps' : List Part} (hname : T.Follows T.Included p.text p'.text)
    (h : List.Forall₂ (T.PartFollows .barred) ps ps') :
    T.Follows (T.values.At l) (Tags.includeTag (p :: ps)) (Tags.includeTag (p' :: ps')) := by
  match ps, ps', h with
  | [], _, .nil =>
      refine hname.bind fun name hname => Follows.findTemplate hname fun r r' hr => ?_
      exact (hT.inScope hT.frames_empty (hT.inside hr)).mono hl
  | _ :: _, _, .cons hvalue _ =>
      refine hname.bind fun name hname => Follows.findTemplate hname fun r r' hr => ?_
      refine hvalue.run.bind fun v hv => ?_
      exact (hT.inScope (hT.frames_single name hv) (hT.inside hr)).mono hl

theorem includeTag (hT : T.Lawful) (hu : T.Uses .include)
    (hl : ∀ v, T.values.Stated v → T.values.At l v)
    {ps ps' : List Part} (h : List.Forall₂ (T.PartFollows .barred) ps ps') :
    T.Follows (T.values.At l) (Tags.includeTag ps) (Tags.includeTag ps') := by
  cases h with
  | nil => exact Follows.throw _ rfl
  | cons hname hrest =>
      exact hT.includeTag_of_name hl (hname.text.mono fun name _ => hT.template name hu) hrest

/-! ### Writing -/

/-- Assignments follow each other if their writing steps do. -/
theorem assignTagBy (hT : T.Lawful) {write write' : String → Value → Render Unit}
    (hwrite : ∀ target v, T.values.Holds v →
      T.Follows (fun _ => True) (write target v) (write' target v)) {ps ps' : List Part}
    (h : List.Forall₂ (T.PartFollows .barred) ps ps') :
    T.Follows (T.values.At l) (Tags.assignTagBy write ps) (Tags.assignTagBy write' ps') := by
  match ps, ps', h with
  | [], _, .nil => exact Follows.throw _ rfl
  | [_], _, .cons hname .nil => exact hname.text.bind fun _ _ => Follows.throw _ rfl
  | name :: value :: stages, name' :: value' :: stages', .cons hname (.cons hvalue hstages) =>
      have hfound : T.Follows (fun p => T.values.Holds p.2)
          (Tags.assignment name value stages) (Tags.assignment name' value' stages') :=
        hname.text.bind fun target _ => hvalue.run.bind fun v hv =>
          (hT.runPipe hv hstages).bind fun w hw => Follows.pure hw
      refine hfound.bind fun p hp => (hwrite p.1 p.2 hp).bind fun _ _ => ?_
      exact Follows.pure (T.values.at_of_holds (T.values.str ""))

/-- Captures follow each other if their writing steps do. -/
theorem captureTagBy {write write' : String → Value → Render Unit}
    (hwrite : ∀ target v, T.values.Holds v →
      T.Follows (fun _ => True) (write target v) (write' target v)) {ps ps' : List Part}
    (h : T.PartsFollow l (StandardTag.capture.positions (ps.map Part.isAttribute)) ps ps') :
    T.Follows (T.values.At l) (Tags.captureTagBy write ps) (Tags.captureTagBy write' ps') := by
  match ps, ps', h with
  | [], _, .nil => exact Follows.throw _ rfl
  | [_], _, .cons hname .nil => exact hname.text.bind fun _ _ => Follows.throw _ rfl
  | name :: body :: _, name' :: body' :: _, .cons hname (.cons hbody _) =>
      have hfound : T.Follows (fun p => T.values.At l p.2)
          (Tags.capturing name body) (Tags.capturing name' body') :=
        hname.text.bind fun target _ => hbody.run.bind fun v hv => Follows.pure hv
      refine hfound.bind fun ⟨target, v⟩ hv => ?_
      show T.Follows _ (Tags.keepText write target v) (Tags.keepText write' target v)
      unfold Tags.keepText
      by_cases hs : v.isSignal = true
      · simp only [hs, if_true]
        exact Follows.pure hv
      · simp only [hs]
        refine (Follows.text v).bind fun text _ => ?_
        refine (hwrite target _ (T.values.str text)).bind fun _ _ => ?_
        exact Follows.pure (T.values.at_of_holds (T.values.str ""))

theorem assignTag (hT : T.Lawful) (hu : T.Uses .assign) {ps ps' : List Part}
    (h : List.Forall₂ (T.PartFollows .barred) ps ps') :
    T.Follows (T.values.At l) (Tags.assignTag ps) (Tags.assignTag ps') := by
  rw [← Tags.assignTagBy_assign]
  exact hT.assignTagBy (fun target _ hv => hT.assign target (.inl hu) hv) h

theorem captureTag (hT : T.Lawful) (hu : T.Uses .capture) {ps ps' : List Part}
    (h : T.PartsFollow l (StandardTag.capture.positions (ps.map Part.isAttribute)) ps ps') :
    T.Follows (T.values.At l) (Tags.captureTag ps) (Tags.captureTag ps') := by
  rw [← Tags.captureTagBy_assign]
  exact captureTagBy (fun target _ hv => hT.assign target (.inr hu) hv) h

/-- What tells a cycle apart depends on its values alone. -/
theorem cycleKey (group : Value) (values : List Value) :
    T.Follows (fun _ => True) (Tags.cycleKey group values) (Tags.cycleKey group values) := by
  unfold Tags.cycleKey
  split
  · refine (Follows.all (Q := fun _ => True) ?_).bind fun _ _ => Follows.pure trivial
    exact List.forall₂_map_left_iff.2 (List.forall₂_map_right_iff.2
      (List.forall₂_same.2 fun v _ => Follows.text v))
  · exact (Follows.text group).bind fun _ _ => Follows.pure trivial

/-- Cycles follow each other if they count alike. -/
theorem cycleTagBy {count count' : CycleKey → Render Nat}
    (hcount : ∀ key, T.Follows (fun _ => True) (count key) (count' key)) {ps ps' : List Part}
    (h : List.Forall₂ (T.PartFollows .barred) ps ps') :
    T.Follows (T.values.At l) (Tags.cycleTagBy count ps) (Tags.cycleTagBy count' ps') := by
  match ps, ps', h with
  | [], _, .nil => exact Follows.pure (T.values.at_of_holds (T.values.str ""))
  | [_], _, .cons _ .nil => exact Follows.pure (T.values.at_of_holds (T.values.str ""))
  | group :: first :: rest, group' :: first' :: rest', .cons hgroup hvalues =>
      have hfound : T.Follows (fun p => ∀ v ∈ p.2, T.values.Holds v)
          (Tags.counting group (first :: rest)) (Tags.counting group' (first' :: rest')) :=
        (PartFollows.all hvalues).bind fun vs hvs => hgroup.run.bind fun g _ =>
          (cycleKey g vs).bind fun key _ => Follows.pure hvs
      refine hfound.bind fun ⟨key, vs⟩ hvs => (hcount key).bind fun position _ => ?_
      refine Follows.pure (T.values.at_of_holds ?_)
      cases hat : vs[position % vs.length]? with
      | none => exact T.values.nil
      | some v => exact hvs v (List.mem_of_getElem? hat)

theorem cycleTag (hT : T.Lawful) (hu : T.Uses .cycle) {ps ps' : List Part}
    (h : List.Forall₂ (T.PartFollows .barred) ps ps') :
    T.Follows (T.values.At l) (Tags.cycleTag ps) (Tags.cycleTag ps') := by
  rw [← Tags.cycleTagBy_advance]
  exact cycleTagBy (fun key => hT.advance key hu) h

end Lawful

end TwoRuns

end TemplateEngine
