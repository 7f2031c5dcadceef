/-
**A signal goes through every wrapper.**

What stands in the hole of a stack gives a signal, perhaps behind a text.  Every wrapper passes
the signal on: blocks put the texts of the earlier children before it, branches and captures
leave it as it is, inclusions close their scope.  Nothing that stands behind the hole is
rendered, and no capture binds anything.

Main results:

* `renderSequenceFrom_interrupt`, `captureTag_interrupt` — rows and captures;
* `Wrapper.Enters.render_plug` — one wrapper;
* `Stack.render_plug` — **a stack of any height**, by induction on the way to its hole;
* `Stack.Reaches.alike` — the way does not depend on what stands behind the hole;
* `Stack.signal_propagates` — all of this together, and that the scopes are those of the start.
-/
import TemplateEngine.Proofs.Propagation.Stack
import TemplateEngine.Proofs.Scopes

set_option autoImplicit false

namespace TemplateEngine

variable {env : Surroundings} {s s₁ s₂ : State}

/-! ### Rows, branches and pairs -/

/-- A row renders its first node and then, if there was no signal, the others. -/
theorem renderSequenceFrom_parts (written : String) (n : Node) (ns : List Node) :
    renderSequenceFrom written (Node.parts (n :: ns)) =
      (do
        let (text, signal?) ← Render.split (← n.render)
        match signal? with
        | some s => return .interrupt (written ++ text) s
        | none => renderSequenceFrom (written ++ text) (Node.parts ns)) := rfl

/-- A condition is rendered before its body is chosen or not. -/
theorem chooseBranch_parts (condition body : Node) (ns : List Node) :
    Tags.chooseBranch (Node.parts (condition :: body :: ns)) =
      (do
        let v ← condition.render
        if v.isTruthy then body.render else Tags.chooseBranch (Node.parts ns)) := rfl

/-- A value is rendered before its body is chosen or not. -/
theorem chooseCase_parts (x : Value) (value body : Node) (ns : List Node) :
    Tags.chooseCase x (Node.parts (value :: body :: ns)) =
      (do
        let v ← value.render
        if v.same x then body.render else Tags.chooseCase x (Node.parts ns)) := rfl

/-- **A row ends at its first signal**, with the texts before it. -/
theorem renderSequenceFrom_interrupt {before : List Node} {t : String}
    (h : WritesRow env before s t s₁) {inner : Node} {u : String} {sig : Signal}
    (hinner : inner.render.runOn env s₁ = (.ok (.interrupt u sig), s₂)) (after : List Node) :
    ∀ written, (renderSequenceFrom written (Node.parts (before ++ inner :: after))).runOn env s =
      (.ok (.interrupt (written ++ (t ++ u)) sig), s₂) := by
  induction h with
  | nil s =>
      intro written
      rw [List.nil_append, renderSequenceFrom_parts, Render.runOn_bind_ok _ _ hinner,
        Render.runOn_bind_ok _ _ (Render.runOn_split _ _ (Value.split_interrupt u sig)),
        String.empty_append]
      rfl
  | cons hn hsplit _ ih =>
      intro written
      rw [List.cons_append, renderSequenceFrom_parts, Render.runOn_bind_ok _ _ hn,
        Render.runOn_bind_ok _ _ (Render.runOn_split _ _ hsplit)]
      simp only [ih hinner, String.append_assoc]

/-- Conditions that fail are skipped, and the first that holds chooses its body. -/
theorem chooseBranch_passes {passed : List (Node × Node)}
    (h : Skips env Value.isTruthy passed s s₁) {condition : Node}
    (hpass : Passes env Value.isTruthy condition s₁ s₂) (body : Node) (after : List Node) :
    (Tags.chooseBranch (Node.parts (flatPairs passed ++ condition :: body :: after))).runOn env s =
      body.render.runOn env s₂ := by
  induction h with
  | nil s =>
      obtain ⟨v, hv, htrue⟩ := hpass
      rw [flatPairs, List.nil_append, chooseBranch_parts, Render.runOn_bind_ok _ _ hv,
        if_pos htrue]
  | cons hn hfalse _ ih =>
      rw [flatPairs, List.cons_append, List.cons_append, chooseBranch_parts,
        Render.runOn_bind_ok _ _ hn, hfalse]
      exact ih hpass

/-- The values of a `case` that are not equal to the subject are skipped. -/
theorem chooseCase_skips {x : Value} {passed : List (Node × Node)}
    (h : Skips env (·.same x) passed s s₁) (ns : List Node) :
    (Tags.chooseCase x (Node.parts (flatPairs passed ++ ns))).runOn env s =
      (Tags.chooseCase x (Node.parts ns)).runOn env s₁ := by
  induction h with
  | nil s => rw [flatPairs, List.nil_append]
  | cons hn hfalse _ ih =>
      rw [flatPairs, List.cons_append, List.cons_append, chooseCase_parts,
        Render.runOn_bind_ok _ _ hn, hfalse]
      exact ih

/-- The first value that is equal to the subject chooses its body. -/
theorem chooseCase_passes {x : Value} {passed : List (Node × Node)}
    (h : Skips env (·.same x) passed s s₁) {value : Node}
    (hpass : Passes env (·.same x) value s₁ s₂) (body : Node) (after : List Node) :
    (Tags.chooseCase x (Node.parts (flatPairs passed ++ value :: body :: after))).runOn env s =
      body.render.runOn env s₂ := by
  obtain ⟨v, hv, htrue⟩ := hpass
  rw [chooseCase_skips h, chooseCase_parts, Render.runOn_bind_ok _ _ hv, if_pos htrue]

/-- Where no value is equal to the subject, the body that is left over is chosen. -/
theorem chooseCase_otherwise {x : Value} {passed : List (Node × Node)}
    (h : Skips env (·.same x) passed s s₁) (body : Node) :
    (Tags.chooseCase x (Node.parts (flatPairs passed ++ [body]))).runOn env s =
      body.render.runOn env s₁ := by
  rw [chooseCase_skips h]
  rfl

theorem even_flatPairs (pairs : List (Node × Node)) : (flatPairs pairs).length % 2 = 0 := by
  induction pairs with
  | nil => rfl
  | cons p rest ih =>
      rw [flatPairs, List.length_cons, List.length_cons]
      omega

/-- Pairs before and behind a pair are pairs. -/
theorem checkPairs_flatPairs (passed after : List (Node × Node)) (condition body : Node) :
    Tags.checkPairs (Node.parts (flatPairs passed ++ condition :: body :: flatPairs after)) =
      pure () := by
  have hpassed := even_flatPairs passed
  have hafter := even_flatPairs after
  rw [Tags.checkPairs, if_pos]
  rw [Node.parts_eq_map, List.length_map, List.length_append, List.length_cons, List.length_cons]
  omega

/-! ### Tags that reach a body -/

/-- A tag with the body of a standard tag makes of its children what that tag makes of them. -/
theorem render_as (t : Tag) (kind : StandardTag) (children : List Node) :
    (Node.tag (t.as kind) children).render = kind.run (Node.parts children) := by
  rw [Node.render_tag, Tag.run_of_standard rfl]

/-- The branch of `if` that is selected is all that comes out of it. -/
theorem ifTag_passes {passed : List (Node × Node)} (h : Skips env Value.isTruthy passed s s₁)
    {condition : Node} (hpass : Passes env Value.isTruthy condition s₁ s₂) (body : Node)
    (after : List (Node × Node)) :
    (Tags.ifTag (Node.parts (flatPairs passed ++ condition :: body :: flatPairs after))).runOn
        env s = body.render.runOn env s₂ := by
  rw [Tags.ifTag, checkPairs_flatPairs, pure_bind, chooseBranch_passes h hpass]

/-- After its pairs are checked `unless` renders its first condition. -/
theorem unlessTag_parts (first : Node × Node) {rest : List Node}
    (hpairs : Tags.checkPairs (Node.parts (first.1 :: first.2 :: rest)) = pure ()) :
    Tags.unlessTag (Node.parts (first.1 :: first.2 :: rest)) =
      (do
        let v ← first.1.render
        if v.isTruthy then Tags.chooseBranch (Node.parts rest) else first.2.render) := by
  unfold Tags.unlessTag
  rw [hpairs, pure_bind]
  rfl

/-- The first branch of `unless` is selected by a condition that fails. -/
theorem unlessTag_passes_first {condition : Node}
    (hpass : Passes env (!·.isTruthy) condition s s₁) (body : Node)
    (after : List (Node × Node)) :
    (Tags.unlessTag (Node.parts (condition :: body :: flatPairs after))).runOn env s =
      body.render.runOn env s₁ := by
  obtain ⟨v, hv, hfalse⟩ := hpass
  have hpairs := checkPairs_flatPairs [] after condition body
  rw [unlessTag_parts (condition, body) hpairs, Render.runOn_bind_ok _ _ hv,
    if_neg (by simpa using hfalse)]

/-- The later branches of `unless` are those of `if`. -/
theorem unlessTag_passes_later {first : Node × Node} {passed : List (Node × Node)} {s₃ : State}
    (hfirst : Passes env Value.isTruthy first.1 s s₁)
    (h : Skips env Value.isTruthy passed s₁ s₂) {condition : Node}
    (hpass : Passes env Value.isTruthy condition s₂ s₃) (body : Node)
    (after : List (Node × Node)) :
    (Tags.unlessTag (Node.parts (first.1 :: first.2 ::
        (flatPairs passed ++ condition :: body :: flatPairs after)))).runOn env s =
      body.render.runOn env s₃ := by
  obtain ⟨v, hv, htrue⟩ := hfirst
  have hpairs : Tags.checkPairs (Node.parts (first.1 :: first.2 ::
      (flatPairs passed ++ condition :: body :: flatPairs after))) = pure () :=
    checkPairs_flatPairs (first :: passed) after condition body
  rw [unlessTag_parts first hpairs, Render.runOn_bind_ok _ _ hv, if_pos htrue,
    chooseBranch_passes h hpass]

/-- A `case` renders its subject first. -/
theorem caseTag_parts (subject : Node) (ns : List Node) :
    Tags.caseTag (Node.parts (subject :: ns)) =
      subject.render >>= fun v => Tags.chooseCase v (Node.parts ns) := rfl

/-- **A capture gives the signal of its body**, and binds nothing. -/
theorem captureTag_interrupt {name body : Node} {target u : String} {sig : Signal}
    (hname : name.part.text.runOn env s = (.ok target, s₁))
    (hbody : body.render.runOn env s₁ = (.ok (.interrupt u sig), s₂)) (after : List Node) :
    (Tags.captureTag (Node.parts (name :: body :: after))).runOn env s =
      (.ok (.interrupt u sig), s₂) := by
  show (name.part.text >>= fun target => body.render >>= fun v => if v.isSignal then pure v
    else Render.text v >>= fun text => Render.assign target (.str text) >>= fun _ =>
      pure (.str "")).runOn env s = _
  rw [Render.runOn_bind_ok _ _ hname, Render.runOn_bind_ok _ _ hbody,
    if_pos (Value.isSignal_interrupt u sig)]
  rfl

/-! ### One wrapper -/

/-- The state behind a wrapper: an inclusion closes its scope, the others change nothing. -/
def Wrapper.leave (w : Wrapper) (s : State) : State :=
  if w.isInclusion then s.withInner s.context.inner.tail else s

/-- Leaving a wrapper closes one more scope if the wrapper has opened one. -/
theorem Wrapper.leave_drop (w : Wrapper) (ws : Stack) (s : State) :
    w.leave (s.withInner (s.context.inner.drop (Stack.inclusions ws))) =
      s.withInner (s.context.inner.drop (Stack.inclusions (w :: ws))) := by
  unfold leave Stack.inclusions
  cases hw : w.isInclusion with
  | true =>
      rw [List.countP_cons_of_pos hw, if_pos rfl, State.withInner_withInner,
        State.inner_withInner, List.tail_drop]
  | false =>
      rw [List.countP_cons_of_neg (by simp [hw]), if_neg (by decide)]

/-- **One wrapper passes a signal on**, with the text on the way to it before it. -/
theorem Wrapper.Enters.render_plug {e : Engine} {now : Moment} {inner : Node} {w : Wrapper}
    {d d₁ : Nat} {t u : String} {sig : Signal} (h : w.Enters e now inner d s t d₁ s₁)
    (hinner : inner.render.runOn (e.surroundings now d₁) s₁ = (.ok (.interrupt u sig), s₂)) :
    (w.plug inner).render.runOn (e.surroundings now d) s =
      (.ok (.interrupt (t ++ u) sig), w.leave s₂) := by
  cases h with
  | block hrow =>
      rw [plug, Node.render_block, renderSequence, renderSequenceFrom_interrupt hrow hinner,
        String.empty_append]
      rfl
  | raw hrow =>
      rw [plug, render_as, StandardTag.run, Tags.rawTag, renderSequence,
        renderSequenceFrom_interrupt hrow hinner, String.empty_append]
      rfl
  | branch hskips hpasses =>
      rw [plug, render_as, StandardTag.run, ifTag_passes hskips hpasses, hinner,
        String.empty_append]
      rfl
  | unlessFirst hpasses =>
      rw [plug, render_as, StandardTag.run, unlessTag_passes_first hpasses, hinner,
        String.empty_append]
      rfl
  | unlessLater hfirst hskips hpasses =>
      rw [plug, render_as, StandardTag.run, unlessTag_passes_later hfirst hskips hpasses, hinner,
        String.empty_append]
      rfl
  | candidate hsubject hskips hpasses =>
      rw [plug, render_as, StandardTag.run, caseTag_parts, Render.runOn_bind_ok _ _ hsubject,
        chooseCase_passes hskips hpasses, hinner, String.empty_append]
      rfl
  | otherwise hsubject hskips =>
      rw [plug, render_as, StandardTag.run, caseTag_parts, Render.runOn_bind_ok _ _ hsubject,
        chooseCase_otherwise hskips, hinner, String.empty_append]
      rfl
  | capture hname =>
      rw [plug, render_as, StandardTag.run, captureTag_interrupt hname hinner, String.empty_append]
      rfl
  | «include» hname htemplate =>
      rw [plug, render_as, StandardTag.run, includeTag_template hname htemplate hinner,
        String.empty_append]
      rfl
  | includeWith hname htemplate hvalue =>
      rw [plug, render_as, StandardTag.run, includeTag_template_with hname htemplate hvalue hinner,
        String.empty_append]
      rfl

/-! ### Stacks -/

namespace Stack

variable {e : Engine} {now : Moment} {hole : Node} {ws : Stack} {d d' : Nat} {s' : State}
  {t : String}

/-- **A stack passes a signal on**, with all texts on the way to it before it; nothing but the
scopes of its inclusions changes behind the hole. -/
theorem render_plug (h : Reaches e now hole ws d s t d' s') {u : String} {sig : Signal}
    {s'' : State}
    (hhole : hole.render.runOn (e.surroundings now d') s' = (.ok (.interrupt u sig), s'')) :
    (plug ws hole).render.runOn (e.surroundings now d) s =
      (.ok (.interrupt (t ++ u) sig),
        s''.withInner (s''.context.inner.drop (inclusions ws))) := by
  induction h with
  | nil d s => rw [plug, String.empty_append]; exact hhole
  | cons henters _ ih =>
      rename_i w ws d d₁ d₂ s s₁ s₂ t v
      rw [plug, henters.render_plug (ih hhole), Wrapper.leave_drop, String.append_assoc]

end Stack

/-! ### What stands behind the hole -/

/-- A node gives the same on two engines, at any depth and from any state. -/
def RendersAlike (e e' : Engine) (now : Moment) (n : Node) : Prop :=
  ∀ d s, n.render.runOn (e.surroundings now d) s = n.render.runOn (e'.surroundings now d) s

section Alike

variable {e e' : Engine} {now : Moment} {d : Nat}

theorem RendersAlike.text {n : Node} (h : RendersAlike e e' now n) (d : Nat) (s : State) :
    n.part.text.runOn (e.surroundings now d) s = n.part.text.runOn (e'.surroundings now d) s := by
  have h := h d s
  show (n.render >>= Render.text).runOn _ s = (n.render >>= Render.text).runOn _ s
  rw [Render.runOn_bind, Render.runOn_bind, h]
  rfl

theorem WritesRow.alike {ns : List Node} {t : String} (hsame : ∀ n ∈ ns, RendersAlike e e' now n)
    (h : WritesRow (e.surroundings now d) ns s t s₁) :
    WritesRow (e'.surroundings now d) ns s t s₁ := by
  induction h with
  | nil s => exact .nil s
  | cons hn hsplit _ ih =>
      rw [hsame _ List.mem_cons_self] at hn
      exact .cons hn hsplit (ih fun m hm => hsame m (List.mem_cons_of_mem _ hm))

theorem Skips.alike {test : Value → Bool} {passed : List (Node × Node)}
    (hsame : ∀ n ∈ passed.map Prod.fst, RendersAlike e e' now n)
    (h : Skips (e.surroundings now d) test passed s s₁) :
    Skips (e'.surroundings now d) test passed s s₁ := by
  induction h with
  | nil s => exact .nil s
  | cons hn hfalse _ ih =>
      rw [List.map_cons, List.forall_mem_cons] at hsame
      rw [hsame.1] at hn
      exact .cons hn hfalse (ih hsame.2)

theorem Passes.alike {test : Value → Bool} {n : Node} (hsame : RendersAlike e e' now n)
    (h : Passes (e.surroundings now d) test n s s₁) :
    Passes (e'.surroundings now d) test n s s₁ := by
  obtain ⟨v, hv, htrue⟩ := h
  exact ⟨v, hsame d s ▸ hv, htrue⟩

/-- **The way through a wrapper does not depend on what stands behind the hole.** -/
theorem Wrapper.Enters.alike {w w' : Wrapper} {inner inner' : Node} {d₁ : Nat} {t : String}
    (halike : w.Alike w') (hfind : w.isInclusion = true → ∀ name,
      e.findTemplate name = .ok inner → e'.findTemplate name = .ok inner')
    (hsame : ∀ n ∈ w.approach, RendersAlike e e' now n)
    (h : w.Enters e now inner d s t d₁ s₁) : w'.Enters e' now inner' d s t d₁ s₁ := by
  cases h with
  | block hrow =>
      cases halike
      exact .block (hrow.alike hsame)
  | raw hrow =>
      cases halike
      exact .raw (hrow.alike hsame)
  | branch hskips hpasses =>
      cases halike
      rw [approach, List.forall_mem_append, List.forall_mem_singleton] at hsame
      exact .branch (hskips.alike hsame.1) (hpasses.alike hsame.2)
  | unlessFirst hpasses =>
      cases halike
      exact .unlessFirst (hpasses.alike (hsame _ List.mem_cons_self))
  | unlessLater hfirst hskips hpasses =>
      cases halike
      rw [approach, List.forall_mem_cons, List.forall_mem_append,
        List.forall_mem_singleton] at hsame
      exact .unlessLater (hfirst.alike hsame.1) (hskips.alike hsame.2.1)
        (hpasses.alike hsame.2.2)
  | candidate hsubject hskips hpasses =>
      cases halike
      rw [approach, List.forall_mem_cons, List.forall_mem_append,
        List.forall_mem_singleton] at hsame
      rw [hsame.1] at hsubject
      exact .candidate hsubject (hskips.alike hsame.2.1) (hpasses.alike hsame.2.2)
  | otherwise hsubject hskips =>
      cases halike
      rw [approach, List.forall_mem_cons] at hsame
      rw [hsame.1] at hsubject
      exact .otherwise hsubject (hskips.alike hsame.2)
  | capture hname =>
      cases halike
      rw [(hsame _ List.mem_cons_self).text] at hname
      exact .capture hname
  | «include» hname htemplate =>
      cases halike
      rw [(hsame _ List.mem_cons_self).text] at hname
      exact .include hname (hfind rfl _ htemplate)
  | includeWith hname htemplate hvalue =>
      cases halike
      rw [approach, List.forall_mem_cons, List.forall_mem_singleton] at hsame
      rw [hsame.1.text] at hname
      rw [hsame.2] at hvalue
      exact .includeWith hname (hfind rfl _ htemplate) hvalue

end Alike

namespace Stack

variable {e e' : Engine} {now : Moment} {hole : Node} {ws ws' : Stack} {d d' : Nat} {s' s'' : State}
  {t u : String} {sig : Signal}

/-- Stacks that differ only behind the hole have the same inclusions. -/
theorem Alike.inclusions_eq (halike : Alike e e' hole ws ws') : inclusions ws' = inclusions ws := by
  induction halike with
  | nil => rfl
  | cons hw _ _ ih =>
      unfold inclusions at ih ⊢
      rw [List.countP_cons, List.countP_cons, ih]
      cases hw <;> rfl

/-- The way through a stack does not depend on what stands behind the hole. -/
theorem Reaches.alike (halike : Alike e e' hole ws ws')
    (hsame : ∀ n ∈ approach ws, RendersAlike e e' now n)
    (h : Reaches e now hole ws d s t d' s') : Reaches e' now hole ws' d s t d' s' := by
  induction h generalizing ws' with
  | nil d s =>
      cases halike
      exact .nil d s
  | cons henters _ ih =>
      cases halike with
      | cons hw hfind hws =>
          rw [approach, List.flatMap_cons, List.forall_mem_append] at hsame
          exact .cons (henters.alike hw hfind hsame.1) (ih hws hsame.2)

/-- **Signal propagation at any depth.**  What stands in the hole gives a signal behind a text
`u`, which may be empty.  The stack gives the signal behind the texts on the way and `u`, a bare
one iff there is no text at all.  Behind the hole nothing is rendered and no variable bound: the
state is that which the hole has left, without the scopes of the inclusions; a stack that differs
only behind the hole does the same; and if all tags are standard tags, the scopes are those of
the start. -/
theorem signal_propagates (h : Reaches e now hole ws d s t d' s')
    (hhole : hole.render.runOn (e.surroundings now d') s' = (.ok (.interrupt u sig), s'')) :
    (plug ws hole).render.runOn (e.surroundings now d) s =
      (.ok (.interrupt (t ++ u) sig),
        s''.withInner (s''.context.inner.drop (inclusions ws))) ∧
    (Value.interrupt (t ++ u) sig = .signal sig ↔ t ++ u = "") ∧
    (∀ e' ws', Alike e e' hole ws ws' →
      (∀ n ∈ hole :: approach ws, RendersAlike e e' now n) →
        (plug ws' hole).render.runOn (e'.surroundings now d) s =
          (plug ws hole).render.runOn (e.surroundings now d) s) ∧
    (∀ kinds, e.MadeOf kinds → (plug ws hole).isMadeOf kinds = true →
      s''.context.inner.drop (inclusions ws) = s.context.inner) := by
  have hplug := render_plug h hhole
  refine ⟨hplug, ?_, fun e' ws' halike hsame => ?_, fun kinds he hkinds => ?_⟩
  · unfold Value.interrupt
    split
    · next hempty => exact ⟨fun _ => hempty, fun _ => rfl⟩
    · next htext =>
        constructor
        · intro heq
          cases heq
        · intro hempty
          exact absurd hempty htext
  · rw [List.forall_mem_cons] at hsame
    rw [hsame.1] at hhole
    rw [hplug, render_plug (h.alike halike hsame.2) hhole, halike.inclusions_eq]
  · have hkeeps := Engine.keeps_node he hkinds now d s
    rw [hplug] at hkeeps
    exact hkeeps.inner

/-- A template that captures a break, with something behind it. -/
def capturedBreak (after : Node) : Node :=
  plug [.capture (.ofStandard .capture) (.text "x") [after]] (.signal .break)

/-- An engine with such a template. -/
def capturing (after : Node) : Engine :=
  { Engine.new {} with templates := Table.ofList [("part", capturedBreak after)] }

/-- A block that includes the template behind a text. -/
def captured (after : Node) : Stack :=
  [.block [.text "a"] [after], .include (.ofStandard .include) (.text "part"),
    .capture (.ofStandard .capture) (.text "x") [after]]

/-- The break comes out behind the text, whatever stands behind it. -/
theorem signal_propagates_captured :
    ((plug (captured .placeholder) (.signal .break)).render.runOn
        ((capturing .placeholder).surroundings default 1) (Engine.start (capturing .placeholder)
          (.ofVariables ∅) ∅)).1 = .ok (.interrupt "a" .break) ∧
      (plug (captured (.text "b")) (.signal .break)).render.runOn
          ((capturing (.text "b")).surroundings default 1)
          (Engine.start (capturing .placeholder) (.ofVariables ∅) ∅) =
        (plug (captured .placeholder) (.signal .break)).render.runOn
          ((capturing .placeholder).surroundings default 1)
          (Engine.start (capturing .placeholder) (.ofVariables ∅) ∅) := by
  have htext (text : String) (env : Surroundings) (s : State) :
      (Node.text text).part.text.runOn env s = (.ok text, s) := by
    show (Render.text (.str text)).runOn env s = _
    rw [Render.text, Value.text_str]
    rfl
  generalize hs : Engine.start (capturing .placeholder) (.ofVariables ∅) ∅ = s
  have hreach : Reaches (capturing .placeholder) default (.signal .break) (captured .placeholder) 1
      s ("a" ++ "" ++ ("" ++ ("" ++ ""))) 0 (s.withInner (∅ :: s.context.inner)) :=
    .cons (.block (.cons rfl (Value.split_str "a") (.nil s)))
      (.cons (.include (htext "part" _ s) rfl)
        (.cons (.capture (htext "x" _ _)) (.nil 0 _)))
  have hhole : (Node.signal .break).render.runOn ((capturing .placeholder).surroundings default 0)
      (s.withInner (∅ :: s.context.inner)) =
        (.ok (.interrupt "" .break), s.withInner (∅ :: s.context.inner)) := rfl
  obtain ⟨hplug, -, hother, -⟩ := signal_propagates hreach hhole
  refine ⟨?_, hother (capturing (.text "b")) (captured (.text "b")) ?_ ?_⟩
  · rw [hplug]
    simp only [String.append_empty]
  · refine .cons (.block _ _ _) (fun h => by cases h) (.cons (.include _ _) (fun _ name h => ?_)
      (.cons (.capture _ _ _ _) (fun h => by cases h) .nil))
    have hmem : (name, _) ∈ [("part", capturedBreak .placeholder)] :=
      Engine.mem_of_findTemplate rfl h
    obtain ⟨rfl, -⟩ := Prod.mk.inj (List.mem_singleton.1 hmem)
    rfl
  · intro n hn d s
    simp only [captured, approach, Wrapper.approach, List.flatMap_cons, List.flatMap_nil,
      List.mem_cons, List.mem_append, List.not_mem_nil, or_false] at hn
    rcases hn with rfl | rfl | rfl | rfl <;> rfl

end Stack

end TemplateEngine
