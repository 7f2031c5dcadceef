/-
**Capturing and echoing.**

To capture what a body renders to and to put the variable out right behind is to render the body:
what is an ordinary content is bound as a text and read back from the root, where nothing hides
it, for the body has closed every scope that it opened; a signal is passed on by the capture, which
binds nothing, and ends the row before the variable is read; and an error is an error.

Main results:

* `runOn_renderSequenceFrom_cons` — a row, one part after another;
* `Node.runOn_echo` — what a row of a capture and an echo makes of the end of the body;
* `Engine.capture_echo` — **capturing and echoing is the same as rendering**.
-/
import TemplateEngine.Proofs.Apart

set_option autoImplicit false

namespace TemplateEngine

/-! ### Rows -/

/-- A row goes on behind a part that gives no signal. -/
theorem runOn_renderSequenceFrom_cons (env : Surroundings) (s : State) (written : String) (p : Part)
    (rest : List Part) : (renderSequenceFrom written (p :: rest)).runOn env s =
      match p.run.runOn env s with
      | (.error e, u) => (.error e, u)
      | (.ok v, u) =>
          match v.split with
          | .error f => (.error (.fault f), u)
          | .ok (text, some signal) => (.ok (.interrupt (written ++ text) signal), u)
          | .ok (text, none) => (renderSequenceFrom (written ++ text) rest).runOn env u := by
  rw [renderSequenceFrom, Render.runOn_bind]
  obtain ⟨result, u⟩ := p.run.runOn env s
  cases result with
  | error e => rfl
  | ok v =>
      simp only
      rw [Render.split, Render.liftFault, Render.runOn_bind, Render.runOn_lift]
      obtain f | ⟨text, _ | signal⟩ := v.split
      · rfl
      · rfl
      · rfl

namespace Node

/-- A body that is captured, and behind it the variable that it is captured in. -/
def echo (t : Tag) (x : String) (body : Node) : Node :=
  block [tag t [literal (.str x), body], output (lookup x []) []]

variable (env : Surroundings) (s : State)

/-- A row of one node gives its text or its signal. -/
theorem runOn_block_singleton (body : Node) :
    (block [body]).render.runOn env s =
      match body.render.runOn env s with
      | (.error e, u) => (.error e, u)
      | (.ok v, u) =>
          match v.split with
          | .error f => (.error (.fault f), u)
          | .ok (content, some s) => (.ok (.interrupt content s), u)
          | .ok (content, none) => (.ok (.str content), u) := by
  rw [render_block, parts, parts, renderSequence, runOn_renderSequenceFrom_cons, ← render]
  obtain ⟨result, u⟩ := body.render.runOn env s
  cases result with
  | error e => rfl
  | ok v =>
      simp only [String.empty_append]
      obtain f | ⟨content, _ | signal⟩ := v.split
      · rfl
      · rfl
      · rfl

/-- A capture and its echo give what the body gives: a signal at once, a text by way of the
variable. -/
theorem runOn_echo {t : Tag} (ht : t.body = .standard .capture) (x : String) (body : Node)
    (hx : ∀ scope ∈ (body.render.runOn env s).2.context.inner, scope.contains x = false) :
    (echo t x body).render.runOn env s =
      match body.render.runOn env s with
      | (.error e, u) => (.error e, u)
      | (.ok v, u) =>
          match v.split with
          | .error f => (.error (.fault f), u)
          | .ok (content, some s) => (.ok (.interrupt content s), u)
          | .ok (content, none) => (.ok (.str content), u.assign x (.str content)) := by
  have hcapturing : (Tags.capturing (literal (.str x)).part body.part).runOn env s =
      ((body.render.runOn env s).1.map fun v => (x, v), (body.render.runOn env s).2) := by
    rw [Tags.capturing, Render.runOn_bind_ok _ _ (Render.runOn_text_literal env s x),
      Render.runOn_bind, ← render]
    obtain ⟨result, u⟩ := body.render.runOn env s
    cases result <;> rfl
  rw [echo, render_block, parts, parts, parts, renderSequence, runOn_renderSequenceFrom_cons,
    ← render, runOn_capture _ _ ht, hcapturing]
  cases hbody : body.render.runOn env s with
  | mk result u =>
      rw [hbody] at hx
      cases result with
      | error e => rfl
      | ok v =>
          cases hv : v.isSignal with
          | true =>
              -- the capture passes the signal on, which ends the row
              obtain ⟨content, signal, hsplit⟩ := Value.exists_split_of_isSignal hv
              simp only [Except.map, hv, if_true, hsplit, String.empty_append]
          | false =>
              simp only [Except.map, hv, Bool.false_eq_true, if_false,
                Value.split_of_not_isSignal hv]
              cases v.text with
              | error f => rfl
              | ok content =>
                  have hfind : (u.assign x (.str content)).context.find? x = some (.str content) :=
                    State.find?_assign hx _
                  have hecho : (output (lookup x []) []).part.run.runOn env
                      (u.assign x (.str content)) =
                        (.ok (.str content), u.assign x (.str content)) := by
                    rw [← render, render_output_nil, runOn_lookup env hfind]
                  simp only [Value.split_str, runOn_renderSequenceFrom_cons, hecho,
                    String.empty_append]
                  rfl

end Node

namespace Engine

variable {e : Engine}

/-- **Capturing and echoing is the same as rendering**, also across signals and errors: a body that
is captured in a variable which no inner scope binds, and that variable right behind it, give the
same text, the same signal with the same text, or the same error as the body by itself, and the
states at the end are alike but for the binding of that variable in the root. -/
theorem capture_echo (he : e.MadeOf fun _ => true) {body : Node}
    (hbody : body.isMadeOf (fun _ => true) = true) {t : Tag} (ht : t.body = .standard .capture)
    (x : String) (now : Moment) (depth : Nat) {s : State}
    (hx : ∀ scope ∈ s.context.inner, scope.contains x = false) :
    ((Node.echo t x body).render.runOn (e.surroundings now depth) s).1 =
        ((Node.block [body]).render.runOn (e.surroundings now depth) s).1 ∧
      ((Node.echo t x body).render.runOn (e.surroundings now depth) s).2.without x =
        ((Node.block [body]).render.runOn (e.surroundings now depth) s).2.without x := by
  have hinner := (keeps_node he hbody now depth s).inner
  rw [Node.runOn_echo _ _ ht x body (hinner ▸ hx), Node.runOn_block_singleton]
  obtain ⟨result, u⟩ := body.render.runOn (e.surroundings now depth) s
  cases result with
  | error y => exact ⟨rfl, rfl⟩
  | ok v =>
      simp only
      obtain f | ⟨content, _ | signal⟩ := v.split
      · exact ⟨rfl, rfl⟩
      · exact ⟨rfl, State.without_assign u x _⟩
      · exact ⟨rfl, rfl⟩

/-- An engine with a template that writes, and leaves the loop around it. -/
def leavingBehind : Engine :=
  { Engine.new {} with
    templates := Table.ofList [("leave", .block
      [.tag (.ofStandard .assign) [.literal (.str "out"), .literal (.int 7)], .text "done",
        .signal .break])] }

/-- A body that includes that template behind a text. -/
def leavingBody : Node :=
  .block [.text "almost ", .tag (.ofStandard .include) [.literal (.str "leave")]]

/-- The signal and the text before it come through the capture, which binds nothing. -/
theorem capture_echo_leavingBehind :
    (leavingBehind.MadeOf fun _ => true) ∧ leavingBody.isMadeOf (fun _ => true) = true ∧
      ((Node.echo (.ofStandard .capture) "out" leavingBody).render.runOn
        (leavingBehind.surroundings default 1) (leavingBehind.start (.ofVariables ∅) ∅)).1 =
          .ok (.interrupted "almost done" .break) := by
  have he : leavingBehind.MadeOf fun _ => true := by
    intro key n hn
    obtain ⟨-, rfl⟩ := Prod.mk.inj (List.mem_singleton.1 (mem_of_findTemplate rfl hn))
    rfl
  have hbody : leavingBody.isMadeOf (fun _ => true) = true := rfl
  have hecho := capture_echo he hbody (t := .ofStandard .capture) rfl "out" default 1
    (s := leavingBehind.start (.ofVariables ∅) ∅) (fun scope hscope => by cases hscope)
  exact ⟨he, hbody, hecho.1.trans rfl⟩

end Engine

end TemplateEngine
