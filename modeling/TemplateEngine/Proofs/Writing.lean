/-
**Tags that write, taken apart.**

`assign`, `capture` and `cycle` first find out what to write and write at the very end: a tag
that fails, or a capture of a signal, has not written anything itself.  So each of the three is a
tag whose writing step is left open, and that step may be another one, for instance one that keeps
a record of what is written.

Main definitions and results:

* `Tags.assignment`, `Tags.capturing`, `Tags.counting` — what is found out before the writing;
* `Tags.assignTagBy`, `Tags.captureTagBy`, `Tags.cycleTagBy` — the tags with an open writing step;
* `Node.runOn_assign`, `Node.runOn_capture` — **what a tag does to the root scope**, by how it ends.
-/
import TemplateEngine.Proofs.Run

set_option autoImplicit false

namespace TemplateEngine

namespace Tags

/-! ### What is to be written -/

/-- The name and the value of an assignment. -/
def assignment (name value : Part) (stages : List Part) : Render (String × Value) := do
  let target ← name.text
  let v ← value.run
  let w ← runPipe v stages
  return (target, w)

/-- The name of a capture and what its body gives. -/
def capturing (name body : Part) : Render (String × Value) := do
  let target ← name.text
  let v ← body.run
  return (target, v)

/-- What tells a cycle apart, and its values. -/
def counting (group : Part) (values : List Part) : Render (CycleKey × List Value) := do
  let vs ← Render.all (values.map Part.run)
  let g ← group.run
  let key ← cycleKey g vs
  return (key, vs)

/-- What becomes of a capture: a signal is passed on, anything else is written as a text. -/
def keepText (write : String → Value → Render Unit) (target : String) (v : Value) :
    Render Value := do
  if v.isSignal then return v
  else
    let text ← Render.text v
    write target (.str text)
    return .str ""

/-! ### The tags with an open writing step -/

/-- The `assign` tag with another writing step. -/
def assignTagBy (write : String → Value → Render Unit) : List Part → Render Value
  | [] => throw .missingChild
  | [name] => do
      let _ ← name.text
      throw .missingChild
  | name :: value :: stages => do
      let (target, v) ← assignment name value stages
      write target v
      return .str ""

/-- The `capture` tag with another writing step. -/
def captureTagBy (write : String → Value → Render Unit) : List Part → Render Value
  | [] => throw .missingChild
  | [name] => do
      let _ ← name.text
      throw .missingChild
  | name :: body :: _ => do
      let (target, v) ← capturing name body
      keepText write target v

/-- The `cycle` tag with another way to count. -/
def cycleTagBy (count : CycleKey → Render Nat) : List Part → Render Value
  | group :: first :: rest => do
      let (key, values) ← counting group (first :: rest)
      let position ← count key
      return (values[position % values.length]?).getD .nil
  | _ => pure (.str "")

theorem assignTagBy_assign : assignTagBy Render.assign = assignTag := by
  funext parts
  match parts with
  | [] => rfl
  | [_] => rfl
  | _ :: _ :: _ => simp only [assignTagBy, assignment, assignTag, bind_assoc, pure_bind]

theorem captureTagBy_assign : captureTagBy Render.assign = captureTag := by
  funext parts
  match parts with
  | [] => rfl
  | [_] => rfl
  | _ :: _ :: _ => simp only [captureTagBy, capturing, keepText, captureTag, bind_assoc, pure_bind]

theorem cycleTagBy_advance :
    cycleTagBy (fun key => Render.onContext (·.advance key)) = cycleTag := by
  funext parts
  match parts with
  | [] => rfl
  | [_] => rfl
  | _ :: _ :: _ => simp only [cycleTagBy, counting, cycleTag, bind_assoc, pure_bind]

end Tags

/-! ### What the tags do to the root scope -/

/-- The state with a variable bound in the root. -/
def State.assign (s : State) (name : String) (v : Value) : State :=
  { s with context := s.context.assign name v }

/-- What was bound in the root is found if no inner scope binds the same variable. -/
theorem State.find?_assign {s : State} {x : String}
    (hx : ∀ scope ∈ s.context.inner, scope.contains x = false) (v : Value) :
    (s.assign x v).context.find? x = some v := by
  refine s.context.find?_assign_of_free x (fun scope hscope => ?_) v
  rw [← Table.contains_iff, hx scope hscope]
  exact Bool.false_ne_true

namespace Node

variable (env : Surroundings) (s : State)

/-- **An assignment whose name, value, parameter or filter fails binds nothing**; any other binds
its name to its value, behind all that was written on the way there. -/
theorem runOn_assign {t : Tag} (ht : t.body = .standard .assign) (name value : Node)
    (stages : List Node) :
    (tag t (name :: value :: stages)).render.runOn env s =
      match (Tags.assignment name.part value.part (parts stages)).runOn env s with
      | (.ok (target, v), s') => (.ok (.str ""), s'.assign target v)
      | (.error e, s') => (.error e, s') := by
  rw [render_tag, Tag.run, ht]
  show (Tags.assignTag (name.part :: value.part :: parts stages)).runOn env s = _
  rw [← Tags.assignTagBy_assign, Tags.assignTagBy, Render.runOn_bind]
  obtain ⟨result, s'⟩ := (Tags.assignment name.part value.part (parts stages)).runOn env s
  cases result <;> rfl

/-- **A capture whose body fails or gives a signal binds nothing**; any other binds its name to
the text of its body. -/
theorem runOn_capture {t : Tag} (ht : t.body = .standard .capture) (name body : Node)
    (after : List Node) :
    (tag t (name :: body :: after)).render.runOn env s =
      match (Tags.capturing name.part body.part).runOn env s with
      | (.ok (target, v), s') =>
          if v.isSignal then (.ok v, s')
          else match v.text with
            | .ok content => (.ok (.str ""), s'.assign target (.str content))
            | .error f => (.error (.fault f), s')
      | (.error e, s') => (.error e, s') := by
  rw [render_tag, Tag.run, ht]
  show (Tags.captureTag (name.part :: body.part :: parts after)).runOn env s = _
  rw [← Tags.captureTagBy_assign, Tags.captureTagBy, Render.runOn_bind]
  obtain ⟨result, s'⟩ := (Tags.capturing name.part body.part).runOn env s
  cases result with
  | error e => rfl
  | ok captured =>
      obtain ⟨target, v⟩ := captured
      show (Tags.keepText Render.assign target v).runOn env s' = _
      rw [Tags.keepText]
      by_cases hv : v.isSignal = true
      · simp only [hv, if_true]
        rfl
      · simp only [hv, Bool.false_eq_true, if_false]
        rw [Render.runOn_bind, Render.text, Render.liftFault, Render.runOn_lift]
        cases v.text <;> rfl

end Node

end TemplateEngine
