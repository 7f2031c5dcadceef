/-
**Tags that write: `assign`, `capture`, `cycle`.**

`assign` binds the value of a pipe and `capture` the text of a body, both in the root scope; a
body that ends with a signal is passed on and binds nothing.  `cycle` gives its values in turn:
cycles with one group name share their position, and so do unnamed cycles with the same texts.
-/
import TemplateEngine.Render

set_option autoImplicit false

namespace TemplateEngine.Tags

/-- The `assign` tag: name, value, and the stages of a pipe. -/
def assignTag : List Part → Render Value
  | [] => throw .missingChild
  | [name] => do
      let _ ← name.text
      throw .missingChild
  | name :: value :: stages => do
      let target ← name.text
      let v ← value.run
      let w ← runPipe v stages
      Render.assign target w
      return .str ""

/-- The `capture` tag: name and body. -/
def captureTag : List Part → Render Value
  | [] => throw .missingChild
  | [name] => do
      let _ ← name.text
      throw .missingChild
  | name :: body :: _ => do
      let target ← name.text
      let v ← body.run
      if v.isSignal then return v
      else
        let text ← Render.text v
        Render.assign target (.str text)
        return .str ""

/-- What tells a cycle apart: its group if it has one, else the texts of its values. -/
def cycleKey (group : Value) (values : List Value) : Render CycleKey :=
  match group with
  | .nil => do
      let texts ← Render.all (values.map Render.text)
      return .values texts
  | v => do
      let name ← Render.text v
      return .group name

/-- The `cycle` tag: group, or nil, and values.  Without values it gives nothing. -/
def cycleTag : List Part → Render Value
  | group :: first :: rest => do
      -- values first, then the group: their effects come in this order
      let values ← Render.all ((first :: rest).map Part.run)
      let g ← group.run
      let key ← cycleKey g values
      let position ← Render.onContext (·.advance key)
      return (values[position % values.length]?).getD .nil
  | _ => pure (.str "")

end TemplateEngine.Tags
