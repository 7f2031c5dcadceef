/-
**Rendering.**

A render reads its surroundings (the mode, the current moment, the templates) and works on a
state: the context, the filters, and notes that tags of users may leave.  **A failed render
leaves the state that it has reached**, and a scope is closed however its body ends.

A tag sees its children as parts: a part to be rendered, an attribute, or a pipe stage.  So a tag
is a function from parts to a render, and users can add their own.

Main definitions:

* `Render`, `State`, `Surroundings` — the types;
* `Part` — what a tag sees of a child;
* `Render.inScope`, `Render.resolve`, `Render.assign` — work on the context;
* `renderSequence` — parts in a row, up to the first signal.
-/
import TemplateEngine.Context
import TemplateEngine.Filter.Basic
import TemplateEngine.Registry
import TemplateEngine.Value.Interruption

set_option autoImplicit false

namespace TemplateEngine

/-- A filter is registered under its name. -/
instance : Named Filter := ⟨Filter.name, .unknownFilter⟩

/-! ### State and surroundings -/

/-- What a render works on. -/
structure State where
  context : Context
  filters : Registry Filter
  /-- Notes of tags that are not standard. -/
  notes : Table String Value

/-- The end of a render: a value or an error, and the state that it has reached. -/
abbrev Outcome (α : Type) := Except Error α × State

/-- What a render reads. -/
structure Surroundings where
  strictVariables : Bool
  now : Moment
  /-- The render of a template. -/
  template : String → Except Error (State → Outcome Value)

/-- A computation that reads its surroundings, works on the state and may fail. -/
abbrev Render (α : Type) := ReaderT Surroundings (ExceptT Error (StateM State)) α

namespace Render

variable {α : Type}

/-- Run a render. -/
def runOn (r : Render α) (env : Surroundings) (s : State) : Outcome α := r env s

/-- The render of a given outcome. -/
def ofFunction (f : Surroundings → State → Outcome α) : Render α := f

/-- A result that does not depend on the state. -/
def lift (r : Except Error α) : Render α := ofFunction fun _ s => (r, s)

/-- The result of an operation on values. -/
def liftFault (r : Except Fault α) : Render α := lift (r.mapError .fault)

/-- Work on the context. -/
def onContext (f : Context → α × Context) : Render α :=
  ofFunction fun _ s =>
    let (a, c) := f s.context
    (.ok a, { s with context := c })

/-- The value of a variable. -/
def resolve (name : String) : Render Value :=
  ofFunction fun env s => (s.context.resolve env.strictVariables name, s)

/-- Bind a variable in the root scope. -/
def assign (name : String) (v : Value) : Render Unit := onContext fun c => ((), c.assign name v)

/-- Bind a variable in the innermost scope. -/
def bindLocal (name : String) (v : Value) : Render Unit := onContext fun c => ((), c.bind name v)

/-- Render a body in a scope of its own, which is closed **whatever the outcome**. -/
def inScope (scope : Scope) (body : Render α) : Render α :=
  ofFunction fun env s =>
    let (result, s') := body.runOn env { s with context := s.context.push scope }
    (result, { s' with context := s'.context.pop })

/-- Apply the filter with a name. -/
def applyFilter (name : String) (v : Value) (params : List Value) : Render Value :=
  ofFunction fun env s => ((s.filters.get name).bind fun f => f.apply env.now v params, s)

/-- Look up a template. -/
def findTemplate (name : String) : Render (Render Value) :=
  ofFunction fun env s => ((env.template name).map fun run => ofFunction fun _ s => run s, s)

/-- The text of a value. -/
def text (v : Value) : Render String := liftFault v.text

/-- The integer that a value counts as. -/
def integer (v : Value) : Render Int := liftFault v.integer

/-- The text and the signal of what a part gave. -/
def split (v : Value) : Render (String × Option Signal) := liftFault v.split

/-- Run renders one after another. -/
def all : List (Render α) → Render (List α)
  | [] => pure []
  | r :: rest => do
      let a ← r
      let others ← all rest
      return a :: others

end Render

/-! ### Parts -/

/-- What a tag sees of a child. -/
inductive Part where
  | content (run : Render Value)
  | attribute (name : String) (run : Render Value)
  /-- A filter and its parameters. -/
  | stage (filter : String) (params : List (Render Value))

namespace Part

/-- The render of a part; a pipe stage has none. -/
def run : Part → Render Value
  | .content r => r
  | .attribute _ r => r
  | .stage _ _ => throw .misplacedStage

/-- Whether a part is an attribute. -/
def isAttribute : Part → Bool
  | .attribute _ _ => true
  | _ => false

end Part

/-- The text of what a part renders to. -/
def Part.text (p : Part) : Render String := do Render.text (← p.run)

/-- Parts in a row behind a text that is written already; the first signal ends the row. -/
def renderSequenceFrom (written : String) : List Part → Render Value
  | [] => pure (.str written)
  | p :: rest => do
      let v ← p.run
      let (text, signal?) ← Render.split v
      match signal? with
      | some s => return .interrupt (written ++ text) s
      | none => renderSequenceFrom (written ++ text) rest

/-- Parts in a row: their texts one after another, up to the first signal, which is passed on
with the text before it. -/
def renderSequence (parts : List Part) : Render Value := renderSequenceFrom "" parts

/-! ### Pipes -/

/-- A filter and the values of its parameters. -/
structure Stage where
  filter : String
  params : List Value

/-- Evaluate the parameters of all stages of a pipe. -/
def evaluateStages : List Part → Render (List Stage)
  | [] => pure []
  | .stage filter params :: rest => do
      let values ← Render.all params
      let others ← evaluateStages rest
      return ⟨filter, values⟩ :: others
  | _ :: _ => throw .misplacedStage

/-- Send a value through the stages of a pipe. -/
def applyStages (v : Value) : List Stage → Render Value
  | [] => pure v
  | stage :: rest => do
      let w ← Render.applyFilter stage.filter v stage.params
      applyStages w rest

/-- Send a value through a pipe: **first all parameters are evaluated, then the filters run**. -/
def runPipe (v : Value) (stages : List Part) : Render Value := do
  let evaluated ← evaluateStages stages
  applyStages v evaluated

end TemplateEngine
