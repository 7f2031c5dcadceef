/-
**Engines.**

An engine owns a configuration, a registry of filters, one of tags, and named templates for
inclusion.  It renders the nodes at the top of a template into a text; a signal that gets there
is dropped, or is an error, as the configuration says.

Main definitions:

* `Engine.new` — the engine with the standard filters and tags;
* `Engine.registerTemplate`, `Engine.findTemplate` — templates;
* `Engine.surroundings` — what a render of the engine reads;
* `Engine.renderNodes`, `Engine.render`, `Engine.renderConfigured`, `Engine.renderNode` — rendering
  in a state.
-/
import TemplateEngine.Node.Basic

set_option autoImplicit false

namespace TemplateEngine

/-- The registry of the standard filters. -/
def standardFilters : Registry Filter := Registry.ofItems (StandardFilter.all.map Filter.ofStandard)

/-- The registry of the standard tags. -/
def standardTags : Registry Tag := Registry.ofItems (StandardTag.all.map Tag.ofStandard)

/-- What is rendered into a text: nodes in a row, or one node by itself. -/
inductive Template where
  | row (nodes : List Node)
  | single (node : Node)

/-- What a render needs besides a context. -/
structure Engine where
  config : Config
  filters : Registry Filter
  tags : Registry Tag
  templates : Table String Node

namespace Engine

/-- The engine of a configuration with the standard filters and tags. -/
def new (config : Config) : Engine := ⟨config, standardFilters, standardTags, Table.empty⟩

/-! ### Templates -/

/-- Keep a template under a name. -/
def registerTemplate (e : Engine) (name : Value) (template : Node) : Except Error Engine := do
  let n ← Name.ofValue name
  return { e with templates := e.templates.insert n template }

/-- The template with a name. -/
def findTemplate (e : Engine) (name : String) : Except Error Node :=
  match e.templates.find? name with
  | some n => .ok n
  | none => .error (.unknownTemplate name (Registry.sortNames e.templates.keys))

/-- What a render reads, with `depth` inclusions inside each other at most. -/
def surroundings (e : Engine) (now : Moment) : Nat → Surroundings
  | 0 =>
      { strictVariables := e.config.strictVariables
        now := now
        template := fun name => do
          let _ ← e.findTemplate name
          return fun s => (.error .tooDeep, s) }
  | depth + 1 =>
      { strictVariables := e.config.strictVariables
        now := now
        template := fun name => do
          let n ← e.findTemplate name
          -- what a template includes is one level further down
          return n.render.runOn (surroundings e now depth) }

/-! ### Rendering -/

/-- The texts of the parts at the top of a template, and what becomes of their signals. -/
def renderTop (policy : StrayPolicy) : List Part → Render String
  | [] => pure ""
  | p :: rest => do
      let v ← p.run
      let (text, signal?) ← Render.split v
      match signal?, policy with
      | some s, .error => throw (.straySignal s)
      | _, _ =>
          let others ← renderTop policy rest
          return text ++ others

/-- The number of inclusions inside each other that an engine follows. -/
def maxDepth : Nat := 1000

/-- The state of a render that begins with a context. -/
def start (e : Engine) (context : Context) (notes : Table String Value) : State :=
  ⟨context, e.filters, notes⟩

/-- Render nodes into a text; stray signals are treated as `policy` says. -/
def renderNodes (e : Engine) (now : Moment) (policy : StrayPolicy) (nodes : List Node)
    (s : State) : Outcome String :=
  (renderTop policy (Node.parts nodes)).runOn (e.surroundings now maxDepth) s

/-- Render a template into a text.  A pipe stage by itself is no template. -/
def render (e : Engine) (now : Moment) (policy : StrayPolicy) (t : Template) (s : State) :
    Outcome String :=
  match t with
  | .row nodes => e.renderNodes now policy nodes s
  | .single (.stage _ _) => (.error .loneStage, s)
  | .single n => e.renderNodes now policy [n] s

/-- Render a template as the configuration of the engine says. -/
def renderConfigured (e : Engine) (now : Moment) (t : Template) (s : State) : Outcome String :=
  e.render now e.config.straySignal t s

/-- Render one node into a value. -/
def renderNode (e : Engine) (now : Moment) (n : Node) (s : State) : Outcome Value :=
  n.render.runOn (e.surroundings now maxDepth) s

/-- Send a value through filters with parameters, from left to right. -/
def applyFilters (e : Engine) (now : Moment) (v : Value) :
    List (String × List Value) → Except Error Value
  | [] => .ok v
  | (name, params) :: rest => do
      let f ← e.filters.get name
      let w ← f.apply now v params
      e.applyFilters now w rest

end Engine

end TemplateEngine
