/-
**Nodes.**

A template is a tree of nodes.  Every node renders to a value; blocks and tags may give a signal
instead of a text.  Tags are bound when the tree is built.

Main definitions:

* `Node` — the trees;
* `Node.part` — what a node is for the tag around it;
* `Node.render` — the render of a node, with an equation for each kind of node.
-/
import TemplateEngine.Node.Comparison
import TemplateEngine.Tag.Basic

set_option autoImplicit false

namespace TemplateEngine

/-- The nodes of a template. -/
inductive Node where
  | literal (v : Value)
  | text (s : String)
  /-- A variable, and a path into its value. -/
  | lookup (name : String) (path : List Value)
  /-- The integers from one number to another, both included. -/
  | range (start stop : Node)
  | compare (op : Comparison) (left right : Node)
  | connect (op : Connective) (left right : Node)
  /-- A value sent through the stages of a pipe. -/
  | output (expression : Node) (stages : List Node)
  /-- A stage of a pipe: a filter and its parameters.  It is no node to be rendered. -/
  | stage (filter : String) (params : List Node)
  | block (children : List Node)
  | tag (t : Tag) (children : List Node)
  | signal (s : Signal)
  /-- A named attribute of the tag around it. -/
  | attribute (name : String) (value : Node)
  /-- A node whose meaning is still to be supplied. -/
  | placeholder

instance : Inhabited Node := ⟨.placeholder⟩

namespace Node

/-- The render of a range between two numbers. -/
def rangeOf (start stop : Render Value) : Render Value := do
  let v ← start
  let a ← Render.integer v
  let w ← stop
  let b ← Render.integer w
  let items ← Render.liftFault (Value.rangeItems a (b + 1))
  return .list items

/-- The render of a comparison. -/
def compareOf (op : Comparison) (left right : Render Value) : Render Value := do
  let a ← left
  let b ← right
  Render.lift (op.apply a b)

/-- The render of a connective: the right operand only where the left one does not decide. -/
def connectOf (op : Connective) (left right : Render Value) : Render Value := do
  let a ← left
  match op.shortcut? a.isTruthy with
  | some b => return .bool b
  | none =>
      let b ← right
      return .bool b.isTruthy

/-- The render of a variable and a path. -/
def lookupOf (name : String) (path : List Value) : Render Value := do
  let v ← Render.resolve name
  Render.liftFault ((v.follow path).mapError .mismatch)

mutual

/-- What a node is for the tag around it. -/
def part : Node → Part
  | .literal v => .content (pure v)
  | .text s => .content (pure (.str s))
  | .lookup name path => .content (lookupOf name path)
  | .range start stop => .content (rangeOf (part start).run (part stop).run)
  | .compare op left right => .content (compareOf op (part left).run (part right).run)
  | .connect op left right => .content (connectOf op (part left).run (part right).run)
  | .output expression stages =>
      .content do
        let v ← (part expression).run
        runPipe v (parts stages)
  | .stage filter params => .stage filter ((parts params).map Part.run)
  | .block children => .content (renderSequence (parts children))
  | .tag t children => .content (t.run (parts children))
  | .signal s => .content (pure (.signal s))
  | .attribute name value => .attribute name (part value).run
  | .placeholder => .content (throw .placeholder)

/-- What several nodes are for the tag around them. -/
def parts : List Node → List Part
  | [] => []
  | n :: rest => part n :: parts rest

end

/-- The render of a node. -/
def render (n : Node) : Render Value := (part n).run

/-- The children of a tag are its parts one by one. -/
theorem parts_eq_map (ns : List Node) : parts ns = ns.map part := by
  induction ns with
  | nil => rfl
  | cons n rest ih => rw [parts, ih, List.map_cons]

/-! ### The render of each kind of node -/

/-- A literal gives its value. -/
theorem render_literal (v : Value) : (literal v).render = pure v := rfl

/-- A text gives itself. -/
theorem render_text (s : String) : (text s).render = pure (.str s) := rfl

/-- A lookup resolves the variable and follows the path. -/
theorem render_lookup (name : String) (path : List Value) :
    (lookup name path).render = lookupOf name path := rfl

/-- A range renders its bounds, the lower one first. -/
theorem render_range (start stop : Node) :
    (range start stop).render = rangeOf start.render stop.render := by
  simp only [render, part, Part.run]

/-- A comparison renders both operands, the left one first. -/
theorem render_compare (op : Comparison) (left right : Node) :
    (compare op left right).render = compareOf op left.render right.render := by
  simp only [render, part, Part.run]

/-- A connective renders its left operand, and the right one if it matters. -/
theorem render_connect (op : Connective) (left right : Node) :
    (connect op left right).render = connectOf op left.render right.render := by
  simp only [render, part, Part.run]

/-- An output renders its expression and sends the value through the pipe. -/
theorem render_output (expression : Node) (stages : List Node) :
    (output expression stages).render =
      (do let v ← expression.render; runPipe v (parts stages)) := by
  simp only [render, part, Part.run]

/-- **A stage of a pipe cannot be rendered.** -/
theorem render_stage (filter : String) (params : List Node) :
    (stage filter params).render = throw .misplacedStage := by
  simp only [render, part, Part.run]

/-- A block renders its children in a row, up to the first signal. -/
theorem render_block (children : List Node) :
    (block children).render = renderSequence (parts children) := by
  simp only [render, part, Part.run]

/-- A tag renders what it makes of its children. -/
theorem render_tag (t : Tag) (children : List Node) :
    (tag t children).render = t.run (parts children) := by
  simp only [render, part, Part.run]

/-- A signal gives itself. -/
theorem render_signal (s : Signal) : (signal s).render = pure (.signal s) := rfl

/-- An attribute by itself renders as its value. -/
theorem render_attribute (name : String) (value : Node) :
    (Node.attribute name value).render = value.render := by
  simp only [render, part, Part.run]

end Node

end TemplateEngine
