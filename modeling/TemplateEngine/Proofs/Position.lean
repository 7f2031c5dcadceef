/-
**Where a node stands, and what may stand there.**

A child of a node is used in one of three ways: as an expression, whose value is used; as a
statement, whose text and signal are passed on; or as the body of a loop, where signals end.  The
table of positions says which child of a standard tag is used in which way.

A render can be watched: an observer is put around the render of every node of a tree, and is
told the position of the node.

Main definitions:

* `Position`, `StandardTag.positions` — the uses of children;
* `Node.isMadeOf`, `Engine.MadeOf` — trees whose tags are standard tags of some kinds;
* `Licence` — where in a tree signals may arise;
* `Observer`, `Node.observed`, `Engine.observedSurroundings` — watched renders, with
  `Node.observed_id`, `Engine.observedSurroundings_id`: watching by doing nothing changes nothing.
-/
import TemplateEngine.Proofs.Run

set_option autoImplicit false

namespace TemplateEngine

/-! ### Positions -/

/-- How a child is used by the node around it. -/
inductive Position where
  /-- Its value is used. -/
  | expression
  /-- Its text and its signal are passed on. -/
  | statement
  /-- Its text is passed on, its signal ends. -/
  | body
  deriving DecidableEq, Repr

/-- Conditions and branches in turn. -/
def branchPositions : List Bool → List Position
  | _ :: _ :: rest => .expression :: .statement :: branchPositions rest
  | [_] => [.expression]
  | [] => []

/-- Values and branches in turn; a child left over is a branch. -/
def casePositions : List Bool → List Position
  | _ :: _ :: rest => .expression :: .statement :: casePositions rest
  | [_] => [.statement]
  | [] => []

/-- The children of a loop from the one with `k` positional children before it on: the third
positional child is the body. -/
def loopPositions (k : Nat) : List Bool → List Position
  | true :: rest => .expression :: loopPositions k rest
  | false :: rest => (if k = 2 then .body else .expression) :: loopPositions (k + 1) rest
  | [] => []

/-- The positions of the children of a standard tag, of which it is known whether they are
attributes.  Those of a comment are not used at all, so they may be what they like. -/
def StandardTag.positions : StandardTag → List Bool → List Position
  | .raw, flags => flags.map fun _ => .statement
  | .comment, flags => flags.map fun _ => .statement
  | .if, flags => branchPositions flags
  | .unless, flags => branchPositions flags
  | .case, _ :: flags => .expression :: casePositions flags
  | .capture, _ :: _ :: flags => .expression :: .statement :: flags.map fun _ => .expression
  | .for, flags => loopPositions 0 flags
  | .tablerow, flags => loopPositions 0 flags
  | _, flags => flags.map fun _ => .expression

/-- Whether a standard tag binds variables in the root scope. -/
def StandardTag.writes : StandardTag → Bool
  | .assign => true
  | .capture => true
  | _ => false

/-- The positions of the children of a tag; what a custom tag does with them is not known. -/
def Tag.positions (t : Tag) (flags : List Bool) : List Position :=
  match t.body with
  | .standard kind => kind.positions flags
  | .custom _ _ => flags.map fun _ => .expression

/-- Whether a node is an attribute of the tag around it. -/
def Node.isAttribute : Node → Bool
  | .attribute _ _ => true
  | _ => false

/-! ### Standard trees -/

/-- Whether a tag is a standard tag of one of some kinds. -/
def Tag.isOf (kinds : StandardTag → Bool) (t : Tag) : Bool :=
  match t.body with
  | .standard kind => kinds kind
  | .custom _ _ => false

theorem Tag.isOf_iff (kinds : StandardTag → Bool) (t : Tag) :
    t.isOf kinds = true ↔ ∃ kind, t.body = .standard kind ∧ kinds kind = true := by
  unfold Tag.isOf
  cases t.body with
  | standard kind => simp
  | custom label run => simp

namespace Node

mutual

/-- Whether all tags in a tree are standard tags of some kinds. -/
def isMadeOf (kinds : StandardTag → Bool) : Node → Bool
  | .range start stop => isMadeOf kinds start && isMadeOf kinds stop
  | .compare _ left right => isMadeOf kinds left && isMadeOf kinds right
  | .connect _ left right => isMadeOf kinds left && isMadeOf kinds right
  | .output expression stages => isMadeOf kinds expression && areMadeOf kinds stages
  | .stage _ params => areMadeOf kinds params
  | .block children => areMadeOf kinds children
  | .tag t children => t.isOf kinds && areMadeOf kinds children
  | .attribute _ value => isMadeOf kinds value
  | _ => true

/-- Whether all tags in several trees are standard tags of some kinds. -/
def areMadeOf (kinds : StandardTag → Bool) : List Node → Bool
  | [] => true
  | n :: rest => isMadeOf kinds n && areMadeOf kinds rest

end

theorem areMadeOf_iff (kinds : StandardTag → Bool) (ns : List Node) :
    areMadeOf kinds ns = true ↔ ∀ n ∈ ns, n.isMadeOf kinds = true := by
  induction ns with
  | nil => simp [areMadeOf]
  | cons n rest ih => simp [areMadeOf, ih]

end Node

/-- Every template of the engine is a tree of standard tags of some kinds. -/
def Engine.MadeOf (e : Engine) (kinds : StandardTag → Bool) : Prop :=
  ∀ name n, e.findTemplate name = .ok n → n.isMadeOf kinds = true

/-! ### Licences -/

/-- Where in a tree signals and inclusions may stand. -/
inductive Licence where
  /-- Nowhere. -/
  | barred
  /-- Only inside the body of a loop. -/
  | looped
  /-- At every statement. -/
  | free
  deriving DecidableEq, Repr

/-- The licence of a child at a position. -/
def Position.licence : Position → Licence → Licence
  | .expression, _ => .barred
  | .statement, l => l
  | .body, .barred => .barred
  | .body, _ => .free

/-! ### Observers -/

/-- What is put around the render of each node of a tree. -/
abbrev Observer := Position → Render Value → Render Value

namespace Node

mutual

/-- What a node at a position is for the tag around it, if its render and those of all nodes
below it are watched. -/
def observed (o : Observer) (pos : Position) : Node → Part
  | .literal v => .content (o pos (pure v))
  | .text s => .content (o pos (pure (.str s)))
  | .lookup name path => .content (o pos (lookupOf name path))
  | .range start stop =>
      .content (o pos (rangeOf (observed o .expression start).run (observed o .expression stop).run))
  | .compare op left right =>
      .content (o pos
        (compareOf op (observed o .expression left).run (observed o .expression right).run))
  | .connect op left right =>
      .content (o pos
        (connectOf op (observed o .expression left).run (observed o .expression right).run))
  | .output expression stages =>
      .content (o pos do
        let v ← (observed o .expression expression).run
        runPipe v (observedAll o [] stages))
  | .stage filter params => .stage filter ((observedAll o [] params).map Part.run)
  | .block children =>
      .content (o pos (renderSequence (observedAll o (children.map fun _ => .statement) children)))
  | .tag t children =>
      .content (o pos (t.run (observedAll o (t.positions (children.map isAttribute)) children)))
  | .signal s => .content (o pos (pure (.signal s)))
  | .attribute name value => .attribute name (o pos (observed o .expression value).run)
  | .placeholder => .content (o pos (throw .placeholder))

/-- What several nodes are for the tag around them, at positions that are given one by one; what
is without a position is an expression. -/
def observedAll (o : Observer) : List Position → List Node → List Part
  | _, [] => []
  | [], n :: rest => observed o .expression n :: observedAll o [] rest
  | pos :: more, n :: rest => observed o pos n :: observedAll o more rest

end

mutual

/-- **Watching by doing nothing changes nothing.** -/
theorem observed_id (pos : Position) : ∀ n : Node, observed (fun _ r => r) pos n = part n
  | .literal _ => rfl
  | .text _ => rfl
  | .lookup _ _ => rfl
  | .range start stop => by simp only [observed, part, observed_id]
  | .compare op left right => by simp only [observed, part, observed_id]
  | .connect op left right => by simp only [observed, part, observed_id]
  | .output expression stages => by simp only [observed, part, observed_id, observedAll_id]
  | .stage filter params => by simp only [observed, part, observedAll_id]
  | .block children => by simp only [observed, part, observedAll_id]
  | .tag t children => by simp only [observed, part, observedAll_id]
  | .signal _ => rfl
  | .attribute name value => by simp only [observed, part, observed_id]
  | .placeholder => rfl

theorem observedAll_id : ∀ (positions : List Position) (ns : List Node),
    observedAll (fun _ r => r) positions ns = parts ns
  | _, [] => rfl
  | [], n :: rest => by simp only [observedAll, parts, observed_id, observedAll_id]
  | _ :: _, n :: rest => by simp only [observedAll, parts, observed_id, observedAll_id]

end

end Node

/-- What a watched render of the engine reads: the templates are watched, too. -/
def Engine.observedSurroundings (e : Engine) (o : Observer) (now : Moment) : Nat → Surroundings
  | 0 =>
      { strictVariables := e.config.strictVariables
        now := now
        template := fun name => do
          let _ ← e.findTemplate name
          return fun s => (.error .tooDeep, s) }
  | depth + 1 =>
      { strictVariables := e.config.strictVariables
        now := now
        template := fun name => do
          let n ← e.findTemplate name
          return (n.observed o .statement).run.runOn (observedSurroundings e o now depth) }

theorem Engine.template_observedSurroundings_zero (e : Engine) (o : Observer) (now : Moment)
    (name : String) : (e.observedSurroundings o now 0).template name =
      (e.findTemplate name).map fun _ s => (.error .tooDeep, s) := rfl

theorem Engine.template_observedSurroundings_succ (e : Engine) (o : Observer) (now : Moment)
    (depth : Nat) (name : String) : (e.observedSurroundings o now (depth + 1)).template name =
      (e.findTemplate name).map fun n =>
        (n.observed o .statement).run.runOn (e.observedSurroundings o now depth) := rfl

theorem Engine.observedSurroundings_id (e : Engine) (now : Moment) (depth : Nat) :
    e.observedSurroundings (fun _ r => r) now depth = e.surroundings now depth := by
  induction depth with
  | zero => rfl
  | succ depth ih =>
      simp only [observedSurroundings, surroundings, Node.observed_id, ih, Node.render]

end TemplateEngine
