/-
**Stacks of wrappers around a node.**

A wrapper is a block, a branch, a capture or an inclusion with one child left out, the hole.  A
stack of wrappers, outermost first, is a tree with one hole; behind an inclusion the tree goes on
in a template.  What is rendered on the way to the hole is said by relations between states, one
case for each kind of wrapper.

Main definitions:

* `Wrapper`, `Wrapper.plug`, `Stack.plug` — wrappers, and what fills their hole;
* `Wrapper.Enters`, `Stack.Reaches` — **the way to the hole**: what is written on it, and the
  state in which the hole is rendered;
* `Wrapper.approach`, `Wrapper.Alike` — the nodes on the way, and wrappers that differ only in
  what stands behind the hole;
* `Stack.inclusions` — the number of scopes that are open at the hole.
-/
import TemplateEngine.Proofs.Run

set_option autoImplicit false

namespace TemplateEngine

/-! ### Wrappers -/

/-- **A node with one child left out.**  A wrapper that is a tag has the name of `t`. -/
inductive Wrapper where
  | block (before after : List Node)
  | raw (t : Tag) (before after : List Node)
  /-- The branch of `if` for a condition behind others that have failed. -/
  | branch (t : Tag) (passed : List (Node × Node)) (condition : Node) (after : List (Node × Node))
  /-- The first branch of `unless`. -/
  | unlessFirst (t : Tag) (condition : Node) (after : List (Node × Node))
  /-- A later branch of `unless`. -/
  | unlessLater (t : Tag) (first : Node × Node) (passed : List (Node × Node)) (condition : Node)
      (after : List (Node × Node))
  /-- The branch of `case` for a value. -/
  | candidate (t : Tag) (subject : Node) (passed : List (Node × Node)) (value : Node)
      (after : List Node)
  /-- The branch of `case` that is left over. -/
  | otherwise (t : Tag) (subject : Node) (passed : List (Node × Node))
  | capture (t : Tag) (name : Node) (after : List Node)
  /-- An inclusion without a value; the hole is in the template. -/
  | include (t : Tag) (name : Node)
  /-- An inclusion with a value. -/
  | includeWith (t : Tag) (name value : Node) (after : List Node)

/-- Pairs in a row. -/
def flatPairs : List (Node × Node) → List Node
  | [] => []
  | p :: rest => p.1 :: p.2 :: flatPairs rest

/-- The tag with the name of `t` and the body of a standard tag. -/
def Tag.as (t : Tag) (kind : StandardTag) : Tag := { t with body := .standard kind }

namespace Wrapper

/-- The wrapper around a node.  An inclusion names the template that the node is. -/
def plug (w : Wrapper) (n : Node) : Node :=
  match w with
  | .block before after => .block (before ++ n :: after)
  | .raw t before after => .tag (t.as .raw) (before ++ n :: after)
  | .branch t passed condition after =>
      .tag (t.as .if) (flatPairs passed ++ condition :: n :: flatPairs after)
  | .unlessFirst t condition after => .tag (t.as .unless) (condition :: n :: flatPairs after)
  | .unlessLater t first passed condition after =>
      .tag (t.as .unless)
        (first.1 :: first.2 :: (flatPairs passed ++ condition :: n :: flatPairs after))
  | .candidate t subject passed value after =>
      .tag (t.as .case) (subject :: (flatPairs passed ++ value :: n :: after))
  | .otherwise t subject passed => .tag (t.as .case) (subject :: (flatPairs passed ++ [n]))
  | .capture t name after => .tag (t.as .capture) (name :: n :: after)
  | .include t name => .tag (t.as .include) [name]
  | .includeWith t name value after => .tag (t.as .include) (name :: value :: after)

/-- Whether a wrapper opens a scope. -/
def isInclusion : Wrapper → Bool
  | .include _ _ => true
  | .includeWith _ _ _ _ => true
  | _ => false

/-- The nodes that may be rendered on the way to the hole. -/
def approach : Wrapper → List Node
  | .block before _ => before
  | .raw _ before _ => before
  | .branch _ passed condition _ => passed.map Prod.fst ++ [condition]
  | .unlessFirst _ condition _ => [condition]
  | .unlessLater _ first passed condition _ => first.1 :: (passed.map Prod.fst ++ [condition])
  | .candidate _ subject passed value _ => subject :: (passed.map Prod.fst ++ [value])
  | .otherwise _ subject passed => subject :: passed.map Prod.fst
  | .capture _ name _ => [name]
  | .include _ name => [name]
  | .includeWith _ name value _ => [name, value]

/-- Wrappers that differ only in the nodes behind the hole. -/
inductive Alike : Wrapper → Wrapper → Prop
  | block (before after after' : List Node) : Alike (.block before after) (.block before after')
  | raw (t : Tag) (before after after' : List Node) :
      Alike (.raw t before after) (.raw t before after')
  | branch (t : Tag) (passed : List (Node × Node)) (condition : Node)
      (after after' : List (Node × Node)) :
      Alike (.branch t passed condition after) (.branch t passed condition after')
  | unlessFirst (t : Tag) (condition : Node) (after after' : List (Node × Node)) :
      Alike (.unlessFirst t condition after) (.unlessFirst t condition after')
  | unlessLater (t : Tag) (first : Node × Node) (passed : List (Node × Node)) (condition : Node)
      (after after' : List (Node × Node)) :
      Alike (.unlessLater t first passed condition after)
        (.unlessLater t first passed condition after')
  | candidate (t : Tag) (subject : Node) (passed : List (Node × Node)) (value : Node)
      (after after' : List Node) :
      Alike (.candidate t subject passed value after) (.candidate t subject passed value after')
  | otherwise (t : Tag) (subject : Node) (passed : List (Node × Node)) :
      Alike (.otherwise t subject passed) (.otherwise t subject passed)
  | capture (t : Tag) (name : Node) (after after' : List Node) :
      Alike (.capture t name after) (.capture t name after')
  | include (t : Tag) (name : Node) : Alike (.include t name) (.include t name)
  | includeWith (t : Tag) (name value : Node) (after after' : List Node) :
      Alike (.includeWith t name value after) (.includeWith t name value after')

end Wrapper

/-! ### The way through one wrapper -/

/-- Nodes in a row render to ordinary content, the given text in all. -/
inductive WritesRow (env : Surroundings) : List Node → State → String → State → Prop
  | nil (s : State) : WritesRow env [] s "" s
  | cons {n : Node} {rest : List Node} {s s₁ s₂ : State} {v : Value} {u t : String} :
      n.render.runOn env s = (.ok v, s₁) → v.split = .ok (u, none) →
        WritesRow env rest s₁ t s₂ → WritesRow env (n :: rest) s (u ++ t) s₂

/-- The first nodes of some pairs are rendered one after another, and none of their values
satisfies a test. -/
inductive Skips (env : Surroundings) (test : Value → Bool) :
    List (Node × Node) → State → State → Prop
  | nil (s : State) : Skips env test [] s s
  | cons {p : Node × Node} {rest : List (Node × Node)} {s s₁ s₂ : State} {v : Value} :
      p.1.render.runOn env s = (.ok v, s₁) → test v = false → Skips env test rest s₁ s₂ →
        Skips env test (p :: rest) s s₂

/-- A node is rendered and its value satisfies a test. -/
def Passes (env : Surroundings) (test : Value → Bool) (n : Node) (s s' : State) : Prop :=
  ∃ v, n.render.runOn env s = (.ok v, s') ∧ test v = true

/-- **The way through a wrapper**, from depth `d` and a state to the hole: the text that is
written on it, the depth and the state in which the hole is rendered.  The node `inner` is what
stands in the hole. -/
inductive Wrapper.Enters (e : Engine) (now : Moment) (inner : Node) :
    Wrapper → Nat → State → String → Nat → State → Prop
  | block {before after : List Node} {d : Nat} {s s' : State} {t : String} :
      WritesRow (e.surroundings now d) before s t s' →
        Enters e now inner (.block before after) d s t d s'
  | raw {tag : Tag} {before after : List Node} {d : Nat} {s s' : State} {t : String} :
      WritesRow (e.surroundings now d) before s t s' →
        Enters e now inner (.raw tag before after) d s t d s'
  | branch {tag : Tag} {passed after : List (Node × Node)} {condition : Node} {d : Nat}
      {s s₁ s₂ : State} :
      Skips (e.surroundings now d) Value.isTruthy passed s s₁ →
        Passes (e.surroundings now d) Value.isTruthy condition s₁ s₂ →
          Enters e now inner (.branch tag passed condition after) d s "" d s₂
  | unlessFirst {tag : Tag} {after : List (Node × Node)} {condition : Node} {d : Nat}
      {s s' : State} :
      Passes (e.surroundings now d) (!·.isTruthy) condition s s' →
        Enters e now inner (.unlessFirst tag condition after) d s "" d s'
  | unlessLater {tag : Tag} {first : Node × Node} {passed after : List (Node × Node)}
      {condition : Node} {d : Nat} {s s₁ s₂ s₃ : State} :
      Passes (e.surroundings now d) Value.isTruthy first.1 s s₁ →
        Skips (e.surroundings now d) Value.isTruthy passed s₁ s₂ →
          Passes (e.surroundings now d) Value.isTruthy condition s₂ s₃ →
            Enters e now inner (.unlessLater tag first passed condition after) d s "" d s₃
  | candidate {tag : Tag} {subject value : Node} {passed : List (Node × Node)}
      {after : List Node} {d : Nat} {s s₁ s₂ s₃ : State} {v : Value} :
      subject.render.runOn (e.surroundings now d) s = (.ok v, s₁) →
        Skips (e.surroundings now d) (·.same v) passed s₁ s₂ →
          Passes (e.surroundings now d) (·.same v) value s₂ s₃ →
            Enters e now inner (.candidate tag subject passed value after) d s "" d s₃
  | otherwise {tag : Tag} {subject : Node} {passed : List (Node × Node)} {d : Nat}
      {s s₁ s₂ : State} {v : Value} :
      subject.render.runOn (e.surroundings now d) s = (.ok v, s₁) →
        Skips (e.surroundings now d) (·.same v) passed s₁ s₂ →
          Enters e now inner (.otherwise tag subject passed) d s "" d s₂
  | capture {tag : Tag} {name : Node} {after : List Node} {d : Nat} {s s' : State}
      {target : String} :
      name.part.text.runOn (e.surroundings now d) s = (.ok target, s') →
        Enters e now inner (.capture tag name after) d s "" d s'
  | include {tag : Tag} {name : Node} {d : Nat} {s s₁ : State} {template : String} :
      name.part.text.runOn (e.surroundings now (d + 1)) s = (.ok template, s₁) →
        e.findTemplate template = .ok inner →
          Enters e now inner (.include tag name) (d + 1) s "" d
            (s₁.withInner (∅ :: s₁.context.inner))
  | includeWith {tag : Tag} {name value : Node} {after : List Node} {d : Nat}
      {s s₁ s₂ : State} {template : String} {v : Value} :
      name.part.text.runOn (e.surroundings now (d + 1)) s = (.ok template, s₁) →
        e.findTemplate template = .ok inner →
          value.render.runOn (e.surroundings now (d + 1)) s₁ = (.ok v, s₂) →
            Enters e now inner (.includeWith tag name value after) (d + 1) s "" d
              (s₂.withInner (Table.ofList [(.name template, v)] :: s₂.context.inner))

/-! ### Stacks -/

/-- Wrappers around each other, outermost first. -/
abbrev Stack := List Wrapper

namespace Stack

/-- The stack around a node. -/
def plug : Stack → Node → Node
  | [], hole => hole
  | w :: rest, hole => w.plug (plug rest hole)

/-- The number of inclusions in a stack. -/
def inclusions (ws : Stack) : Nat := ws.countP Wrapper.isInclusion

/-- The nodes that may be rendered on the way to the hole of a stack. -/
def approach (ws : Stack) : List Node := ws.flatMap Wrapper.approach

/-- **The way to the hole of a stack**: wrapper by wrapper, with the texts one behind the other. -/
inductive Reaches (e : Engine) (now : Moment) (hole : Node) :
    Stack → Nat → State → String → Nat → State → Prop
  | nil (d : Nat) (s : State) : Reaches e now hole [] d s "" d s
  | cons {w : Wrapper} {ws : Stack} {d d₁ d₂ : Nat} {s s₁ s₂ : State} {t u : String} :
      w.Enters e now (plug ws hole) d s t d₁ s₁ → Reaches e now hole ws d₁ s₁ u d₂ s₂ →
        Reaches e now hole (w :: ws) d s (t ++ u) d₂ s₂

/-- Stacks on two engines that differ only behind the hole: where a template goes on to the hole,
the other engine has the template of the other stack under the same name. -/
inductive Alike (e e' : Engine) (hole : Node) : Stack → Stack → Prop
  | nil : Alike e e' hole [] []
  | cons {w w' : Wrapper} {ws ws' : Stack} : w.Alike w' →
      (w.isInclusion = true → ∀ name, e.findTemplate name = .ok (plug ws hole) →
        e'.findTemplate name = .ok (plug ws' hole)) →
        Alike e e' hole ws ws' → Alike e e' hole (w :: ws) (w' :: ws')

end Stack

end TemplateEngine
