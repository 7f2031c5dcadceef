/-
**Choosing a branch: `if`, `unless`, `case`.**

Conditions and bodies alternate; the first condition that holds chooses its body, and what the
body gives, a signal included, is passed on as it is.
-/
import TemplateEngine.Render

set_option autoImplicit false

namespace TemplateEngine.Tags

/-- The body of the first true condition; nothing if there is none. -/
def chooseBranch : List Part → Render Value
  | condition :: body :: rest => do
      let v ← condition.run
      if v.isTruthy then body.run else chooseBranch rest
  | _ => pure (.str "")

/-- Fail unless conditions and bodies are paired. -/
def checkPairs (parts : List Part) : Render Unit :=
  if parts.length % 2 = 0 then pure () else throw .unpairedBranches

/-- The `if` tag: conditions and bodies. -/
def ifTag (parts : List Part) : Render Value := do
  checkPairs parts
  chooseBranch parts

/-- The `unless` tag: as `if`, but the first condition is negated. -/
def unlessTag (parts : List Part) : Render Value := do
  checkPairs parts
  match parts with
  | condition :: body :: rest => do
      let v ← condition.run
      if v.isTruthy then chooseBranch rest else body.run
  | _ => pure (.str "")

/-- The body of the first value that is equal to the subject; a body left over is the default. -/
def chooseCase (subject : Value) : List Part → Render Value
  | [] => pure (.str "")
  | [otherwise] => otherwise.run
  | candidate :: body :: rest => do
      let v ← candidate.run
      if v.same subject then body.run else chooseCase subject rest

/-- The `case` tag: the subject, values and bodies, and perhaps a default body. -/
def caseTag : List Part → Render Value
  | [] => pure (.str "")
  | subject :: rest => do
      let v ← subject.run
      chooseCase v rest

end TemplateEngine.Tags
