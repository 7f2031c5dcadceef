/-
**Tags.**

The eleven tags that every registry starts with, and tags in general: a tag has a name and a
body, that of a standard tag or a function from parts to a render.

Main definitions:

* `StandardTag` — the standard tags, `StandardTag.run` what they do;
* `Tag.run` — what a tag does.
-/
import TemplateEngine.Tag.Branch
import TemplateEngine.Tag.Inclusion
import TemplateEngine.Tag.Loop
import TemplateEngine.Tag.Variable

set_option autoImplicit false

namespace TemplateEngine

/-- The standard tags. -/
inductive StandardTag where
  | assign | capture | case | comment | cycle | for | if | include | raw | tablerow | unless
  deriving DecidableEq, Repr

namespace StandardTag

/-- All standard tags, in order of name. -/
def all : List StandardTag :=
  [.assign, .capture, .case, .comment, .cycle, .for, .if, .include, .raw, .tablerow, .unless]

/-- The name that a tag is registered under. -/
def name : StandardTag → String
  | .assign => "assign"
  | .capture => "capture"
  | .case => "case"
  | .comment => "comment"
  | .cycle => "cycle"
  | .for => "for"
  | .if => "if"
  | .include => "include"
  | .raw => "raw"
  | .tablerow => "tablerow"
  | .unless => "unless"

/-- The title of a tag: its name with a capital. -/
def title : StandardTag → String
  | .assign => "Assign"
  | .capture => "Capture"
  | .case => "Case"
  | .comment => "Comment"
  | .cycle => "Cycle"
  | .for => "For"
  | .if => "If"
  | .include => "Include"
  | .raw => "Raw"
  | .tablerow => "Tablerow"
  | .unless => "Unless"

/-- What a tag does with its parts. -/
def run : StandardTag → List Part → Render Value
  | .assign => Tags.assignTag
  | .capture => Tags.captureTag
  | .case => Tags.caseTag
  | .comment => Tags.commentTag
  | .cycle => Tags.cycleTag
  | .for => Tags.forTag
  | .if => Tags.ifTag
  | .include => Tags.includeTag
  | .raw => Tags.rawTag
  | .tablerow => Tags.tablerowTag
  | .unless => Tags.unlessTag

end StandardTag

/-- The body of a tag. -/
inductive TagBody where
  | standard (kind : StandardTag)
  /-- A function of the parts. -/
  | custom (label : String) (run : List Part → Render Value)

/-- A named tag; `shared` marks the instances that all registries start with. -/
structure Tag where
  name : String
  body : TagBody
  shared : Bool := false

namespace Tag

/-- The instance of a standard tag that all registries share. -/
def ofStandard (kind : StandardTag) : Tag := ⟨kind.name, .standard kind, true⟩

/-- A tag of its own. -/
def ofFunction (name label : String) (run : List Part → Render Value) : Tag :=
  ⟨name, .custom label run, false⟩

/-- What a tag does with its parts. -/
def run (t : Tag) (parts : List Part) : Render Value :=
  match t.body with
  | .standard kind => kind.run parts
  | .custom _ f => f parts

end Tag

/-- A tag is registered under its name. -/
instance : Named Tag := ⟨Tag.name, .unknownTag⟩

end TemplateEngine
