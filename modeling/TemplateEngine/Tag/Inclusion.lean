/-
**Text and templates in place: `comment`, `raw`, `include`.**

`comment` renders nothing, `raw` its children in a row.  `include` renders another template in
the current context, in a scope that binds the name of the template to a value if one is given;
a signal of the template is passed on.
-/
import TemplateEngine.Render

set_option autoImplicit false

namespace TemplateEngine.Tags

/-- The `comment` tag. -/
def commentTag (_ : List Part) : Render Value := pure (.str "")

/-- The `raw` tag. -/
def rawTag (parts : List Part) : Render Value := renderSequence parts

/-- The `include` tag: the name of a template, and perhaps a value. -/
def includeTag : List Part → Render Value
  | [] => throw .missingChild
  | [name] => do
      let template ← name.text
      let body ← Render.findTemplate template
      Render.inScope ∅ body
  | name :: value :: _ => do
      let template ← name.text
      -- a template that is not there fails before the value is rendered
      let body ← Render.findTemplate template
      let v ← value.run
      Render.inScope (Table.ofList [(.name template, v)]) body

end TemplateEngine.Tags
