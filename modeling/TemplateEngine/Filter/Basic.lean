/-
**Filters.**

A filter has a name and a body: that of a standard filter, or a function of its own.  The name
is what it is registered under and what its errors call it, so one standard body may serve under
several names.

Main definitions:

* `Filter.standard`, `Filter.custom` — making filters;
* `Filter.apply` — the result of a filter.
-/
import TemplateEngine.Filter.Standard

set_option autoImplicit false

namespace TemplateEngine

/-- The body of a filter. -/
inductive FilterBody where
  | standard (kind : StandardFilter)
  /-- A function of the value and the parameters. -/
  | custom (label : String) (apply : Value → List Value → Except Error Value)

/-- A named filter; `shared` marks the instances that all registries start with. -/
structure Filter where
  name : String
  body : FilterBody
  shared : Bool := false

namespace Filter

/-- The instance of a standard filter that all registries share. -/
def ofStandard (kind : StandardFilter) : Filter := ⟨kind.name, .standard kind, true⟩

/-- A filter of its own. -/
def ofFunction (name label : String) (apply : Value → List Value → Except Error Value) : Filter :=
  ⟨name, .custom label apply, false⟩

/-- The result of a filter, where `now` is the current moment. -/
def apply (f : Filter) (now : Moment) (v : Value) (params : List Value) : Except Error Value :=
  match f.body with
  | .custom _ g => g v params
  | .standard kind =>
      match (kind.operation now).run v params with
      | some r => r.mapError (Failure.toError f.name)
      | none => .error ((kind.operation now).arity.error (some f.name) params.length)

/-- A standard filter gives what its operation gives. -/
theorem apply_of_run {kind : StandardFilter} {now : Moment} {v w : Value} {params : List Value}
    (h : (kind.operation now).run v params = some (.ok w)) :
    (ofStandard kind).apply now v params = .ok w := by
  show (match (kind.operation now).run v params with
    | some r => r.mapError (Failure.toError kind.name)
    | none => _) = _
  rw [h]
  rfl

/-- A standard filter that maps texts gives the text that its value is mapped to. -/
theorem apply_onText {kind : StandardFilter} {now : Moment} {f : List Char → List Char}
    (h : kind.operation now = .plain (TextFilter.onText f)) (s : String) :
    (ofStandard kind).apply now (.str s) [] = .ok (.str (String.ofList (f s.toList))) := by
  have hbody : TextFilter.onText f (.str s) = .ok (.str (String.ofList (f s.toList))) := by
    rw [TextFilter.onText, Value.text_str]
    rfl
  refine apply_of_run ?_
  rw [h, Operation.run, hbody]

end Filter

end TemplateEngine
