/-
**What the steps of a render do to an outcome.**

A render is a function of its surroundings and a state.  The equations here say what running the
building blocks of a render gives, so that no later proof has to unfold the monad.

Main definitions and results:

* `State.withInner` — a state with other inner scopes, `Context.find?_eq_or` — the search in them;
* `Render.runOn_bind` — the second step runs in the state that the first one has reached, and
  only if the first one has given a value;
* `Render.runOn_inScope`, `Render.runOn_findTemplate` — scopes and templates;
* `Engine.template_surroundings_succ` — where the templates of an engine are rendered;
* `includeTag_template` — what an inclusion gives.
-/
import TemplateEngine.Engine

set_option autoImplicit false

namespace TemplateEngine

/-- The state with other inner scopes. -/
def State.withInner (s : State) (inner : List Scope) : State :=
  { s with context := { s.context with inner } }

@[simp] theorem State.inner_withInner (s : State) (inner : List Scope) :
    (s.withInner inner).context.inner = inner := rfl

@[simp] theorem State.withInner_withInner (s : State) (i j : List Scope) :
    (s.withInner i).withInner j = s.withInner j := rfl

/-- A state keeps its inner scopes. -/
@[simp] theorem State.withInner_inner (s : State) : s.withInner s.context.inner = s := rfl

/-- A state is its inner scopes and the rest. -/
theorem State.eq_of_withInner {s s' : State} (hinner : s.context.inner = s'.context.inner)
    (hrest : s.withInner [] = s'.withInner []) : s = s' := by
  rw [← withInner_inner s, ← withInner_inner s', hinner, ← withInner_withInner s [], hrest,
    withInner_withInner]

/-- The search for a variable comes to the root if no inner scope binds it. -/
theorem Context.find?_eq_or (c : Context) (key : Key) :
    c.find? key = (c.inner.findSome? (·.find? key)).or (c.root.find? key) := by
  rw [find?, scopes, List.findSome?_append]
  cases hroot : c.root.find? key <;> simp [hroot]

/-- The search finds nothing in the inner scopes if none of them binds the key. -/
theorem Context.findSome?_inner_eq_none (c : Context) (key : Key) :
    c.inner.findSome? (·.find? key) = none ↔ ∀ scope ∈ c.inner, key ∉ scope.keys := by
  rw [List.findSome?_eq_none_iff]
  constructor
  · intro h scope hscope
    exact Table.find?_eq_none.1 (h scope hscope)
  · intro h scope hscope
    exact Table.find?_eq_none.2 (h scope hscope)

/-- What was bound in the root is found if no inner scope binds the same key. -/
theorem Context.find?_assign_of_free (c : Context) (key : Key)
    (h : ∀ scope ∈ c.inner, key ∉ scope.keys) (v : Value) :
    (c.assign key v).find? key = some v := by
  rw [find?_eq_or]
  show (c.inner.findSome? (·.find? key)).or ((c.root.insert key v).find? key) = some v
  rw [(c.findSome?_inner_eq_none key).2 h, Option.none_or, Table.find?_insert, if_pos rfl]

namespace Render

variable {α β : Type} (env : Surroundings) (s : State)

theorem runOn_pure (a : α) : (pure a : Render α).runOn env s = (.ok a, s) := rfl

theorem runOn_lift (x : Except Error α) : (lift x).runOn env s = (x, s) := rfl

/-- **The second step runs in the state that the first one has reached**; an error of the first
step is the end. -/
theorem runOn_bind (r : Render α) (f : α → Render β) :
    (r >>= f).runOn env s =
      match r.runOn env s with
      | (.ok a, t) => (f a).runOn env t
      | (.error e, t) => (.error e, t) := by
  show ExceptT.bindCont (fun a => f a env) (r env s).1 (r env s).2 = _
  cases h : r.runOn env s with
  | mk result t =>
      have h' : r env s = (result, t) := h
      rw [h']
      cases result <;> rfl

/-- A step that gives a value hands it to the next step. -/
theorem runOn_bind_ok {r : Render α} {f : α → Render β} {a : α} {t : State}
    (h : r.runOn env s = (.ok a, t)) : (r >>= f).runOn env s = (f a).runOn env t := by
  rw [runOn_bind, h]

/-- A step that fails ends the render. -/
theorem runOn_bind_error {r : Render α} {f : α → Render β} {e : Error} {t : State}
    (h : r.runOn env s = (.error e, t)) : (r >>= f).runOn env s = (.error e, t) := by
  rw [runOn_bind, h]

/-- Steps one after another in two groupings. -/
theorem bind_bind {γ : Type} (r : Render α) (f : α → Render β) (g : β → Render γ) :
    ((r >>= f) >>= g) = r >>= fun a => f a >>= g := bind_assoc r f g

/-- The value of a variable is read off the context. -/
theorem runOn_resolve (name : String) :
    (resolve name).runOn env s = (s.context.resolve env.strictVariables name, s) := rfl

/-- A variable that is bound has its value, in strict mode too. -/
theorem runOn_resolve_of_find? {name : String} {v : Value} (h : s.context.find? name = some v) :
    (resolve name).runOn env s = (.ok v, s) := by
  rw [runOn_resolve, Context.resolve, h]

/-- **A filter is looked up in the state and reads the moment, but not the context.** -/
theorem runOn_applyFilter (name : String) (v : Value) (params : List Value) :
    (applyFilter name v params).runOn env s =
      ((s.filters.get name).bind fun f => f.apply env.now v params, s) := rfl

/-- A value that splits is split without a change of state. -/
theorem runOn_split {v : Value} {r : String × Option Signal} (h : v.split = .ok r) :
    (split v).runOn env s = (.ok r, s) := by
  rw [split, liftFault, runOn_lift, h]
  rfl

/-- The text of a text is that text. -/
theorem runOn_text_str (t : String) : (text (.str t)).runOn env s = (.ok t, s) := by
  rw [text, liftFault, runOn_lift, Value.text_str]
  rfl

/-- The text of a literal text. -/
theorem runOn_text_literal (t : String) :
    (Node.literal (.str t)).part.text.runOn env s = (.ok t, s) := runOn_text_str env s t

/-- A scope is opened on top of the others and closed **whatever the outcome**. -/
theorem runOn_inScope (scope : Scope) (body : Render α) :
    (inScope scope body).runOn env s =
      let o := body.runOn env (s.withInner (scope :: s.context.inner))
      (o.1, o.2.withInner o.2.context.inner.tail) := rfl

/-- A template that is found is the render that the surroundings know for its name. -/
theorem runOn_findTemplate (name : String) :
    (findTemplate name).runOn env s =
      ((env.template name).map fun run => ofFunction fun _ s => run s, s) := rfl

end Render

/-! ### Variables -/

namespace Node

/-- A variable that is bound gives its value. -/
theorem runOn_lookup (env : Surroundings) {s : State} {x : String} {v : Value}
    (hx : s.context.find? x = some v) : (lookup x []).render.runOn env s = (.ok v, s) := by
  rw [render_lookup, lookupOf, Render.runOn_bind_ok _ _ (Render.runOn_resolve_of_find? env s hx)]
  rfl

/-- An output without a pipe gives what its expression gives. -/
theorem render_output_nil (expression : Node) :
    (output expression []).render = expression.render := by
  rw [render_output]
  simp only [parts, runPipe, evaluateStages, applyStages, pure_bind, bind_pure]

end Node

/-! ### Templates -/

/-- The nodes at the top of a template. -/
def Template.nodes : Template → List Node
  | .row nodes => nodes
  | .single n => [n]

namespace Engine

/-- A template that is found has been registered under its name. -/
theorem mem_of_findTemplate {e : Engine} {bs : List (String × Node)}
    (he : e.templates = Table.ofList bs) {name : String} {n : Node}
    (h : e.findTemplate name = .ok n) : (name, n) ∈ bs := by
  unfold findTemplate at h
  split at h
  · next m hm =>
      cases h
      rw [he] at hm
      exact Table.mem_of_find?_ofList hm
  · cases h

variable (e : Engine) (now : Moment) (depth : Nat) (name : String)

/-- Where no more inclusion is followed, a template that is there fails. -/
theorem template_surroundings_zero : (e.surroundings now 0).template name =
    (e.findTemplate name).map fun _ s => (.error .tooDeep, s) := rfl

/-- **A template is rendered one level further down.** -/
theorem template_surroundings_succ : (e.surroundings now (depth + 1)).template name =
    (e.findTemplate name).map fun n => n.render.runOn (e.surroundings now depth) := rfl

/-- On every level the engine reads one moment and is in one mode. -/
@[simp] theorem now_surroundings : (e.surroundings now depth).now = now := by
  cases depth <;> rfl

@[simp] theorem strictVariables_surroundings :
    (e.surroundings now depth).strictVariables = e.config.strictVariables := by
  cases depth <;> rfl

/-- A template that is there can be looked up where inclusions are still followed. -/
theorem runOn_findTemplate {n : Node} (h : e.findTemplate name = .ok n) (s : State) :
    (Render.findTemplate name).runOn (e.surroundings now (depth + 1)) s =
      (.ok (Render.ofFunction fun _ s => n.render.runOn (e.surroundings now depth) s), s) := by
  rw [Render.runOn_findTemplate, template_surroundings_succ, h]
  rfl

end Engine

/-! ### Inclusions -/

section Inclusion

variable {e : Engine} {now : Moment} {d : Nat} {s s₁ s₂ : State} {name template : Node}
  {key : String} {result : Except Error Value}

/-- A template in a scope of its own, which is closed behind it. -/
theorem inScope_template {scope : Scope}
    (hbody : template.render.runOn (e.surroundings now d)
      (s.withInner (scope :: s.context.inner)) = (result, s₁)) :
    (Render.inScope scope (Render.ofFunction fun _ s =>
        template.render.runOn (e.surroundings now d) s)).runOn (e.surroundings now (d + 1)) s =
      (result, s₁.withInner s₁.context.inner.tail) := by
  have hrun : (Render.ofFunction fun _ s =>
      template.render.runOn (e.surroundings now d) s).runOn (e.surroundings now (d + 1))
        (s.withInner (scope :: s.context.inner)) = (result, s₁) := hbody
  simp only [Render.runOn_inScope, hrun]

/-- **An inclusion gives what the template gives**, a value or an error, and closes its scope. -/
theorem includeTag_template
    (hname : name.part.text.runOn (e.surroundings now (d + 1)) s = (.ok key, s₁))
    (htemplate : e.findTemplate key = .ok template)
    (hbody : template.render.runOn (e.surroundings now d)
      (s₁.withInner (∅ :: s₁.context.inner)) = (result, s₂)) :
    (Tags.includeTag (Node.parts [name])).runOn (e.surroundings now (d + 1)) s =
      (result, s₂.withInner s₂.context.inner.tail) := by
  show (name.part.text >>= fun key => Render.findTemplate key >>= fun body =>
    Render.inScope ∅ body).runOn _ s = _
  rw [Render.runOn_bind_ok _ _ hname,
    Render.runOn_bind_ok _ _ (e.runOn_findTemplate now d key htemplate s₁),
    inScope_template hbody]

/-- The same with a value, which is bound in that scope. -/
theorem includeTag_template_with {value : Node} {w : Value} {s₃ : State}
    (hname : name.part.text.runOn (e.surroundings now (d + 1)) s = (.ok key, s₁))
    (htemplate : e.findTemplate key = .ok template)
    (hvalue : value.render.runOn (e.surroundings now (d + 1)) s₁ = (.ok w, s₂))
    (hbody : template.render.runOn (e.surroundings now d)
      (s₂.withInner (Table.ofList [(.name key, w)] :: s₂.context.inner)) = (result, s₃))
    (after : List Node) :
    (Tags.includeTag (Node.parts (name :: value :: after))).runOn (e.surroundings now (d + 1)) s =
      (result, s₃.withInner s₃.context.inner.tail) := by
  show (name.part.text >>= fun key => Render.findTemplate key >>= fun body =>
    value.render >>= fun v =>
      Render.inScope (Table.ofList [(.name key, v)]) body).runOn _ s = _
  rw [Render.runOn_bind_ok _ _ hname,
    Render.runOn_bind_ok _ _ (e.runOn_findTemplate now d key htemplate s₁),
    Render.runOn_bind_ok _ _ hvalue, inScope_template hbody]

/-- Where no more inclusion is followed, the inclusion of a template that is there fails. -/
theorem includeTag_zero
    (hname : name.part.text.runOn (e.surroundings now 0) s = (.ok key, s₁))
    (htemplate : e.findTemplate key = .ok template) :
    (Tags.includeTag (Node.parts [name])).runOn (e.surroundings now 0) s =
      (.error .tooDeep, s₁) := by
  show (name.part.text >>= fun key => Render.findTemplate key >>= fun body =>
    Render.inScope ∅ body).runOn _ s = _
  rw [Render.runOn_bind_ok _ _ hname, Render.runOn_bind, Render.runOn_findTemplate,
    Engine.template_surroundings_zero, htemplate]
  rfl

end Inclusion

end TemplateEngine
