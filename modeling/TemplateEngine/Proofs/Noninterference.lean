/-
**What no template names cannot be seen.**

A tree names the variables that it looks up and the filters that it calls.  Everything else in a
context, and every other filter, may be what it likes: two renders from contexts that agree on
what is named have the same result, and end in contexts that agree again.  An error holds values
too, such as the operands of a comparison, and **it is the same error with the same values**.

The names under which trees *write* are computed: an assignment, a loop or an inclusion may bind
any variable.  So the relation between the two contexts says nothing about other variables, and
keeps up because both runs write the same.

Main definitions:

* `Node.mentions`, `Engine.Mentions` — what a tree, and an engine with its templates, names;
* `Scope.AgreesOn`, `Context.AgreesOn` — the same bindings for some names, scope by scope;
* `TwoRuns.agreeing` — runs on states that agree on what is named.

Main results:

* `TwoRuns.agreeing_lawful` — agreement is kept up by every primitive step;
* `Engine.noninterference` — **what is not named changes neither the result nor the named**.
-/
import TemplateEngine.Proofs.TwoRuns.Twins

set_option autoImplicit false

namespace TemplateEngine

/-! ### What a tree names -/

/-- What a tree may name. -/
inductive Mention where
  | variable (name : String)
  | filter (name : String)
  deriving DecidableEq, Repr

namespace Node

mutual

/-- The variables that a tree looks up and the filters that it calls. -/
def mentions : Node → List Mention
  | .lookup name _ => [.variable name]
  | .range start stop => mentions start ++ mentions stop
  | .compare _ left right => mentions left ++ mentions right
  | .connect _ left right => mentions left ++ mentions right
  | .output expression stages => mentions expression ++ mentionsAll stages
  | .stage filter params => .filter filter :: mentionsAll params
  | .block children => mentionsAll children
  | .tag _ children => mentionsAll children
  | .attribute _ value => mentions value
  | .literal _ | .text _ | .signal _ | .placeholder => []

/-- What several trees name. -/
def mentionsAll : List Node → List Mention
  | [] => []
  | n :: rest => mentions n ++ mentionsAll rest

end

theorem mem_mentionsAll {m : Mention} {ns : List Node} :
    m ∈ mentionsAll ns ↔ ∃ n ∈ ns, m ∈ n.mentions := by
  induction ns with
  | nil => simp [mentionsAll]
  | cons n rest ih => simp [mentionsAll, ih]

end Node

/-- What some trees or a template of the engine name. -/
def Engine.Mentions (e : Engine) (nodes : List Node) (m : Mention) : Prop :=
  m ∈ Node.mentionsAll nodes ∨ ∃ name n, e.findTemplate name = .ok n ∧ m ∈ n.mentions

/-- A standard tree that names nothing else than what is in `P`. -/
def Node.NamesOnly (P : Mention → Prop) (n : Node) : Prop :=
  n.isMadeOf (fun _ => true) = true ∧ ∀ m ∈ n.mentions, P m

namespace Node.NamesOnly

variable {P : Mention → Prop}

/-- Two children side by side. -/
theorem of_append {left right : Node}
    (hmade : (left.isMadeOf (fun _ => true) && right.isMadeOf fun _ => true) = true)
    (h : ∀ m ∈ left.mentions ++ right.mentions, P m) :
    left.NamesOnly P ∧ right.NamesOnly P := by
  rw [Bool.and_eq_true] at hmade
  exact ⟨⟨hmade.1, fun m hm => h m (List.mem_append_left _ hm)⟩,
    ⟨hmade.2, fun m hm => h m (List.mem_append_right _ hm)⟩⟩

/-- Any number of children. -/
theorem of_all {ns : List Node} (hmade : areMadeOf (fun _ => true) ns = true)
    (h : ∀ m ∈ mentionsAll ns, P m) : ∀ n ∈ ns, n.NamesOnly P := by
  rw [areMadeOf_iff] at hmade
  exact fun n hn => ⟨hmade n hn, fun m hm => h m (mem_mentionsAll.2 ⟨n, hn, hm⟩)⟩

end Node.NamesOnly

/-- Standard trees that name nothing else than what is in `P`. -/
def Discipline.mentioning (P : Mention → Prop) :
    Discipline .all (fun name => P (.variable name)) (fun name => P (.filter name))
      (fun _ => True) where
  Obeys _ n := n.NamesOnly P
  literal _ := trivial
  lookup h := h.2 _ List.mem_cons_self
  range h := Node.NamesOnly.of_append h.1 h.2
  compare h := Node.NamesOnly.of_append h.1 h.2
  connect h := Node.NamesOnly.of_append h.1 h.2
  output {l expression stages} h := by
    have hmade := h.1
    rw [Node.isMadeOf, Bool.and_eq_true] at hmade
    refine ⟨⟨hmade.1, fun m hm => h.2 m (List.mem_append_left _ hm)⟩, ?_⟩
    exact Node.NamesOnly.of_all hmade.2 fun m hm => h.2 m (List.mem_append_right _ hm)
  stage h := by
    refine ⟨h.2 _ List.mem_cons_self, ?_⟩
    exact Node.NamesOnly.of_all h.1 fun m hm => h.2 m (List.mem_cons_of_mem _ hm)
  block h := Node.NamesOnly.of_all h.1 h.2
  tag {l t children} h := by
    have hmade := h.1
    rw [Node.isMadeOf, Bool.and_eq_true, Tag.isOf_iff] at hmade
    obtain ⟨⟨kind, hbody, -⟩, hchildren⟩ := hmade
    refine ⟨kind, hbody, fun _ v _ => ValueClass.all.at_of_holds trivial, trivial, ?_⟩
    exact obeyAt_of_forall fun n hn _ => Node.NamesOnly.of_all hchildren h.2 n hn
  signal _ := ValueClass.all.at_of_holds trivial
  attr h := h

/-! ### Agreement -/

/-- Two scopes bind the names in `V` to the same values, or do not bind them. -/
def Scope.AgreesOn (V : String → Prop) (f f' : Scope) : Prop :=
  ∀ name, V name → f.find? (.name name) = f'.find? (.name name)

/-- Two contexts have as many scopes, which agree one by one, and the same cycles. -/
structure Context.AgreesOn (V : String → Prop) (c c' : Context) : Prop where
  scopes : List.Forall₂ (Scope.AgreesOn V) c.scopes c'.scopes
  cycles : c.cycles = c'.cycles

variable {V : String → Prop}

/-- Binding the same in both scopes keeps them in agreement, whether the name is in `V` or not. -/
theorem Scope.AgreesOn.insert {f f' : Scope} (h : f.AgreesOn V f') (key : Key) (v : Value) :
    AgreesOn V (f.insert key v) (f'.insert key v) := by
  intro name hname
  rw [Table.find?_insert, Table.find?_insert, h name hname]

theorem Scope.findSome?_agreesOn {i i' : List Scope} (h : List.Forall₂ (Scope.AgreesOn V) i i')
    {name : String} (hname : V name) :
    i.findSome? (·.find? (.name name)) = i'.findSome? (·.find? (.name name)) := by
  induction h with
  | nil => rfl
  | cons hf _ ih => rw [List.findSome?_cons, List.findSome?_cons, hf name hname, ih]

namespace Context.AgreesOn

variable {c c' : Context}

/-- Contexts agree iff their inner scopes and their roots do. -/
theorem iff_inner : c.AgreesOn V c' ↔ List.Forall₂ (Scope.AgreesOn V) c.inner c'.inner ∧
    c.root.AgreesOn V c'.root ∧ c.cycles = c'.cycles := by
  constructor
  · rintro ⟨hscopes, hcycles⟩
    have hlength := hscopes.length_eq
    rw [Context.scopes, Context.scopes, List.length_append, List.length_append,
      List.length_singleton, List.length_singleton, Nat.add_right_cancel_iff] at hlength
    rw [Context.scopes, Context.scopes] at hscopes
    refine ⟨?_, ?_, hcycles⟩
    · simpa [hlength] using List.forall₂_take c.inner.length hscopes
    · simpa [hlength] using List.forall₂_drop c.inner.length hscopes
  · rintro ⟨hinner, hroot, hcycles⟩
    exact ⟨List.rel_append hinner (.cons hroot .nil), hcycles⟩

/-- In contexts that agree, the same is found under a name in `V`. -/
theorem find?_eq (h : c.AgreesOn V c') {name : String} (hname : V name) :
    c.find? name = c'.find? name := Scope.findSome?_agreesOn h.scopes hname

end Context.AgreesOn

/-- Two outcomes with the same result, in contexts that agree. -/
def Outcome.AgreesOn {α : Type} (V : String → Prop) (o o' : Outcome α) : Prop :=
  o.1 = o'.1 ∧ o.2.context.AgreesOn V o'.2.context

/-! ### Runs that agree -/

/-- **Runs of standard trees that name nothing else than what is in `P`**, on states that agree
on that. -/
def TwoRuns.agreeing (P : Mention → Prop) (left right : Surroundings) : TwoRuns where
  values := .all
  Reads name := P (.variable name)
  Calls name := P (.filter name)
  Uses _ := True
  trees := .mentioning P
  observer _ r := r
  left := left
  right := right
  Reported _ := True
  Strays := True
  Stacks := List.Forall₂ (Scope.AgreesOn fun name => P (.variable name))
  Frames := Scope.AgreesOn fun name => P (.variable name)
  Rest s s' := s.context.root.AgreesOn (fun name => P (.variable name)) s'.context.root ∧
    s.context.cycles = s'.context.cycles ∧
    ∀ name, P (.filter name) → s.filters.find name = s'.filters.find name

namespace TwoRuns

variable {P : Mention → Prop} {left right : Surroundings}

/-- The contexts of two runs that agree. -/
theorem agreesOn_of_at {i i' : List Scope} {s s' : State}
    (hi : (agreeing P left right).Stacks i i') (h : (agreeing P left right).At i i' s s') :
    s.context.AgreesOn (fun name => P (.variable name)) s'.context := by
  obtain ⟨rfl, rfl, hroot, hcycles, -⟩ := h
  exact Context.AgreesOn.iff_inner.2 ⟨hi, hroot, hcycles⟩

/-- **Agreement is kept up by every primitive step.** -/
theorem agreeing_lawful (hnow : left.now = right.now)
    (hmode : left.strictVariables = right.strictVariables)
    (htemplate : ∀ name, (agreeing P left right).TemplatesFollow (left.template name)
      (right.template name)) : (agreeing P left right).Lawful where
  stacks_cons hi hf := .cons hf hi
  frames_empty _ _ := rfl
  frames_insert key hf _ := hf.insert key _
  rest_withInner _ _ hrest := hrest
  resolve hname := Follows.resolving trivial (fun _ => trivial) hmode
    fun _ _ _ _ hi hat => (agreesOn_of_at hi hat).find?_eq hname
  assign {v} name _ _ := by
    rintro i i' _ s s' ⟨hs, hs', hroot, hrest⟩
    exact ⟨trivial, _, rfl, hs, hs', hroot.insert name v, hrest⟩
  advance key _ := by
    rintro i i' _ s s' ⟨hs, hs', hroot, hcycles, hfilters⟩
    -- both runs are at the same place of the cycle
    have hposition : (s.context.advance key).1 = (s'.context.advance key).1 := by
      rw [Context.advance, Context.advance, hcycles]
    have hadvanced : (s.context.advance key).2.cycles = (s'.context.advance key).2.cycles := by
      rw [Context.advance, Context.advance, hcycles]
    refine ⟨trivial, { s' with context := (s'.context.advance key).2 }, ?_, hs, hs', hroot,
      hadvanced, hfilters⟩
    show (Except.ok (s'.context.advance key).1, _) = (Except.ok (s.context.advance key).1, _)
    rw [hposition]
    rfl
  applyFilter {filter _ _} hcalls _ _ := by
    refine Follows.filtering trivial (fun _ => trivial) hnow fun i i' s s' _ hat => ?_
    have hfilters := hat.2.2.2.2
    rw [Registry.get, Registry.get, hfilters filter hcalls]
  template name _ := htemplate name
  observe _ h := h

variable {α : Type} {Q : α → Prop}

/-- **Runs that agree have the same result** and end in contexts that agree. -/
theorem agreeing_runOn {r r' : Render α} (h : (agreeing P left right).Follows Q r r')
    {s s' : State} (hs : s.context.AgreesOn (fun name => P (.variable name)) s'.context)
    (hfilters : ∀ name, P (.filter name) → s.filters.find name = s'.filters.find name) :
    Outcome.AgreesOn (fun name => P (.variable name)) (r.runOn left s) (r'.runOn right s') := by
  obtain ⟨hstacks, hroot, hcycles⟩ := Context.AgreesOn.iff_inner.1 hs
  obtain ⟨t', hrun, hat⟩ := h.runOn hstacks ⟨hroot, hcycles, hfilters⟩ fun _ _ => trivial
  have hrun : r'.runOn right s' = ((r.runOn left s).1, t') := hrun
  rw [hrun]
  exact ⟨rfl, agreesOn_of_at hstacks hat⟩

end TwoRuns

/-! ### Engines -/

namespace Engine

variable {e e' : Engine} {P : Mention → Prop}

/-- **Engines with one configuration and the same templates run in agreement.** -/
theorem agreeing_lawful (hconfig : e.config = e'.config) (htemplates : e.templates = e'.templates)
    (he : ∀ name n, e.findTemplate name = .ok n → n.NamesOnly P) (now : Moment) (depth : Nat) :
    (TwoRuns.agreeing P (e.surroundings now depth) (e'.surroundings now depth)).Lawful := by
  have hsame (name : String) : e'.findTemplate name = e.findTemplate name := by
    rw [findTemplate, findTemplate, htemplates]
  exact (TwoRuns.agreeing P (e.surroundings now 0) (e'.surroundings now 0)).lawful_between rfl now 0
    hsame (fun _ => rfl) he
    (fun depth htemplate => TwoRuns.agreeing_lawful (by simp) (by simp [hconfig]) htemplate) depth

section Agreement

variable (hconfig : e.config = e'.config) (htemplates : e.templates = e'.templates)
  (he : ∀ name n, e.findTemplate name = .ok n → n.NamesOnly P)
  (hfilters : ∀ name, P (.filter name) → e.filters.find name = e'.filters.find name)
  {c c' : Context} (hc : c.AgreesOn (fun name => P (.variable name)) c')
  (notes notes' : Table String Value)
include hconfig htemplates he hfilters hc

/-- A tree has the same result on two engines. -/
theorem runOn_agreesOn (now : Moment) (depth : Nat) {n : Node} (hn : n.NamesOnly P) :
    Outcome.AgreesOn (fun name => P (.variable name))
      (n.render.runOn (e.surroundings now depth) (e.start c notes))
      (n.render.runOn (e'.surroundings now depth) (e'.start c' notes')) :=
  TwoRuns.agreeing_runOn
    ((agreeing_lawful hconfig htemplates he now depth).unwatched_node rfl (l := .free) hn) hc hfilters

/-- So have nodes at the top of a template. -/
theorem renderNodes_agreesOn (now : Moment) (policy : StrayPolicy) {nodes : List Node}
    (hn : ∀ n ∈ nodes, n.NamesOnly P) :
    Outcome.AgreesOn (fun name => P (.variable name))
      (e.renderNodes now policy nodes (e.start c notes))
      (e'.renderNodes now policy nodes (e'.start c' notes')) :=
  TwoRuns.agreeing_runOn
    ((agreeing_lawful hconfig htemplates he now maxDepth).unwatched_top rfl ⟨trivial, .inl rfl⟩
      (l := .free) hn) hc hfilters

/-- And so have templates. -/
theorem render_agreesOn (now : Moment) (policy : StrayPolicy) {t : Template}
    (ht : ∀ n ∈ t.nodes, n.NamesOnly P) :
    Outcome.AgreesOn (fun name => P (.variable name))
      (e.render now policy t (e.start c notes)) (e'.render now policy t (e'.start c' notes')) := by
  unfold render
  split
  · exact renderNodes_agreesOn hconfig htemplates he hfilters hc notes notes' now policy ht
  · exact ⟨rfl, hc⟩
  · exact renderNodes_agreesOn hconfig htemplates he hfilters hc notes notes' now policy ht

end Agreement

/-- **Noninterference.**  On engines with one configuration and the same templates, whose filters
agree where a tree or a template calls them, and in contexts that agree where one of them looks up
a variable, every tree and every template has the same result, a value, a text or an error, and
ends in contexts that agree there again. -/
theorem noninterference (hconfig : e.config = e'.config) (htemplates : e.templates = e'.templates)
    (he : e.MadeOf fun _ => true) {nodes : List Node}
    (hn : ∀ n ∈ nodes, n.isMadeOf (fun _ => true) = true)
    (hfilters : ∀ name, e.Mentions nodes (.filter name) →
      e.filters.find name = e'.filters.find name)
    {c c' : Context} (hc : c.AgreesOn (fun name => e.Mentions nodes (.variable name)) c')
    (notes notes' : Table String Value) (now : Moment) :
    (∀ n ∈ nodes, ∀ depth, Outcome.AgreesOn (fun name => e.Mentions nodes (.variable name))
      (n.render.runOn (e.surroundings now depth) (e.start c notes))
      (n.render.runOn (e'.surroundings now depth) (e'.start c' notes'))) ∧
    (∀ policy (t : Template), t.nodes = nodes →
      Outcome.AgreesOn (fun name => e.Mentions nodes (.variable name))
        (e.render now policy t (e.start c notes))
        (e'.render now policy t (e'.start c' notes'))) := by
  have htrees : ∀ n ∈ nodes, n.NamesOnly (e.Mentions nodes) := fun n hmem =>
    ⟨hn n hmem, fun m hm => .inl (Node.mem_mentionsAll.2 ⟨n, hmem, hm⟩)⟩
  have htemplate : ∀ name n, e.findTemplate name = .ok n → n.NamesOnly (e.Mentions nodes) :=
    fun name n hname => ⟨he name n hname, fun m hm => .inr ⟨name, n, hname, hm⟩⟩
  refine ⟨fun n hmem depth => ?_, fun policy t ht => ?_⟩
  · exact runOn_agreesOn hconfig htemplates htemplate hfilters hc notes notes' now depth
      (htrees n hmem)
  · exact render_agreesOn hconfig htemplates htemplate hfilters hc notes notes' now policy
      (ht ▸ htrees)

/-- An engine whose template looks up a variable and calls a filter. -/
def greeting : Engine :=
  { Engine.new {} with
    templates := Table.ofList [("greeting",
      .output (.lookup "name" []) [.stage "append" [.lookup "mark" []]])] }

/-- That engine, with a filter of its own under a standard name that the template does not call. -/
def otherGreeting : Engine :=
  { greeting with
    filters := ⟨greeting.filters.items.insert "downcase" (.ofFunction "downcase" "no_op" fun v _ =>
      .ok v)⟩ }

/-- The template is included where one of its variables is bound in an inner scope. -/
def greetingContext : Context :=
  ⟨[Table.ofList [("name", .str "Ann")]], Table.ofList [("mark", .str "!")], ∅, []⟩

/-- That context, with other variables in both scopes and another hidden binding. -/
def otherGreetingContext : Context :=
  ⟨[Table.ofList [("secret", .int 1), ("name", .str "Ann")]],
    Table.ofList [("mark", .str "!"), ("token", .str "x")], ∅, []⟩

/-- An inclusion of that template. -/
def greetingPage : Node := .tag (.ofStandard .include) [.literal (.str "greeting")]

/-- The other filter and the other variables do not show. -/
theorem noninterference_greeting :
    (greeting.MadeOf fun _ => true) ∧
      (greetingPage.render.runOn (greeting.surroundings default 1)
        (greeting.start greetingContext ∅)).1 = .ok (.str "Ann!") ∧
      (greetingPage.render.runOn (otherGreeting.surroundings default 1)
        (otherGreeting.start otherGreetingContext ∅)).1 = .ok (.str "Ann!") := by
  have htemplate : ∀ name n, greeting.findTemplate name = .ok n →
      n = .output (.lookup "name" []) [.stage "append" [.lookup "mark" []]] :=
    fun name n hn => (Prod.mk.inj (List.mem_singleton.1 (mem_of_findTemplate rfl hn))).2
  have he : greeting.MadeOf fun _ => true := by
    intro name n hn
    rw [htemplate name n hn]
    rfl
  have hmentions : ∀ m, greeting.Mentions [greetingPage] m →
      m = .variable "name" ∨ m = .filter "append" ∨ m = .variable "mark" := by
    rintro m (hm | ⟨name, n, hn, hm⟩)
    · cases hm
    · rw [htemplate name n hn] at hm
      simpa [Node.mentions, Node.mentionsAll] using hm
  have hfilters : ∀ name, greeting.Mentions [greetingPage] (.filter name) →
      greeting.filters.find name = otherGreeting.filters.find name := by
    intro name hname
    rcases hmentions _ hname with h | h | h <;> cases h
    rfl
  have hc : greetingContext.AgreesOn
      (fun name => greeting.Mentions [greetingPage] (.variable name)) otherGreetingContext := by
    refine ⟨.cons ?_ (.cons ?_ .nil), rfl⟩
    all_goals
      intro name hname
      rcases hmentions _ hname with h | h | h <;> cases h <;> rfl
  have hvalue : (greetingPage.render.runOn (greeting.surroundings default 1)
      (greeting.start greetingContext ∅)).1 = .ok (.str "Ann!") := rfl
  have hsame := (noninterference (show greeting.config = otherGreeting.config from rfl) rfl he
    (fun n hn => by rw [List.mem_singleton.1 hn]; rfl) hfilters hc ∅ ∅ default).1 greetingPage
    (List.mem_singleton_self _) 1
  exact ⟨he, hvalue, hsame.1.symm.trans hvalue⟩

end Engine

end TemplateEngine
