/-
**Two runs side by side.**

Many facts about rendering compare two runs: of one tree in two surroundings, of a tree and a
watched copy of it, or of a tree and itself.  `TwoRuns` says what the two runs read and what ties
their states together; the second run *follows* the first if, from tied states, it gives the same
values, reports the same errors and reaches tied states again.  That the inner scopes of both
runs are at the end what they were at the start is part of following, for it is what makes a
scope that is closed leave nothing behind.

What the primitive steps have to satisfy is `TwoRuns.Lawful`; that whole trees follow each other
then is `TemplateEngine.Proofs.TwoRuns.Nodes`.

Main definitions:

* `ValueClass` — a class of values that the work of a render does not leave;
* `Discipline` — a property of trees that goes down to their children;
* `TwoRuns`, `TwoRuns.Follows`, `TwoRuns.FollowsInside` — two runs, and steps that follow each
  other, also inside an open scope;
* `TwoRuns.Lawful` — **what the primitive steps have to satisfy**.

Main results:

* `TwoRuns.Follows.runOn` — what the second run does;
* `TwoRuns.Follows.reading`, `TwoRuns.Follows.bind` — a step that only reads, and steps one after
  another;
* `TwoRuns.FollowsInside.inScope` — steps in a scope of their own.
-/
import Mathlib.Data.List.Forall2
import TemplateEngine.Proofs.Position

set_option autoImplicit false

namespace TemplateEngine

variable {α β : Type}

/-! ### Classes of values -/

/-- **A class of values that the work of a render does not leave**: what is computed from values
of the class by paths, loops and rows is of the class again. -/
structure ValueClass where
  Holds : Value → Prop
  nil : Holds .nil
  bool (b : Bool) : Holds (.bool b)
  str (s : String) : Holds (.str s)
  rangeItems {a b : Int} {items : List Value} :
    Value.rangeItems a b = .ok items → Holds (.list items)
  follow {v w : Value} {path : List Value} : Holds v → v.follow path = .ok w → Holds w
  listed {v : Value} {items : List Value} : Holds v → v.listed = .ok items → ∀ x ∈ items, Holds x
  turn (name : String) (index length : Nat) : Holds (.map (Tags.turnFields name index length))
  cell (name : String) (index length cols col row : Nat) :
    Holds (.map (Tags.turnFields name index length ++ Tags.cellFields cols col row))
  /-- A signal in the class may carry any text. -/
  interrupt {v : Value} {t : String} {s : Signal} (u : String) :
    Holds v → v.split = .ok (t, some s) → Holds (.interrupt u s)

/-- What is split into a text and a signal is a signal. -/
theorem Value.isSignal_of_split {v : Value} {t : String} {s : Signal}
    (h : v.split = .ok (t, some s)) : v.isSignal = true := by
  unfold split at h
  split at h
  · rfl
  · rfl
  · cases htext : v.text with
    | ok u =>
        rw [htext] at h
        cases h
    | error _ =>
        rw [htext] at h
        cases h

/-- A text behind which a signal stands is a signal. -/
theorem Value.isSignal_interrupt (u : String) (s : Signal) : (interrupt u s).isSignal = true :=
  isSignal_of_split (split_interrupt u s)

namespace ValueClass

/-- What a statement may give: a value of the class, or a signal. -/
def Stated (V : ValueClass) (v : Value) : Prop := V.Holds v ∨ v.isSignal = true

/-- What a node with a licence may give. -/
def At (V : ValueClass) : Licence → Value → Prop
  | .free => V.Stated
  | _ => V.Holds

variable (V : ValueClass) {l : Licence}

theorem at_of_holds {v : Value} (h : V.Holds v) : V.At l v := by
  cases l with
  | barred => exact h
  | looped => exact h
  | free => exact Or.inl h

/-- What carries a signal may be given with a longer text as well. -/
theorem at_interrupt {v : Value} {t : String} {s : Signal} (u : String) (h : V.At l v)
    (hs : v.split = .ok (t, some s)) : V.At l (.interrupt u s) := by
  cases l with
  | barred => exact V.interrupt u h hs
  | looped => exact V.interrupt u h hs
  | free => exact Or.inr (Value.isSignal_interrupt u s)

/-- All values. -/
def all : ValueClass where
  Holds _ := True
  nil := trivial
  bool _ := trivial
  str _ := trivial
  rangeItems _ := trivial
  follow _ _ := trivial
  listed _ _ _ _ := trivial
  turn _ _ _ := trivial
  cell _ _ _ _ _ _ := trivial
  interrupt _ _ _ := trivial

end ValueClass

/-! ### Disciplines of trees -/

/-- Every child obeys at the licence that its position leaves it; what is without a position is
an expression. -/
def ObeyAt (Obeys : Licence → Node → Prop) (l : Licence) : List Position → List Node → Prop
  | _, [] => True
  | [], n :: rest => Obeys .barred n ∧ ObeyAt Obeys l [] rest
  | pos :: more, n :: rest => Obeys (pos.licence l) n ∧ ObeyAt Obeys l more rest

/-- **A property of trees, at every licence, that goes down to their children.**  `Reads` and
`Calls` bound the variables and filters that the trees name, `Uses` the tags that stand in them. -/
structure Discipline (V : ValueClass) (Reads Calls : String → Prop)
    (Uses : StandardTag → Prop) where
  Obeys : Licence → Node → Prop
  literal {l : Licence} {v : Value} : Obeys l (.literal v) → V.Holds v
  lookup {l : Licence} {name : String} {path : List Value} :
    Obeys l (.lookup name path) → Reads name
  range {l : Licence} {start stop : Node} :
    Obeys l (.range start stop) → Obeys .barred start ∧ Obeys .barred stop
  compare {l : Licence} {op : Comparison} {left right : Node} :
    Obeys l (.compare op left right) → Obeys .barred left ∧ Obeys .barred right
  connect {l : Licence} {op : Connective} {left right : Node} :
    Obeys l (.connect op left right) → Obeys .barred left ∧ Obeys .barred right
  output {l : Licence} {expression : Node} {stages : List Node} :
    Obeys l (.output expression stages) →
      Obeys .barred expression ∧ ∀ n ∈ stages, Obeys .barred n
  stage {l : Licence} {filter : String} {params : List Node} :
    Obeys l (.stage filter params) → Calls filter ∧ ∀ n ∈ params, Obeys .barred n
  block {l : Licence} {children : List Node} :
    Obeys l (.block children) → ∀ n ∈ children, Obeys l n
  tag {l : Licence} {t : Tag} {children : List Node} :
    Obeys l (.tag t children) → ∃ kind, t.body = .standard kind ∧
      (kind = .include → ∀ v, V.Stated v → V.At l v) ∧ Uses kind ∧
      ObeyAt Obeys l (kind.positions (children.map Node.isAttribute)) children
  signal {l : Licence} {s : Signal} : Obeys l (.signal s) → V.At l (.signal s)
  attr {l : Licence} {name : String} {value : Node} :
    Obeys l (.attribute name value) → Obeys .barred value

/-! ### Two runs -/

/-- **Two runs side by side**: what they read, and what ties their states together. -/
structure TwoRuns where
  /-- The values that expressions give. -/
  values : ValueClass
  Reads : String → Prop
  Calls : String → Prop
  Uses : StandardTag → Prop
  trees : Discipline values Reads Calls Uses
  /-- The first run is watched. -/
  observer : Observer
  left : Surroundings
  right : Surroundings
  /-- The errors of the first run that the second run has to report, too. -/
  Reported : Error → Prop
  /-- Whether an error may tell of a stray signal. -/
  Strays : Prop
  /-- What ties the inner scopes of the two runs together. -/
  Stacks : List Scope → List Scope → Prop
  /-- What ties two scopes together that both runs have opened. -/
  Frames : Scope → Scope → Prop
  /-- What ties the rest of the states together. -/
  Rest : State → State → Prop

/-- Whether an error tells of a signal at the top of a template. -/
def Error.isStray : Error → Bool
  | .straySignal _ => true
  | _ => false

/-- The second outcome is that of the first one, with a value that satisfies `Q` and states that
`R` ties together.  If the error of the first one is not reported, the second may be any. -/
def Outcome.Matches (T : TwoRuns) (R : State → State → Prop) (Q : α → Prop)
    (o o' : Outcome α) : Prop :=
  match o with
  | (.ok a, s) => Q a ∧ ∃ s', o' = (.ok a, s') ∧ R s s'
  | (.error e, s) =>
      (e.isStray = true → T.Strays) ∧ (T.Reported e → ∃ s', o' = (.error e, s') ∧ R s s')

namespace TwoRuns

variable (T : TwoRuns)

/-- The states of the two runs between two inner stacks. -/
def At (i i' : List Scope) (s s' : State) : Prop :=
  s.context.inner = i ∧ s'.context.inner = i' ∧ T.Rest s s'

/-- The states of the two runs inside a scope that both have opened. -/
def Within (i i' : List Scope) (s s' : State) : Prop :=
  ∃ f f', T.Frames f f' ∧ T.At (f :: i) (f' :: i') s s'

/-- From states that `R` ties together the second step does what the first one does, and `R` ties
the states together that they reach. -/
def Keeps (R : State → State → Prop) (Q : α → Prop) (r r' : Render α) : Prop :=
  ∀ s s', R s s' → Outcome.Matches T R Q (r.runOn T.left s) (r'.runOn T.right s')

/-- **The second step follows the first one**, and both leave their inner scopes as they were. -/
def Follows (Q : α → Prop) (r r' : Render α) : Prop :=
  ∀ i i', T.Stacks i i' → T.Keeps (T.At i i') Q r r'

/-- Inside a scope that both runs have opened the second step follows the first one; both may
bind variables in that scope. -/
def FollowsInside (Q : α → Prop) (r r' : Render α) : Prop :=
  ∀ i i', T.Stacks i i' → T.Keeps (T.Within i i') Q r r'

variable {T} {Q : α → Prop} {Q' : β → Prop}

/-- Less may be said of the value and of the states. -/
theorem matches_imp {R R' : State → State → Prop} {P : α → Prop} {o o' : Outcome α}
    (h : Outcome.Matches T R Q o o') (hR : ∀ s s', R s s' → R' s s') (hQ : ∀ a, Q a → P a) :
    Outcome.Matches T R' P o o' := by
  obtain ⟨result, s⟩ := o
  cases result with
  | ok a =>
      obtain ⟨ha, s', ho, hs⟩ := h
      exact ⟨hQ a ha, s', ho, hR s s' hs⟩
  | error e =>
      refine ⟨h.1, fun he => ?_⟩
      obtain ⟨s', ho, hs⟩ := h.2 he
      exact ⟨s', ho, hR s s' hs⟩

/-- **What the second run does**, if the first one is to be believed: it ends alike, in a state
that is tied to that of the first one. -/
theorem Follows.runOn {r r' : Render α} (h : T.Follows Q r r') {s s' : State}
    (hstacks : T.Stacks s.context.inner s'.context.inner) (hrest : T.Rest s s')
    (hreported : ∀ x, (r.runOn T.left s).1 = .error x → T.Reported x) :
    ∃ t', r'.runOn T.right s' = ((r.runOn T.left s).1, t') ∧
      T.At s.context.inner s'.context.inner (r.runOn T.left s).2 t' := by
  have hmatch : Outcome.Matches T _ Q (r.runOn T.left s) (r'.runOn T.right s') :=
    h _ _ hstacks s s' ⟨rfl, rfl, hrest⟩
  generalize r.runOn T.left s = o at hmatch hreported
  obtain ⟨result, t⟩ := o
  cases result with
  | ok a => exact hmatch.2
  | error x => exact hmatch.2 (hreported x rfl)

/-! ### Steps one after another -/

/-- Steps that give one result and leave their states as they are. -/
theorem matches_same {R : State → State → Prop} {s s' : State} (hs : R s s') (hstrays : T.Strays)
    {x : Except Error α} (h : ∀ a, x = .ok a → Q a) : Outcome.Matches T R Q (x, s) (x, s') := by
  cases x with
  | ok a => exact ⟨h a rfl, s', rfl, hs⟩
  | error e => exact ⟨fun _ => hstrays, fun _ => ⟨s', rfl, hs⟩⟩

/-- A result that does not depend on the state. -/
theorem Keeps.lift {R : State → State → Prop} {x : Except Error α} (h : ∀ a, x = .ok a → Q a)
    (he : ∀ e, x = .error e → e.isStray = false) :
    T.Keeps R Q (Render.lift x) (Render.lift x) := by
  intro s s' hs
  rw [Render.runOn_lift, Render.runOn_lift]
  cases x with
  | ok a => exact ⟨h a rfl, s', rfl, hs⟩
  | error e =>
      have hstray : e.isStray = true → T.Strays := fun h => by simp [he e rfl] at h
      exact ⟨hstray, fun _ => ⟨s', rfl, hs⟩⟩

/-- Steps one after another. -/
theorem Keeps.bind {R : State → State → Prop} {r r' : Render α} {f f' : α → Render β}
    (hr : T.Keeps R Q r r') (hf : ∀ a, Q a → T.Keeps R Q' (f a) (f' a)) :
    T.Keeps R Q' (r >>= f) (r' >>= f') := by
  intro s s' hs
  have h := hr s s' hs
  rw [Render.runOn_bind]
  cases hrun : r.runOn T.left s with
  | mk result t =>
      rw [hrun] at h
      cases result with
      | ok a =>
          obtain ⟨ha, t', hrun', ht⟩ := h
          rw [Render.runOn_bind_ok _ _ hrun']
          exact hf a ha t t' ht
      | error e =>
          refine ⟨h.1, fun he => ?_⟩
          obtain ⟨t', hrun', ht⟩ := h.2 he
          exact ⟨t', Render.runOn_bind_error _ _ hrun', ht⟩

namespace Follows

theorem lift {x : Except Error α} (h : ∀ a, x = .ok a → Q a)
    (he : ∀ e, x = .error e → e.isStray = false) :
    T.Follows Q (Render.lift x) (Render.lift x) := fun _ _ _ => Keeps.lift h he

theorem pure {a : α} (h : Q a) : T.Follows Q (Pure.pure a) (Pure.pure a) :=
  lift (fun b hb => by cases hb; exact h) fun e he => by cases he

theorem throw (e : Error) (he : e.isStray = false) :
    T.Follows Q (MonadExcept.throw e) (MonadExcept.throw e) :=
  lift (fun a ha => by cases ha) fun e' he' => by cases he'; exact he

/-- A stray signal, where it may be told of. -/
theorem stray (hstrays : T.Strays) (s : Signal) :
    T.Follows Q (MonadExcept.throw (.straySignal s)) (MonadExcept.throw (.straySignal s)) :=
  fun _ _ _ _ s' hs => ⟨fun _ => hstrays, fun _ => ⟨s', rfl, hs⟩⟩

/-- Where the first step fails with an error that is not reported, the second may do anything. -/
theorem unreported (e : Error) (hstray : e.isStray = true → T.Strays) (he : ¬ T.Reported e)
    (r' : Render α) : T.Follows Q (MonadExcept.throw e) r' :=
  fun _ _ _ _ _ _ => ⟨hstray, fun h => absurd h he⟩

/-- A step that only reads its state, and finds the same in states that are tied together. -/
theorem reading (hstrays : T.Strays) (hQ : ∀ a, Q a) {r : Render α}
    {f f' : State → Except Error α} (hleft : ∀ s, r.runOn T.left s = (f s, s))
    (hright : ∀ s, r.runOn T.right s = (f' s, s))
    (h : ∀ i i' s s', T.Stacks i i' → T.At i i' s s' → f s = f' s') : T.Follows Q r r := by
  intro i i' hi s s' hs
  rw [hleft, hright, h i i' s s' hi hs]
  exact matches_same hs hstrays fun a _ => hQ a

/-- A variable that both runs see alike. -/
theorem resolving (hstrays : T.Strays) {P : Value → Prop} (hP : ∀ v, P v)
    (hmode : T.left.strictVariables = T.right.strictVariables) {name : String}
    (h : ∀ i i' s s', T.Stacks i i' → T.At i i' s s' →
      s.context.find? name = s'.context.find? name) :
    T.Follows P (Render.resolve name) (Render.resolve name) := by
  refine reading hstrays hP (fun s => Render.runOn_resolve T.left s name)
    (fun s => Render.runOn_resolve T.right s name) fun i i' s s' hi hat => ?_
  rw [hmode, Context.resolve, Context.resolve, h i i' s s' hi hat]

/-- A filter that both runs know alike. -/
theorem filtering (hstrays : T.Strays) {P : Value → Prop} (hP : ∀ v, P v)
    (hnow : T.left.now = T.right.now) {filter : String} {v : Value} {params : List Value}
    (h : ∀ i i' s s', T.Stacks i i' → T.At i i' s s' →
      s.filters.get filter = s'.filters.get filter) :
    T.Follows P (Render.applyFilter filter v params) (Render.applyFilter filter v params) := by
  refine reading hstrays hP (fun s => Render.runOn_applyFilter T.left s filter v params)
    (fun s => Render.runOn_applyFilter T.right s filter v params) fun i i' s s' hi hat => ?_
  rw [hnow, h i i' s s' hi hat]

/-- **Steps one after another.** -/
theorem bind {r r' : Render α} {f f' : α → Render β} (hr : T.Follows Q r r')
    (hf : ∀ a, Q a → T.Follows Q' (f a) (f' a)) : T.Follows Q' (r >>= f) (r' >>= f') :=
  fun i i' hi => (hr i i' hi).bind fun a ha => hf a ha i i' hi

theorem mono {P : α → Prop} {r r' : Render α} (h : T.Follows Q r r') (hQ : ∀ a, Q a → P a) :
    T.Follows P r r' :=
  fun i i' hi s s' hs => matches_imp (h i i' hi s s' hs) (fun _ _ ht => ht) hQ

/-- Renders that follow each other one by one follow each other as a list. -/
theorem all {rs rs' : List (Render α)} (h : List.Forall₂ (T.Follows Q) rs rs') :
    T.Follows (fun as => ∀ a ∈ as, Q a) (Render.all rs) (Render.all rs') := by
  induction h with
  | nil => exact pure fun a ha => by cases ha
  | cons hr _ ih =>
      refine bind hr fun a ha => bind ih fun others ho => pure ?_
      intro b hb
      rcases List.mem_cons.1 hb with rfl | hb
      · exact ha
      · exact ho b hb

end Follows

namespace FollowsInside

theorem pure {a : α} (h : Q a) : T.FollowsInside Q (Pure.pure a) (Pure.pure a) :=
  fun _ _ _ => Keeps.lift (x := .ok a) (fun b hb => by cases hb; exact h)
    fun e he => by cases he

/-- Steps one after another. -/
theorem bind {r r' : Render α} {f f' : α → Render β} (hr : T.FollowsInside Q r r')
    (hf : ∀ a, Q a → T.FollowsInside Q' (f a) (f' a)) :
    T.FollowsInside Q' (r >>= f) (r' >>= f') :=
  fun i i' hi => (hr i i' hi).bind fun a ha => hf a ha i i' hi

end FollowsInside

/-! ### What the primitive steps have to satisfy -/

/-- What two templates of the same name have to satisfy. -/
def TemplatesFollow (T : TwoRuns) (x x' : Except Error (State → Outcome Value)) : Prop :=
  match x with
  | .ok run => ∃ run', x' = .ok run' ∧
      T.Follows T.values.Stated (Render.ofFunction fun _ s => run s)
        (Render.ofFunction fun _ s => run' s)
  | .error e => e.isStray = false ∧ x' = .error e

/-- The templates of one name follow each other. -/
def Included (T : TwoRuns) (name : String) : Prop :=
  T.TemplatesFollow (T.left.template name) (T.right.template name)

/-- Looking up a template and going on with it. -/
theorem Follows.findTemplate {name : String} (hname : T.Included name)
    {k k' : Render Value → Render α}
    (h : ∀ r r', T.Follows T.values.Stated r r' → T.Follows Q (k r) (k' r')) :
    T.Follows Q (Render.findTemplate name >>= k) (Render.findTemplate name >>= k') := by
  intro i i' hi s s' hs
  rw [Render.runOn_bind, Render.runOn_bind, Render.runOn_findTemplate, Render.runOn_findTemplate]
  unfold Included at hname
  cases hx : T.left.template name with
  | ok run =>
      rw [hx] at hname
      obtain ⟨run', hx', hrun⟩ := hname
      rw [hx']
      exact h _ _ hrun i i' hi s s' hs
  | error e =>
      rw [hx] at hname
      obtain ⟨hstray, hx'⟩ := hname
      rw [hx']
      exact ⟨fun h => by simp [hstray] at h, fun _ => ⟨s', rfl, hs⟩⟩

/-- **What the primitive steps have to satisfy.** -/
structure Lawful (T : TwoRuns) : Prop where
  stacks_cons {i i' : List Scope} {f f' : Scope} :
    T.Stacks i i' → T.Frames f f' → T.Stacks (f :: i) (f' :: i')
  frames_empty : T.Frames ∅ ∅
  frames_insert {f f' : Scope} {v : Value} (key : Key) :
    T.Frames f f' → T.values.Holds v → T.Frames (f.insert key v) (f'.insert key v)
  /-- The inner scopes are not part of the rest. -/
  rest_withInner {s s' : State} (i i' : List Scope) :
    T.Rest s s' → T.Rest (s.withInner i) (s'.withInner i')
  resolve {name : String} :
    T.Reads name → T.Follows T.values.Holds (Render.resolve name) (Render.resolve name)
  assign {v : Value} (name : String) : T.Uses .assign ∨ T.Uses .capture → T.values.Holds v →
    T.Follows (fun _ => True) (Render.assign name v) (Render.assign name v)
  advance (key : CycleKey) : T.Uses .cycle →
    T.Follows (fun _ => True) (Render.onContext (·.advance key)) (Render.onContext (·.advance key))
  applyFilter {filter : String} {v : Value} {params : List Value} :
    T.Calls filter → T.values.Holds v → (∀ p ∈ params, T.values.Holds p) →
      T.Follows T.values.Holds (Render.applyFilter filter v params)
        (Render.applyFilter filter v params)
  template (name : String) : T.Uses .include → T.Included name
  observe {pos : Position} {l : Licence} {r r' : Render Value} :
    (pos = .expression → l = .barred) → T.Follows (T.values.At l) r r' →
      T.Follows (T.values.At l) (T.observer pos r) r'

namespace Lawful

/-- The scope that an inclusion binds its value in. -/
theorem frames_single (hT : T.Lawful) (key : Key) {v : Value} (hv : T.values.Holds v) :
    T.Frames (Table.ofList [(key, v)]) (Table.ofList [(key, v)]) :=
  hT.frames_insert key hT.frames_empty hv

/-- What may be done in any scopes may be done inside a scope that both runs have opened. -/
theorem inside (hT : T.Lawful) {r r' : Render α} (h : T.Follows Q r r') :
    T.FollowsInside Q r r' := by
  intro i i' hi s s' ⟨f, f', hf, hs⟩
  have h := h (f :: i) (f' :: i') (hT.stacks_cons hi hf) s s' hs
  exact matches_imp h (fun t t' ht => ⟨f, f', hf, ht⟩) fun _ ha => ha

/-- Binding a variable in the innermost scope. -/
theorem bindLocal (hT : T.Lawful) {v : Value} (name : String) (hv : T.values.Holds v) :
    T.FollowsInside (fun _ => True) (Render.bindLocal name v) (Render.bindLocal name v) := by
  intro i i' _ s s' ⟨f, f', hf, hs, hs', hrest⟩
  -- both innermost scopes are there, so neither run writes to its root
  have hrun (env : Surroundings) (s : State) (f : Scope) (i : List Scope)
      (h : s.context.inner = f :: i) : (Render.bindLocal name v).runOn env s =
        (.ok (), s.withInner (f.insert name v :: i)) := by
    show (Except.ok (), { s with context := s.context.bind name v }) = _
    rw [Context.bind, h]
    rfl
  rw [hrun _ _ _ _ hs, hrun _ _ _ _ hs']
  exact ⟨trivial, _, rfl, _, _, hT.frames_insert name hf hv, rfl, rfl, hT.rest_withInner _ _ hrest⟩

/-- **Steps in a scope of their own**: the scope is closed whatever the outcome. -/
theorem inScope (hT : T.Lawful) {scope : Scope} (hscope : T.Frames scope scope) {r r' : Render α}
    (h : T.FollowsInside Q r r') :
    T.Follows Q (Render.inScope scope r) (Render.inScope scope r') := by
  intro i i' hi s s' ⟨hs, hs', hrest⟩
  have hstart : T.Within i i' (s.withInner (scope :: s.context.inner))
      (s'.withInner (scope :: s'.context.inner)) := by
    rw [hs, hs']
    exact ⟨scope, scope, hscope, rfl, rfl, hT.rest_withInner _ _ hrest⟩
  have h := h i i' hi _ _ hstart
  have hclose {t t' : State} : T.Within i i' t t' →
      T.At i i' (t.withInner t.context.inner.tail) (t'.withInner t'.context.inner.tail) := by
    rintro ⟨f, f', _, ht, ht', hrest⟩
    rw [ht, ht']
    exact ⟨rfl, rfl, hT.rest_withInner _ _ hrest⟩
  rw [Render.runOn_inScope, Render.runOn_inScope]
  cases hrun : r.runOn T.left (s.withInner (scope :: s.context.inner)) with
  | mk result t =>
      rw [hrun] at h
      cases result with
      | ok a =>
          obtain ⟨ha, t', hrun', ht⟩ := h
          rw [hrun']
          exact ⟨ha, _, rfl, hclose ht⟩
      | error e =>
          refine ⟨h.1, fun he => ?_⟩
          obtain ⟨t', hrun', ht⟩ := h.2 he
          rw [hrun']
          exact ⟨_, rfl, hclose ht⟩

end Lawful

end TwoRuns

end TemplateEngine
