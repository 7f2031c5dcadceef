/-
**A render gives the scopes back as it found them.**

Loops and inclusions open scopes and bind variables in them; assignments and captures write to
the root from any depth.  Whatever the end of a render of standard tags, a content, a signal or
an error in the middle of a loop, every scope but the root is at the end what it was at the start.

That steps which follow each other leave the inner scopes alone is part of
`TemplateEngine.Proofs.TwoRuns`; what is added here is the root, which only two tags write to.

Main definitions and results:

* `Context.Keeps` — a context with the scopes of another one, but for the root;
* `Engine.renderEach` — templates rendered one after another in one context;
* `Engine.keeps_context` — **every render keeps the scopes, whatever its outcome**.
-/
import TemplateEngine.Proofs.TwoRuns.Upkeep

set_option autoImplicit false

namespace TemplateEngine

/-! ### Contexts that keep their scopes -/

/-- The scopes of `c'` are those of `c`, but for the root; the root is the same, too, unless it
was written to. -/
structure Context.Keeps (written : Prop) (c c' : Context) : Prop where
  /-- There are as many scopes as before. -/
  depth : c'.depth = c.depth
  /-- Every inner scope binds the same names to the same values. -/
  inner : c'.inner = c.inner
  /-- What an inner scope binds has the value that it had. -/
  find? (key : Key) : (∃ scope ∈ c.inner, scope.contains key = true) → c'.find? key = c.find? key
  root : ¬ written → c'.root = c.root

namespace Context.Keeps

variable {written : Prop} {c c' c'' : Context}

/-- Only the inner scopes matter, and the root if it was not written to. -/
theorem of_inner (hinner : c'.inner = c.inner) (hroot : ¬ written → c'.root = c.root) :
    c.Keeps written c' where
  depth := by rw [Context.depth, Context.depth, hinner]
  inner := hinner
  find? key := by
    rintro ⟨scope, hscope, hkey⟩
    -- the search ends in the inner scopes, before it gets to the root
    have hfound : (c.inner.findSome? (·.find? key)).isSome = true := by
      rw [List.findSome?_isSome_iff]
      exact ⟨scope, hscope, hkey⟩
    obtain ⟨v, hv⟩ := Option.isSome_iff_exists.1 hfound
    rw [find?_eq_or, find?_eq_or, hinner, hv, Option.some_or, Option.some_or]
  root := hroot

theorem refl (written : Prop) (c : Context) : c.Keeps written c :=
  of_inner rfl fun _ => rfl

theorem trans (h : c.Keeps written c') (h' : c'.Keeps written c'') : c.Keeps written c'' :=
  of_inner (h'.inner.trans h.inner) fun hw => (h'.root hw).trans (h.root hw)

end Context.Keeps

/-! ### What is kept up -/

/-- Whether there is a tag among some kinds that binds variables in the root. -/
def StandardTag.Writing (kinds : StandardTag → Bool) : Prop :=
  ∃ kind, kinds kind = true ∧ kind.writes = true

theorem StandardTag.writing_of_uses {kinds : StandardTag → Bool}
    (h : kinds .assign = true ∨ kinds .capture = true) : Writing kinds := by
  rcases h with h | h
  · exact ⟨.assign, h, rfl⟩
  · exact ⟨.capture, h, rfl⟩

/-- Trees of standard tags of some kinds, at any licence. -/
def Discipline.madeOf (kinds : StandardTag → Bool) :
    Discipline .all (fun _ => True) (fun _ => True) (fun kind => kinds kind = true) where
  Obeys _ n := n.isMadeOf kinds = true
  literal _ := trivial
  lookup _ := trivial
  range h := by simpa [Node.isMadeOf] using h
  compare h := by simpa [Node.isMadeOf] using h
  connect h := by simpa [Node.isMadeOf] using h
  output h := by simpa [Node.isMadeOf, Node.areMadeOf_iff] using h
  stage h := by simpa [Node.isMadeOf, Node.areMadeOf_iff] using h
  block h := by simpa [Node.isMadeOf, Node.areMadeOf_iff] using h
  tag {l t children} h := by
    rw [Node.isMadeOf, Bool.and_eq_true, Tag.isOf_iff, Node.areMadeOf_iff] at h
    obtain ⟨⟨kind, hbody, hkind⟩, hchildren⟩ := h
    refine ⟨kind, hbody, fun _ v _ => ?_, hkind, ?_⟩
    · exact ValueClass.all.at_of_holds trivial
    · exact obeyAt_of_forall fun n hn _ => hchildren n hn
  signal _ := ValueClass.all.at_of_holds trivial
  attr h := by simpa [Node.isMadeOf] using h

/-- As long as no tag writes to it, the root is `root` all the time. -/
def Upkeep.scopes (kinds : StandardTag → Bool) (root : Scope) : Upkeep where
  values := .all
  Uses kind := kinds kind = true
  trees := .madeOf kinds
  observer _ r := r
  Strays := True
  Scoped _ := True
  Kept s := ¬ StandardTag.Writing kinds → s.context.root = root

theorem Upkeep.scopes_lawful (kinds : StandardTag → Bool) (root : Scope) :
    (Upkeep.scopes kinds root).Lawful where
  scoped_empty := trivial
  scoped_insert _ _ _ := trivial
  kept_withInner _ h := h
  resolve _ _ _ := fun _ _ => trivial
  assign _ hu _ _ := fun h => (h (StandardTag.writing_of_uses hu)).elim
  advance _ _ h := h
  applyFilter _ _ _ _ _ _ _ := ⟨fun _ _ => trivial, fun _ _ _ => trivial⟩
  observe _ h := h

/-! ### Renders keep the scopes -/

namespace Engine

/-- Render templates one after another, each in the state that the one before has left, **whether
it has failed or not**. -/
def renderEach (e : Engine) (now : Moment) (policy : StrayPolicy) : List Template → State → State
  | [], s => s
  | t :: rest, s => renderEach e now policy rest (e.render now policy t s).2

variable {e : Engine} {kinds : StandardTag → Bool}

/-- An end of a step in which the scopes are kept up. -/
theorem keeps_of_goodEnd {α : Type} {Q : α → Prop} {s : State} {o : Outcome α}
    (h : (Upkeep.scopes kinds s.context.root).GoodEnd Q s o) :
    s.context.Keeps (StandardTag.Writing kinds) o.2.context := .of_inner h.inner h.kept

/-- A state has its own root. -/
theorem good_scopes (kinds : StandardTag → Bool) (s : State) :
    (Upkeep.scopes kinds s.context.root).Good s := ⟨fun _ _ => trivial, fun _ => rfl⟩

/-- A tree of standard tags keeps the scopes. -/
theorem keeps_node (he : e.MadeOf kinds) {n : Node} (hn : n.isMadeOf kinds = true) (now : Moment)
    (depth : Nat) (s : State) :
    s.context.Keeps (StandardTag.Writing kinds)
      (n.render.runOn (e.surroundings now depth) s).2.context := by
  have hT := (Upkeep.scopes_lawful kinds s.context.root).onEngine he now depth
  have hfollows := (hT.part n .statement (l := .free) (fun h => by cases h) hn).run
  exact keeps_of_goodEnd (Upkeep.of_follows hfollows (good_scopes kinds s)).2

/-- The nodes at the top of a template keep the scopes, too. -/
theorem keeps_renderNodes (he : e.MadeOf kinds) {nodes : List Node}
    (hn : ∀ n ∈ nodes, n.isMadeOf kinds = true) (now : Moment) (policy : StrayPolicy) (s : State) :
    s.context.Keeps (StandardTag.Writing kinds) (e.renderNodes now policy nodes s).2.context := by
  have hT := (Upkeep.scopes_lawful kinds s.context.root).onEngine he now maxDepth
  have hfollows := TwoRuns.Lawful.renderTop policy policy (.inl ⟨rfl, trivial⟩)
    (hT.statements (l := .free) hn)
  exact keeps_of_goodEnd (Upkeep.of_follows hfollows (good_scopes kinds s)).2

/-- Templates keep the scopes; a lone stage of a pipe is refused before anything is done. -/
theorem keeps_render (he : e.MadeOf kinds) {t : Template}
    (ht : ∀ n ∈ t.nodes, n.isMadeOf kinds = true) (now : Moment) (policy : StrayPolicy) (s : State) :
    s.context.Keeps (StandardTag.Writing kinds) (e.render now policy t s).2.context := by
  unfold render
  split
  · exact keeps_renderNodes he ht now policy s
  · exact .refl _ _
  · exact keeps_renderNodes he ht now policy s

/-- **A context can be used again and again**, whether renders in it fail or not. -/
theorem keeps_renderEach (he : e.MadeOf kinds) (now : Moment) (policy : StrayPolicy)
    {ts : List Template} (ht : ∀ t ∈ ts, ∀ n ∈ t.nodes, n.isMadeOf kinds = true) (s : State) :
    s.context.Keeps (StandardTag.Writing kinds) (e.renderEach now policy ts s).context := by
  induction ts generalizing s with
  | nil => exact .refl _ _
  | cons t rest ih =>
      have hfirst := keeps_render he (ht t List.mem_cons_self) now policy s
      exact hfirst.trans (ih (fun u hu => ht u (List.mem_cons_of_mem _ hu)) _)

/-- **Every render keeps the scopes, whatever its outcome**: that of one node, and those of
templates one after another in one context.  Without a tag that writes the root is kept, too. -/
theorem keeps_context (he : e.MadeOf kinds) (now : Moment) :
    (∀ n : Node, n.isMadeOf kinds = true → ∀ depth (s : State),
      s.context.Keeps (StandardTag.Writing kinds)
        (n.render.runOn (e.surroundings now depth) s).2.context) ∧
    (∀ policy (ts : List Template), (∀ t ∈ ts, ∀ n ∈ t.nodes, n.isMadeOf kinds = true) →
      ∀ s : State, s.context.Keeps (StandardTag.Writing kinds)
        (e.renderEach now policy ts s).context) :=
  ⟨fun _ hn depth s => keeps_node he hn now depth s,
    fun policy _ ht s => keeps_renderEach he now policy ht s⟩

/-- An engine with a template that leaves the loop around it. -/
def leaving : Engine :=
  { Engine.new {} with templates := Table.ofList [("leave", .signal .break)] }

/-- A loop that hands its variable to that template. -/
def leavingLoop : Node :=
  .tag (.ofStandard .for)
    [.literal (.str "x"), .literal (.list [.int 1, .int 2]),
      .block [.text "turn", .tag (.ofStandard .include) [.literal (.str "leave"), .lookup "x" []]]]

/-- A loop inside another one with the same variable: the outer variable is what it was. -/
theorem keeps_context_leaving :
    (leaving.MadeOf fun _ => true) ∧ leavingLoop.isMadeOf (fun _ => true) = true ∧
      ((leavingLoop.render.runOn (leaving.surroundings default 1)
        (leaving.start ⟨[Table.ofList [("x", .int 7)]], ∅, ∅, []⟩ ∅)).2.context.find? "x") =
          some (.int 7) := by
  have he : leaving.MadeOf fun _ => true := by
    intro name n hn
    obtain ⟨-, rfl⟩ := Prod.mk.inj (List.mem_singleton.1 (mem_of_findTemplate rfl hn))
    rfl
  have hn : leavingLoop.isMadeOf (fun _ => true) = true := rfl
  refine ⟨he, hn, ?_⟩
  have hkeeps := (keeps_context he default).1 _ hn 1
    (leaving.start ⟨[Table.ofList [("x", .int 7)]], ∅, ∅, []⟩ ∅)
  rw [hkeeps.find? "x" ⟨_, List.mem_cons_self, rfl⟩]
  rfl

end Engine

end TemplateEngine
