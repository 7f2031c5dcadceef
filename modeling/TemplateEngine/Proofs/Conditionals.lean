/-
**Conditional tags agree with each other.**

`case` looks for a value that is equal to its subject, `if` for a condition that holds, and `unless`
turns its first condition around.  Each of them goes through children of its own layout.  The
default of a `case` stands behind the pairs, and the number of children tells whether there is one;
the default of an `if` is a pair like the others, whose condition always holds.

They choose the same body all the same.  A `case` of a literal is the `if` that asks whether the
values are equal to that literal, and an `unless` with a default is the `if` with its two bodies
exchanged.  A `case` renders values, one after another, up to the first one that is equal to the
subject, and then one body.  **Nothing else is rendered**: whatever stands in place of the other
bodies, and of all that stands behind, the result and the state are the same.

Main definitions and results:

* `Node.caseOf`, `Node.ifEqual` — a `case` of a literal, and the `if` that asks the same;
* `Node.render_caseOf` — **they are one render**;
* `Skips.all_or_first` — a search through pairs comes to an end, or to a first pair that ends it;
* `Node.CaseEnds`, `Node.caseEnds` — what a `case` renders, and what it does not;
* `Node.conditionals_agree` — all of this together.
-/
import TemplateEngine.Proofs.Propagation.Signal

set_option autoImplicit false

namespace TemplateEngine

variable {env : Surroundings} {s s₁ s₂ : State}

/-! ### Searches through pairs -/

/-- The bodies do not matter where they are skipped. -/
theorem Skips.of_map_fst {test : Value → Bool} {passed : List (Node × Node)}
    (h : Skips env test passed s s₁) : ∀ {others : List (Node × Node)},
      others.map Prod.fst = passed.map Prod.fst → Skips env test others s s₁ := by
  induction h with
  | nil s =>
      intro others hfst
      cases others with
      | nil => exact .nil s
      | cons q rest => simp at hfst
  | cons hrun htest _ ih =>
      intro others hfst
      cases others with
      | nil => simp at hfst
      | cons q rest =>
          simp only [List.map_cons, List.cons.injEq] at hfst
          exact .cons (by rw [hfst.1]; exact hrun) htest (ih hfst.2)

/-- **A search skips all pairs, or it comes to a first one that it does not skip**: this one has a
value that satisfies the test, or it fails. -/
theorem Skips.all_or_first (env : Surroundings) (test : Value → Bool)
    (pairs : List (Node × Node)) : ∀ s : State,
      (∃ t, Skips env test pairs s t) ∨
        ∃ passed p later t, pairs = passed ++ p :: later ∧ Skips env test passed s t ∧
          ((∃ u, Passes env test p.1 t u) ∨ ∃ e u, p.1.render.runOn env t = (.error e, u)) := by
  induction pairs with
  | nil => exact fun s => .inl ⟨s, .nil s⟩
  | cons p rest ih =>
      intro s
      rcases hrun : p.1.render.runOn env s with ⟨e | v, u⟩
      · exact .inr ⟨[], p, rest, s, rfl, .nil s, .inr ⟨e, u, hrun⟩⟩
      · cases htest : test v with
        | true => exact .inr ⟨[], p, rest, s, rfl, .nil s, .inl ⟨u, v, hrun, htest⟩⟩
        | false =>
            -- this pair is skipped, and the search goes on behind it
            rcases ih u with ⟨t, h⟩ | ⟨passed, q, later, t, rfl, h, hend⟩
            · exact .inl ⟨t, .cons hrun htest h⟩
            · exact .inr ⟨p :: passed, q, later, t, rfl, .cons hrun htest h, hend⟩

namespace Node

/-! ### A `case` as an `if` -/

/-- The condition that the value of a node is equal to a given one. -/
def equals (n : Node) (v : Value) : Node := .compare .eq n (.literal v)

/-- The condition that always holds. -/
def always : Node := .literal (.bool true)

/-- **A `case` of a literal**: pairs of a value and a body, and perhaps a default. -/
def caseOf (t : Tag) (v : Value) (pairs : List (Node × Node)) (otherwise? : Option Node) : Node :=
  .tag (t.as .case) (.literal v :: (flatPairs pairs ++ otherwise?.toList))

/-- **The `if` that asks whether the values are equal to a literal**; the default is a pair whose
condition always holds. -/
def ifEqual (t : Tag) (v : Value) (pairs : List (Node × Node)) (otherwise? : Option Node) : Node :=
  .tag (t.as .if) (flatPairs (pairs.map (fun p => (p.1.equals v, p.2)) ++
    otherwise?.toList.map fun body => (always, body)))

/-- The condition is true iff the node has a value that is equal. -/
theorem render_equals (n : Node) (v : Value) :
    (n.equals v).render = n.render >>= fun a => pure (.bool (a.same v)) := by
  rw [equals, render_compare, render_literal, compareOf]
  simp only [pure_bind]
  rfl

/-- A condition that always holds chooses its body. -/
theorem chooseBranch_always (body : Node) :
    Tags.chooseBranch (parts [always, body]) = body.render := rfl

/-- **The two loops choose the same body**, by induction on the pairs. -/
theorem chooseBranch_equals (v : Value) (pairs : List (Node × Node)) (otherwise? : Option Node) :
    Tags.chooseBranch (parts (flatPairs (pairs.map (fun p => (p.1.equals v, p.2)) ++
        otherwise?.toList.map fun body => (always, body)))) =
      Tags.chooseCase v (parts (flatPairs pairs ++ otherwise?.toList)) := by
  induction pairs with
  | nil =>
      cases otherwise? with
      | none => rfl
      | some body => rfl
  | cons p rest ih =>
      rw [List.map_cons, List.cons_append, flatPairs, chooseBranch_parts, render_equals, ih,
        flatPairs, List.cons_append, List.cons_append, chooseCase_parts]
      simp only [bind_assoc, pure_bind]
      rfl

/-- A `case` of a literal goes through its pairs. -/
theorem render_caseOf_eq_chooseCase (t : Tag) (v : Value) (pairs : List (Node × Node))
    (otherwise? : Option Node) : (caseOf t v pairs otherwise?).render =
      Tags.chooseCase v (parts (flatPairs pairs ++ otherwise?.toList)) := by
  rw [caseOf, render_as, StandardTag.run, caseTag_parts, render_literal, pure_bind]

/-- **A `case` of a literal is the `if` that asks the same**, whatever names the two tags have. -/
theorem render_caseOf (t u : Tag) (v : Value) (pairs : List (Node × Node))
    (otherwise? : Option Node) :
    (caseOf t v pairs otherwise?).render = (ifEqual u v pairs otherwise?).render := by
  rw [render_caseOf_eq_chooseCase, ifEqual, render_as, StandardTag.run, Tags.ifTag, Tags.checkPairs,
    if_pos, pure_bind, chooseBranch_equals]
  rw [parts_eq_map, List.length_map, even_flatPairs]

/-! ### An `unless` as an `if` -/

/-- **An `unless` with a default is the `if` with its bodies exchanged.** -/
theorem render_unless (t u : Tag) (condition body otherwise : Node) :
    (tag (t.as .unless) [condition, body, always, otherwise]).render =
      (tag (u.as .if) [condition, otherwise, always, body]).render := by
  have hunless := checkPairs_flatPairs [] [(always, otherwise)] condition body
  have hif := checkPairs_flatPairs [] [(always, body)] condition otherwise
  simp only [flatPairs, List.nil_append] at hunless hif
  rw [render_as, render_as, StandardTag.run, StandardTag.run,
    unlessTag_parts (condition, body) hunless, Tags.ifTag, hif, pure_bind,
    chooseBranch_parts condition otherwise [always, body], chooseBranch_always,
    chooseBranch_always]

/-! ### What a `case` renders -/

/-- **What a `case` of a literal renders from a state on, and what it does not.**  Pairs with the
same values may have any other bodies, and behind the last value that is rendered anything may
stand. -/
inductive CaseEnds (env : Surroundings) (t : Tag) (v : Value) (pairs : List (Node × Node))
    (otherwise? : Option Node) (s : State) : Prop
  /-- Values that are not equal to the subject, one that is, and its body. -/
  | found {passed later : List (Node × Node)} {p : Node × Node} {s₁ s₂ : State} :
      pairs = passed ++ p :: later → Skips env (·.same v) passed s s₁ →
        Passes env (·.same v) p.1 s₁ s₂ →
          (∀ others later' otherwise?', others.map Prod.fst = passed.map Prod.fst →
            (caseOf t v (others ++ p :: later') otherwise?').render.runOn env s =
              p.2.render.runOn env s₂) →
            CaseEnds env t v pairs otherwise? s
  /-- All values, of which none is equal to the subject, and the default if there is one. -/
  | left {s₁ : State} :
      Skips env (·.same v) pairs s s₁ →
        (∀ others, others.map Prod.fst = pairs.map Prod.fst →
          (caseOf t v others otherwise?).render.runOn env s =
            (otherwise?.elim (pure (.str "")) render).runOn env s₁) →
          CaseEnds env t v pairs otherwise? s
  /-- Values that are not equal to the subject, and one that fails: no body at all. -/
  | failed {passed later : List (Node × Node)} {p : Node × Node} {e : Error} {s₁ s₂ : State} :
      pairs = passed ++ p :: later → Skips env (·.same v) passed s s₁ →
        p.1.render.runOn env s₁ = (.error e, s₂) →
          (∀ others body later' otherwise?', others.map Prod.fst = passed.map Prod.fst →
            (caseOf t v (others ++ (p.1, body) :: later') otherwise?').render.runOn env s =
              (.error e, s₂)) →
            CaseEnds env t v pairs otherwise? s

/-- A `case` renders its first value, and then perhaps its first body. -/
theorem render_caseOf_cons (t : Tag) (v : Value) (p : Node × Node) (pairs : List (Node × Node))
    (otherwise? : Option Node) :
    (caseOf t v (p :: pairs) otherwise?).render = p.1.render >>= fun a =>
      if a.same v then p.2.render else (caseOf t v pairs otherwise?).render := by
  rw [render_caseOf_eq_chooseCase, render_caseOf_eq_chooseCase, flatPairs, List.cons_append,
    List.cons_append, chooseCase_parts]

/-- A `case` without pairs is its default. -/
theorem render_caseOf_nil (t : Tag) (v : Value) (otherwise? : Option Node) :
    (caseOf t v [] otherwise?).render = otherwise?.elim (pure (.str "")) render := by
  rw [render_caseOf_eq_chooseCase]
  cases otherwise? with
  | none => rfl
  | some body => rfl

/-- What stands behind skipped pairs is rendered as if they were not there. -/
theorem runOn_caseOf_skips {v : Value} {passed : List (Node × Node)}
    (h : Skips env (·.same v) passed s s₁) (t : Tag) (pairs : List (Node × Node))
    (otherwise? : Option Node) :
    (caseOf t v (passed ++ pairs) otherwise?).render.runOn env s =
      (caseOf t v pairs otherwise?).render.runOn env s₁ := by
  induction h with
  | nil s => rw [List.nil_append]
  | cons hrun hfalse _ ih =>
      rw [List.cons_append, render_caseOf_cons, Render.runOn_bind_ok _ _ hrun, hfalse]
      exact ih

/-- **Every `case` of a literal ends in one of these ways.** -/
theorem caseEnds (env : Surroundings) (t : Tag) (v : Value) (pairs : List (Node × Node))
    (otherwise? : Option Node) (s : State) : CaseEnds env t v pairs otherwise? s := by
  rcases Skips.all_or_first env (·.same v) pairs s with
    ⟨s₁, hskips⟩ | ⟨passed, p, later, s₁, hpairs, hskips, ⟨s₂, hpass⟩ | ⟨e, s₂, hfail⟩⟩
  · refine .left hskips fun others hfst => ?_
    have hothers := runOn_caseOf_skips (hskips.of_map_fst hfst) t [] otherwise?
    rw [List.append_nil] at hothers
    rw [hothers, render_caseOf_nil]
  · refine .found hpairs hskips hpass fun others later' otherwise?' hfst => ?_
    obtain ⟨a, ha, hsame⟩ := hpass
    rw [runOn_caseOf_skips (hskips.of_map_fst hfst), render_caseOf_cons,
      Render.runOn_bind_ok _ _ ha, if_pos hsame]
  · refine .failed hpairs hskips hfail fun others body later' otherwise?' hfst => ?_
    rw [runOn_caseOf_skips (hskips.of_map_fst hfst), render_caseOf_cons,
      Render.runOn_bind_error _ _ hfail]

/-- **Conditional tags agree with each other.**  In every surroundings and every state,

* a `case` of a literal ends as the `if` does that asks whether the values are equal to it, with or
  without a default: with the same value or the same error, and in the same state;
* a `case` renders one body at most, and no value behind the first one that is equal to its
  subject;
* an `unless` with a default ends as the `if` does whose bodies are exchanged. -/
theorem conditionals_agree (env : Surroundings) (s : State) :
    (∀ t u v pairs otherwise?, (caseOf t v pairs otherwise?).render.runOn env s =
      (ifEqual u v pairs otherwise?).render.runOn env s) ∧
    (∀ t v pairs otherwise?, CaseEnds env t v pairs otherwise? s) ∧
    ∀ (t u : Tag) (condition body otherwise : Node),
      (tag (t.as .unless) [condition, body, always, otherwise]).render.runOn env s =
        (tag (u.as .if) [condition, otherwise, always, body]).render.runOn env s := by
  refine ⟨?_, ?_, ?_⟩
  · intro t u v pairs otherwise?
    rw [render_caseOf t u]
  · intro t v pairs otherwise?
    exact caseEnds env t v pairs otherwise? s
  · intro t u condition body otherwise
    rw [render_unless t u]

/-- Only two values and one body can be rendered here without an error. -/
example : ((caseOf (.ofStandard .case) (.int 2)
      [(.literal (.int 1), .placeholder), (.literal (.int 2), .text "two"),
        (.placeholder, .placeholder)] (some .placeholder)).render.runOn
    ((Engine.new {}).surroundings default 1) ((Engine.new {}).start (.ofVariables ∅) ∅)).1 =
      .ok (.str "two") := rfl

end Node

end TemplateEngine
