/-
**What a `for` loop does.**

A `for` loop renders its body once for each item, in order, up to the first break, and gives the
texts of these renders in a row, also the text that was written before a break or a continue.
While the body is rendered, the innermost scope binds the item and `forloop`, and nothing else;
whatever the body assigns goes to the root and changes neither the items nor the place.

Main definitions and results:

* `Loop.forItems` — a `for` loop as a loop;
* `Engine.for_iterates` — **its turns, its text, and what its body sees**.
-/
import TemplateEngine.Proofs.Loops.Turns

set_option autoImplicit false

namespace TemplateEngine

namespace Loop

/-- A `for` loop of `n` turns writes the texts of its turns. -/
def forItems (name : String) (n : Nat) : Loop where
  itemName := name
  placeName := "forloop"
  place i := .map (Tags.turnFields name i n)
  mark _ text _ := text

/-- The turns of the tag are those of the loop. -/
theorem forTurns_eq (name : String) (n : Nat) (body : Part) {items : List Value} : ∀ i : Nat,
    Tags.forTurns name n body i items = (forItems name n).run body i items := by
  induction items with
  | nil => exact fun _ => rfl
  | cons item rest ih =>
      intro i
      rw [Tags.forTurns, run, ih]
      rfl

end Loop

namespace Tags

variable {env : Surroundings} {parts rest : List Part} {binder collection body : Part}
  {s s₁ s₂ : State} {name : String} {items : List Value}

/-- **A `for` loop gives the texts of its turns**, or the error of the turn that has failed, and
takes its scope away whatever the end. -/
theorem runOn_forTag (hparts : positional parts = binder :: collection :: body :: rest)
    (hbody : body.KeepsScopes env) (hname : binder.text.runOn env s = (.ok name, s₁))
    (hitems : (collectItems collection (attributes parts)).runOn env s₁ = (.ok items, s₂)) :
    (forTag parts).runOn env s =
      let L := Loop.forItems name items.length
      let ts := L.turns env body s₂.context.inner 0 items s₂
      ((L.written 0 ts).map .str, (Turn.last s₂ ts).withInner s₂.context.inner) := by
  unfold forTag
  simp only [hparts]
  rw [Render.runOn_bind_ok _ _ hname, Render.runOn_bind_ok _ _ hitems, Render.runOn_bind,
    Loop.forTurns_eq, Loop.runOn_inScope hbody]
  cases Loop.written _ 0 _ <;> rfl

end Tags

namespace Engine

/-- **A `for` loop iterates.**  The body of a loop may be every tree of standard tags, and every
other part that leaves the scopes around it alone.  Where the name, the collection and the
attributes of the loop have given `name` and `items`, and no turn fails:

* the loop gives the texts of its turns in a row, an ordinary text;
* its turns are renders of the body one after another, up to the first break or the last item;
* in turn `i` the innermost scope binds the item and `forloop` and nothing else, and all other
  names are what they are outside. -/
theorem for_iterates :
    (∀ {e : Engine}, (e.MadeOf fun _ => true) → ∀ {n : Node}, n.isMadeOf (fun _ => true) = true →
      ∀ now depth, n.part.KeepsScopes (e.surroundings now depth)) ∧
    ∀ {env : Surroundings} {t : Tag} {children : List Node} {binder collection body : Part}
      {rest : List Part} {s s₁ s₂ : State} {name : String} {items : List Value},
      t.body = .standard .for →
      Tags.positional (Node.parts children) = binder :: collection :: body :: rest →
      body.KeepsScopes env →
      binder.text.runOn env s = (.ok name, s₁) →
      (Tags.collectItems collection (Tags.attributes (Node.parts children))).runOn env s₁ =
        (.ok items, s₂) →
      let ts := (Loop.forItems name items.length).turns env body s₂.context.inner 0 items s₂
      (∀ u ∈ ts, u.succeeds = true) →
        (Node.tag t children).render.runOn env s =
          (.ok (.str (String.join (ts.map Turn.text))),
            (Turn.last s₂ ts).withInner s₂.context.inner) ∧
        Loop.Course env body items s₂ ts ∧
        ∀ i u, ts[i]? = some u → ∃ item fields, items[i]? = some item ∧
          u.Sees s₂.context.inner name item "forloop" fields ∧
            TellsTurn fields name items.length i := by
  refine ⟨fun he _ hn now depth => keepsScopes_part he hn now depth, ?_⟩
  intro env t children binder collection body rest s s₁ s₂ name items ht hparts hbody hname hitems
    ts hok
  refine ⟨?_, Loop.course_turns hok, fun i u hu => ?_⟩
  · rw [Node.render_tag, Tag.run, ht]
    have htexts : (ts.mapIdx fun _ u => u.text) = ts.map Turn.text :=
      List.ext_getElem? fun i => by rw [List.getElem?_mapIdx, List.getElem?_map]
    have hwritten : (Loop.forItems name items.length).written 0 ts =
        .ok (String.join (ts.map Turn.text)) := by
      rw [Loop.written_of_succeeds hok, ← htexts]
      rfl
    refine (Tags.runOn_forTag hparts hbody hname hitems).trans ?_
    simp only
    rw [hwritten]
    rfl
  · obtain ⟨item, hitem, hsees⟩ := Loop.sees_turn hu rfl
    have htells := tellsTurn_turnFields name items.length i []
    rw [List.append_nil] at htells
    exact ⟨item, _, hitem, hsees, htells⟩

/-- A body that writes its item and leaves the loop at the second one. -/
def stoppingBody : Node :=
  .block [.lookup "x" [],
    .tag (.ofStandard .if) [.compare .eq (.lookup "x" []) (.literal (.str "b")), .signal .break],
    .text ";"]

/-- A loop over three items with that body. -/
def stoppingChildren : List Node :=
  [.literal (.str "x"), .literal (.list [.str "a", .str "b", .str "c"]), stoppingBody]

/-- The loop ends in its second turn, and the text before the break is written. -/
theorem for_iterates_stopping :
    ((Node.tag (.ofStandard .for) stoppingChildren).render.runOn ((new {}).surroundings default 1)
      ((new {}).start (.ofVariables ∅) ∅)).1 = .ok (.str "a;b") ∧
    ((Loop.forItems "x" 3).turns ((new {}).surroundings default 1) stoppingBody.part [] 0
      [.str "a", .str "b", .str "c"] ((new {}).start (.ofVariables ∅) ∅)).length = 2 := by
  have he : (new {}).MadeOf fun _ => true := fun name n hn => by
    cases hn
  have hbody := for_iterates.1 he (n := stoppingBody) rfl default 1
  have hparts : Tags.positional (Node.parts stoppingChildren) =
      [(Node.literal (.str "x")).part,
        (Node.literal (.list [.str "a", .str "b", .str "c"])).part, stoppingBody.part] := rfl
  obtain ⟨hrun, hcourse, -⟩ := for_iterates.2 (t := .ofStandard .for)
    (s := (new {}).start (.ofVariables ∅) ∅) rfl hparts hbody rfl rfl
      (List.all_eq_true.1 (by decide))
  exact ⟨by rw [hrun]; rfl, hcourse.stops (i := 1) rfl rfl⟩

end Engine

end TemplateEngine
