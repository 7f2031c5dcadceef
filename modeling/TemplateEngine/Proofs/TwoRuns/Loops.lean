/-
**Loops run side by side.**

If the parts of a loop follow each other one by one, so does the loop: the positional parts and
the attributes are the same ones, the items are fixed before the first turn, and every turn works
in the scope that the loop has opened.  With the other tags this covers all standard tags.

Main results:

* `TwoRuns.PartsFollow.positional`, `TwoRuns.PartsFollow.attributes` — the parts of a loop;
* `TwoRuns.Lawful.forTurns`, `TwoRuns.Lawful.rowTurns` — its turns;
* `TwoRuns.Lawful.standardTag` — **every standard tag**.
-/
import TemplateEngine.Proofs.TwoRuns.Tags

set_option autoImplicit false

namespace TemplateEngine

namespace TwoRuns

variable {T : TwoRuns} {l : Licence}

/-! ### Parts and attributes of a loop -/

/-- The positions of the positional children of a loop from number `k` on. -/
def turnPositions : Nat → Nat → List Position
  | _, 0 => []
  | k, n + 1 => (if k = 2 then .body else .expression) :: turnPositions (k + 1) n

/-- The positional parts of loops that follow each other. -/
theorem PartsFollow.positional {ps ps' : List Part} : ∀ {k : Nat},
    T.PartsFollow l (loopPositions k (ps.map Part.isAttribute)) ps ps' →
      T.PartsFollow l (turnPositions k (Tags.positional ps).length) (Tags.positional ps)
        (Tags.positional ps') := by
  induction ps generalizing ps' with
  | nil =>
      intro k h
      cases h
      exact .nil
  | cons p ps ih =>
      intro k h
      cases hp : p.isAttribute with
      | true =>
          rw [List.map_cons, hp] at h
          cases h with
          | cons hfirst h =>
              have hp' := hfirst.isAttribute_eq ▸ hp
              simpa only [Tags.positional, List.filter, hp, hp', Bool.not_true] using ih h
      | false =>
          rw [List.map_cons, hp] at h
          cases h with
          | cons hfirst h =>
              have hp' := hfirst.isAttribute_eq ▸ hp
              simp only [Tags.positional, List.filter, hp, hp', Bool.not_false]
              exact .cons hfirst (ih h)

variable (T) in
/-- The attributes of two loops follow each other: they have the same names. -/
def AttributesFollow (attrs attrs' : Tags.Attributes) : Prop :=
  ∀ name, match attrs.find? name, attrs'.find? name with
    | some r, some r' => T.Follows T.values.Holds r r'
    | none, none => True
    | _, _ => False

theorem AttributesFollow.insert {attrs attrs' : Tags.Attributes}
    (h : T.AttributesFollow attrs attrs') (name : String) {r r' : Render Value}
    (hr : T.Follows T.values.Holds r r') :
    T.AttributesFollow (attrs.insert name r) (attrs'.insert name r') := by
  intro other
  rw [Table.find?_insert, Table.find?_insert]
  by_cases heq : other = name
  · simpa only [if_pos heq] using hr
  · simpa only [if_neg heq] using h other

/-- An attribute part with its name. -/
def attributeEntry : Part → Option (String × Render Value)
  | .attribute name r => some (name, r)
  | _ => none

theorem attributes_eq (ps : List Part) :
    Tags.attributes ps = Table.ofList (ps.filterMap attributeEntry) := by
  rw [Tags.attributes]
  congr 2

theorem PartsFollow.attributes {positions : List Position} {ps ps' : List Part}
    (h : T.PartsFollow l positions ps ps') :
    T.AttributesFollow (Tags.attributes ps) (Tags.attributes ps') := by
  rw [attributes_eq, attributes_eq, Table.ofList, Table.ofList, Table.insertAll, Table.insertAll]
  -- the attributes are entered from left to right, so the tables before them are generalised
  suffices hgen : ∀ attrs attrs', T.AttributesFollow attrs attrs' →
      T.AttributesFollow
        ((ps.filterMap attributeEntry).foldl (fun t b => t.insert b.1 b.2) attrs)
        ((ps'.filterMap attributeEntry).foldl (fun t b => t.insert b.1 b.2) attrs') from
    hgen _ _ fun _ => trivial
  induction h with
  | nil => exact fun attrs attrs' h => h
  | rest hp _ ih | cons hp _ ih =>
      intro attrs attrs' h
      cases hp with
      | content => exact ih attrs attrs' h
      | attr name hr => exact ih _ _ (h.insert name hr)
      | stage => exact ih attrs attrs' h

/-- An attribute is missing in both loops, or its renders follow each other. -/
theorem AttributesFollow.find? {attrs attrs' : Tags.Attributes}
    (h : T.AttributesFollow attrs attrs') (name : String) :
    (attrs.find? name = none ∧ attrs'.find? name = none) ∨
      ∃ r r', attrs.find? name = some r ∧ attrs'.find? name = some r' ∧
        T.Follows T.values.Holds r r' := by
  have h := h name
  split at h
  · next r r' hr hr' => exact Or.inr ⟨r, r', hr, hr', h⟩
  · next hr hr' => exact Or.inl ⟨hr, hr'⟩
  · exact h.elim

theorem AttributesFollow.integerAttribute {attrs attrs' : Tags.Attributes}
    (h : T.AttributesFollow attrs attrs') (name : String) :
    T.Follows (fun _ => True) (Tags.integerAttribute attrs name)
      (Tags.integerAttribute attrs' name) := by
  unfold Tags.integerAttribute
  rcases h.find? name with ⟨hr, hr'⟩ | ⟨r, r', hr, hr', hfollows⟩
  · rw [hr, hr']
    exact Follows.pure trivial
  · rw [hr, hr']
    refine hfollows.bind fun v _ => ?_
    exact (Follows.liftFault (Q := fun _ => True) fun _ _ => trivial).bind fun _ _ =>
      Follows.pure trivial

theorem AttributesFollow.flagAttribute {attrs attrs' : Tags.Attributes}
    (h : T.AttributesFollow attrs attrs') (name : String) :
    T.Follows (fun _ => True) (Tags.flagAttribute attrs name)
      (Tags.flagAttribute attrs' name) := by
  unfold Tags.flagAttribute
  rcases h.find? name with ⟨hr, hr'⟩ | ⟨r, r', hr, hr', hfollows⟩
  · rw [hr, hr']
    exact Follows.pure trivial
  · rw [hr, hr']
    exact hfollows.bind fun v _ => Follows.pure trivial

/-! ### Items and turns -/

/-- What is in a window was there before. -/
theorem mem_window {offset? limit? : Option Int} {reversed : Bool} {items : List Value}
    {x : Value} (h : x ∈ Tags.window offset? limit? reversed items) : x ∈ items := by
  have hforward : x ∈ Tags.window offset? limit? false items := by
    cases reversed with
    | false => exact h
    | true => exact List.mem_reverse.1 h
  have hdropped : x ∈ Tags.window offset? none false items := by
    cases limit? with
    | none => exact hforward
    | some n => exact List.mem_of_mem_take hforward
  cases offset? with
  | none => exact hdropped
  | some n => exact List.mem_of_mem_drop hdropped

theorem collectItems {p p' : Part} (hp : T.PartFollows .barred p p')
    {attrs attrs' : Tags.Attributes} (hattrs : T.AttributesFollow attrs attrs') :
    T.Follows (fun items => ∀ x ∈ items, T.values.Holds x) (Tags.collectItems p attrs)
      (Tags.collectItems p' attrs') := by
  refine hp.run.bind fun v hv => ?_
  refine (Follows.liftFault fun items h => T.values.listed hv h).bind fun items hitems => ?_
  refine (hattrs.integerAttribute "offset").bind fun offset? _ => ?_
  refine (hattrs.integerAttribute "limit").bind fun limit? _ => ?_
  refine (hattrs.flagAttribute "reversed").bind fun reversed _ => ?_
  exact Follows.pure fun x hx => hitems x (mem_window hx)

/-- The body of a loop gives a text and perhaps an end, whatever the body's licence. -/
theorem runBody {l : Licence} {body body' : Part} (h : T.PartFollows l body body') :
    T.Follows (fun _ => True) (Tags.runBody body) (Tags.runBody body') :=
  h.run.bind fun _ _ => (Follows.liftFault (Q := fun _ => True) fun _ _ => trivial).bind
    fun _ _ => Follows.pure trivial

namespace Lawful

variable (hT : T.Lawful) {body body' : Part} (hbody : T.PartFollows l body body')
include hT hbody

/-- The turns of a `for` loop, in the scope that the loop has opened. -/
theorem forTurns (name : String) (length : Nat) {items : List Value} : ∀ {index : Nat},
    (∀ x ∈ items, T.values.Holds x) →
      T.FollowsInside (fun _ => True) (Tags.forTurns name length body index items)
        (Tags.forTurns name length body' index items) := by
  induction items with
  | nil => exact fun _ => FollowsInside.pure trivial
  | cons item rest ih =>
      intro index h
      refine (hT.bindLocal name (h item List.mem_cons_self)).bind fun _ _ => ?_
      refine (hT.bindLocal "forloop" (T.values.turn name index length)).bind fun _ _ => ?_
      refine (hT.inside (runBody hbody)).bind fun ⟨text, stop⟩ _ => ?_
      cases stop with
      | true => exact FollowsInside.pure trivial
      | false =>
          refine (ih fun x hx => h x (List.mem_cons_of_mem _ hx)).bind fun others _ => ?_
          exact FollowsInside.pure trivial

/-- The turns of a `tablerow` loop, in the scope that the loop has opened. -/
theorem rowTurns (name : String) (length cols : Nat) {items : List Value} :
    ∀ {index row col : Nat}, (∀ x ∈ items, T.values.Holds x) →
      T.FollowsInside (fun _ => True) (Tags.rowTurns name length cols body index row col items)
        (Tags.rowTurns name length cols body' index row col items) := by
  induction items with
  | nil => exact fun _ => FollowsInside.pure trivial
  | cons item rest ih =>
      intro index row col h
      refine (hT.bindLocal name (h item List.mem_cons_self)).bind fun _ _ => ?_
      refine (hT.bindLocal "tablerowloop"
        (T.values.cell name index length cols col row)).bind fun _ _ => ?_
      refine (hT.inside (runBody hbody)).bind fun ⟨text, stop⟩ _ => ?_
      have hrest := fun x hx => h x (List.mem_cons_of_mem _ hx)
      cases stop with
      | true => exact FollowsInside.pure trivial
      | false =>
          -- a full row that is not the last one is followed by a new one
          by_cases hrow : col = cols ∧ index + 1 ≠ length
          · simp only [Bool.false_eq_true, if_false, if_pos hrow]
            exact (ih hrest).bind fun others _ => FollowsInside.pure trivial
          · simp only [Bool.false_eq_true, if_false, if_neg hrow]
            exact (ih hrest).bind fun others _ => FollowsInside.pure trivial

end Lawful

/-! ### The loops, and all standard tags -/

namespace Lawful

theorem forTag (hT : T.Lawful) {ps ps' : List Part}
    (h : T.PartsFollow l (loopPositions 0 (ps.map Part.isAttribute)) ps ps') :
    T.Follows (T.values.At l) (Tags.forTag ps) (Tags.forTag ps') := by
  have hattrs := h.attributes
  have hpos := h.positional
  unfold Tags.forTag
  generalize Tags.positional ps = qs at hpos ⊢
  generalize Tags.positional ps' = qs' at hpos ⊢
  match qs, qs', hpos with
  | [], _, .nil => exact Follows.throw _ rfl
  | [_], _, .cons _ .nil => exact Follows.throw _ rfl
  | [_, _], _, .cons _ (.cons _ .nil) => exact Follows.throw _ rfl
  | _ :: _ :: _ :: _, _, .cons hbinder (.cons hcollection (.cons hbody _)) =>
      refine hbinder.text.bind fun name _ => ?_
      refine (collectItems hcollection hattrs).bind fun items hitems => ?_
      refine (hT.inScope hT.frames_empty (hT.forTurns hbody name _ hitems)).bind fun text _ => ?_
      exact Follows.pure (T.values.at_of_holds (T.values.str text))

theorem tablerowTag (hT : T.Lawful) {ps ps' : List Part}
    (h : T.PartsFollow l (loopPositions 0 (ps.map Part.isAttribute)) ps ps') :
    T.Follows (T.values.At l) (Tags.tablerowTag ps) (Tags.tablerowTag ps') := by
  have hattrs := h.attributes
  have hpos := h.positional
  unfold Tags.tablerowTag
  generalize Tags.positional ps = qs at hpos ⊢
  generalize Tags.positional ps' = qs' at hpos ⊢
  match qs, qs', hpos with
  | [], _, .nil => exact Follows.throw _ rfl
  | [_], _, .cons _ .nil => exact Follows.throw _ rfl
  | [_, _], _, .cons _ (.cons _ .nil) => exact Follows.throw _ rfl
  | _ :: _ :: _ :: _, _, .cons hbinder (.cons hcollection (.cons hbody _)) =>
      refine hbinder.text.bind fun name _ => ?_
      refine (collectItems hcollection hattrs).bind fun items hitems => ?_
      refine (hattrs.integerAttribute "cols").bind fun cols? _ => ?_
      refine (hT.inScope hT.frames_empty (hT.rowTurns hbody name _ _ hitems)).bind
        fun text _ => ?_
      exact Follows.pure (T.values.at_of_holds (T.values.str _))

/-- **Every standard tag follows itself if its parts do.**  An inclusion gives what templates may
give, so `l` has to admit that. -/
theorem standardTag (hT : T.Lawful) {kind : StandardTag} (hu : T.Uses kind)
    (hl : kind = .include → ∀ v, T.values.Stated v → T.values.At l v) {ps ps' : List Part}
    (h : T.PartsFollow l (kind.positions (ps.map Part.isAttribute)) ps ps') :
    T.Follows (T.values.At l) (kind.run ps) (kind.run ps') := by
  cases kind with
  | assign => exact hT.assignTag hu h.expressions
  | capture => exact hT.captureTag hu h
  | case => exact caseTag h
  | comment => exact Follows.pure (T.values.at_of_holds (T.values.str ""))
  | cycle => exact hT.cycleTag hu h.expressions
  | «for» => exact hT.forTag h
  | «if» => exact ifTag h
  | «include» => exact hT.includeTag hu (hl rfl) h.expressions
  | raw => exact renderSequence h.statements
  | tablerow => exact hT.tablerowTag h
  | «unless» => exact unlessTag h

end Lawful

end TwoRuns

end TemplateEngine
