/-
**Which items a loop goes through.**

A loop takes the items of its collection from an offset on, at most as many as a limit allows, and
turns them around if it is told to.  What it goes through is a contiguous part of the items, in
order or in reverse, so nothing inside the part is lost and nothing appears twice.

Whether the part is turned around is not asked the way a condition is asked.  In templates only nil
and false are false, **but zero and what is empty do not turn a loop around either**.

Main definitions and results:

* `Value.Blank` — what is zero or empty, `Value.isFilled_iff`;
* `Tags.IsWindow` — the part that an offset and a limit leave;
* `Tags.AttributeGives` — what an attribute says, if it is there;
* `Tags.collectItems_window` — **the items of a loop**;
* `Tags.zero_keeps_order` — zero is true in templates, and turns nothing around.
-/
import TemplateEngine.Proofs.Run
import TemplateEngine.Tag.Loop

set_option autoImplicit false

namespace TemplateEngine

/-! ### Values that are zero or empty -/

namespace Value

/-- **Zero and what is empty.** -/
inductive Blank : Value → Prop
  | zero : Blank (.int 0)
  | zeroFloat {x : Float} : (x == 0) = true → Blank (.float x)
  | str : Blank (.str "")
  | list : Blank (.list [])
  | tuple : Blank (.tuple [])
  | map : Blank (.map [])
  | range {start stop : Int} : stop ≤ start → Blank (.range start stop)

/-- All of it is true in templates. -/
theorem Blank.isTruthy {v : Value} (h : v.Blank) : v.isTruthy = true := by
  cases h <;> rfl

/-- **A value is filled if it is true in templates, and neither zero nor empty.** -/
theorem isFilled_iff (v : Value) : v.isFilled = true ↔ v.isTruthy = true ∧ ¬ v.Blank := by
  constructor
  · intro h
    refine ⟨?_, ?_⟩
    · cases v <;> first | rfl | exact h
    · intro hblank
      cases hblank with
      | zero => simp [isFilled] at h
      | zeroFloat hx => simp [isFilled, bne, hx] at h
      | str => simp [isFilled] at h
      | list => simp [isFilled] at h
      | tuple => simp [isFilled] at h
      | map => simp [isFilled] at h
      | range hle =>
          simp only [isFilled, decide_eq_true_eq] at h
          omega
  · rintro ⟨htrue, hblank⟩
    rcases hfilled : v.isFilled with _ | _
    · refine (hblank ?_).elim
      cases v with
      | nil => cases htrue
      | bool b => exact Bool.noConfusion (hfilled.symm.trans htrue)
      | int n =>
          obtain rfl : n = 0 := by simpa [isFilled] using hfilled
          exact .zero
      | float x => exact .zeroFloat (by simpa [isFilled, bne] using hfilled)
      | str s =>
          obtain rfl : s = "" := by simpa [isFilled] using hfilled
          exact .str
      | list items =>
          obtain rfl : items = [] := by simpa [isFilled] using hfilled
          exact .list
      | tuple items =>
          obtain rfl : items = [] := by simpa [isFilled] using hfilled
          exact .tuple
      | map entries =>
          obtain rfl : entries = [] := by simpa [isFilled] using hfilled
          exact .map
      | range start stop => exact .range (by simpa [isFilled] using hfilled)
      | date d => cases hfilled
      | moment m => cases hfilled
      | signal s => cases hfilled
      | interrupted text s => cases hfilled
    · rfl

end Value

namespace Tags

/-! ### Parts of a list -/

variable {α : Type}

/-- **The part of some items that an offset and a limit leave**: what stands before it is as long
as the offset, and it is as long as the limit, as far as there are items; a negative number counts
as zero. -/
def IsWindow (offset? limit? : Option Int) (items kept : List α) : Prop :=
  ∃ before after, items = before ++ kept ++ after ∧
    before.length = min (offset?.getD 0).toNat items.length ∧
    kept.length = match limit? with
      | some limit => min limit.toNat (items.length - before.length)
      | none => items.length - before.length

/-- There is only one such part. -/
theorem IsWindow.unique {offset? limit? : Option Int} {items kept kept' : List α}
    (h : IsWindow offset? limit? items kept) (h' : IsWindow offset? limit? items kept') :
    kept = kept' := by
  obtain ⟨before, after, hsplit, hbefore, hkept⟩ := h
  obtain ⟨before', after', hsplit', hbefore', hkept'⟩ := h'
  have hlength : before.length = before'.length := hbefore.trans hbefore'.symm
  rw [← hlength] at hkept'
  rw [hsplit, List.append_assoc, List.append_assoc] at hsplit'
  exact List.append_inj_left (List.append_inj_right hsplit' hlength) (hkept.trans hkept'.symm)

/-- **What is dropped at the start and cut off at the end leaves this part.** -/
theorem isWindow_window (offset? limit? : Option Int) (items : List α) :
    IsWindow offset? limit? items (window offset? limit? false items) := by
  have hdrop : window offset? limit? false items =
      window none limit? false (items.drop (offset?.getD 0).toNat) := by
    cases offset? <;> rfl
  rw [hdrop]
  have hbefore := List.take_append_drop (offset?.getD 0).toNat items
  have hlengths := congrArg List.length hbefore
  rw [List.length_append] at hlengths
  generalize items.drop (offset?.getD 0).toNat = rest at *
  cases limit? with
  | none =>
      refine ⟨items.take (offset?.getD 0).toNat, [], ?_, List.length_take, ?_⟩
      · simpa [window] using hbefore.symm
      · show rest.length = items.length - (items.take (offset?.getD 0).toNat).length
        omega
  | some limit =>
      refine ⟨items.take (offset?.getD 0).toNat, rest.drop limit.toNat, ?_, List.length_take, ?_⟩
      · rw [List.append_assoc, show window none (some limit) false rest = rest.take limit.toNat
          from rfl, List.take_append_drop, hbefore]
      · show (rest.take limit.toNat).length = min limit.toNat _
        rw [List.length_take]
        omega

/-- Turning around comes last. -/
theorem window_eq_ite (offset? limit? : Option Int) (reversed : Bool) (items : List α) :
    window offset? limit? reversed items =
      if reversed then (window offset? limit? false items).reverse
      else window offset? limit? false items := by
  cases reversed <;> rfl

/-! ### What attributes say -/

/-- **An attribute is absent, or it renders to a value that is read as something.** -/
inductive AttributeGives {β : Type} (attributes : Attributes) (env : Surroundings)
    (read : Value → Except Fault β) (name : String) (s : State) : Option β → State → Prop
  | absent : attributes.find? name = none → AttributeGives attributes env read name s none s
  | present {r : Render Value} {v : Value} {b : β} {t : State} :
      attributes.find? name = some r → r.runOn env s = (.ok v, t) → read v = .ok b →
        AttributeGives attributes env read name s (some b) t

variable {attrs : Attributes} {env : Surroundings} {s s₁ s₂ s₃ s₄ : State} {name : String}

theorem AttributeGives.runOn_integerAttribute {n? : Option Int}
    (h : AttributeGives attrs env Value.integer name s n? s₁) :
    (integerAttribute attrs name).runOn env s = (.ok n?, s₁) := by
  unfold integerAttribute
  cases h with
  | absent hnone =>
      rw [hnone]
      rfl
  | @present r v n _ hfind hrun hread =>
      have hinteger : (Render.integer v).runOn env s₁ = (.ok n, s₁) := by
        rw [Render.integer, Render.liftFault, Render.runOn_lift, hread]
        rfl
      simp only [hfind]
      rw [Render.runOn_bind_ok _ _ hrun, Render.runOn_bind_ok _ _ hinteger]
      rfl

theorem AttributeGives.runOn_flagAttribute {v? : Option Value}
    (h : AttributeGives attrs env .ok name s v? s₁) :
    (flagAttribute attrs name).runOn env s = (.ok (v?.any Value.isFilled), s₁) := by
  unfold flagAttribute
  cases h with
  | absent hnone =>
      rw [hnone]
      rfl
  | present hfind hrun hread =>
      cases hread
      simp only [hfind]
      rw [Render.runOn_bind_ok _ _ hrun]
      rfl

/-! ### The items of a loop -/

/-- **The items of a loop.**  Where the collection renders to a value with the items `items`, and
the attributes, as far as they are there, give an offset, a limit and a direction:

* what is kept is the contiguous part of the items that the offset and the limit leave;
* the loop goes through it in reverse if the direction is there, true in templates and **neither
  zero nor empty**, and in order otherwise. -/
theorem collectItems_window {collection : Part} {v : Value} {items : List Value}
    {offset? limit? : Option Int} {reversed? : Option Value}
    (hcollection : collection.run.runOn env s = (.ok v, s₁)) (hitems : v.listed = .ok items)
    (hoffset : AttributeGives attrs env Value.integer "offset" s₁ offset? s₂)
    (hlimit : AttributeGives attrs env Value.integer "limit" s₂ limit? s₃)
    (hreversed : AttributeGives attrs env .ok "reversed" s₃ reversed? s₄) :
    ∃ kept out, (collectItems collection attrs).runOn env s = (.ok out, s₄) ∧
      IsWindow offset? limit? items kept ∧
      ((∃ w, reversed? = some w ∧ w.isTruthy = true ∧ ¬ w.Blank) → out = kept.reverse) ∧
      ((¬ ∃ w, reversed? = some w ∧ w.isTruthy = true ∧ ¬ w.Blank) → out = kept) := by
  have hlisted : (Render.liftFault v.listed).runOn env s₁ = (.ok items, s₁) := by
    rw [Render.liftFault, Render.runOn_lift, hitems]
    rfl
  have hfilled : reversed?.any Value.isFilled = true ↔
      ∃ w, reversed? = some w ∧ w.isTruthy = true ∧ ¬ w.Blank := by
    simp only [Option.any_eq_true, Value.isFilled_iff]
  refine ⟨window offset? limit? false items,
    window offset? limit? (reversed?.any Value.isFilled) items, ?_, isWindow_window .., ?_, ?_⟩
  · unfold collectItems
    rw [Render.runOn_bind_ok _ _ hcollection, Render.runOn_bind_ok _ _ hlisted,
      Render.runOn_bind_ok _ _ hoffset.runOn_integerAttribute,
      Render.runOn_bind_ok _ _ hlimit.runOn_integerAttribute,
      Render.runOn_bind_ok _ _ hreversed.runOn_flagAttribute]
    rfl
  · intro h
    rw [window_eq_ite, if_pos (hfilled.2 h)]
  · intro h
    rw [window_eq_ite, if_neg fun hany => h (hfilled.1 hany)]

/-- The attributes of a loop that goes through two items behind the first one, in the direction
that a value gives. -/
def twoBehindFirst (direction : Value) : Attributes :=
  attributes (Node.parts [.attribute "offset" (.literal (.int 1)),
    .attribute "limit" (.literal (.str "2")), .attribute "reversed" (.literal direction)])

/-- Four items. -/
def fourItems : List Value := [.str "a", .str "b", .str "c", .str "d"]

/-- The items that such a loop goes through. -/
def goesThrough (direction : Value) : Except Error (List Value) :=
  ((collectItems (Node.literal (.tuple fourItems)).part (twoBehindFirst direction)).runOn
    ((Engine.new {}).surroundings default 1) ((Engine.new {}).start (.ofVariables ∅) ∅)).1

theorem collectItems_window_fourItems :
    ((.str "yes" : Value).isTruthy = true ∧ ¬ (.str "yes" : Value).Blank) ∧
      goesThrough (.str "yes") = .ok [.str "c", .str "b"] := by
  have hyes : (.str "yes" : Value).isTruthy = true ∧ ¬ (.str "yes" : Value).Blank :=
    (Value.isFilled_iff _).1 rfl
  have hcollection (s : State) : (Node.literal (.tuple fourItems)).part.run.runOn
      ((Engine.new {}).surroundings default 1) s = (.ok (.tuple fourItems), s) := rfl
  have hoffset (s : State) : AttributeGives (twoBehindFirst (.str "yes"))
      ((Engine.new {}).surroundings default 1) Value.integer "offset" s (some 1) s :=
    .present rfl rfl rfl
  obtain ⟨kept, out, hrun, hkept, hturned, -⟩ := collectItems_window (hcollection _) rfl
    (hoffset _) (.present rfl rfl rfl) (.present rfl rfl rfl)
  have hwindow : IsWindow (some 1) (some 2) fourItems [.str "b", .str "c"] :=
    ⟨[.str "a"], [.str "d"], rfl, rfl, rfl⟩
  obtain rfl := hkept.unique hwindow
  refine ⟨hyes, ?_⟩
  rw [goesThrough, hrun, hturned ⟨_, rfl, hyes⟩]
  rfl

/-- **Zero is true in templates, and turns nothing around.** -/
theorem zero_keeps_order :
    (.int 0 : Value).isTruthy = true ∧ goesThrough (.int 0) = .ok [.str "b", .str "c"] ∧
      ([.str "b", .str "c"] : List Value) ≠ [Value.str "b", .str "c"].reverse := by
  refine ⟨rfl, rfl, ?_⟩
  simp

end Tags

end TemplateEngine
