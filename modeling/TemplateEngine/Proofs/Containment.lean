/-
**What a text contains.**

A comparison asks whether a text contains a value.  It looks for the text that the value shows by
itself, and finds it if it stands there as consecutive characters.  For most values this is the text
that a template puts out for them.  **For booleans, lists and tuples it is not**: these are looked
for as they are written in messages, `True` and not `true`, and with brackets, commas and quotes.

Main definitions and results:

* `Text.occursIn_iff_isInfix` — the search finds exactly the infixes of a text;
* `Value.shown_eq_rendered`, `Value.shown_eq_written` — what a value shows by itself;
* `Node.contains_in_text` — **what a comparison finds in a text**.
-/
import TemplateEngine.Proofs.Run

set_option autoImplicit false

namespace TemplateEngine

/-- **A piece is found exactly if it stands in the text as consecutive characters.** -/
theorem Text.occursIn_iff_isInfix {piece cs : List Char} :
    occursIn piece cs = true ↔ piece <:+: cs := by
  induction cs with
  | nil => rw [occursIn, List.isEmpty_iff, List.infix_nil]
  | cons c rest ih =>
      rw [occursIn, Bool.or_eq_true, List.isPrefixOf_iff_prefix, ih, List.infix_cons_iff]

namespace Value

/-- The kinds of values that show something else by themselves than a template puts out. -/
def writtenKinds : List Kind := [.bool, .list, .tuple]

/-- Most values show what a template puts out for them. -/
theorem shown_eq_rendered {v : Value} (hnil : v.kind ≠ .nil) (h : v.kind ∉ writtenKinds) :
    v.shown = v.rendered := by
  cases v with
  | nil => exact absurd rfl hnil
  | bool | list | tuple => exact absurd (by simp [kind, writtenKinds]) h
  | _ => rfl

/-- **Booleans, lists and tuples show their written form.** -/
theorem shown_eq_written {v : Value} (h : v.kind ∈ writtenKinds) : v.shown = v.written := by
  cases v with
  | bool | list | tuple => rfl
  | _ => exact absurd h (by simp [kind, writtenKinds])

theorem text_eq_ok {v : Value} {t : String} (h : v.text = .ok t) :
    v.writable = true ∧ t.toList = v.rendered := by
  rw [text] at h
  split at h
  · next hwritable =>
      cases h
      exact ⟨hwritable, String.toList_ofList⟩
  · cases h

theorem text_eq_error {v : Value} {e : Fault} (h : v.text = .error e) :
    v.writable = false ∧ e = .tooManyDigits := by
  rw [text] at h
  split at h
  · cases h
  · next hwritable =>
      cases h
      exact ⟨Bool.eq_false_iff.2 hwritable, rfl⟩

/-- A text contains what shows in it, if all integers in the value can be written. -/
theorem contains_str (s : String) {v : Value} (hnil : v.kind ≠ .nil) :
    (str s).contains v =
      if v.writable then .ok (Text.occursIn v.shown s.toList) else .error .tooManyDigits := by
  have hshown : (str s).contains v =
      v.shownText >>= fun t => pure (Text.occursIn t.toList s.toList) := by
    cases v with
    | nil => exact absurd rfl hnil
    | _ => rfl
  rw [hshown, shownText]
  split
  · exact congrArg (fun cs => Except.ok (Text.occursIn cs s.toList)) String.toList_ofList
  · rfl

end Value

namespace Node

variable {env : Surroundings} {s s₁ s₂ : State} {left right : Node} {text : String} {v : Value}

/-- A comparison gives what it finds in the values of its operands. -/
theorem runOn_contains (hleft : left.render.runOn env s = (.ok (.str text), s₁))
    (hright : right.render.runOn env s₁ = (.ok v, s₂)) (hnil : v.kind ≠ .nil) :
    (compare .contains left right).render.runOn env s =
      (if v.writable then .ok (.bool (Text.occursIn v.shown text.toList))
        else .error (.fault .tooManyDigits), s₂) := by
  rw [render_compare, compareOf, Render.runOn_bind_ok _ _ hleft, Render.runOn_bind_ok _ _ hright,
    Render.runOn_lift, Comparison.apply, Comparison.test, Value.contains_str text hnil]
  cases v.writable <;> rfl

/-- **What a comparison finds in a text.**  Its left operand renders to a text and its right one to
a value that is not nil.

* It finds a value exactly if the text that a template puts out for the value stands in the text as
  consecutive characters.
* But it finds a boolean, a list or a tuple exactly if its written form stands there.
* It fails for a value that cannot be put out, and for the same reason. -/
theorem contains_in_text (hleft : left.render.runOn env s = (.ok (.str text), s₁))
    (hright : right.render.runOn env s₁ = (.ok v, s₂)) (hnil : v.kind ≠ .nil) :
    let found := (compare .contains left right).render.runOn env s
    (∀ t, v.text = .ok t → ∃ b, found = (.ok (.bool b), s₂) ∧
      (v.kind ∉ Value.writtenKinds → (b = true ↔ t.toList <:+: text.toList)) ∧
      (v.kind ∈ Value.writtenKinds → (b = true ↔ v.written <:+: text.toList))) ∧
    ∀ e, v.text = .error e → found = (.error (.fault e), s₂) := by
  intro found
  have hfound : found = _ := runOn_contains hleft hright hnil
  constructor
  · intro t ht
    obtain ⟨hwritable, hrendered⟩ := Value.text_eq_ok ht
    rw [hwritable] at hfound
    refine ⟨_, hfound, fun hkind => ?_, fun hkind => ?_⟩
    · rw [Text.occursIn_iff_isInfix, Value.shown_eq_rendered hnil hkind, hrendered]
    · rw [Text.occursIn_iff_isInfix, Value.shown_eq_written hkind]
  · intro e he
    obtain ⟨hwritable, rfl⟩ := Value.text_eq_error he
    rw [hwritable] at hfound
    exact hfound

/-- What a comparison finds in a text, where both operands are literal. -/
def foundIn (text : String) (v : Value) : Except Error Value :=
  ((compare .contains (.literal (.str text)) (.literal v)).render.runOn
    ((Engine.new {}).surroundings default 1) ((Engine.new {}).start (.ofVariables ∅) ∅)).1

theorem contains_in_text_number :
    (Value.int 21).kind ≠ .nil ∧ foundIn "a 21st item" (.int 21) = .ok (.bool true) := by
  have htext : (Value.int 21).text = .ok "21" := by
    have hfits : integerFits 21 = true := by decide +kernel
    rw [Value.text, Value.writable, hfits]
    rfl
  refine ⟨by decide, ?_⟩
  have hliteral (v : Value) : (literal v).render.runOn ((Engine.new {}).surroundings default 1)
      ((Engine.new {}).start (.ofVariables ∅) ∅) = (.ok v, _) := rfl
  obtain ⟨hfinds, -⟩ :=
    contains_in_text (hliteral (.str "a 21st item")) (hliteral (.int 21)) (by decide)
  obtain ⟨b, hrun, hb, -⟩ := hfinds "21" htext
  have hinfix : "21".toList <:+: "a 21st item".toList := ⟨"a ".toList, "st item".toList, rfl⟩
  rw [foundIn, hrun, (hb (by decide)).2 hinfix]

/-- **What a template puts out for a boolean or a list is not found in that text.** -/
theorem put_out_and_not_found :
    (Value.bool true).text = .ok "true" ∧ foundIn "true" (.bool true) = .ok (.bool false) ∧
    (Value.list [.str "a", .str "b"]).text = .ok "ab" ∧
    foundIn "ab" (.list [.str "a", .str "b"]) = .ok (.bool false) :=
  ⟨rfl, rfl, rfl, rfl⟩

end Node

end TemplateEngine
