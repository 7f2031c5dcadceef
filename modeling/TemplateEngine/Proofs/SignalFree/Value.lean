/-
**Values without signals.**

A signal is meant to be on its way to a loop and not to be kept in a variable.  The parts
of a value without signals are without signals, and so is what a loop makes of it.

Main definitions and results:

* `Value.isSignalFree` — no signal stands anywhere in a value;
* `Value.signalFree_follow`, `Value.signalFree_listed` — parts and items;
* `ValueClass.signalFree` — **the values without signals are a class**.
-/
import TemplateEngine.Proofs.TwoRuns
import TemplateEngine.Proofs.Yields

set_option autoImplicit false

namespace TemplateEngine

namespace Value

/-! ### Values without signals -/

mutual

/-- Whether no signal stands in a value, at any depth. -/
def isSignalFree : Value → Bool
  | .list items => areSignalFree items
  | .tuple items => areSignalFree items
  | .map entries => entriesSignalFree entries
  | .signal _ => false
  | .interrupted _ _ => false
  | _ => true

/-- Whether no signal stands in any of several values. -/
def areSignalFree : List Value → Bool
  | [] => true
  | v :: rest => isSignalFree v && areSignalFree rest

/-- Whether no signal stands in the keys and values of a map. -/
def entriesSignalFree : List (Value × Value) → Bool
  | [] => true
  | (k, v) :: rest => isSignalFree k && isSignalFree v && entriesSignalFree rest

end

theorem areSignalFree_iff (vs : List Value) :
    areSignalFree vs = true ↔ ∀ v ∈ vs, v.isSignalFree = true := by
  induction vs with
  | nil => simp [areSignalFree]
  | cons v rest ih => simp [areSignalFree, ih]

theorem entriesSignalFree_iff (entries : List (Value × Value)) :
    entriesSignalFree entries = true ↔
      ∀ e ∈ entries, e.1.isSignalFree = true ∧ e.2.isSignalFree = true := by
  induction entries with
  | nil => simp [entriesSignalFree]
  | cons e rest ih => simp [entriesSignalFree, ih, and_assoc]

/-- What is without signals is no signal. -/
theorem isSignal_of_signalFree {v : Value} (h : v.isSignalFree = true) : v.isSignal = false := by
  cases v with
  | signal s => simp [isSignalFree] at h
  | interrupted t s => simp [isSignalFree] at h
  | _ => rfl

/-! ### Parts -/

/-- An item that is asked for is without signals if all items are; nil stands for none. -/
theorem signalFree_getD {v? : Option Value} {items : List Value}
    (h : ∀ v ∈ items, v.isSignalFree = true) (hv : ∀ v, v? = some v → v ∈ items) :
    (v?.getD .nil).isSignalFree = true := by
  cases v? with
  | none => rfl
  | some v => exact h v (hv v rfl)

theorem signalFree_intsFrom (a b : Int) : ∀ v ∈ intsFrom a b, v.isSignalFree = true := by
  intro v hv
  obtain ⟨i, -, rfl⟩ := List.mem_map.1 hv
  rfl

/-- The entry of a key. -/
theorem signalFree_keyed? {entries : List (Value × Value)} (h : entriesSignalFree entries = true)
    (key : Value) :
    Yields (fun v? => ∀ v, v? = some v → v.isSignalFree = true) (keyed? entries key) := by
  refine (Yields.anything _).bind fun _ _ => Yields.pure fun v hv => ?_
  rw [lookupEntry, Option.map_eq_some_iff] at hv
  obtain ⟨e, he, rfl⟩ := hv
  exact ((entriesSignalFree_iff entries).1 h e (List.mem_of_find?_eq_some he)).2

theorem signalFree_namedProperty {size : Nat} {first? last? : Option Value}
    (hfirst : (first?.getD .nil).isSignalFree = true)
    (hlast : (last?.getD .nil).isSignalFree = true) (key : Value) :
    (namedProperty size first? last? key).isSignalFree = true := by
  unfold namedProperty
  split
  · rfl
  · exact hfirst
  · exact hlast
  · rfl

theorem signalFree_sequenceStep {items : List Value} (h : areSignalFree items = true)
    (key : Value) : (sequenceStep items key).isSignalFree = true := by
  have h := (areSignalFree_iff items).1 h
  unfold sequenceStep
  split
  · refine signalFree_getD h fun v hv => ?_
    unfold itemAt at hv
    split at hv
    · exact List.mem_of_getElem? hv
    · split at hv
      · exact List.mem_of_getElem? hv
      · cases hv
  · exact signalFree_namedProperty (signalFree_getD h fun v hv => List.mem_of_head? hv)
      (signalFree_getD h fun v hv => List.mem_of_getLast? hv) key

theorem signalFree_step {v : Value} (h : v.isSignalFree = true) (key : Value) :
    Yields (fun w => w.isSignalFree = true) (v.step key) := by
  cases v with
  | map entries =>
      refine (signalFree_keyed? h key).bind fun v? hv => Yields.pure ?_
      cases v? with
      | none => exact signalFree_namedProperty rfl rfl key
      | some v => exact hv v rfl
  | list items => exact Yields.pure (signalFree_sequenceStep h key)
  | tuple items => exact Yields.pure (signalFree_sequenceStep h key)
  | str s =>
      dsimp only [step]
      split
      · refine Yields.pure ?_
        rename_i i _
        cases itemAt s.toList i <;> rfl
      · exact Yields.pure (signalFree_namedProperty rfl rfl key)
  | _ => exact Yields.pure rfl

theorem signalFree_follow (path : List Value) : ∀ {v : Value}, v.isSignalFree = true →
    Yields (fun w => w.isSignalFree = true) (v.follow path) := by
  induction path with
  | nil =>
      intro v h
      cases v <;> exact Yields.pure h
  | cons key path ih =>
      intro v h
      cases v with
      | nil => exact Yields.pure rfl
      | _ => exact (signalFree_step h key).bind fun w hw => ih hw

theorem signalFree_toList {v : Value} (h : v.isSignalFree = true) :
    ∀ x ∈ v.toList, x.isSignalFree = true := by
  cases v with
  | nil => exact fun x hx => by cases hx
  | list items => exact (areSignalFree_iff items).1 h
  | tuple items => exact (areSignalFree_iff items).1 h
  | range a b => exact signalFree_intsFrom a b
  | map entries =>
      intro x hx
      obtain ⟨e, he, rfl⟩ := List.mem_map.1 hx
      obtain ⟨hk, hv⟩ := (entriesSignalFree_iff entries).1 h e he
      simp [isSignalFree, areSignalFree, hk, hv]
  | _ => exact fun x hx => List.mem_singleton.1 hx ▸ h

theorem signalFree_rangeItems (a b : Int) :
    Yields (fun items => ∀ x ∈ items, x.isSignalFree = true) (rangeItems a b) := by
  refine (Yields.anything _).bind fun n _ => ?_
  split
  · exact Yields.pure (signalFree_intsFrom a b)
  · exact Yields.error _

theorem signalFree_listed {v : Value} (h : v.isSignalFree = true) :
    Yields (fun items => ∀ x ∈ items, x.isSignalFree = true) v.listed := by
  cases v with
  | range a b => exact signalFree_rangeItems a b
  | _ => exact Yields.pure (signalFree_toList h)

theorem signalFree_property {v : Value} (h : v.isSignalFree = true) (key : Value) :
    Yields (fun w => w.isSignalFree = true) (v.property key) := by
  cases v with
  | map entries =>
      refine (signalFree_keyed? h key).bind fun v? hv => Yields.pure ?_
      cases v? with
      | none => rfl
      | some v => exact hv v rfl
  | _ => exact Yields.pure rfl

end Value

/-- **The values without signals are a class of values.** -/
def ValueClass.signalFree : ValueClass where
  Holds v := v.isSignalFree = true
  nil := rfl
  bool _ := rfl
  str _ := rfl
  rangeItems h := (Value.areSignalFree_iff _).2 (Value.signalFree_rangeItems _ _ _ h)
  follow h hw := Value.signalFree_follow _ h _ hw
  listed h hi := Value.signalFree_listed h _ hi
  turn _ _ _ := rfl
  cell _ _ _ _ _ _ := rfl
  interrupt _ h hs := by
    have hsignal := Value.isSignal_of_split hs
    rw [Value.isSignal_of_signalFree h] at hsignal
    cases hsignal

end TemplateEngine
