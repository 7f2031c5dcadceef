/-
**Properties in paths and as filters.**

The number of things in a value, and its first and its last item, can be had in two ways: as a
property at the end of a path, and from the filter of the same name.  The two agree on lists, tuples
and texts, and on maps without a key of that name.  **They do not agree on ranges**: the filters
count the numbers of a range and find its ends, but a path does not lead into a range at all.

Main definitions and results:

* `Property`, `Property.filter`, `Property.key` — the properties, and their two names;
* `Property.value` — what a property of a value is, apart from both;
* `Property.step_key`, `Property.apply_filter` — **a path and a filter give this**;
* `Node.properties_agree` — where they agree, and where they do not.
-/
import TemplateEngine.Proofs.Run

set_option autoImplicit false

namespace TemplateEngine

/-- The properties that a path can name. -/
inductive Property where
  | size
  | first
  | last
  deriving DecidableEq, Repr

namespace Property

/-- The filter that gives a property. -/
def filter : Property → StandardFilter
  | size => .size
  | first => .first
  | last => .last

/-- The key of a property in a path: the name of its filter. -/
def key (p : Property) : Value := .str p.filter.name

/-- The property of a row of items. -/
def ofItems : Property → List Value → Value
  | size, items => .int items.length
  | first, items => items.head?.getD .nil
  | last, items => items.getLast?.getD .nil

/-- The property of what can be counted but has no first and last item. -/
def ofCount : Property → Nat → Value
  | size, n => .int n
  | first, _ => .nil
  | last, _ => .nil

/-- **What a property of a value is**: lists and tuples have items, texts are counted by characters
and maps by entries. -/
def value (p : Property) : Value → Value
  | .list items => p.ofItems items
  | .tuple items => p.ofItems items
  | .str s => p.ofCount s.length
  | .map entries => p.ofCount entries.length
  | _ => .nil

/-- The kinds of values that a path and the filters take for the same. -/
def kinds : List Kind := [.map, .list, .tuple, .str]

variable (p : Property)

/-- **A filter gives the property of the same name.** -/
theorem apply_filter (now : Moment) {v : Value} (hv : v.kind ∈ kinds) :
    (Filter.ofStandard p.filter).apply now v [] = .ok (p.value v) := by
  cases v with
  | list items => cases p <;> rfl
  | tuple items => cases p <;> rfl
  | str s => cases p <;> rfl
  | map entries => cases p <;> rfl
  | _ => exact absurd hv (by simp [Value.kind, kinds])

/-- A key that is not among the entries of a map finds nothing there. -/
theorem lookupEntry_of_free {entries : List (Value × Value)} {name : String}
    (h : ∀ entry ∈ entries, entry.1 ≠ .str name) :
    Value.lookupEntry entries (.str name) = none := by
  rw [Value.lookupEntry, Option.map_eq_none_iff, List.find?_eq_none]
  exact fun entry hentry hsame => h entry hentry (Value.same_str_right.1 hsame)

/-- **A step of a path gives the property that it names**, if it does not find the name as a key. -/
theorem step_key {v : Value} (hv : v.kind ∈ kinds)
    (hkeys : ∀ entries, v = .map entries → ∀ entry ∈ entries, entry.1 ≠ p.key) :
    v.step p.key = .ok (p.value v) := by
  cases v with
  | list items => cases p <;> rfl
  | tuple items => cases p <;> rfl
  | str s => cases p <;> rfl
  | map entries =>
      have hnone := lookupEntry_of_free (hkeys entries rfl)
      have hkeyed : Value.keyed? entries p.key = .ok (Value.lookupEntry entries p.key) := rfl
      rw [Value.step, hkeyed, key, hnone]
      cases p <;> rfl
  | _ => exact absurd hv (by simp [Value.kind, kinds])

/-- The filter counts the numbers of a range, unless these are too many to be counted. -/
theorem apply_size_range (now : Moment) (start stop : Int) :
    (Filter.ofStandard .size).apply now (.range start stop) [] =
      if (stop - start).toNat ≤ Value.countLimit then .ok (.int (stop - start).toNat)
      else .error (.fault .uncounted) := by
  show (((CollectionFilter.size (.range start stop)).mapError Failure.fault >>= fun n =>
    pure (Value.int n)).mapError (Failure.toError _)) = _
  rw [CollectionFilter.size, Value.rangeSize]
  split <;> rfl

end Property

namespace Node

variable {env : Surroundings} {s : State} {x : String} {v : Value}

/-- A path of one key leads from the value of the variable to its part. -/
theorem runOn_lookup_step (hx : s.context.find? x = some v) (hv : v.kind ≠ .nil) (key : Value) :
    (lookup x [key]).render.runOn env s =
      ((v.step key).mapError fun m => .fault (.mismatch m), s) := by
  have hfollow : v.follow [key] = v.step key := by
    cases v with
    | nil => exact absurd rfl hv
    | _ =>
        rw [Value.follow]
        · cases Value.step _ key <;> rfl
        · exact fun h => by cases h
  rw [render_lookup, lookupOf, Render.runOn_bind_ok _ _ (Render.runOn_resolve_of_find? env s hx),
    Render.liftFault, Render.runOn_lift, hfollow]
  cases v.step key <;> rfl

/-- **A path and a filter give the same property**, where the path does not find its name as a key
of a map. -/
theorem property_agrees (hx : s.context.find? x = some v) (hv : v.kind ∈ Property.kinds)
    {p : Property}
    (hkeys : ∀ entries, v = .map entries → ∀ entry ∈ entries, entry.1 ≠ p.key) :
    (lookup x [p.key]).render.runOn env s = (.ok (p.value v), s) ∧
      (Filter.ofStandard p.filter).apply env.now v [] = .ok (p.value v) := by
  have hnil : v.kind ≠ .nil := by
    intro h
    rw [h] at hv
    exact absurd hv (by decide)
  refine ⟨?_, p.apply_filter env.now hv⟩
  rw [runOn_lookup_step hx hnil, p.step_key hv hkeys]
  rfl

/-- **Properties in paths and as filters.**  Let `v` be the value of the variable `x`.

* If `v` is a list, a tuple or a text, a path behind `x` and the filter of the same name both give
  each of `size`, `first` and `last`.
* If `v` is a map, the same holds of each of them that is no key of `v`.
* But if `v` is a range, a path gives nil for each of them, though the filter never gives nil for
  the size of a range. -/
theorem properties_agree (env : Surroundings) (hx : s.context.find? x = some v) :
    (v.kind ∈ [.list, .tuple, .str] → ∀ p : Property,
      (lookup x [p.key]).render.runOn env s = (.ok (p.value v), s) ∧
        (Filter.ofStandard p.filter).apply env.now v [] = .ok (p.value v)) ∧
    (∀ entries, v = .map entries → ∀ p : Property, (∀ entry ∈ entries, entry.1 ≠ p.key) →
      (lookup x [p.key]).render.runOn env s = (.ok (p.value v), s) ∧
        (Filter.ofStandard p.filter).apply env.now v [] = .ok (p.value v)) ∧
    ∀ start stop, v = .range start stop →
      (∀ p : Property, (lookup x [p.key]).render.runOn env s = (.ok .nil, s)) ∧
        (Filter.ofStandard .size).apply env.now v [] ≠ .ok .nil := by
  refine ⟨fun hv p => ?_, ?_, ?_⟩
  · have hkind : v.kind ∈ Property.kinds := List.mem_cons_of_mem Kind.map hv
    refine property_agrees hx hkind fun entries hmap => ?_
    rw [hmap] at hv
    simp [Value.kind] at hv
  · rintro entries rfl p hfree
    refine property_agrees hx (by simp [Value.kind, Property.kinds]) fun others heq => ?_
    cases heq
    exact hfree
  · rintro start stop rfl
    constructor
    · intro p
      rw [runOn_lookup_step hx fun h => by cases h]
      rfl
    · rw [Property.apply_size_range]
      split <;> exact fun h => by cases h

/-- A state in which a value has the name `x`. -/
def holding (v : Value) : State :=
  (Engine.new {}).start (.ofVariables (Table.ofList [(.name "x", v)])) ∅

/-- A list, a map with a key that is another property, and a range. -/
theorem properties_agree_holding :
    ((lookup "x" [Property.last.key]).render.runOn ((Engine.new {}).surroundings default 1)
        (holding (.list [.int 4, .int 2])) = (.ok (.int 2), holding (.list [.int 4, .int 2])) ∧
      (Filter.ofStandard .last).apply default (.list [.int 4, .int 2]) [] = .ok (.int 2)) ∧
    ((lookup "x" [Property.size.key]).render.runOn ((Engine.new {}).surroundings default 1)
        (holding (.map [(.str "last", .nil)])) =
          (.ok (.int 1), holding (.map [(.str "last", .nil)])) ∧
      (Filter.ofStandard .size).apply default (.map [(.str "last", .nil)]) [] = .ok (.int 1)) ∧
    (lookup "x" [Property.first.key]).render.runOn ((Engine.new {}).surroundings default 1)
      (holding (.range 1 4)) = (.ok .nil, holding (.range 1 4)) := by
  have hx (v : Value) : (holding v).context.find? "x" = some v := rfl
  obtain ⟨hrow, -, -⟩ :=
    properties_agree ((Engine.new {}).surroundings default 1) (hx (.list [.int 4, .int 2]))
  obtain ⟨-, hmap, -⟩ :=
    properties_agree ((Engine.new {}).surroundings default 1) (hx (.map [(.str "last", .nil)]))
  obtain ⟨-, -, hrange⟩ :=
    properties_agree ((Engine.new {}).surroundings default 1) (hx (.range 1 4))
  have hfree : ∀ entry ∈ [(Value.str "last", Value.nil)], entry.1 ≠ Property.size.key := by
    rintro entry hentry heq
    rw [List.mem_singleton.1 hentry] at heq
    exact absurd (Value.str.inj heq) (by decide)
  exact ⟨hrow (by simp [Value.kind]) .last, hmap _ rfl .size hfree, (hrange 1 4 rfl).1 .first⟩

/-- **A path does not count the numbers of a range**, though the filter does. -/
theorem range_is_not_counted :
    (lookup "x" [.str "size"]).render.runOn ((Engine.new {}).surroundings default 1)
        (holding (.range 1 4)) = (.ok .nil, holding (.range 1 4)) ∧
      (Filter.ofStandard .size).apply default (.range 1 4) [] = .ok (.int 3) :=
  ⟨rfl, rfl⟩

end Node

end TemplateEngine
