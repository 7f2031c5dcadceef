/-
**The attributes of a loop may stand anywhere.**

The children of a loop are its variable, its collection and its body, in this order, and attributes.
Where the attributes stand among the others does not matter, and neither does their order, but that
the last one counts of several with one name.  A loop asks for its attributes by name, in an order
of its own, so their effects and their errors come in that order wherever they stand.  **An
attribute that a loop does not ask for is never rendered**: without it the loop does the same.

Main definitions and results:

* `StandardTag.attributeNames` — the attributes that a loop asks for;
* `Node.lastNamed?` — the attribute that counts of those with one name;
* `Node.find?_attributes` — **this is the one that a loop finds**;
* `Tags.run_congr` — a loop depends on what stands for its positional children, in order, and on
  what it finds for the names that it asks for;
* `Tags.render_congr` — the same of its children;
* `Tags.attributes_stand_anywhere` — what follows from this for the children.
-/
import TemplateEngine.Proofs.Propagation.Signal
import Mathlib.Data.List.Induction

set_option autoImplicit false

namespace TemplateEngine

/-- The names of the attributes that a loop asks for. -/
def StandardTag.attributeNames : StandardTag → List String
  | .for => ["offset", "limit", "reversed"]
  | .tablerow => ["offset", "limit", "reversed", "cols"]
  | _ => []

/-! ### Children that are attributes -/

namespace Node

/-- Whether a node is an attribute of a given name. -/
def isNamed (name : String) : Node → Bool
  | .attribute other _ => other == name
  | _ => false

/-- **The attribute that counts of those with one name**: the last one. -/
def lastNamed? (name : String) (ns : List Node) : Option Node :=
  (ns.filter (·.isNamed name)).getLast?

/-- The last of some nodes comes first. -/
theorem lastNamed?_concat (name : String) (ns : List Node) (n : Node) :
    lastNamed? name (ns ++ [n]) = if n.isNamed name then some n else lastNamed? name ns := by
  rw [lastNamed?, List.filter_append]
  cases h : n.isNamed name with
  | true =>
      rw [List.filter_cons_of_pos h, List.filter_nil, List.getLast?_concat]
      rfl
  | false =>
      rw [List.filter_cons_of_neg (by simp [h]), List.filter_nil, List.append_nil]
      rfl

/-- The last attribute of a name is the last one without an attribute of another name. -/
theorem lastNamed?_remove {name other : String} (h : other ≠ name) (value : Node)
    (before after : List Node) :
    lastNamed? name (before ++ «attribute» other value :: after) =
      lastNamed? name (before ++ after) := by
  have hother : («attribute» other value).isNamed name = false := by
    simpa [isNamed] using h
  simp [lastNamed?, List.filter_append, hother]

theorem isAttribute_part (n : Node) : n.part.isAttribute = n.isAttribute := by
  cases n <;> rfl

/-- The positional parts of nodes are those of the positional nodes. -/
theorem positional_parts (ns : List Node) :
    Tags.positional (parts ns) = (ns.filter (!·.isAttribute)).map part := by
  simp [Tags.positional, parts_eq_map, List.filter_map, Function.comp_def, isAttribute_part]

/-- One more node adds its attribute to those before, if it is one. -/
theorem attributes_concat (ns : List Node) (n : Node) :
    Tags.attributes (parts (ns ++ [n])) =
      match n with
      | .attribute name value => (Tags.attributes (parts ns)).insert name value.render
      | _ => Tags.attributes (parts ns) := by
  rw [Tags.attributes, parts_eq_map, List.map_append, List.filterMap_append, ← parts_eq_map]
  cases n with
  | «attribute» name value => exact Table.insertAll_concat _ _ (name, value.render)
  | _ => exact congrArg Table.ofList (List.append_nil _)

/-- **A loop finds the last attribute of a name**, by induction from the last node on. -/
theorem find?_attributes (name : String) (ns : List Node) :
    (Tags.attributes (parts ns)).find? name = (lastNamed? name ns).map render := by
  induction ns using List.reverseRecOn with
  | nil => rfl
  | append_singleton ns n ih =>
      rw [lastNamed?_concat, attributes_concat]
      cases n with
      | «attribute» other value =>
          rw [Table.find?_insert, ih, isNamed]
          by_cases h : name = other
          · simp [h, render_attribute]
          · simp [h, Ne.symm h]
      | _ => exact ih

end Node

/-! ### What a loop depends on -/

namespace Tags

variable {a b : Attributes}

theorem integerAttribute_congr {name : String} (h : a.find? name = b.find? name) :
    integerAttribute a name = integerAttribute b name := by
  rw [integerAttribute, integerAttribute, h]

theorem flagAttribute_congr {name : String} (h : a.find? name = b.find? name) :
    flagAttribute a name = flagAttribute b name := by
  rw [flagAttribute, flagAttribute, h]

/-- The items of a loop depend on three attributes. -/
theorem collectItems_congr
    (h : ∀ name ∈ StandardTag.for.attributeNames, a.find? name = b.find? name)
    (collection : Part) : collectItems collection a = collectItems collection b := by
  have hoffset := integerAttribute_congr (h "offset" (by simp [StandardTag.attributeNames]))
  have hlimit := integerAttribute_congr (h "limit" (by simp [StandardTag.attributeNames]))
  have hreversed := flagAttribute_congr (h "reversed" (by simp [StandardTag.attributeNames]))
  rw [collectItems, collectItems, hoffset, hlimit, hreversed]

/-- **A loop depends on its positional parts and on the attributes that it asks for**, and on
nothing else. -/
theorem run_congr {kind : StandardTag} (hkind : kind = .for ∨ kind = .tablerow) {ps qs : List Part}
    (hpositional : positional ps = positional qs)
    (hfind : ∀ name ∈ kind.attributeNames,
      (attributes ps).find? name = (attributes qs).find? name) : kind.run ps = kind.run qs := by
  rcases hkind with rfl | rfl
  · show forTag ps = forTag qs
    simp only [forTag, hpositional, collectItems_congr hfind]
  · have hitems := collectItems_congr (a := attributes ps) (b := attributes qs) fun name hname =>
      hfind name (List.mem_append_left ["cols"] hname)
    have hcols := integerAttribute_congr (hfind "cols" (by simp [StandardTag.attributeNames]))
    show tablerowTag ps = tablerowTag qs
    simp only [tablerowTag, hpositional, hitems, hcols]

/-- A loop depends on its positional children and on the last attributes that it asks for. -/
theorem render_congr {kind : StandardTag} (hkind : kind = .for ∨ kind = .tablerow) (t : Tag)
    {ns ns' : List Node} (hpositional : ns.filter (!·.isAttribute) = ns'.filter (!·.isAttribute))
    (hlast : ∀ name ∈ kind.attributeNames, Node.lastNamed? name ns = Node.lastNamed? name ns') :
    (Node.tag (t.as kind) ns).render = (Node.tag (t.as kind) ns').render := by
  have hrun : kind.run (Node.parts ns) = kind.run (Node.parts ns') := by
    apply run_congr hkind
    · rw [Node.positional_parts, Node.positional_parts, hpositional]
    · intro name hname
      rw [Node.find?_attributes, Node.find?_attributes, hlast name hname]
  rw [render_as, render_as, hrun]

/-- **Loop attributes may stand anywhere.**  For both loops, in every surroundings and every state:

* children with the same positional ones in the same order, and with the same last attribute for
  every name that the loop asks for, render with the same outcome and leave the same state;
* so do children that are a rearrangement of others in which the positional ones keep their order
  and the attributes of each name keep theirs;
* an attribute that the loop does not ask for is not rendered: the loop does without it what it
  does with it. -/
theorem attributes_stand_anywhere {kind : StandardTag} (hkind : kind = .for ∨ kind = .tablerow)
    (t : Tag) (env : Surroundings) (s : State) :
    (∀ ns ns' : List Node,
      ns.filter (!·.isAttribute) = ns'.filter (!·.isAttribute) →
      (∀ name ∈ kind.attributeNames, Node.lastNamed? name ns = Node.lastNamed? name ns') →
      (Node.tag (t.as kind) ns).render.runOn env s = (Node.tag (t.as kind) ns').render.runOn env s)
    ∧ (∀ ns ns' : List Node,
      ns.filter (!·.isAttribute) = ns'.filter (!·.isAttribute) →
      (∀ name, ns.filter (·.isNamed name) = ns'.filter (·.isNamed name)) →
      (Node.tag (t.as kind) ns).render.runOn env s = (Node.tag (t.as kind) ns').render.runOn env s)
    ∧ ∀ (before after : List Node) (name : String) (value : Node), name ∉ kind.attributeNames →
      (Node.tag (t.as kind) (before ++ .attribute name value :: after)).render.runOn env s
        = (Node.tag (t.as kind) (before ++ after)).render.runOn env s := by
  refine ⟨?_, ?_, ?_⟩
  · intro ns ns' hpositional hlast
    rw [render_congr hkind t hpositional hlast]
  · intro ns ns' hpositional hnamed
    rw [render_congr hkind t hpositional fun name _ => congrArg List.getLast? (hnamed name)]
  · intro before after name value hname
    rw [render_congr hkind t]
    · simp [List.filter_append, Node.isAttribute]
    · intro asked hasked
      refine Node.lastNamed?_remove ?_ value before after
      rintro rfl
      exact hname hasked

/-- The children of a loop with attributes among them: two limits, of which the second counts, and
an attribute that no loop asks for and that fails if it is rendered. -/
def shuffledChildren : List Node :=
  [.attribute "limit" (.literal (.int 3)), .literal (.str "x"), .attribute "rows" .placeholder,
    .literal (.list [.str "a", .str "b", .str "c"]), .lookup "x" [],
    .attribute "offset" (.literal (.int 1)), .attribute "limit" (.literal (.int 1))]

/-- The same loop with its attributes behind the other children. -/
def tidyChildren : List Node :=
  [.literal (.str "x"), .literal (.list [.str "a", .str "b", .str "c"]), .lookup "x" [],
    .attribute "limit" (.literal (.int 1)), .attribute "offset" (.literal (.int 1))]

theorem attributes_stand_anywhere_shuffled :
    ((Node.tag (.ofStandard .for) shuffledChildren).render.runOn
      ((Engine.new {}).surroundings default 1) ((Engine.new {}).start (.ofVariables ∅) ∅)).1
        = .ok (.str "b") := by
  have hfor : StandardTag.for = .for ∨ StandardTag.for = .tablerow := .inl rfl
  have hanywhere := (attributes_stand_anywhere hfor (.ofStandard .for)
    ((Engine.new {}).surroundings default 1) ((Engine.new {}).start (.ofVariables ∅) ∅)).1
  have hlast : ∀ name ∈ StandardTag.for.attributeNames,
      Node.lastNamed? name shuffledChildren = Node.lastNamed? name tidyChildren := by
    intro name hname
    simp only [StandardTag.attributeNames, List.mem_cons, List.not_mem_nil, or_false] at hname
    rcases hname with rfl | rfl | rfl <;> rfl
  refine (congrArg Prod.fst (hanywhere shuffledChildren tidyChildren rfl hlast)).trans ?_
  rfl

end Tags

end TemplateEngine
