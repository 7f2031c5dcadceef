/-
**Trees, one level at a time.**

What a node is for the tag around it is put together from what its children are.  So a tree may be
followed level by level: whatever stands for the children, if it follows the children, then what
is put together from it follows the node.

Main definitions and results:

* `Node.children`, `Node.induction_on_children` — the nodes right below a node;
* `Node.partWith`, `Node.part_eq_partWith` — what a node is, given what its children are;
* `Node.isMadeOf_iff` — the tags of a tree, level by level;
* `Node.mapTags`, `Node.part_mapTags` — a tree with other tags;
* `TwoRuns.Lawful.partWith` — **one level of a tree**, for runs that are free to read and call;
* `TwoRuns.Lawful.part_mapTags`, `TwoRuns.lawful_mapTemplates` — **trees and engines beside copies
  with other tags**.
-/
import TemplateEngine.Proofs.Scopes

set_option autoImplicit false

namespace TemplateEngine

/-! ### Children -/

namespace Node

/-- The nodes right below a node. -/
def children : Node → List Node
  | .range start stop => [start, stop]
  | .compare _ left right => [left, right]
  | .connect _ left right => [left, right]
  | .output expression stages => expression :: stages
  | .stage _ params => params
  | .block children => children
  | .tag _ children => children
  | .attribute _ value => [value]
  | .literal _ | .text _ | .lookup _ _ | .signal _ | .placeholder => []

mutual

/-- **Induction on the children**: what holds of every node of whose children it holds, holds of
every node. -/
theorem induction_on_children {P : Node → Prop} (step : ∀ n : Node, (∀ m ∈ n.children, P m) → P n) :
    ∀ n : Node, P n
  | .literal _ => step _ fun _ hm => nomatch hm
  | .text _ => step _ fun _ hm => nomatch hm
  | .lookup _ _ => step _ fun _ hm => nomatch hm
  | .range start stop =>
      step _ (List.forall_mem_cons.2 ⟨induction_on_children step start,
        List.forall_mem_singleton.2 (induction_on_children step stop)⟩)
  | .compare _ left right =>
      step _ (List.forall_mem_cons.2 ⟨induction_on_children step left,
        List.forall_mem_singleton.2 (induction_on_children step right)⟩)
  | .connect _ left right =>
      step _ (List.forall_mem_cons.2 ⟨induction_on_children step left,
        List.forall_mem_singleton.2 (induction_on_children step right)⟩)
  | .output expression stages =>
      step _ (List.forall_mem_cons.2 ⟨induction_on_children step expression,
        forall_of_step step stages⟩)
  | .stage _ params => step _ (forall_of_step step params)
  | .block children => step _ (forall_of_step step children)
  | .tag _ children => step _ (forall_of_step step children)
  | .signal _ => step _ fun _ hm => nomatch hm
  | .attribute _ value => step _ (List.forall_mem_singleton.2 (induction_on_children step value))
  | .placeholder => step _ fun _ hm => nomatch hm

theorem forall_of_step {P : Node → Prop} (step : ∀ n : Node, (∀ m ∈ n.children, P m) → P n) :
    ∀ ns : List Node, ∀ n ∈ ns, P n
  | [] => fun _ hn => nomatch hn
  | n :: rest => List.forall_mem_cons.2 ⟨induction_on_children step n, forall_of_step step rest⟩

end

/-- What a node is for the tag around it, if its children are what `f` says. -/
def partWith (f : Node → Part) : Node → Part
  | .literal v => .content (pure v)
  | .text s => .content (pure (.str s))
  | .lookup name path => .content (lookupOf name path)
  | .range start stop => .content (rangeOf (f start).run (f stop).run)
  | .compare op left right => .content (compareOf op (f left).run (f right).run)
  | .connect op left right => .content (connectOf op (f left).run (f right).run)
  | .output expression stages =>
      .content do
        let v ← (f expression).run
        runPipe v (stages.map f)
  | .stage filter params => .stage filter (params.map fun p => (f p).run)
  | .block children => .content (renderSequence (children.map f))
  | .tag t children => .content (t.run (children.map f))
  | .signal s => .content (pure (.signal s))
  | .attribute name value => .attribute name (f value).run
  | .placeholder => .content (throw .placeholder)

/-- **A node is put together from its children.** -/
theorem part_eq_partWith (n : Node) : n.part = n.partWith part := by
  cases n <;> simp only [part, partWith, parts_eq_map, List.map_map, Function.comp_def]

/-- A tree is made of tags of some kinds iff its children are and it is no other tag itself. -/
theorem isMadeOf_iff (kinds : StandardTag → Bool) (n : Node) :
    n.isMadeOf kinds = true ↔
      (∀ t children, n = .tag t children → t.isOf kinds = true) ∧
        ∀ m ∈ n.children, m.isMadeOf kinds = true := by
  cases n <;> simp [isMadeOf, children, areMadeOf_iff]

/-! ### Other tags in a tree -/

mutual

/-- The tree with other tags. -/
def mapTags (f : Tag → Tag) : Node → Node
  | .range start stop => .range (mapTags f start) (mapTags f stop)
  | .compare op left right => .compare op (mapTags f left) (mapTags f right)
  | .connect op left right => .connect op (mapTags f left) (mapTags f right)
  | .output expression stages => .output (mapTags f expression) (mapTagsAll f stages)
  | .stage filter params => .stage filter (mapTagsAll f params)
  | .block children => .block (mapTagsAll f children)
  | .tag t children => .tag (f t) (mapTagsAll f children)
  | .attribute name value => .attribute name (mapTags f value)
  | n => n

/-- Several trees with other tags. -/
def mapTagsAll (f : Tag → Tag) : List Node → List Node
  | [] => []
  | n :: rest => mapTags f n :: mapTagsAll f rest

end

theorem mapTagsAll_eq_map (f : Tag → Tag) (ns : List Node) :
    mapTagsAll f ns = ns.map (mapTags f) := by
  induction ns with
  | nil => rfl
  | cons n rest ih => rw [mapTagsAll, ih, List.map_cons]

/-- A node that is no tag, or whose tag stays as it is, is put together as before. -/
theorem part_mapTags {f : Tag → Tag} {n : Node}
    (h : ∀ t children, n = .tag t children → f t = t) :
    (n.mapTags f).part = n.partWith fun m => (m.mapTags f).part := by
  cases n with
  | tag t children =>
      simp only [mapTags, part, partWith, parts_eq_map, mapTagsAll_eq_map, List.map_map,
        Function.comp_def, h t children rfl]
  | _ =>
      simp only [mapTags, part, partWith, parts_eq_map, mapTagsAll_eq_map, List.map_map,
        Function.comp_def]

/-- Another tag does with the parts of the children what it does. -/
theorem part_mapTags_tag (f : Tag → Tag) (t : Tag) (children : List Node) :
    ((tag t children).mapTags f).part =
      .content ((f t).run (children.map fun m => (m.mapTags f).part)) := by
  simp only [mapTags, part, parts_eq_map, mapTagsAll_eq_map, List.map_map, Function.comp_def]

end Node

/-! ### One level of a tree -/

namespace TwoRuns

/-- Runs with any values, which may read every variable and call every filter. -/
structure Unrestricted (T : TwoRuns) : Prop where
  holds (v : Value) : T.values.Holds v
  reads (name : String) : T.Reads name
  calls (name : String) : T.Calls name

variable {T : TwoRuns}

/-- Parts that follow each other one by one may stand anywhere. -/
theorem PartsFollow.of_forall₂ {l : Licence} {ps ps' : List Part}
    (h : List.Forall₂ (T.PartFollows .barred) ps ps') :
    ∀ positions : List Position, T.PartsFollow l positions ps ps' := by
  induction h with
  | nil => exact fun _ => .nil
  | cons hp _ ih =>
      intro positions
      cases positions with
      | nil => exact .rest hp (ih [])
      | cons pos more => exact .cons hp.of_barred (ih more)

/-- What stands for children follows them one by one. -/
theorem forall₂_parts {f : Node → Part} {ns : List Node}
    (h : ∀ m ∈ ns, T.PartFollows .barred (f m) m.part) :
    List.Forall₂ (T.PartFollows .barred) (ns.map f) (ns.map Node.part) :=
  List.forall₂_map_left_iff.2 (List.forall₂_map_right_iff.2 (List.forall₂_same.2 h))

/-- **A standard tag follows itself** if its children are followed, where every value may stand. -/
theorem Lawful.tagWith (hT : T.Lawful) (hfree : T.Unrestricted) {kind : StandardTag}
    (hu : T.Uses kind) {ps ps' : List Part} (h : List.Forall₂ (T.PartFollows .barred) ps ps') :
    T.Follows (T.values.At .barred) (kind.run ps) (kind.run ps') :=
  hT.standardTag hu (fun _ v _ => T.values.at_of_holds (hfree.holds v)) (PartsFollow.of_forall₂ h _)

/-- **One level of a tree**: if what stands for the children follows them, then what is put
together from it follows the node. -/
theorem Lawful.partWith (hT : T.Lawful) (hfree : T.Unrestricted) {f : Node → Part} {n : Node}
    (hchildren : ∀ m ∈ n.children, T.PartFollows .barred (f m) m.part)
    (htag : ∀ t children, n = .tag t children → ∃ kind, t.body = .standard kind ∧ T.Uses kind) :
    T.PartFollows .barred (n.partWith f) n.part := by
  rw [Node.part_eq_partWith]
  have hvalue {r r' : Render Value} (h : T.Follows T.values.Holds r r') :
      T.PartFollows .barred (.content r) (.content r') := .content h
  cases n with
  | literal v => exact hvalue (Follows.pure (hfree.holds v))
  | text s => exact hvalue (Follows.pure (hfree.holds _))
  | lookup name path => exact hvalue (hT.lookupOf (hfree.reads name) path)
  | range start stop =>
      have hstart := (hchildren start List.mem_cons_self).run
      have hstop := (hchildren stop (List.mem_cons_of_mem _ List.mem_cons_self)).run
      exact hvalue (rangeOf hstart hstop)
  | compare op left right =>
      have hleft := (hchildren left List.mem_cons_self).run
      have hright := (hchildren right (List.mem_cons_of_mem _ List.mem_cons_self)).run
      exact hvalue (compareOf op hleft hright)
  | connect op left right =>
      have hleft := (hchildren left List.mem_cons_self).run
      have hright := (hchildren right (List.mem_cons_of_mem _ List.mem_cons_self)).run
      exact hvalue (connectOf op hleft hright)
  | output expression stages =>
      have hexpr := (hchildren expression List.mem_cons_self).run
      have hstages := forall₂_parts fun m hm => hchildren m (List.mem_cons_of_mem _ hm)
      exact hvalue (hexpr.bind fun v hv => hT.runPipe hv hstages)
  | stage filter params =>
      refine .stage (hfree.calls filter) ?_
      exact List.forall₂_map_left_iff.2 (List.forall₂_map_right_iff.2
        (List.forall₂_same.2 fun p hp => (hchildren p hp).run))
  | block children => exact .content (renderSequence (forall₂_parts hchildren))
  | tag t children =>
      obtain ⟨kind, hbody, hu⟩ := htag t children rfl
      rw [Node.partWith, Node.partWith, Tag.run_of_standard hbody]
      exact .content (hT.tagWith hfree hu (forall₂_parts hchildren))
  | signal s => exact hvalue (Follows.pure (hfree.holds _))
  | «attribute» name value => exact .attr name (hchildren value List.mem_cons_self).run
  | placeholder => exact hvalue (Follows.throw _ rfl)

/-- **A tree follows its copy with other tags**: by induction on the tree, if each tag stays as it
is or what it does is followed by what the other one does. -/
theorem Lawful.part_mapTags (hT : T.Lawful) (hfree : T.Unrestricted) {f : Tag → Tag}
    (hf : ∀ t kind, t.body = .standard kind → (f t = t ∧ T.Uses kind) ∨
      ∀ ps ps', List.Forall₂ (T.PartFollows .barred) ps ps' →
        T.Follows (T.values.At .barred) ((f t).run ps) (kind.run ps')) (n : Node) :
    n.isMadeOf (fun _ => true) = true → T.PartFollows .barred (n.mapTags f).part n.part := by
  induction n using Node.induction_on_children with
  | step n ih =>
      intro hn
      rw [Node.isMadeOf_iff] at hn
      have hchildren : ∀ m ∈ n.children, T.PartFollows .barred (m.mapTags f).part m.part :=
        fun m hm => ih m hm (hn.2 m hm)
      by_cases hother : ∃ t children, n = .tag t children ∧
          ∀ ps ps', List.Forall₂ (T.PartFollows .barred) ps ps' →
            T.Follows (T.values.At .barred) ((f t).run ps) (t.run ps')
      · obtain ⟨t, children, rfl, hrun⟩ := hother
        rw [Node.part_mapTags_tag, Node.part_eq_partWith, Node.partWith]
        exact .content (hrun _ _ (forall₂_parts hchildren))
      · have hsame (t : Tag) (children : List Node) (ht : n = .tag t children) :
            f t = t ∧ ∃ kind, t.body = .standard kind ∧ T.Uses kind := by
          obtain ⟨kind, hbody, -⟩ := (Tag.isOf_iff _ _).1 (hn.1 t children ht)
          rcases hf t kind hbody with ⟨hsame, hu⟩ | hrun
          · exact ⟨hsame, kind, hbody, hu⟩
          · rw [← Tag.run_of_standard hbody] at hrun
            exact absurd ⟨t, children, ht, hrun⟩ hother
        rw [Node.part_mapTags fun t children ht => (hsame t children ht).1]
        exact hT.partWith hfree hchildren fun t children ht => (hsame t children ht).2

/-- Nodes at the top of a template follow what stands for them. -/
theorem renderTop_map (hstrays : T.Strays) (policy : StrayPolicy) {g : Node → Node}
    {nodes : List Node} (h : ∀ n ∈ nodes, T.PartFollows .barred (g n).part n.part) :
    T.Follows (fun _ => True) (Engine.renderTop policy (Node.parts (nodes.map g)))
      (Engine.renderTop policy (Node.parts nodes)) := by
  refine Lawful.renderTop policy policy (.inl ⟨rfl, hstrays⟩) (l := .barred) ?_
  rw [Node.parts_eq_map, Node.parts_eq_map, List.map_map]
  exact forall₂_parts h

/-- **An engine follows its copy with other templates**, if each of them is followed by the one it
stands for: by induction on the number of inclusions inside each other. -/
theorem lawful_mapTemplates (T : TwoRuns) {e e' : Engine} {g : Node → Node} (now : Moment)
    (hfind : ∀ name, e'.findTemplate name = (e.findTemplate name).map g)
    (hlaws : ∀ depth, (∀ name, (T.between e' e now 0 depth).Included name) →
      (T.between e' e now 0 depth).Lawful)
    (hparts : ∀ depth, (T.between e' e now 0 depth).Lawful → ∀ name n,
      e.findTemplate name = .ok n →
        (T.between e' e now 0 depth).PartFollows .barred (g n).part n.part)
    (depth : Nat) : (T.between e' e now 0 depth).Lawful := by
  induction depth with
  | zero =>
      refine hlaws 0 fun name => ?_
      rw [Included, between, Nat.zero_add, Engine.template_surroundings_zero,
        Engine.template_surroundings_zero, hfind]
      cases hn : e.findTemplate name with
      | error _ => exact ⟨e.isStray_findTemplate hn, rfl⟩
      | ok n => exact ⟨_, rfl, Follows.throw .tooDeep rfl⟩
  | succ depth ih =>
      refine hlaws (depth + 1) fun name => ?_
      rw [Included, between, Nat.add_zero, Engine.template_surroundings_succ,
        Engine.template_surroundings_succ, hfind]
      cases hn : e.findTemplate name with
      | error _ => exact ⟨e.isStray_findTemplate hn, rfl⟩
      | ok n =>
          -- the template is rendered one level further down, where the laws hold already
          have hfollow := (hparts depth ih name n hn).run
          exact ⟨_, rfl, hfollow.mono fun v hv => .inl hv⟩

end TwoRuns

end TemplateEngine
