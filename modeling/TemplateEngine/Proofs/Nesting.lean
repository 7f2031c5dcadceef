/-
**How deeply renders are nested.**

The render of a node calls that of its children, and an inclusion calls that of a template.  Here
a render is given a number of levels, and an alarm goes off where it would have to go one level
deeper.  **Where templates can be ranked, so that each of them includes only templates of lower
rank, the alarm never goes off** at a number of levels that the trees and the ranks tell: the
height of the tree, and for each rank the height of the tallest template.  Variables, loops and
what their bodies assign do not matter, for a loop renders its body for one item after another,
and all of them one level further down.

Main definitions:

* `Node.height`, `Node.inclusions` — levels of a tree, and the names that its inclusions are given;
* `Engine.IncludesBelow`, `Engine.Ranked` — inclusions of templates of lower rank;
* `Engine.limited`, `Engine.Suffices` — a render with a number of levels, and enough of them.

Main results:

* `Engine.Suffices.tag`, `Engine.suffices_of_height` — as many levels as a tree needs;
* `Engine.nesting_bounded` — **the alarm never goes off**.
-/
import TemplateEngine.Proofs.Children
import TemplateEngine.Proofs.TwoRuns.Twins

set_option autoImplicit false

namespace TemplateEngine

/-! ### Trees -/

namespace Node

mutual

/-- The number of levels of a tree. -/
def height : Node → Nat
  | .range start stop => max (height start) (height stop) + 1
  | .compare _ left right => max (height left) (height right) + 1
  | .connect _ left right => max (height left) (height right) + 1
  | .output expression stages => max (height expression) (heightAll stages) + 1
  | .stage _ params => heightAll params + 1
  | .block children => heightAll children + 1
  | .tag _ children => heightAll children + 1
  | .attribute _ value => height value + 1
  | .literal _ | .text _ | .lookup _ _ | .signal _ | .placeholder => 1

/-- The number of levels of the tallest one of several trees. -/
def heightAll : List Node → Nat
  | [] => 0
  | n :: rest => max (height n) (heightAll rest)

end

mutual

/-- The nodes that give the inclusions in a tree the names of their templates. -/
def inclusions : Node → List Node
  | .range start stop => inclusions start ++ inclusions stop
  | .compare _ left right => inclusions left ++ inclusions right
  | .connect _ left right => inclusions left ++ inclusions right
  | .output expression stages => inclusions expression ++ inclusionsAll stages
  | .stage _ params => inclusionsAll params
  | .block children => inclusionsAll children
  | .tag t children =>
      (if t.isOf (· = .include) then children.head?.toList else []) ++ inclusionsAll children
  | .attribute _ value => inclusions value
  | .literal _ | .text _ | .lookup _ _ | .signal _ | .placeholder => []

/-- The names in several trees. -/
def inclusionsAll : List Node → List Node
  | [] => []
  | n :: rest => inclusions n ++ inclusionsAll rest

end

/-- One of several trees is at most as tall as the tallest one. -/
theorem height_le_heightAll {n : Node} {ns : List Node} (hn : n ∈ ns) :
    n.height ≤ heightAll ns := by
  induction ns with
  | nil => cases hn
  | cons m rest ih =>
      rw [heightAll]
      rcases List.mem_cons.1 hn with rfl | hn
      · exact Nat.le_max_left _ _
      · exact Nat.le_trans (ih hn) (Nat.le_max_right _ _)

/-- The height of a node is one more than that of its tallest child. -/
theorem height_eq (n : Node) : n.height = heightAll n.children + 1 := by
  cases n <;> simp [height, children, heightAll]

theorem height_lt_of_mem_children {n m : Node} (hm : m ∈ n.children) : m.height < n.height := by
  rw [height_eq n]
  exact Nat.lt_succ_of_le (height_le_heightAll hm)

theorem mem_inclusionsAll {m : Node} {ns : List Node} :
    m ∈ inclusionsAll ns ↔ ∃ n ∈ ns, m ∈ n.inclusions := by
  induction ns with
  | nil => simp [inclusionsAll]
  | cons n rest ih => simp [inclusionsAll, ih]

/-- The names of a tree are those of its children and, for an inclusion, the one it is given. -/
theorem mem_inclusions {n name : Node} :
    name ∈ n.inclusions ↔ (∃ m ∈ n.children, name ∈ m.inclusions) ∨
      ∃ t children, n = .tag t children ∧ t.isOf (· = .include) = true ∧
        children.head? = some name := by
  cases n with
  | tag t children =>
      by_cases ht : t.isOf (· = .include) = true
      · simp [inclusions, Node.children, mem_inclusionsAll, ht, or_comm]
      · simp [inclusions, Node.children, mem_inclusionsAll, ht]
  | _ => simp [inclusions, Node.children, mem_inclusionsAll]

end Node

/-! ### Ranks -/

namespace Engine

/-- Every inclusion in the tree has a literal as its name, and if there is a template of that name
then its rank is less than `r`. -/
def IncludesBelow (e : Engine) (rank : String → Nat) (r : Nat) (n : Node) : Prop :=
  ∀ name ∈ n.inclusions, ∃ v, name = .literal v ∧
    ∀ key template, v.text = .ok key → e.findTemplate key = .ok template → rank key < r

/-- **Every template includes only templates of lower rank**, or such as are not there. -/
def Ranked (e : Engine) (rank : String → Nat) : Prop :=
  ∀ key template, e.findTemplate key = .ok template → e.IncludesBelow rank (rank key) template

/-- The number of ranks. -/
def levels (e : Engine) (rank : String → Nat) : Nat :=
  (e.templates.keys.map fun key => rank key + 1).foldr max 0

/-- The height of the tallest template. -/
def tallest (e : Engine) : Nat := Node.heightAll (e.templates.entries.map Prod.snd)

variable {e : Engine} {rank : String → Nat} {key : String} {template : Node}

theorem mem_entries_of_findTemplate (h : e.findTemplate key = .ok template) :
    (key, template) ∈ e.templates.entries := by
  unfold findTemplate at h
  split at h
  · next n hn =>
      cases h
      exact Bindings.mem_of_lookup hn
  · cases h

/-- Every template has one of the ranks. -/
theorem rank_lt_levels (h : e.findTemplate key = .ok template) : rank key < e.levels rank := by
  have hkey : key ∈ e.templates.keys :=
    List.mem_map.2 ⟨_, mem_entries_of_findTemplate h, rfl⟩
  unfold levels
  generalize e.templates.keys = keys at hkey ⊢
  induction keys with
  | nil => cases hkey
  | cons k rest ih =>
      rw [List.map_cons, List.foldr_cons]
      rcases List.mem_cons.1 hkey with rfl | hkey
      · exact Nat.le_max_left _ _
      · exact Nat.lt_of_lt_of_le (ih hkey) (Nat.le_max_right _ _)

theorem height_le_tallest (h : e.findTemplate key = .ok template) :
    template.height ≤ e.tallest :=
  Node.height_le_heightAll (List.mem_map.2 ⟨_, mem_entries_of_findTemplate h, rfl⟩)

end Engine

/-! ### Renders with a number of levels -/

/-- The surroundings with other templates, which are rendered where these are not known. -/
def Surroundings.withTemplates (env : Surroundings)
    (templates : String → Except Error (Render Value)) : Surroundings :=
  { env with template := fun name => (templates name).map fun body => body.runOn env }

/-- A render with other templates. -/
def Render.withTemplates (templates : String → Except Error (Render Value)) (r : Render Value) :
    Render Value :=
  ofFunction fun env s => r.runOn (env.withTemplates templates) s

/-- What a node is for the tag around it if it may go down a number of levels: below the last one
the alarm goes off. -/
def Engine.limited (e : Engine) (alarm : Render Value) : Nat → Node → Part
  | 0, .stage filter params => .stage filter (params.map fun _ => alarm)
  | 0, .attribute name _ => .attribute name alarm
  | 0, _ => .content alarm
  | k + 1, .tag t children =>
      .content ((t.run (children.map (e.limited alarm k))).withTemplates fun name =>
        (e.findTemplate name).map fun n => (e.limited alarm k n).run)
  | k + 1, n => n.partWith (e.limited alarm k)

/-! ### As many levels as a tree needs -/

namespace TwoRuns

/-- A render on an engine that includes templates, beside one where no inclusion is said anything
of. -/
def beside (left : Surroundings) (e : Engine) (now : Moment) (depth : Nat) : TwoRuns :=
  twins (fun kind => kind ≠ .include) (fun i i' => i = i') (fun _ => True) left
    (e.surroundings now depth)

variable {left : Surroundings} {e : Engine} {now : Moment} {depth : Nat}

theorem beside_lawful (hnow : left.now = now)
    (hmode : left.strictVariables = e.config.strictVariables) :
    (beside left e now depth).Lawful := by
  refine Indistinct.eq.lawful (by simp [hnow]) (.inl (by simp [hmode])) fun _ h => ?_
  simp at h

theorem beside_unrestricted : (beside left e now depth).Unrestricted :=
  ⟨fun _ => trivial, fun _ => trivial, fun _ => trivial⟩

/-- A render that is given templates follows where these are the templates. -/
theorem beside_withTemplates {Q : Value → Prop} {templates : String → Except Error (Render Value)}
    {r r' : Render Value}
    (h : (beside (left.withTemplates templates) e now depth).Follows Q r r') :
    (beside left e now depth).Follows Q (r.withTemplates templates) r' := h

end TwoRuns

namespace Engine

variable {e : Engine} {rank : String → Nat}

/-- An inclusion below a tree of rank `r` is one below the tree. -/
theorem IncludesBelow.child {r : Nat} {n m : Node} (h : e.IncludesBelow rank r n)
    (hm : m ∈ n.children) : e.IncludesBelow rank r m :=
  fun name hname => h name (Node.mem_inclusions.2 (.inl ⟨m, hm, hname⟩))

/-- With `k` levels a node does what it does where `depth` inclusions are followed inside each
other, wherever it is rendered. -/
def Suffices (e : Engine) (alarm : Render Value) (now : Moment) (k depth : Nat) (n : Node) : Prop :=
  ∀ left : Surroundings, left.now = now → left.strictVariables = e.config.strictVariables →
    (TwoRuns.beside left e now depth).PartFollows .barred (e.limited alarm k n) n.part

namespace Suffices

variable {alarm : Render Value} {now : Moment} {k depth : Nat}

/-- Where `k` levels are enough for a template, inclusions of its name follow each other. -/
theorem included {left : Surroundings} (hnow : left.now = now)
    (hmode : left.strictVariables = e.config.strictVariables) {key : String}
    (h : ∀ template, e.findTemplate key = .ok template →
      ∃ d, depth = d + 1 ∧ e.Suffices alarm now k d template) :
    (TwoRuns.beside (left.withTemplates fun name =>
      (e.findTemplate name).map fun n => (e.limited alarm k n).run) e now depth).Included key := by
  show TwoRuns.TemplatesFollow _
    (((e.findTemplate key).map fun n => (e.limited alarm k n).run).map fun body => body.runOn left)
    ((e.surroundings now depth).template key)
  cases hfind : e.findTemplate key with
  | error x =>
      refine ⟨e.isStray_findTemplate hfind, ?_⟩
      cases depth with
      | zero => rw [template_surroundings_zero, hfind]; rfl
      | succ d => rw [template_surroundings_succ, hfind]; rfl
  | ok template =>
      obtain ⟨d, rfl, hsuffices⟩ := h template hfind
      rw [template_surroundings_succ, hfind]
      have hrun := (hsuffices left hnow hmode).run
      exact ⟨_, rfl, hrun.mono fun _ _ => .inl trivial⟩

/-- A node that is no tag needs one level more than its children. -/
theorem of_children {n : Node} (htag : ∀ t children, n ≠ .tag t children)
    (h : ∀ m ∈ n.children, e.Suffices alarm now k depth m) :
    e.Suffices alarm now (k + 1) depth n := by
  intro left hnow hmode
  have hlimited : e.limited alarm (k + 1) n = n.partWith (e.limited alarm k) := by
    cases n with
    | tag t children => exact absurd rfl (htag t children)
    | _ => rfl
  rw [hlimited]
  exact (TwoRuns.beside_lawful hnow hmode).partWith TwoRuns.beside_unrestricted
    (fun m hm => h m hm left hnow hmode) fun t children ht => absurd ht (htag t children)

/-- So does a tag, and an inclusion one more than the templates that its name may stand for. -/
theorem tag {t : Tag} {kind : StandardTag} (hbody : t.body = .standard kind)
    {children : List Node} (h : ∀ m ∈ children, e.Suffices alarm now k depth m)
    (hinclude : kind = .include → ∀ name ∈ children.head?, 0 < k ∧ ∃ v, name = .literal v ∧
      ∀ key template, v.text = .ok key → e.findTemplate key = .ok template →
        ∃ d, depth = d + 1 ∧ e.Suffices alarm now k d template) :
    e.Suffices alarm now (k + 1) depth (.tag t children) := by
  intro left hnow hmode
  rw [limited, Node.part_eq_partWith, Node.partWith, Tag.run_of_standard hbody]
  refine .content (TwoRuns.beside_withTemplates ?_)
  -- the children are rendered where templates may go down `k` levels
  let inner := left.withTemplates fun name =>
    (e.findTemplate name).map fun n => (e.limited alarm k n).run
  have hT : (TwoRuns.beside inner e now depth).Lawful := TwoRuns.beside_lawful hnow hmode
  have hparts := TwoRuns.forall₂_parts fun m hm => h m hm inner hnow hmode
  by_cases hkind : kind = .include
  · subst hkind
    cases children with
    | nil => exact TwoRuns.Follows.throw _ rfl
    | cons name rest =>
        obtain ⟨hk, v, rfl, hv⟩ := hinclude rfl name rfl
        obtain ⟨-, hrest⟩ := List.forall₂_cons.1 hparts
        refine hT.includeTag_of_name (fun _ _ => ValueClass.all.at_of_holds trivial) ?_ hrest
        -- a literal has a level of its own, so its text is the name of the template
        obtain ⟨j, rfl⟩ := Nat.exists_eq_succ_of_ne_zero (Nat.ne_of_gt hk)
        refine TwoRuns.Follows.liftFault (x := v.text) fun key hkey => ?_
        exact included hnow hmode fun template hfind => hv key template hkey hfind
  · have hu : (TwoRuns.beside inner e now depth).Uses kind := by
      simpa [TwoRuns.beside, TwoRuns.twins] using hkind
    exact hT.tagWith TwoRuns.beside_unrestricted hu hparts

end Suffices

/-- **As many levels as a tree needs**: its height, and for each rank below its own the height of
the tallest template.  By induction on the rank, and for one rank on the tree. -/
theorem suffices_of_height (he : e.MadeOf fun _ => true) (hranked : e.Ranked rank)
    (alarm : Render Value) (now : Moment) (r : Nat) :
    ∀ n : Node, n.isMadeOf (fun _ => true) = true → e.IncludesBelow rank r n →
      ∀ k, n.height + r * e.tallest ≤ k → ∀ depth, r ≤ depth → e.Suffices alarm now k depth n := by
  induction r using Nat.strongRecOn with
  | ind r ihr =>
  intro n
  induction n using Node.induction_on_children with
  | step n ihn =>
  intro hn hbelow k hk depth hdepth
  have hheight := n.height_eq
  obtain ⟨k, rfl⟩ : ∃ j, k = j + 1 := ⟨k - 1, by omega⟩
  rw [Node.isMadeOf_iff] at hn
  have hchildren : ∀ m ∈ n.children, e.Suffices alarm now k depth m := by
    intro m hm
    have hlower := Node.height_lt_of_mem_children hm
    exact ihn m hm (hn.2 m hm) (hbelow.child hm) k (by omega) depth hdepth
  by_cases htag : ∃ t children, n = .tag t children
  · obtain ⟨t, children, rfl⟩ := htag
    obtain ⟨kind, hbody, -⟩ := (Tag.isOf_iff _ _).1 (hn.1 t children rfl)
    refine Suffices.tag hbody hchildren fun hkind name hname => ?_
    have hinclude : t.isOf (· = .include) = true :=
      (Tag.isOf_iff _ _).2 ⟨kind, hbody, by simpa using hkind⟩
    have hname' : name ∈ (Node.tag t children).children := List.mem_of_mem_head? hname
    have hlower := Node.height_lt_of_mem_children hname'
    have hpositive := name.height_eq
    obtain ⟨v, hliteral, hv⟩ := hbelow name
      (Node.mem_inclusions.2 (.inr ⟨t, children, rfl, hinclude, hname⟩))
    refine ⟨by omega, v, hliteral, fun key template hkey hfind => ⟨depth - 1, ?_⟩⟩
    -- the template has a lower rank, so there are levels left for the tallest one
    have hrank := hv key template hkey hfind
    have hmul := Nat.mul_le_mul_right e.tallest (Nat.succ_le_of_lt hrank)
    rw [Nat.succ_mul] at hmul
    have htall := height_le_tallest hfind
    refine ⟨by omega, ihr (rank key) hrank template (he key template hfind)
      (hranked key template hfind) k (by omega) (depth - 1) (by omega)⟩
  · exact Suffices.of_children (fun t children ht => htag ⟨t, children, ht⟩) hchildren

/-- **The nesting of renders is bounded where templates can be ranked.**  For every tree whose
inclusions have literal names there is a number of levels, told by the height of the tree, the
number of ranks and the height of the tallest template: with that many levels, or more, a render
ends in every state as it does without a limit, whatever the alarm would do, and the engine never
has to give up an inclusion, if it follows as many as there are ranks.  The same holds of trees at
the top of a template. -/
theorem nesting_bounded (he : e.MadeOf fun _ => true) (hranked : e.Ranked rank) (now : Moment) :
    (∀ n : Node, n.isMadeOf (fun _ => true) = true →
      (∀ name ∈ n.inclusions, ∃ v, name = .literal v) →
        ∀ alarm k depth, n.height + e.levels rank * e.tallest ≤ k → e.levels rank ≤ depth →
          ∀ s : State, (e.limited alarm k n).run.runOn (e.surroundings now 0) s =
            n.render.runOn (e.surroundings now depth) s) ∧
    (∀ nodes : List Node, (∀ n ∈ nodes, n.isMadeOf (fun _ => true) = true) →
      (∀ name ∈ Node.inclusionsAll nodes, ∃ v, name = .literal v) →
        ∀ policy alarm k depth, Node.heightAll nodes + e.levels rank * e.tallest ≤ k →
          e.levels rank ≤ depth → ∀ s : State,
            (renderTop policy (nodes.map (e.limited alarm k))).runOn (e.surroundings now 0) s =
              (renderTop policy (Node.parts nodes)).runOn (e.surroundings now depth) s) := by
  -- all templates have a rank below the number of ranks
  have hpart (n : Node) (hn : n.isMadeOf (fun _ => true) = true)
      (hnames : ∀ name ∈ n.inclusions, ∃ v, name = .literal v) (alarm : Render Value)
      (k depth : Nat) (hk : n.height + e.levels rank * e.tallest ≤ k)
      (hdepth : e.levels rank ≤ depth) :
      (TwoRuns.beside (e.surroundings now 0) e now depth).PartFollows .barred
        (e.limited alarm k n) n.part := by
    refine suffices_of_height he hranked alarm now _ n hn (fun name hname => ?_) k hk depth hdepth
      (e.surroundings now 0) rfl rfl
    obtain ⟨v, hv⟩ := hnames name hname
    exact ⟨v, hv, fun key template _ hfind => rank_lt_levels hfind⟩
  refine ⟨fun n hn hnames alarm k depth hk hdepth s => ?_,
    fun nodes hn hnames policy alarm k depth hk hdepth s => ?_⟩
  · have hfollows := (hpart n hn hnames alarm k depth hk hdepth).run
    exact (TwoRuns.twins_runOn_eq hfollows fun _ _ => trivial).symm
  · have hparts : List.Forall₂
        ((TwoRuns.beside (e.surroundings now 0) e now depth).PartFollows .barred)
        (nodes.map (e.limited alarm k)) (nodes.map Node.part) := by
      refine TwoRuns.forall₂_parts fun n hmem => ?_
      have hheight := Node.height_le_heightAll hmem
      refine hpart n (hn n hmem) (fun name hname => ?_) alarm k depth (by omega) hdepth
      exact hnames name (Node.mem_inclusionsAll.2 ⟨n, hmem, hname⟩)
    have hfollows := TwoRuns.Lawful.renderTop policy policy (.inl ⟨rfl, trivial⟩) hparts
    rw [Node.parts_eq_map]
    exact (TwoRuns.twins_runOn_eq hfollows fun _ _ => trivial).symm

/-- An engine with a template that includes another one again and again, and each time assigns
the variable that it goes through. -/
def menu : Engine :=
  { Engine.new {} with
    templates := Table.ofList
      [("item", .output (.lookup "x" []) []),
        ("menu", .tag (.ofStandard .for) [.literal (.str "x"), .lookup "xs" [], .block
          [.tag (.ofStandard .assign) [.literal (.str "xs"), .lookup "more" []],
            .tag (.ofStandard .include) [.literal (.str "item")]]])] }

/-- An inclusion of that template. -/
def menuPage : Node := .tag (.ofStandard .include) [.literal (.str "menu")]

/-- Ten levels are enough for every menu. -/
theorem nesting_bounded_menu :
    (menu.MadeOf fun _ => true) ∧ menu.Ranked (fun key => if key = "menu" then 1 else 0) ∧
      ∀ alarm depth, 2 ≤ depth → ∀ s : State,
        (menu.limited alarm 10 menuPage).run.runOn (menu.surroundings default 0) s =
          menuPage.render.runOn (menu.surroundings default depth) s := by
  have htemplate {key : String} {n : Node} (h : menu.findTemplate key = .ok n) :
      (key, n) ∈ [("item", _), ("menu", _)] := mem_of_findTemplate rfl h
  have he : menu.MadeOf fun _ => true := by
    intro key n hn
    rcases List.mem_pair.1 (htemplate hn) with h | h <;> cases h <;> rfl
  have hranked : menu.Ranked fun key => if key = "menu" then 1 else 0 := by
    intro key n hn
    rcases List.mem_pair.1 (htemplate hn) with h | h <;> cases h
    · intro name hname
      cases hname
    · intro name hname
      obtain rfl : name = .literal (.str "item") := List.mem_singleton.1 hname
      refine ⟨.str "item", rfl, fun key template hkey _ => ?_⟩
      rw [Value.text_str] at hkey
      cases hkey
      decide
  refine ⟨he, hranked, fun alarm depth hdepth s => ?_⟩
  refine (nesting_bounded he hranked default).1 menuPage rfl ?_ alarm 10 depth ?_ hdepth s
  · intro name hname
    exact ⟨.str "menu", List.mem_singleton.1 hname⟩
  · decide

/-- An engine with a template that includes itself. -/
def mirror : Engine :=
  { Engine.new {} with
    templates := Table.ofList
      [("mirror", .tag (.ofStandard .include) [.literal (.str "mirror")])] }

/-- **No number of levels is enough for a template that includes itself.** -/
theorem mirror_sets_off_alarm (x : Error) (k : Nat) (env : Surroundings) (s : State) :
    ((mirror.limited (throw x) k
      (.tag (.ofStandard .include) [.literal (.str "mirror")])).run.runOn env s).1 = .error x := by
  induction k generalizing s with
  | zero => rfl
  | succ k ih =>
      cases k with
      | zero => rfl
      | succ k => exact ih (s.withInner (∅ :: s.context.inner))

end Engine

end TemplateEngine
