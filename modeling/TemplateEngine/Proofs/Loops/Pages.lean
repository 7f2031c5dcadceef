/-
**A loop in two pages.**

A loop with a limit, and behind it the same loop with that number for an offset, go through all the
items between them.  The turns of the two pages are those of the loop in one piece, but for what can
be read about their place: a page counts its own turns.  **Where the body does not look at its
place, the two pages do what the loop does in one piece.**  They write its text, or fail with its
error, and leave its state, so what turns assign and count goes on from one page to the next.

Main definitions and results:

* `Loop.turns_append`, `Loop.written_append` — the turns and the text of a loop over two lists;
* `Turn.Alike` — turns that end alike, `Loop.turns_alike`;
* `Loop.outcome`, `Loop.outcome_append`, `Loop.outcome_alike` — what a loop does;
* `Engine.pages_are_whole` — **two pages are the loop in one piece**.
-/
import TemplateEngine.Proofs.Loops.ForLoop
import TemplateEngine.Proofs.Unread

set_option autoImplicit false

namespace TemplateEngine

/-! ### Turns that end alike -/

/-- Two turns have one end: what they give, and the state that they leave, but for inner scopes. -/
structure Turn.Alike (t t' : Turn) : Prop where
  result : t.result = t'.result
  left : t.left.withInner [] = t'.left.withInner []

/-- Two outcomes with one result, in one state but for inner scopes. -/
structure Outcome.SameEnd {α : Type} (o o' : Outcome α) : Prop where
  result : o.1 = o'.1
  left : o.2.withInner [] = o'.2.withInner []

/-- Behind turns that end alike the states are alike. -/
theorem Turn.last_alike {ts ts' : List Turn} (h : List.Forall₂ Turn.Alike ts ts') :
    ∀ {s s' : State}, s.withInner [] = s'.withInner [] →
      (last s ts).withInner [] = (last s' ts').withInner [] := by
  induction h with
  | nil => exact fun hs => hs
  | cons ht _ ih => exact fun _ => ih ht.left

/-- Behind some turns and others one is behind the others. -/
theorem Turn.last_append (ts us : List Turn) : ∀ s : State,
    last s (ts ++ us) = last (last s ts) us := by
  induction ts with
  | nil => exact fun _ => rfl
  | cons t rest ih => exact fun _ => ih t.left

/-- Alike but for inner scopes, two states are equal with the same ones. -/
theorem State.withInner_congr {s s' : State} (h : s.withInner [] = s'.withInner [])
    (inner : List Scope) : s.withInner inner = s'.withInner inner :=
  congrArg (·.withInner inner) h

/-- **Bodies that cannot tell what a variable is have turns that end alike.** -/
theorem Part.Ignores.turn_alike {body : Part} {env : Surroundings} {x : String}
    (h : body.Ignores env x) {s s' : State} (hs : s.withInner [] = s'.withInner [])
    {i i' : List Scope} (hi : List.Forall₂ (Scope.AgreesOn (· ≠ x)) i i') :
    (body.turn env (s.withInner i)).Alike (body.turn env (s'.withInner i')) := by
  have hstart : s'.withInner i' = (s.withInner i).withInner i' := by
    rw [State.withInner_withInner, State.withInner_congr hs]
  have hrun := h.runOn_withInner (s := s.withInner i) hi
  rw [← hstart] at hrun
  unfold Part.turn
  rw [Render.runOn_bind, Render.runOn_bind, hrun]
  generalize body.run.runOn env (s.withInner i) = o
  obtain ⟨result, t⟩ := o
  cases result with
  | error e => exact ⟨rfl, rfl⟩
  | ok v => exact ⟨rfl, rfl⟩

namespace Loop

variable {L : Loop} {env : Surroundings} {body : Part} {outer : List Scope}

/-! ### Loops over two lists -/

/-- **The turns of a loop over two lists** are those over the first one, and those over the second
one unless a turn has ended the loop. -/
theorem turns_append (xs ys : List Value) : ∀ (k : Nat) (s : State),
    L.turns env body outer k (xs ++ ys) s =
      let ts := L.turns env body outer k xs s
      ts ++ if ts.all Turn.goesOn then
        L.turns env body outer (k + xs.length) ys (Turn.last s ts) else [] := by
  induction xs with
  | nil => exact fun _ _ => rfl
  | cons x rest ih =>
      intro k s
      rw [List.cons_append, turns, turns]
      generalize body.turn env (s.withInner (L.frame k x :: outer)) = t
      cases hon : t.goesOn with
      | false => simp [hon]
      | true =>
          simp only [if_true, ih, List.all_cons, hon, Bool.true_and, List.cons_append, Turn.last,
            List.length_cons]
          rw [Nat.add_right_comm, Nat.add_assoc]

/-- **What a loop writes for some turns and others**: both texts, or the first error. -/
theorem written_append (ts us : List Turn) : ∀ k : Nat,
    L.written k (ts ++ us) =
      (do return (← L.written k ts) ++ (← L.written (k + ts.length) us)) := by
  induction ts with
  | nil =>
      intro k
      show L.written k us = (L.written k us).bind fun b => .ok ("" ++ b)
      cases L.written k us with
      | error e => rfl
      | ok b => rw [Except.bind, String.empty_append]
  | cons t rest ih =>
      intro k
      rw [List.cons_append, written, written, ih, List.length_cons, Nat.add_right_comm,
        ← Nat.add_assoc]
      cases t.result with
      | error e => rfl
      | ok r =>
          cases L.written (k + 1) rest with
          | error e => rfl
          | ok a =>
              cases L.written (k + rest.length + 1) us with
              | error e => rfl
              | ok b =>
                  refine congrArg Except.ok ?_
                  exact String.append_assoc.symm

/-- What is written for turns that all end alike is the same, **since no mark tells its place**. -/
theorem written_alike {name name' : String} {n n' : Nat} {ts ts' : List Turn}
    (h : List.Forall₂ Turn.Alike ts ts') : ∀ k k' : Nat,
      (forItems name n).written k ts = (forItems name' n').written k' ts' := by
  induction h with
  | nil => exact fun _ _ => rfl
  | cons ht _ ih =>
      intro k k'
      rw [written, written, ht.result, ih (k + 1) (k' + 1)]
      rfl

/-- Where something is written, no turn has failed. -/
theorem succeeds_of_written {ts : List Turn} : ∀ {k : Nat} {text : String},
    L.written k ts = .ok text → ∀ t ∈ ts, t.succeeds = true := by
  induction ts with
  | nil => exact fun _ t ht => by cases ht
  | cons t rest ih =>
      intro k text h
      obtain ⟨entered, result, left⟩ := t
      cases result with
      | error e => cases h
      | ok r =>
          cases hrest : L.written (k + 1) rest with
          | error e =>
              rw [written, hrest] at h
              cases h
          | ok others => exact List.forall_mem_cons.2 ⟨rfl, ih hrest⟩

/-! ### What a loop does -/

variable (L env body outer) in
/-- **What a loop does from turn `k` on**: what it writes, and the state that it leaves. -/
def outcome (k : Nat) (items : List Value) (s : State) : Outcome String :=
  (L.written k (L.turns env body outer k items s), Turn.last s (L.turns env body outer k items s))

/-- **A loop over two lists**, of which no turn breaks, does what it does over the first one, and
then, if no turn has failed, what it does over the second one. -/
theorem outcome_append {xs ys : List Value} {k : Nat} {s : State}
    (hbreaks : ∀ t ∈ L.turns env body outer k (xs ++ ys) s, t.breaks = false) :
    L.outcome env body outer k (xs ++ ys) s =
      match L.outcome env body outer k xs s with
      | (.ok a, t) =>
          let o := L.outcome env body outer (k + xs.length) ys t
          (o.1.map (a ++ ·), o.2)
      | (.error e, t) => (.error e, t) := by
  rw [turns_append] at hbreaks
  unfold outcome
  rw [turns_append]
  generalize hts : L.turns env body outer k xs s = ts at hbreaks ⊢
  have hgoes : ts.all Turn.goesOn = true ↔ ∀ t ∈ ts, t.succeeds = true := by
    rw [List.all_eq_true]
    refine forall₂_congr fun t ht => ?_
    rw [Turn.goesOn, hbreaks t (List.mem_append_left _ ht), Bool.not_false, Bool.and_true]
  cases hwritten : L.written k ts with
  | error e =>
      -- a turn has failed, and is the last one
      have hstops : ¬ ts.all Turn.goesOn = true := by
        intro hall
        rw [written_of_succeeds (hgoes.1 hall)] at hwritten
        cases hwritten
      simp only [if_neg hstops, List.append_nil, hwritten]
  | ok a =>
      have hall : ts.all Turn.goesOn = true := hgoes.2 (succeeds_of_written hwritten)
      have hlength : ts.length = xs.length := by
        rw [← hts]
        exact length_turns_of_goesOn (List.all_eq_true.1 (hts ▸ hall))
      simp only [if_pos hall, written_append, hwritten, Turn.last_append, hlength]
      cases L.written (k + xs.length) _ <;> rfl

/-- **Loops of bodies that do not look at their place do alike**, whatever the places are. -/
theorem turns_alike (hbody : body.Ignores env "forloop") {name : String} {n n' : Nat}
    {items : List Value} : ∀ {k k' : Nat} {s s' : State}, s.withInner [] = s'.withInner [] →
      List.Forall₂ Turn.Alike ((forItems name n).turns env body outer k items s)
        ((forItems name n').turns env body outer k' items s') := by
  induction items with
  | nil => exact fun _ => .nil
  | cons item rest ih =>
      intro k k' s s' hs
      have hframes : Scope.AgreesOn (· ≠ "forloop") ((forItems name n).frame k item)
          ((forItems name n').frame k' item) := by
        intro x hx
        have hkey : Key.name x ≠ .name "forloop" := fun h => hx (Key.name.inj h)
        rw [find?_frame, find?_frame]
        exact (if_neg hkey).trans (if_neg hkey).symm
      have hstacks : List.Forall₂ (Scope.AgreesOn (· ≠ "forloop"))
          ((forItems name n).frame k item :: outer) ((forItems name n').frame k' item :: outer) :=
        .cons hframes (List.forall₂_same.2 fun _ _ _ _ => rfl)
      have ht := hbody.turn_alike hs hstacks
      rw [turns, turns]
      generalize body.turn env (s.withInner _) = t at ht ⊢
      generalize body.turn env (s'.withInner _) = t' at ht ⊢
      have hon : t.goesOn = t'.goesOn := by
        rw [Turn.goesOn, Turn.goesOn, Turn.succeeds, Turn.succeeds, Turn.breaks, Turn.breaks,
          ht.result]
      cases hon' : t'.goesOn with
      | false => simpa [hon, hon'] using ht
      | true =>
          simp only [hon, hon', if_true]
          exact .cons ht (ih ht.left)

theorem outcome_alike (hbody : body.Ignores env "forloop") (name : String) (n n' k k' : Nat)
    (items : List Value) {s s' : State} (hs : s.withInner [] = s'.withInner []) :
    ((forItems name n).outcome env body outer k items s).SameEnd
      ((forItems name n').outcome env body outer k' items s') :=
  ⟨written_alike (turns_alike hbody hs) k k', Turn.last_alike (turns_alike hbody hs) hs⟩

/-- **A loop over two lists ends as two loops do** that count their own turns. -/
theorem outcome_pages (hbody : body.Ignores env "forloop") {name : String} {xs ys : List Value}
    {n : Nat} (n₁ n₂ : Nat) {s : State}
    (hbreaks : ∀ t ∈ (forItems name n).turns env body outer 0 (xs ++ ys) s, t.breaks = false) :
    ((forItems name n).outcome env body outer 0 (xs ++ ys) s).SameEnd
      (match (forItems name n₁).outcome env body outer 0 xs s with
      | (.ok a, t) =>
          let o := (forItems name n₂).outcome env body outer 0 ys (t.withInner outer)
          (o.1.map (a ++ ·), o.2)
      | (.error e, t) => (.error e, t)) := by
  rw [outcome_append hbreaks]
  have hfirst : Outcome.SameEnd _ ((forItems name n₁).outcome env body outer 0 xs s) :=
    outcome_alike hbody name n n₁ 0 0 xs rfl
  generalize (forItems name n).outcome env body outer 0 xs s = o at hfirst ⊢
  generalize (forItems name n₁).outcome env body outer 0 xs s = o₁ at hfirst ⊢
  obtain ⟨result, t⟩ := o
  obtain ⟨result₁, t₁⟩ := o₁
  obtain ⟨rfl, hleft⟩ := hfirst
  cases result with
  | error e => exact ⟨rfl, hleft⟩
  | ok a =>
      have hsecond : Outcome.SameEnd _
          ((forItems name n₂).outcome env body outer 0 ys (t₁.withInner outer)) :=
        outcome_alike hbody name n n₂ (0 + xs.length) 0 ys hleft
      exact ⟨congrArg (Except.map (a ++ ·)) hsecond.result, hsecond.left⟩

end Loop

/-! ### Two pages -/

namespace Engine

/-- A loop over a literal, with numbers for attributes. -/
def loopOver (t : Tag) (w v : Value) (body : Node) (numbers : List (String × Int)) : Node :=
  .tag t (.literal w :: .literal v :: body ::
    numbers.map fun a => .attribute a.1 (.literal (.int a.2)))

/-- The parts of such attributes. -/
def numberParts (numbers : List (String × Int)) : List Part :=
  numbers.map fun a => .attribute a.1 (pure (.int a.2))

variable {env : Surroundings} {t : Tag} {w v : Value} {body : Node} {n : Int} {s : State}
  {numbers : List (String × Int)}

/-- What such a loop does is said by its parts. -/
theorem render_loopOver (ht : t.body = .standard .for) :
    (loopOver t w v body numbers).render =
      Tags.forTag ((Node.literal w).part :: (Node.literal v).part :: body.part ::
        numberParts numbers) := by
  rw [loopOver, Node.render_tag, Tag.run_of_standard ht, Node.parts_eq_map]
  simp only [List.map_cons, List.map_map]
  rfl

/-- Attributes stand in no position. -/
theorem positional_loopOver (numbers : List (String × Int)) (p q b : Part)
    (hp : p.isAttribute = false) (hq : q.isAttribute = false) : Tags.positional (p :: q :: b :: numberParts numbers) =
      if b.isAttribute then [p, q] else [p, q, b] := by
  have hnumbers : (numberParts numbers).filter (!·.isAttribute) = [] := by
    rw [List.filter_eq_nil_iff]
    intro r hr
    obtain ⟨a, -, rfl⟩ := List.mem_map.1 hr
    simp [Part.isAttribute]
  cases hb : b.isAttribute <;> simp [Tags.positional, hp, hq, hb, hnumbers]

/-- An attribute is no body, and without one the loop is incomplete. -/
theorem runOn_loopOver_attribute (ht : t.body = .standard .for)
    (hbody : body.part.isAttribute = true) :
    (loopOver t w v body numbers).render.runOn env s = (.error .incompleteLoop, s) := by
  rw [render_loopOver ht, Tags.forTag, positional_loopOver _ _ _ _ rfl rfl, hbody]
  rfl

/-- The attributes of such a loop are its numbers. -/
theorem attributes_loopOver (p q b : Part) (hp : p.isAttribute = false) (hq : q.isAttribute = false)
    (hb : b.isAttribute = false) :
    Tags.attributes (p :: q :: b :: numberParts numbers) =
      Tags.attributes (numberParts numbers) := by
  cases p <;> cases hp
  all_goals cases q <;> cases hq
  all_goals cases b <;> cases hb
  all_goals rfl

/-- **Such a loop goes through the items that its offset and its limit leave.** -/
theorem runOn_loopOver (ht : t.body = .standard .for) (hbody : body.part.isAttribute = false)
    (hkeeps : body.part.KeepsScopes env) {offset? limit? : Option Int}
    (hnumbers : ∀ s, let A := Tags.attributes (numberParts numbers)
      (Tags.integerAttribute A "offset").runOn env s = (.ok offset?, s) ∧
      (Tags.integerAttribute A "limit").runOn env s = (.ok limit?, s) ∧
      (Tags.flagAttribute A "reversed").runOn env s = (.ok false, s)) (s : State) :
    (loopOver t w v body numbers).render.runOn env s =
      match w.text, v.listed with
      | .error f, _ => (.error (.fault f), s)
      | .ok _, .error f => (.error (.fault f), s)
      | .ok name, .ok items =>
          let kept := Tags.window offset? limit? false items
          let o := (Loop.forItems name kept.length).outcome env body.part s.context.inner 0 kept s
          (o.1.map .str, o.2.withInner s.context.inner) := by
  have hparts := positional_loopOver numbers (Node.literal w).part (Node.literal v).part body.part
    rfl rfl
  rw [hbody, if_neg Bool.false_ne_true] at hparts
  have hname : (Node.literal w).part.text.runOn env s = (w.text.mapError .fault, s) := rfl
  have hvalue : (Node.literal v).part.run.runOn env s = (.ok v, s) := rfl
  have hlist : (Render.liftFault v.listed).runOn env s = (v.listed.mapError .fault, s) := rfl
  obtain ⟨hoffset, hlimit, hreversed⟩ := hnumbers s
  rw [render_loopOver ht]
  cases htext : w.text with
  | error f =>
      rw [htext] at hname
      unfold Tags.forTag
      simp only [hparts]
      rw [Render.runOn_bind_error _ _ hname]
  | ok name =>
      rw [htext] at hname
      cases hlisted : v.listed with
      | error f =>
          rw [hlisted] at hlist
          unfold Tags.forTag Tags.collectItems
          simp only [hparts]
          rw [Render.runOn_bind_ok _ _ hname, Render.runOn_bind, Render.runOn_bind_ok _ _ hvalue,
            hlisted, Render.runOn_bind_error _ _ hlist]
      | ok items =>
          refine Tags.runOn_forTag hparts hkeeps hname ?_
          rw [attributes_loopOver _ _ _ rfl rfl hbody, Tags.collectItems,
            Render.runOn_bind_ok _ _ hvalue, hlisted]
          rw [hlisted] at hlist
          rw [Render.runOn_bind_ok _ _ hlist, Render.runOn_bind_ok _ _ hoffset,
            Render.runOn_bind_ok _ _ hlimit, Render.runOn_bind_ok _ _ hreversed]
          rfl

/-- A block ends with an error of its first node. -/
theorem runOn_block_error {a : Node} {rest : List Node} {e : Error} {s₁ : State}
    (ha : a.render.runOn env s = (.error e, s₁)) :
    (Node.block (a :: rest)).render.runOn env s = (.error e, s₁) := by
  rw [Node.render_block, Node.parts, renderSequence, renderSequenceFrom]
  exact Render.runOn_bind_error _ _ ha

/-- A block of two nodes that give texts gives both in a row. -/
theorem runOn_block_ok {a b : Node} {x : String} {y : Except Error String} {s₁ s₂ : State}
    (ha : a.render.runOn env s = (.ok (.str x), s₁))
    (hb : b.render.runOn env s₁ = (y.map .str, s₂)) :
    (Node.block [a, b]).render.runOn env s = ((y.map (x ++ ·)).map .str, s₂) := by
  rw [Node.render_block, Node.parts, Node.parts, Node.parts, renderSequence, renderSequenceFrom]
  refine (Render.runOn_bind_ok _ _ ha).trans ?_
  rw [Render.runOn_bind_ok _ _ (Render.runOn_split _ _ (Value.split_str x))]
  simp only [renderSequenceFrom, String.empty_append]
  cases y with
  | error e => exact Render.runOn_bind_error _ _ hb
  | ok z =>
      refine (Render.runOn_bind_ok _ _ hb).trans ?_
      rw [Render.runOn_bind_ok _ _ (Render.runOn_split _ _ (Value.split_str z))]
      rfl

/-- **Two pages do what the loop does in one piece.** -/
theorem runOn_pages (ht : t.body = .standard .for) (hbody : body.part.Ignores env "forloop")
    (hbreaks : ∀ name items, w.text = .ok name → v.listed = .ok items →
      ∀ u ∈ (Loop.forItems name items.length).turns env body.part s.context.inner 0 items s,
        u.breaks = false) :
    (Node.block [loopOver t w v body [("limit", n)],
      loopOver t w v body [("offset", n)]]).render.runOn env s =
        (loopOver t w v body []).render.runOn env s := by
  cases hattribute : body.part.isAttribute with
  | true =>
      rw [runOn_loopOver_attribute ht hattribute]
      exact runOn_block_error (runOn_loopOver_attribute ht hattribute)
  | false =>
      have hkeeps := hbody.keepsScopes
      have hwhole : (loopOver t w v body []).render.runOn env s = _ :=
        runOn_loopOver ht hattribute hkeeps (fun _ => ⟨rfl, rfl, rfl⟩) s
      have hfirst : (loopOver t w v body [("limit", n)]).render.runOn env s = _ :=
        runOn_loopOver ht hattribute hkeeps (fun _ => ⟨rfl, rfl, rfl⟩) s
      have hsecond (s : State) : (loopOver t w v body [("offset", n)]).render.runOn env s = _ :=
        runOn_loopOver ht hattribute hkeeps (fun _ => ⟨rfl, rfl, rfl⟩) s
      rw [hwhole]
      cases htext : w.text with
      | error f =>
          rw [htext] at hfirst
          exact runOn_block_error hfirst
      | ok name =>
          cases hlisted : v.listed with
          | error f =>
              rw [htext, hlisted] at hfirst
              exact runOn_block_error hfirst
          | ok items =>
              have hbreaks := hbreaks name items htext hlisted
              simp only [htext, hlisted, Tags.window, Bool.false_eq_true, if_false]
                at hfirst hsecond ⊢
              have hpages := Loop.outcome_pages hbody (items.take n.toNat).length
                (items.drop n.toNat).length (List.take_append_drop n.toNat items ▸ hbreaks)
              rw [List.take_append_drop] at hpages
              generalize (Loop.forItems name (items.take n.toNat).length).outcome env body.part
                s.context.inner 0 (items.take n.toNat) s = o₁ at hfirst hpages
              obtain ⟨result₁, t₁⟩ := o₁
              rw [hpages.result, State.withInner_congr hpages.left]
              cases result₁ with
              | error e => exact runOn_block_error hfirst
              | ok a => exact runOn_block_ok hfirst (hsecond _)

/-- **Two pages are the loop in one piece.**  The body of a loop may be every tree of standard tags
that does not look up `forloop`, on an engine whose templates do not look it up, either, and every
other part that cannot tell what it is.  Where no turn of the loop breaks, a page of the first `n`
items and a page of the others behind it give its text, or fail with its error, and leave the state
that it leaves: the variables, the cycles and the notes. -/
theorem pages_are_whole :
    (∀ {e : Engine}, (e.MadeOf fun _ => true) →
      (∀ key n, e.findTemplate key = .ok n → .variable "forloop" ∉ n.mentions) →
      ∀ {n : Node}, n.isMadeOf (fun _ => true) = true → .variable "forloop" ∉ n.mentions →
        ∀ now depth, n.part.Ignores (e.surroundings now depth) "forloop") ∧
    ∀ {env : Surroundings} {t : Tag} {w v : Value} {body : Node} {n : Int} {s : State},
      t.body = .standard .for → body.part.Ignores env "forloop" →
      (∀ name items, w.text = .ok name → v.listed = .ok items →
        ∀ u ∈ (Loop.forItems name items.length).turns env body.part s.context.inner 0 items s,
          u.breaks = false) →
        (Node.block [loopOver t w v body [("limit", n)],
          loopOver t w v body [("offset", n)]]).render.runOn env s =
            (loopOver t w v body []).render.runOn env s :=
  ⟨fun he hx _ hn hnx now depth => ignores_part he hx hn hnx now depth, runOn_pages⟩

/-- A body that writes its item and the next value of a cycle. -/
def countingBody : Node :=
  .block [.lookup "i" [], .tag (.ofStandard .cycle) [.literal .nil, .text "a", .text "b"]]

/-- Two items, one for each page. -/
def twoItems : List Value := [.str "x", .str "y"]

/-- On the second page the cycle goes on where the first one has left it. -/
theorem pages_are_whole_counting :
    ((Node.block
      [loopOver (.ofStandard .for) (.str "i") (.list twoItems) countingBody [("limit", 1)],
        loopOver (.ofStandard .for) (.str "i") (.list twoItems) countingBody
          [("offset", 1)]]).render.runOn ((new {}).surroundings default 1)
            ((new {}).start (.ofVariables ∅) ∅)).1 = .ok (.str "xayb") := by
  have he : (new {}).MadeOf fun _ => true := fun key n hn => by
    cases hn
  have hbody := pages_are_whole.1 he (fun key n hn => by cases hn) (n := countingBody) rfl
    (by decide) default 1
  have hpages := pages_are_whole.2 (t := .ofStandard .for) (w := .str "i") (v := .list twoItems)
    (n := 1) (s := (new {}).start (.ofVariables ∅) ∅) rfl hbody
  rw [hpages]
  · rfl
  · intro name items hname hitems
    rw [Value.text_str] at hname
    obtain rfl := Except.ok.inj hname
    obtain rfl : twoItems = items := Except.ok.inj hitems
    intro u hu
    have hall : ((Loop.forItems "i" 2).turns ((new {}).surroundings default 1) countingBody.part []
        0 twoItems ((new {}).start (.ofVariables ∅) ∅)).all (fun u => !u.breaks) = true := by
      decide
    simpa using List.all_eq_true.1 hall u hu

end Engine

end TemplateEngine
