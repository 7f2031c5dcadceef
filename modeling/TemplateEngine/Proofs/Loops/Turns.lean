/-
**The turns of a loop, one by one.**

Both loops bind an item and a place for each turn, render the body, write something for its text,
and stop at a break.  The turns of such a loop are listed here, each with the state in which its
body is rendered, what the body gives, and the state that it leaves; and the loop is shown to be
these turns and no others.

A body may do anything but change the scopes around it, and so every tree of standard tags is one.

Main definitions:

* `Turn`, `Part.turn` — one render of a body;
* `Part.KeepsScopes` — bodies that leave the scopes around them alone;
* `Loop`, `Loop.run` — the two loops as one;
* `Loop.turns`, `Turn.last` — **the turns of a loop**, and the state behind them;
* `Loop.Course` — what the turns are like.

Main results:

* `Loop.runOn_run` — a loop writes what its turns give, and leaves the state behind them;
* `Loop.course_turns` — **each turn goes on from the one before, and only a break ends them early**.
-/
import TemplateEngine.Proofs.Scopes

set_option autoImplicit false

namespace TemplateEngine

/-! ### One render of a body -/

/-- One render of the body of a loop. -/
structure Turn where
  /-- The state in which the body is rendered. -/
  entered : State
  /-- The text and the signal of what the body gives. -/
  result : Except Error (String × Option Signal)
  /-- The state that the body leaves. -/
  left : State

namespace Turn

/-- Whether the body gives something that has a text. -/
def succeeds (t : Turn) : Bool := t.result.isOk

/-- Whether the body gives a signal to leave the loop. -/
def breaks (t : Turn) : Bool :=
  match t.result with
  | .ok (_, signal?) => signal? = some .break
  | .error _ => false

/-- The text of a turn, **also of one that a signal has cut short**. -/
def text (t : Turn) : String :=
  match t.result with
  | .ok (text, _) => text
  | .error _ => ""

/-- Whether the loop goes on behind a turn. -/
def goesOn (t : Turn) : Bool := t.succeeds && !t.breaks

/-- The state behind some turns that have begun in `s`. -/
def last (s : State) : List Turn → State
  | [] => s
  | t :: rest => last t.left rest

end Turn

namespace Part

/-- The render of a body in a state. -/
def turn (body : Part) (env : Surroundings) (s : State) : Turn :=
  let o := (body.run >>= Render.split).runOn env s
  ⟨s, o.1, o.2⟩

/-- **A body that leaves the scopes around it alone**, whatever the end of its render. -/
def KeepsScopes (body : Part) (env : Surroundings) : Prop :=
  ∀ s : State, (body.run.runOn env s).2.context.inner = s.context.inner

variable {body : Part} {env : Surroundings}

/-- To take apart what a body gives changes nothing. -/
theorem KeepsScopes.inner_turn (h : body.KeepsScopes env) (s : State) :
    (body.turn env s).left.context.inner = s.context.inner := by
  have hs := h s
  unfold turn
  rw [Render.runOn_bind]
  generalize body.run.runOn env s = o at hs ⊢
  obtain ⟨result, t⟩ := o
  cases result with
  | error e => exact hs
  | ok v => exact hs

/-- What a loop takes from its body: the text, and whether it stops. -/
theorem runOn_runBody (s : State) :
    (Tags.runBody body).runOn env s =
      ((body.turn env s).result.map fun r => (r.1, decide (r.2 = some .break)),
        (body.turn env s).left) := by
  have hbind : Tags.runBody body =
      (body.run >>= Render.split) >>= fun r => pure (r.1, decide (r.2 = some .break)) := by
    rw [Render.bind_bind]
    rfl
  rw [hbind, Render.runOn_bind, turn]
  generalize (body.run >>= Render.split).runOn env s = o
  obtain ⟨result, t⟩ := o
  cases result <;> rfl

end Part

/-- **A tree of standard tags leaves the scopes around it alone.** -/
theorem Engine.keepsScopes_part {e : Engine} {kinds : StandardTag → Bool} (he : e.MadeOf kinds)
    {n : Node} (hn : n.isMadeOf kinds = true) (now : Moment) (depth : Nat) :
    n.part.KeepsScopes (e.surroundings now depth) :=
  fun s => (keeps_node he hn now depth s).inner

/-! ### The two loops as one -/

/-- What tells one loop from another. -/
structure Loop where
  /-- The name that the items are bound to. -/
  itemName : String
  /-- The name under which the body can read its place. -/
  placeName : String
  /-- What the body can read about its place. -/
  place : Nat → Value
  /-- What is written for a turn with a text, which may be the last one because it breaks. -/
  mark : Nat → String → Bool → String

namespace Loop

variable (L : Loop)

/-- The scope of a turn. -/
def frame (i : Nat) (item : Value) : Scope :=
  Table.ofList [(.name L.itemName, item), (.name L.placeName, L.place i)]

/-- The loop from turn `i` on. -/
def run (body : Part) : Nat → List Value → Render String
  | _, [] => pure ""
  | i, item :: rest => do
      Render.bindLocal L.itemName item
      Render.bindLocal L.placeName (L.place i)
      let (text, stop) ← Tags.runBody body
      if stop then return L.mark i text true
      else
        let others ← run body (i + 1) rest
        return L.mark i text false ++ others

/-- **The turns of a loop from turn `i` on**: each begins in the state that the one before has
left, with its own scope on top of `outer`, and those that fail or break are the last. -/
def turns (env : Surroundings) (body : Part) (outer : List Scope) :
    Nat → List Value → State → List Turn
  | _, [], _ => []
  | i, item :: rest, s =>
      let t := body.turn env (s.withInner (L.frame i item :: outer))
      if t.goesOn then t :: turns env body outer (i + 1) rest t.left else [t]

/-- What a loop writes for its turns from turn `i` on; a turn that fails is an error. -/
def written : Nat → List Turn → Except Error String
  | _, [] => .ok ""
  | i, t :: rest =>
      match t.result with
      | .ok (text, signal?) =>
          (written (i + 1) rest).map (L.mark i text (signal? = some .break) ++ ·)
      | .error e => .error e

/-- A scope that has held nothing, or what a turn has bound. -/
def IsFrame (f : Scope) : Prop := f = ∅ ∨ ∃ i item, f = L.frame i item

variable {L} {env : Surroundings} {body : Part} {outer : List Scope} {s : State} {f : Scope}

/-- **Each turn binds its two names anew, and nothing else.** -/
theorem IsFrame.bind (h : L.IsFrame f) (i : Nat) (item : Value) :
    (f.insert L.itemName item).insert L.placeName (L.place i) = L.frame i item := by
  have hempty : ((∅ : Scope).insert (Key.name L.itemName) item).insert (Key.name L.placeName)
      (L.place i) = L.frame i item := rfl
  obtain rfl | ⟨j, x, rfl⟩ := h
  · exact hempty
  · refine Eq.trans ?_ hempty
    by_cases hname : Key.name L.itemName = Key.name L.placeName
    · simp [frame, Table.ofList, Table.insertAll, Table.insert, Table.empty, Bindings.insert,
        hname, EmptyCollection.emptyCollection]
    · simp [frame, Table.ofList, Table.insertAll, Table.insert, Table.empty, Bindings.insert,
        hname, EmptyCollection.emptyCollection]

/-- The bindings of a turn are made in the innermost scope. -/
theorem runOn_bindLocal (h : s.context.inner = f :: outer) (name : String) (v : Value) :
    (Render.bindLocal name v).runOn env s = (.ok (), s.withInner (f.insert name v :: outer)) := by
  show (Except.ok (), { s with context := s.context.bind name v }) = _
  rw [Context.bind, h]
  rfl

/-- **A loop writes what its turns give, and leaves the state behind them.** -/
theorem runOn_run (hbody : body.KeepsScopes env) {items : List Value} :
    ∀ {i : Nat} {s : State} {f : Scope}, s.context.inner = f :: outer → L.IsFrame f →
      (L.run body i items).runOn env s =
        (L.written i (L.turns env body outer i items s),
          Turn.last s (L.turns env body outer i items s)) := by
  induction items with
  | nil => exact fun _ _ => rfl
  | cons item rest ih =>
      intro i s f hinner hframe
      rw [run, Render.runOn_bind_ok _ _ (runOn_bindLocal hinner _ _),
        Render.runOn_bind_ok _ _ (runOn_bindLocal (State.inner_withInner _ _) _ _),
        State.withInner_withInner, hframe.bind i item, Render.runOn_bind, Part.runOn_runBody, turns]
      -- the turn is now the same on both sides
      have hleft := hbody.inner_turn (s.withInner (L.frame i item :: outer))
      generalize body.turn env (s.withInner (L.frame i item :: outer)) = t at hleft ⊢
      obtain ⟨entered, result, left⟩ := t
      cases result with
      | error e => rfl
      | ok r =>
          obtain ⟨text, signal?⟩ := r
          by_cases hbreak : signal? = some .break
          · subst hbreak
            show (Except.ok (L.mark i text true), left) =
              (Except.ok (L.mark i text true ++ ""), left)
            rw [String.append_empty]
          · have hon : Turn.goesOn ⟨entered, .ok (text, signal?), left⟩ = true := by
              simp [Turn.goesOn, Turn.succeeds, Turn.breaks, Except.isOk, Except.toBool, hbreak]
            have hrest := ih (i := i + 1) hleft (.inr ⟨i, item, rfl⟩)
            simp only [Except.map, hbreak, decide_false, Bool.false_eq_true, if_false, hon, if_true,
              Render.runOn_bind, hrest, written, Turn.last]
            cases L.written (i + 1) (L.turns env body outer (i + 1) rest left) <;> rfl

/-- Which scopes were there before its own does not matter to a turn. -/
theorem turns_withInner (i : Nat) (items : List Value) (s : State) (inner : List Scope) :
    L.turns env body outer i items (s.withInner inner) = L.turns env body outer i items s := by
  cases items <;> rfl

/-- Behind its turns a loop has one scope more than there is outside. -/
theorem inner_last (hbody : body.KeepsScopes env) : ∀ (items : List Value) {i : Nat} {s : State}
    {f : Scope}, s.context.inner = f :: outer →
      ∃ f', (Turn.last s (L.turns env body outer i items s)).context.inner = f' :: outer
  | [], _, _, f, h => ⟨f, h⟩
  | item :: rest, i, s, f, _ => by
      have hleft := hbody.inner_turn (s.withInner (L.frame i item :: outer))
      rw [turns]
      split
      · exact inner_last hbody rest hleft
      · exact ⟨_, hleft⟩

/-- **A loop in a scope of its own** writes what its turns give, and takes that scope away. -/
theorem runOn_inScope (hbody : body.KeepsScopes env) (items : List Value) (s : State) :
    (Render.inScope ∅ (L.run body 0 items)).runOn env s =
      (L.written 0 (L.turns env body s.context.inner 0 items s),
        (Turn.last s (L.turns env body s.context.inner 0 items s)).withInner s.context.inner) := by
  have hopen : (s.withInner (∅ :: s.context.inner)).context.inner = ∅ :: s.context.inner := rfl
  have hrun : (L.run body 0 items).runOn env _ = _ := runOn_run hbody hopen (.inl rfl)
  obtain ⟨f, hlast⟩ := inner_last (L := L) hbody items (i := 0) hopen
  rw [Render.runOn_inScope, hrun]
  simp only [hlast, List.tail_cons]
  rw [turns_withInner]
  cases L.turns env body s.context.inner 0 items s <;> rfl

/-- A loop whose turns all succeed writes the marks of its turns in a row. -/
theorem written_of_succeeds {ts : List Turn} (h : ∀ t ∈ ts, t.succeeds = true) : ∀ i : Nat,
    L.written i ts = .ok (String.join (ts.mapIdx fun j t => L.mark (i + j) t.text t.breaks)) := by
  induction ts with
  | nil => exact fun _ => rfl
  | cons t rest ih =>
      intro i
      have ht := h t List.mem_cons_self
      obtain ⟨entered, result, left⟩ := t
      cases result with
      | error e => cases ht
      | ok r =>
          rw [written, ih (fun u hu => h u (List.mem_cons_of_mem _ hu)), List.mapIdx_cons]
          simp only [Except.map, String.join_cons, Nat.add_zero, Nat.add_assoc, Nat.add_comm 1,
            Turn.text, Turn.breaks]

/-! ### What the turns are like -/

variable {items : List Value}

/-- **Each turn is a render of the body** in the state that the turn before has left, with a scope
of its own on top. -/
theorem getElem?_turns {items : List Value} : ∀ {k i : Nat} {s : State} {t : Turn},
    (L.turns env body outer k items s)[i]? = some t → ∃ item, items[i]? = some item ∧
      t = body.turn env ((Turn.last s ((L.turns env body outer k items s).take i)).withInner
        (L.frame (k + i) item :: outer)) := by
  induction items with
  | nil => exact fun h => by cases h
  | cons item rest ih =>
      intro k i s t h
      rw [turns] at h ⊢
      generalize hu : body.turn env (s.withInner (L.frame k item :: outer)) = u at h ⊢
      cases i with
      | zero =>
          refine ⟨item, rfl, ?_⟩
          have htu : t = u := by
            split at h
            · exact (Option.some.inj h).symm
            · exact (Option.some.inj h).symm
          rw [htu, ← hu]
          rfl
      | succ i =>
          split at h
          · next hon =>
              obtain ⟨x, hx, ht⟩ := ih h
              refine ⟨x, hx, ?_⟩
              rw [ht, if_pos hon, List.take_succ_cons, Turn.last]
              have : k + 1 + i = k + (i + 1) := by omega
              rw [this]
          · cases h

/-- There is at most one turn for each item. -/
theorem length_turns_le : ∀ {items : List Value} (k : Nat) (s : State),
    (L.turns env body outer k items s).length ≤ items.length
  | [], _, _ => Nat.le_refl _
  | item :: rest, k, s => by
      rw [turns]
      split
      · exact Nat.succ_le_succ (length_turns_le (k + 1) _)
      · exact Nat.succ_le_succ (Nat.zero_le _)

/-- **Behind a turn that fails or breaks there is no other.** -/
theorem length_turns_of_stops : ∀ {items : List Value} {k i : Nat} {s : State} {t : Turn},
    (L.turns env body outer k items s)[i]? = some t → t.goesOn = false →
      (L.turns env body outer k items s).length = i + 1
  | [], _, _, _, _, h, _ => by cases h
  | item :: rest, k, i, s, t, h, hstops => by
      rw [turns] at h ⊢
      split at h
      · next hon =>
          rw [if_pos hon]
          cases i with
          | zero =>
              obtain rfl := Option.some.inj h
              rw [hon] at hstops
              cases hstops
          | succ i =>
              rw [List.length_cons, length_turns_of_stops h hstops]
      · next hoff =>
          rw [if_neg hoff]
          cases i with
          | zero => rfl
          | succ i => cases h

/-- **Where no turn fails or breaks, there is one for each item.** -/
theorem length_turns_of_goesOn : ∀ {items : List Value} {k : Nat} {s : State},
    (∀ t ∈ L.turns env body outer k items s, t.goesOn = true) →
      (L.turns env body outer k items s).length = items.length
  | [], _, _, _ => rfl
  | item :: rest, k, s, h => by
      rw [turns] at h ⊢
      split at h
      · next hon =>
          rw [if_pos hon, List.length_cons, List.length_cons,
            length_turns_of_goesOn fun t ht => h t (List.mem_cons_of_mem _ ht)]
      · next hoff => exact (hoff (h _ List.mem_cons_self)).elim

/-- **The course of a loop** over some items, from the state `s` in which they are known, where no
turn fails. -/
structure Course (env : Surroundings) (body : Part) (items : List Value) (s : State)
    (ts : List Turn) : Prop where
  /-- Every turn is a render of the body. -/
  rendered {i : Nat} {t : Turn} : ts[i]? = some t → t = body.turn env t.entered
  /-- Apart from its own scope a turn begins in the state that the turn before has left. -/
  follows {i : Nat} {t : Turn} : ts[i]? = some t → t.entered.withInner s.context.inner =
    (Turn.last s (ts.take i)).withInner s.context.inner
  /-- The first turn that breaks is the last one. -/
  stops {i : Nat} {t : Turn} : ts[i]? = some t → t.breaks = true → ts.length = i + 1
  /-- If none breaks, there is one turn for each item. -/
  completes : (∀ t ∈ ts, t.breaks = false) → ts.length = items.length

/-- **The turns of a loop are its course.** -/
theorem course_turns (hok : ∀ t ∈ L.turns env body s.context.inner 0 items s, t.succeeds = true) :
    Course env body items s (L.turns env body s.context.inner 0 items s) where
  rendered h := by
    obtain ⟨item, -, ht⟩ := getElem?_turns h
    rw [ht]
    rfl
  follows h := by
    obtain ⟨item, -, ht⟩ := getElem?_turns h
    rw [ht]
    rfl
  stops h hbreaks := length_turns_of_stops h (by rw [Turn.goesOn, hbreaks, Bool.not_true,
    Bool.and_false])
  completes h := length_turns_of_goesOn fun t ht => by
    rw [Turn.goesOn, hok t ht, h t ht, Bool.not_false, Bool.and_true]

end Loop

/-- **What the body sees in a turn**: a scope on top of `outer` that binds the item and what can be
read about its place, and nothing else, the place where both have one name. -/
structure Turn.Sees (t : Turn) (outer : List Scope) (itemName : String) (item : Value)
    (placeName : String) (fields : List (Value × Value)) : Prop where
  scope : ∃ frame : Scope, t.entered.context.inner = frame :: outer ∧ ∀ key : Key,
    frame.find? key = if key = .name placeName then some (.map fields)
      else if key = .name itemName then some item else none
  /-- Every other name has the value that it has outside of the loop. -/
  elsewhere (key : Key) : key ≠ .name itemName → key ≠ .name placeName →
    t.entered.context.find? key = (t.entered.withInner outer).context.find? key

namespace Loop

variable {L : Loop} {env : Surroundings} {body : Part} {outer : List Scope} {items : List Value}
  {s : State}

/-- The scope of a turn binds two names, and the place last. -/
theorem find?_frame (i : Nat) (item : Value) (key : Key) :
    (L.frame i item).find? key = if key = .name L.placeName then some (L.place i)
      else if key = .name L.itemName then some item else none := by
  show (((∅ : Scope).insert (Key.name L.itemName) item).insert (Key.name L.placeName)
    (L.place i)).find? key = _
  rw [Table.find?_insert, Table.find?_insert]
  rfl

/-- Each turn of a loop sees its item and its place. -/
theorem sees_turn {i : Nat} {t : Turn} (h : (L.turns env body outer 0 items s)[i]? = some t)
    {fields : List (Value × Value)} (hplace : L.place i = .map fields) :
    ∃ item, items[i]? = some item ∧ t.Sees outer L.itemName item L.placeName fields := by
  obtain ⟨item, hitem, ht⟩ := getElem?_turns h
  rw [Nat.zero_add] at ht
  have hinner : t.entered.context.inner = L.frame i item :: outer := by
    rw [ht]
    rfl
  refine ⟨item, hitem, ⟨L.frame i item, hinner, fun key => ?_⟩, fun key hname hplacename => ?_⟩
  · rw [find?_frame, hplace]
  · have hnone : (L.frame i item).find? key = none := by
      rw [find?_frame, if_neg hplacename, if_neg hname]
    rw [Context.find?_eq_or, Context.find?_eq_or, hinner, State.inner_withInner,
      List.findSome?_cons, hnone]
    rfl

end Loop

/-! ### What can be read about a place -/

/-- **What the body reads about turn `i` of `n`**, counted from zero. -/
structure TellsTurn (fields : List (Value × Value)) (itemName : String) (n i : Nat) : Prop where
  name : Value.lookupEntry fields (.str "name") = some (.str itemName)
  length : Value.lookupEntry fields (.str "length") = some (.int n)
  index : Value.lookupEntry fields (.str "index") = some (.int (i + 1))
  index0 : Value.lookupEntry fields (.str "index0") = some (.int i)
  rindex : Value.lookupEntry fields (.str "rindex") = some (.int (n - i))
  rindex0 : Value.lookupEntry fields (.str "rindex0") = some (.int (n - i - 1))
  first : Value.lookupEntry fields (.str "first") = some (.bool (i = 0))
  last : Value.lookupEntry fields (.str "last") = some (.bool (i + 1 = n))

/-- The fields of a turn tell its place, whatever stands behind them. -/
theorem tellsTurn_turnFields (itemName : String) (n i : Nat) (more : List (Value × Value)) :
    TellsTurn (Tags.turnFields itemName i n ++ more) itemName n i where
  name := rfl
  length := rfl
  index := rfl
  index0 := rfl
  rindex := rfl
  rindex0 := rfl
  first := rfl
  last := rfl

end TemplateEngine
