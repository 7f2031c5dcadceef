/-
**Cycles take turns.**

A `cycle` tag has a group or none, and values.  When it completes it shows one of its values, by the
number of times that cycles with its key have completed before: the first one shows the first
value, and behind the last value the first one comes again.  Cycles of a group have its text for a
key, so they go on where another one of the group has stopped, even if they have other values, or
another number of them; cycles without a group have the texts of their values for a key.

What a list of completed cycles shows is said key by key: the cycles with one key, in the order of
time, show the values with the numbers 0, 1, 2 and so on, each counted round through its own
values.  So nothing depends on what comes between two cycles with one key.

Main definitions:

* `Cycle`, `Cycle.Sound` — a cycle that is to go on, and what is known of its key and its values;
* `Cycled` — a cycle that has completed;
* `Cycled.TakesTurns` — **the cycles with one key take turns**;
* `Cycled.Accounts` — completed cycles that account for what is counted.

Main results:

* `CycleKey.Of.unnamed_inj` — cycles without a group share a key iff they have the same texts;
* `Cycled.Accounts.concat` — one more cycle;
* `Node.runOn_cycle` — **a cycle that fails has not gone on**.
-/
import Mathlib.Data.List.Forall2
import TemplateEngine.Proofs.Writing
import TemplateEngine.Proofs.Yields

set_option autoImplicit false

namespace TemplateEngine

/-! ### Keys -/

namespace CycleKey

/-- **The key of a cycle**: the text of its group or, if it has none, the texts of its values. -/
inductive Of (group : Value) (values : List Value) : CycleKey → Prop
  | named {name : String} : group ≠ .nil → group.text = .ok name → Of group values (.group name)
  | unnamed {texts : List String} : group = .nil →
      List.Forall₂ (fun v text => v.text = .ok text) values texts → Of group values (.values texts)

variable {group group' : Value} {values values' : List Value} {key key' : CycleKey}

/-- **Two cycles with groups share a key if and only if the groups have one text**, whatever their
values are. -/
theorem Of.named_inj (h : Of group values key) (h' : Of group' values' key') (hg : group ≠ .nil)
    (hg' : group' ≠ .nil) : key = key' ↔ group.text = group'.text := by
  cases h with
  | unnamed hnil _ => exact absurd hnil hg
  | named _ htext =>
      cases h' with
      | unnamed hnil _ => exact absurd hnil hg'
      | named _ htext' => simp [htext, htext']

/-- **A cycle with a group and one without never share a key.** -/
theorem Of.named_ne_unnamed (h : Of group values key) (h' : Of group' values' key')
    (hg : group ≠ .nil) (hg' : group' = .nil) : key ≠ key' := by
  cases h with
  | unnamed hnil _ => exact absurd hnil hg
  | named _ _ =>
      cases h' with
      | named hne _ => exact absurd hg' hne
      | unnamed _ _ => exact fun h => by cases h

/-- Values have the same texts, one by one, if and only if the lists of their texts are equal. -/
theorem texts_eq_iff {texts : List String}
    (h : List.Forall₂ (fun v text => Value.text v = .ok text) values texts) :
    ∀ {values' texts'}, List.Forall₂ (fun v text => Value.text v = .ok text) values' texts' →
      (texts = texts' ↔ List.Forall₂ (fun v v' => v.text = v'.text) values values') := by
  induction h with
  | nil =>
      intro values' texts' h'
      cases h' with
      | nil => exact ⟨fun _ => .nil, fun _ => rfl⟩
      | cons _ _ => exact ⟨nofun, nofun⟩
  | cons hv _ ih =>
      intro values' texts' h'
      cases h' with
      | nil => exact ⟨nofun, nofun⟩
      | cons hv' hrest =>
          rw [List.cons.injEq, List.forall₂_cons, hv, hv', Except.ok.injEq, ih hrest]

/-- **Two cycles without groups share a key if and only if their values have the same texts**, one
by one. -/
theorem Of.unnamed_inj (h : Of group values key) (h' : Of group' values' key') (hg : group = .nil)
    (hg' : group' = .nil) :
    key = key' ↔ List.Forall₂ (fun v v' => v.text = v'.text) values values' := by
  cases h with
  | named hne _ => exact absurd hg hne
  | unnamed _ htexts =>
      cases h' with
      | named hne _ => exact absurd hg' hne
      | unnamed _ htexts' =>
          rw [CycleKey.values.injEq]
          exact texts_eq_iff htexts htexts'

end CycleKey

/-! ### Cycles -/

/-- A cycle that is to go on: its group, nil if it has none, its values, and its key. -/
structure Cycle where
  group : Value
  values : List Value
  key : CycleKey

namespace Cycle

/-- The key of a cycle is that of its group and its values, of which there is at least one. -/
structure Sound (c : Cycle) : Prop where
  key : CycleKey.Of c.group c.values c.key
  values : c.values ≠ []

/-- The value at a position, counted round through the values. -/
def due (c : Cycle) (position : Nat) : Value := (c.values[position % c.values.length]?).getD .nil

/-- There is a value at every position. -/
theorem Sound.getElem?_due {c : Cycle} (h : c.Sound) (position : Nat) :
    c.values[position % c.values.length]? = some (c.due position) := by
  have hlt : position % c.values.length < c.values.length :=
    Nat.mod_lt _ (List.length_pos_iff.2 h.values)
  rw [due, List.getElem?_eq_getElem hlt, Option.getD_some]

end Cycle

/-- **A cycle that has completed**, and the value that it has shown. -/
structure Cycled extends Cycle where
  shown : Value

namespace Cycled

/-- The cycles with a key, in the order of time. -/
def withKey (key : CycleKey) (log : List Cycled) : List Cycled := log.filter (·.key = key)

/-- **The cycles with one key take turns**: if those before the list are counted in `start`, then
each of them shows the value with its number, counted round through its own values. -/
def TakesTurns (start : Table CycleKey Nat) (log : List Cycled) : Prop :=
  ∀ key j c, (withKey key log)[j]? = some c →
    c.toCycle.Sound ∧
      c.values[((start.find? key).getD 0 + j) % c.values.length]? = some c.shown

/-- **Completed cycles that account for what is counted**: they take turns, and for each key there
are as many of them as have been added to its count. -/
structure Accounts (start : Table CycleKey Nat) (log : List Cycled) (cycles : Table CycleKey Nat) :
    Prop where
  turns : TakesTurns start log
  counts (key : CycleKey) :
    (cycles.find? key).getD 0 = (start.find? key).getD 0 + (withKey key log).length

variable {start cycles : Table CycleKey Nat} {log : List Cycled}

theorem withKey_concat (key : CycleKey) (log : List Cycled) (c : Cycled) :
    withKey key (log ++ [c]) =
      if c.key = key then withKey key log ++ [c] else withKey key log := by
  rw [withKey, List.filter_append, List.filter_singleton]
  by_cases hkey : c.key = key
  · simp [hkey, withKey]
  · simp [hkey, withKey]

/-- Before the first cycle there is nothing to account for. -/
theorem accounts_nil (start : Table CycleKey Nat) : Accounts start [] start :=
  ⟨nofun, fun _ => rfl⟩

/-- **One more cycle**: it shows what is due at the count of its key, and is counted. -/
theorem Accounts.concat (h : Accounts start log cycles) {c : Cycle} (hc : c.Sound) :
    let position := (cycles.find? c.key).getD 0
    Accounts start (log ++ [⟨c, c.due position⟩]) (cycles.insert c.key (position + 1)) := by
  intro position
  have hcount : position = (start.find? c.key).getD 0 + (withKey c.key log).length := h.counts c.key
  constructor
  · intro key j d hd
    rw [withKey_concat] at hd
    split at hd
    · next hkey =>
        cases hkey
        rcases Nat.lt_or_ge j (withKey c.key log).length with hlt | hge
        · rw [List.getElem?_append_left hlt] at hd
          exact h.turns c.key j d hd
        · -- the cycle is the last one with its key, and its number is their count
          rw [List.getElem?_append_right hge, List.getElem?_singleton] at hd
          split at hd
          · next hj =>
              cases hd
              have hlast : (start.find? c.key).getD 0 + j = position := by omega
              rw [hlast]
              exact ⟨hc, hc.getElem?_due position⟩
          · cases hd
    · exact h.turns key j d hd
  · intro key
    rw [withKey_concat, Table.find?_insert]
    by_cases hkey : key = c.key
    · rw [if_pos hkey, if_pos hkey.symm, hkey, Option.getD_some, List.length_append, hcount]
      rfl
    · rw [if_neg hkey, if_neg (Ne.symm hkey)]
      exact h.counts key

end Cycled

/-! ### What renders give -/

namespace Render

/-- Whatever a render gives in some surroundings satisfies `P`. -/
def Gives {α : Type} (env : Surroundings) (P : α → Prop) (r : Render α) : Prop :=
  ∀ s, Yields P (r.runOn env s).1

namespace Gives

variable {α β : Type} {env : Surroundings} {P : α → Prop} {Q : β → Prop}

theorem pure {a : α} (h : P a) : Gives env P (Pure.pure a) := fun _ => Yields.pure h

/-- Nothing is said of the result. -/
theorem anything (r : Render α) : Gives env (fun _ => True) r := fun _ => Yields.anything _

/-- **Steps one after another.** -/
theorem bind {r : Render α} {f : α → Render β} (hr : Gives env P r)
    (hf : ∀ a, P a → Gives env Q (f a)) : Gives env Q (r >>= f) := by
  intro s
  have h := hr s
  rw [runOn_bind]
  generalize r.runOn env s = o at h
  obtain ⟨result, t⟩ := o
  cases result with
  | ok a => exact hf a (h a rfl) t
  | error e => exact Yields.error e

/-- One render for each item. -/
theorem all {R : α → β → Prop} {f : α → Render β} (h : ∀ a, Gives env (R a) (f a)) (as : List α) :
    Gives env (List.Forall₂ R as) (Render.all (as.map f)) := by
  induction as with
  | nil => exact pure .nil
  | cons a rest ih => exact (h a).bind fun b hb => ih.bind fun bs hbs => pure (.cons hb hbs)

/-- The text of a value. -/
theorem text (v : Value) : Gives env (fun text => v.text = .ok text) (Render.text v) := by
  intro s t ht
  rw [Render.text, liftFault, runOn_lift] at ht
  cases htext : v.text with
  | ok u =>
      rw [htext] at ht
      exact congrArg Except.ok (Except.ok.inj ht)
  | error f =>
      rw [htext] at ht
      cases ht

end Gives

end Render

/-! ### The tag -/

namespace Tags

/-- The cycle that is to go on: first the values, then the group. -/
def cycling (group : Part) (values : List Part) : Render Cycle := do
  let vs ← Render.all (values.map Part.run)
  let g ← group.run
  let key ← cycleKey g vs
  return ⟨g, vs, key⟩

/-- A cycle goes on and shows what is due. -/
def advancing (c : Cycle) : Render Value := do
  let position ← Render.onContext (·.advance c.key)
  return c.due position

/-- The `cycle` tag with another way to go on. -/
def cycleTagVia (finish : Cycle → Render Value) : List Part → Render Value
  | group :: first :: rest => do
      let c ← cycling group (first :: rest)
      finish c
  | _ => pure (.str "")

theorem cycleTagVia_advancing : cycleTagVia advancing = cycleTag := by
  funext parts
  match parts with
  | [] => rfl
  | [_] => rfl
  | _ :: _ :: _ =>
      simp only [cycleTagVia, cycling, advancing, Cycle.due, cycleTag, bind_assoc, pure_bind]

/-- The key is that of the group and the values. -/
theorem cycleKey_gives (env : Surroundings) (group : Value) (values : List Value) :
    (cycleKey group values).Gives env (CycleKey.Of group values) := by
  unfold cycleKey
  split
  · exact (Render.Gives.all Render.Gives.text values).bind fun texts h => .pure (.unnamed rfl h)
  · next hne => exact (Render.Gives.text group).bind fun name h => .pure (.named hne h)

/-- **A cycle that is to go on is sound.** -/
theorem cycling_gives (env : Surroundings) (group first : Part) (rest : List Part) :
    (cycling group (first :: rest)).Gives env Cycle.Sound := by
  have hvalues : Render.Gives env (List.Forall₂ (fun _ _ => True) (first :: rest))
      (Render.all ((first :: rest).map Part.run)) :=
    .all (f := Part.run) (fun p => .anything p.run) (first :: rest)
  refine hvalues.bind fun vs hvs => (Render.Gives.anything _).bind fun g _ => ?_
  refine (cycleKey_gives env g vs).bind fun key hkey => .pure ⟨hkey, ?_⟩
  cases hvs
  exact List.cons_ne_nil _ _

variable (env : Surroundings) (s : State)

/-- Going on shows the value at the count of the key, and counts. -/
theorem runOn_advancing (c : Cycle) : (advancing c).runOn env s =
    (.ok (c.due ((s.context.cycles.find? c.key).getD 0)),
      { s with context := (s.context.advance c.key).2 }) := rfl

end Tags

/-- **A cycle whose values, group or texts fail has not gone on**: it ends in the state that it has
reached on the way there.  Any other shows the value at the count of its key, and is counted. -/
theorem Node.runOn_cycle (env : Surroundings) (s : State) {t : Tag} (ht : t.body = .standard .cycle)
    (group first : Node) (rest : List Node) :
    (tag t (group :: first :: rest)).render.runOn env s =
      match (Tags.cycling group.part (first.part :: parts rest)).runOn env s with
      | (.ok c, s') => (.ok (c.due ((s'.context.cycles.find? c.key).getD 0)),
          { s' with context := (s'.context.advance c.key).2 })
      | (.error e, s') => (.error e, s') := by
  rw [render_tag, Tag.run, ht]
  show (Tags.cycleTag (group.part :: first.part :: parts rest)).runOn env s = _
  rw [← Tags.cycleTagVia_advancing, Tags.cycleTagVia, Render.runOn_bind]
  obtain ⟨result, s'⟩ := (Tags.cycling group.part (first.part :: parts rest)).runOn env s
  cases result <;> rfl

end TemplateEngine
