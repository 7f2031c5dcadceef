/-
**What registries hold, told by what has been done.**

Operations on engines and threads come in any order.  From their list alone one can tell which
engines there are, whose registries each of them uses, and what has been registered with an owner
and how.  A host holds just that: registries that nobody has asked for yet, questions and refused
registrations leave no trace.

Main definitions:

* `Host.made`, `Host.usedBy` — the engines that were made, and whose registries they use;
* `Host.Operation.registration?`, `Host.registrations` — what was registered with an owner;
* `Host.TellsOf` — a host that holds what was done;
* `Host.Same` — hosts that cannot be told apart.

Main results:

* `Host.TellsOf.perform`, `Host.tellsOf_after` — one operation, and all of them;
* `Host.Same.perform`, `Host.Same.afterAll` — hosts that cannot be told apart stay so.
-/
import TemplateEngine.Host.Operation
import Mathlib.Data.List.Induction

set_option autoImplicit false

namespace TemplateEngine

namespace Host

/-! ### What was done -/

/-- For whom an operation makes an engine, if it makes one. -/
def Operation.engine? : Operation → Option (Option String)
  | .newEngine _ thread? => some thread?
  | _ => none

/-- For which thread, if for any, each engine was made. -/
def made (ops : List Operation) : List (Option String) := ops.filterMap Operation.engine?

/-- Whose registries are used, after engines were made for these threads: an engine that was made
for no thread has registries of its own. -/
def usedBy (made : List (Option String)) : Owner → Option Owner
  | .engine number => made[number]?.map fun
      | some name => .thread name
      | none => .engine number
  | .thread name => some (.thread name)

/-- The name and the item that an operation registers with an owner, if it does.  Only a text that
is not empty is a name. -/
def Operation.registration? (made : List (Option String)) (k : ItemKind) (o : Owner) :
    Operation → Option (String × k.Item)
  | .register k' user (.str name) item =>
      if h : k' = k ∧ usedBy made user = some o ∧ name ≠ "" then
        some (name, k.rename name (h.1 ▸ item))
      else none
  | _ => none

/-- The registrations with an owner, in their order, where `before` are the engines that had been
made already. -/
def registrationsFrom (k : ItemKind) (o : Owner) (before : List (Option String)) :
    List Operation → List (String × k.Item)
  | [] => []
  | op :: rest => (op.registration? before k o).toList ++
      registrationsFrom k o (before ++ op.engine?.toList) rest

/-- **The registrations with an owner**, in their order. -/
def registrations (k : ItemKind) (o : Owner) (ops : List Operation) : List (String × k.Item) :=
  registrationsFrom k o [] ops

variable {ops rest : List Operation} {op : Operation} {k : ItemKind} {o user : Owner}

theorem made_concat (ops : List Operation) (op : Operation) :
    made (ops ++ [op]) = made ops ++ op.engine?.toList := by
  rw [made, List.filterMap_append, List.filterMap_cons, List.filterMap_nil]
  cases op.engine? <;> rfl

/-- An engine goes on using the same registries when others are made. -/
theorem usedBy_append {before : List (Option String)} (h : usedBy before user = some o)
    (more : List (Option String)) : usedBy (before ++ more) user = some o := by
  cases user with
  | thread name => exact h
  | engine number =>
      obtain ⟨thread?, hmade, ho⟩ := Option.map_eq_some_iff.1 h
      have hlt : number < before.length := (List.getElem?_eq_some_iff.1 hmade).1
      rw [usedBy, List.getElem?_append_left hlt, hmade, Option.map_some, ho]

/-- Only engines that were made have registries. -/
theorem lt_length_of_usedBy {before : List (Option String)} {number : Nat}
    (h : usedBy before user = some (.engine number)) : number < before.length := by
  cases user with
  | thread name => cases h
  | engine n =>
      obtain ⟨thread?, hmade, ho⟩ := Option.map_eq_some_iff.1 h
      have hlt : n < before.length := (List.getElem?_eq_some_iff.1 hmade).1
      cases thread? with
      | some name => cases ho
      | none =>
          cases ho
          exact hlt

/-- What has been registered later comes after what was registered before. -/
theorem registrationsFrom_append (before : List (Option String)) :
    registrationsFrom k o before (ops ++ rest) =
      registrationsFrom k o before ops ++ registrationsFrom k o (before ++ made ops) rest := by
  induction ops generalizing before with
  | nil => rw [made, List.filterMap_nil, List.append_nil]; rfl
  | cons op ops ih =>
      have hmade : op.engine?.toList ++ made ops = made (op :: ops) := by
        rw [made, made, List.filterMap_cons]
        cases op.engine? <;> rfl
      rw [List.cons_append, registrationsFrom, ih, registrationsFrom, List.append_assoc before,
        hmade, List.append_assoc]

theorem registrations_append : registrations k o (ops ++ rest) =
    registrations k o ops ++ registrationsFrom k o (made ops) rest :=
  registrationsFrom_append []

theorem registrations_concat : registrations k o (ops ++ [op]) =
    registrations k o ops ++ (op.registration? (made ops) k o).toList := by
  rw [registrations_append, registrationsFrom, registrationsFrom, List.append_nil]

/-- What an operation registers is registered with the owner whose registry is meant. -/
theorem Operation.registration?_eq_some {before : List (Option String)} {b : String × k.Item}
    (h : op.registration? before k o = some b) : ∃ user item,
      op = .register k user (.str b.1) item ∧ usedBy before user = some o ∧ b.1 ≠ "" ∧
        b.2 = k.rename b.1 item := by
  unfold Operation.registration? at h
  split at h
  · split at h
    · next hname =>
        obtain ⟨rfl, huser, hname⟩ := hname
        cases h
        exact ⟨_, _, rfl, huser, hname, rfl⟩
    · cases h
  · cases h

/-- Nothing else is registered with it. -/
theorem Operation.registration?_eq_none {before : List (Option String)}
    (h : ∀ user name (item : k.Item), op = .register k user (.str name) item → name ≠ "" →
      usedBy before user ≠ some o) : op.registration? before k o = none := by
  cases hop : op.registration? before k o with
  | none => rfl
  | some b =>
      obtain ⟨user, item, heq, huser, hname, -⟩ := Operation.registration?_eq_some hop
      exact absurd huser (h user _ item heq hname)

/-- Nothing is registered with an engine that has not been made. -/
theorem registrations_eq_nil {number : Nat} (h : (made ops).length ≤ number) :
    registrations k (.engine number) ops = [] := by
  induction ops using List.reverseRecOn with
  | nil => rfl
  | append_singleton ops op ih =>
      rw [made_concat, List.length_append] at h
      rw [registrations_concat, ih (by omega), List.nil_append, Option.toList_eq_nil_iff]
      refine Operation.registration?_eq_none fun user _ _ _ _ huser => ?_
      have hlt := lt_length_of_usedBy huser
      omega

/-! ### Hosts that hold what was done -/

/-- The registry of the standard items and, in their place or behind them, the registered ones. -/
def registered (k : ItemKind) (o : Owner) (ops : List Operation) : Registry k.Item :=
  ⟨k.standard.items.insertAll (registrations k o ops)⟩

/-- **A host that holds what was done.** -/
structure TellsOf (ops : List Operation) (h : Host) : Prop where
  /-- There are the engines that were made. -/
  length : h.engines.length = (made ops).length
  /-- They use the registries that they should. -/
  ownerOf : ∀ user, h.ownerOf user = usedBy (made ops) user
  /-- Registries hold what was registered with their owner. -/
  registry : ∀ k o, h.registry k o = registered k o ops

namespace TellsOf

variable {h h' : Host}

/-- An operation that makes no engine and registers nothing leaves everything as it was. -/
theorem silent (hh : h.TellsOf ops) (hengine : op.engine? = none)
    (hop : ∀ k o, op.registration? (made ops) k o = none) (hengines : h'.engines = h.engines)
    (hregistry : ∀ k o, h'.registry k o = h.registry k o) : h'.TellsOf (ops ++ [op]) := by
  have hmade : made (ops ++ [op]) = made ops := by
    rw [made_concat, hengine, Option.toList_none, List.append_nil]
  refine ⟨?_, fun user => ?_, fun k o => ?_⟩
  · rw [hengines, hmade, hh.length]
  · rw [ownerOf_congr hengines, hmade, hh.ownerOf]
  · rw [hregistry, hh.registry, registered, registered, registrations_concat, hop,
      Option.toList_none, List.append_nil]

/-- A new engine has the next number, and the registries that it should have. -/
theorem newEngine (hh : h.TellsOf ops) (config : Config) (thread? : Option String) :
    (h.newEngine config thread?).2.TellsOf (ops ++ [.newEngine config thread?]) := by
  have hmade : made (ops ++ [.newEngine config thread?]) = made ops ++ [thread?] :=
    made_concat ops _
  have hengines : (h.newEngine config thread?).2.engines =
      h.engines ++ [⟨config, Table.empty, (h.equip thread?).1⟩] := rfl
  refine ⟨?_, fun user => ?_, fun k o => ?_⟩
  · rw [hengines, hmade, List.length_append, List.length_append, hh.length]
    rfl
  · cases user with
    | thread name => rfl
    | engine number =>
        have hold := hh.ownerOf (.engine number)
        rw [Host.ownerOf, usedBy] at hold
        rw [Host.ownerOf, hengines, hmade, usedBy]
        -- an engine that was there, the new one, or none
        rcases Nat.lt_trichotomy number h.engines.length with hlt | rfl | hgt
        · rw [List.getElem?_append_left hlt, List.getElem?_append_left (hh.length ▸ hlt), hold]
        · rw [List.getElem?_concat_length, hh.length, List.getElem?_concat_length]
          cases thread? with
          | some name => rfl
          | none => rw [← hh.length]; rfl
        · rw [List.getElem?_eq_none (by rw [List.length_append]; exact hgt),
            List.getElem?_eq_none (by rw [List.length_append, ← hh.length]; exact hgt)]
          rfl
  · have hnew (k : ItemKind) : h.registry k (.engine h.engines.length) = k.standard := by
      rw [hh.registry, registered, registrations_eq_nil (Nat.le_of_eq hh.length.symm)]
      rfl
    show (h.equip thread?).2.registry k o = _
    rw [registry_equip hnew, hh.registry, registered, registered, registrations_concat]
    exact congrArg _ (congrArg _ (List.append_nil _).symm)

/-- A registered item is held by the registry that it was registered with. -/
theorem register (hh : h.TellsOf ops) (huser : h.ownerOf user = some o) (name : Value)
    (item : k.Item) :
    (h.register k o name item).2.TellsOf (ops ++ [.register k user name item]) := by
  have huser' : usedBy (made ops) user = some o := (hh.ownerOf user).symm.trans huser
  by_cases hname : ∃ s, s ≠ "" ∧ name = .str s
  · obtain ⟨s, hs, rfl⟩ := hname
    have hmade : made (ops ++ [.register k user (.str s) item]) = made ops := by
      rw [made_concat]
      exact List.append_nil _
    rw [register_of_name hs]
    refine ⟨?_, fun other => ?_, fun k' o' => ?_⟩
    · rw [engines_setRegistry, engines_touch, hmade, hh.length]
    · rw [ownerOf_congr (engines_setRegistry.trans engines_touch), hmade, hh.ownerOf]
    · rw [registered, registrations_concat]
      by_cases hself : k' = k ∧ o' = o
      · obtain ⟨rfl, rfl⟩ := hself
        have hop : Operation.registration? (made ops) k' o' (.register k' user (.str s) item) =
            some (s, k'.rename s item) := dif_pos ⟨rfl, huser', hs⟩
        rw [registry_setRegistry_self, hh.registry, registered, hop, Option.toList_some,
          Table.insertAll_concat]
      · have hop : Operation.registration? (made ops) k' o' (.register k user (.str s) item) =
            none := by
          refine dif_neg fun h => hself ⟨h.1.symm, ?_⟩
          exact Option.some_inj.1 (h.2.1.symm.trans huser')
        rw [registry_setRegistry_of_ne hself, registry_touch, hh.registry, registered, hop,
          Option.toList_none, List.append_nil]
  · have hname : ∀ s, s ≠ "" → name ≠ .str s := fun s hs heq => hname ⟨s, hs, heq⟩
    rw [register_of_noName hname]
    refine hh.silent rfl (fun k' o' => ?_) engines_touch fun k' o' => registry_touch
    refine Operation.registration?_eq_none fun _ s _ heq hs => ?_
    cases heq
    exact absurd rfl (hname s hs)

/-- **After one more operation a host holds what was done.** -/
theorem perform (hh : h.TellsOf ops) (op : Operation) : (h.perform op).2.TellsOf (ops ++ [op]) := by
  cases op with
  | newEngine config thread? => exact hh.newEngine config thread?
  | register k user name item =>
      cases howner : h.ownerOf user with
      | none =>
          rw [perform_register_of_absent howner]
          refine hh.silent rfl (fun k' o' => ?_) rfl fun _ _ => rfl
          refine Operation.registration?_eq_none fun _ _ _ heq _ => ?_
          cases heq
          rw [← hh.ownerOf, howner]
          exact fun hnone => by cases hnone
      | some o =>
          rw [perform_register howner]
          exact hh.register howner name item
  | ask k user query =>
      cases howner : h.ownerOf user with
      | none =>
          rw [perform_ask_of_absent howner]
          exact hh.silent rfl (fun _ _ => rfl) rfl fun _ _ => rfl
      | some o =>
          rw [perform_ask howner]
          exact hh.silent rfl (fun _ _ => rfl) engines_touch fun _ _ => registry_touch

end TellsOf

/-- **After any operations, the host holds what was done.** -/
theorem tellsOf_after (ops : List Operation) : (after ops).TellsOf ops := by
  induction ops using List.reverseRecOn with
  | nil => exact ⟨rfl, fun user => by cases user <;> rfl, fun k o => by cases k <;> rfl⟩
  | append_singleton ops op ih =>
      rw [after_append]
      exact ih.perform op

/-- An owner that is used is used by the host. -/
theorem ownerOf_after (huser : usedBy (made ops) user = some o) :
    (after ops).ownerOf user = some o := ((tellsOf_after ops).ownerOf user).trans huser

/-! ### Hosts that cannot be told apart -/

/-- Hosts with the same engines and, made or not, the same registries. -/
structure Same (h h' : Host) : Prop where
  engines : h.engines = h'.engines
  registry : ∀ k o, h.registry k o = h'.registry k o

namespace Same

variable {h h' : Host}

/-- It does not matter which registries have been made. -/
theorem touch (hh : h.Same h') (k : ItemKind) (o : Owner) : (h.touch k o).Same (h'.touch k o) :=
  ⟨by rw [engines_touch, engines_touch, hh.engines],
    fun k' o' => by rw [registry_touch, registry_touch, hh.registry]⟩

theorem setRegistry (hh : h.Same h') (k : ItemKind) (o : Owner) (r : Registry k.Item) :
    (h.setRegistry k o r).Same (h'.setRegistry k o r) := by
  refine ⟨by rw [engines_setRegistry, engines_setRegistry, hh.engines], fun k' o' => ?_⟩
  by_cases hself : k' = k ∧ o' = o
  · obtain ⟨rfl, rfl⟩ := hself
    rw [registry_setRegistry_self, registry_setRegistry_self]
  · rw [registry_setRegistry_of_ne hself, registry_setRegistry_of_ne hself, hh.registry]

/-- An engine made for no thread has new registries on both hosts. -/
theorem equip (hh : h.Same h') (thread? : Option String) :
    (h.equip thread?).1 = (h'.equip thread?).1 ∧ (h.equip thread?).2.Same (h'.equip thread?).2 := by
  cases thread? with
  | some name => exact ⟨rfl, (hh.touch _ _).touch _ _⟩
  | none =>
      let own := Owner.engine h'.engines.length
      rw [Host.equip, Host.equip, hh.engines]
      exact ⟨rfl, (hh.setRegistry .filter own ItemKind.filter.standard).setRegistry .tag own
        ItemKind.tag.standard⟩

theorem register (hh : h.Same h') (k : ItemKind) (o : Owner) (name : Value) (item : k.Item) :
    (h.register k o name item).1 = (h'.register k o name item).1 ∧
      (h.register k o name item).2.Same (h'.register k o name item).2 := by
  rw [Host.register, Host.register, registry_touch, registry_touch, hh.registry]
  split
  · exact ⟨rfl, (hh.touch k o).setRegistry k o _⟩
  · exact ⟨rfl, hh.touch k o⟩

/-- **The same operation has the same reply**, and leaves hosts that cannot be told apart. -/
theorem perform (hh : h.Same h') (op : Operation) :
    (h.perform op).1 = (h'.perform op).1 ∧ (h.perform op).2.Same (h'.perform op).2 := by
  cases op with
  | newEngine config thread? =>
      obtain ⟨howner, hequip⟩ := hh.equip thread?
      refine ⟨?_, ?_, hequip.registry⟩
      · show Except.ok (Reply.engine h.engines.length) = .ok (.engine h'.engines.length)
        rw [hh.engines]
      · show h.engines ++ [⟨config, Table.empty, (h.equip thread?).1⟩] =
          h'.engines ++ [⟨config, Table.empty, (h'.equip thread?).1⟩]
        rw [hh.engines, howner]
  | register k user name item =>
      have howners := ownerOf_congr hh.engines user
      cases howner : h.ownerOf user with
      | none =>
          rw [perform_register_of_absent howner, perform_register_of_absent (howners ▸ howner)]
          exact ⟨rfl, hh⟩
      | some o =>
          obtain ⟨hresult, hsame⟩ := hh.register k o name item
          rw [perform_register howner, perform_register (howners ▸ howner), hresult]
          exact ⟨rfl, hsame⟩
  | ask k user query =>
      have howners := ownerOf_congr hh.engines user
      cases howner : h.ownerOf user with
      | none =>
          rw [perform_ask_of_absent howner, perform_ask_of_absent (howners ▸ howner)]
          exact ⟨rfl, hh⟩
      | some o =>
          rw [perform_ask howner, perform_ask (howners ▸ howner), hh.registry]
          exact ⟨rfl, hh.touch k o⟩

/-- Neither do any more operations tell the hosts apart. -/
theorem afterAll (hh : h.Same h') (ops : List Operation) : (h.afterAll ops).Same (h'.afterAll ops) := by
  induction ops generalizing h h' with
  | nil => exact hh
  | cons op rest ih => exact ih (hh.perform op).2

end Same

end Host

end TemplateEngine
