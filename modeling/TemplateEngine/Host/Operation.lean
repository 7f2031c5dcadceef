/-
**Operations on registries.**

What can be done with the registries of a host: engines are made, items are registered with an
engine or a thread, and their registries are asked what they hold.

Main definitions:

* `Host.Operation`, `Host.Reply` — what is done, and what comes of it;
* `Host.perform` — one operation;
* `Host.after`, `Host.reply` — the host after some operations, and its reply to another one;
* `Host.perform_ask`, `Host.perform_register` — operations on the registry of an owner.
-/
import TemplateEngine.Host

set_option autoImplicit false

namespace TemplateEngine

namespace Host

/-- What is done with a host. -/
inductive Operation where
  /-- Make an engine, for a thread if one is given. -/
  | newEngine (config : Config) (thread? : Option String)
  /-- Register an item under what should be a name. -/
  | register (k : ItemKind) (user : Owner) (name : Value) (item : k.Item)
  /-- Ask a registry. -/
  | ask (k : ItemKind) (user : Owner) (query : Query)

/-- What comes of an operation. -/
inductive Reply where
  /-- The number of a new engine. -/
  | engine (number : Nat)
  | registered
  | answer (k : ItemKind) (a : Answer k.Item)

/-- What comes of an operation, and the host after it.  There is no asking of engines that have
not been made. -/
def perform (h : Host) : Operation → Except Error Reply × Host
  | .newEngine config thread? =>
      let made := h.newEngine config thread?
      (.ok (.engine made.1), made.2)
  | .register k user name item =>
      match h.ownerOf user with
      | none => (.error .missingKey, h)
      | some o =>
          let done := h.register k o name item
          (done.1.map fun _ => .registered, done.2)
  | .ask k user query =>
      match h.ownerOf user with
      | none => (.error .missingKey, h)
      | some o =>
          let h := h.touch k o
          (((h.registry k o).answer query).map (.answer k), h)

/-- A host after operations. -/
def afterAll (h : Host) (ops : List Operation) : Host :=
  ops.foldl (fun h op => (h.perform op).2) h

/-- The host after operations, from the start. -/
def after (ops : List Operation) : Host := empty.afterAll ops

/-- The reply to an operation after others. -/
def reply (ops : List Operation) (op : Operation) : Except Error Reply :=
  ((after ops).perform op).1

theorem after_append (ops rest : List Operation) :
    after (ops ++ rest) = (after ops).afterAll rest := by
  rw [after, after, afterAll, afterAll, afterAll, List.foldl_append]

/-! ### Operations on the registry of an owner -/

section Owned

variable {h : Host} {k : ItemKind} {user o : Owner}

/-- A question to an owner is answered by the owner's registry, which may be made for it. -/
theorem perform_ask (howner : h.ownerOf user = some o) (query : Query) :
    h.perform (.ask k user query) =
      (((h.registry k o).answer query).map (.answer k), h.touch k o) := by
  have hanswer : (h.touch k o).registry k o = h.registry k o := registry_touch
  rw [perform, howner, ← hanswer]

/-- An item is registered with the owner. -/
theorem perform_register (howner : h.ownerOf user = some o) (name : Value) (item : k.Item) :
    h.perform (.register k user name item) =
      ((h.register k o name item).1.map fun _ => .registered, (h.register k o name item).2) := by
  rw [perform, howner]

/-- Nothing is asked of an engine that has not been made. -/
theorem perform_ask_of_absent (howner : h.ownerOf user = none) (query : Query) :
    h.perform (.ask k user query) = (.error .missingKey, h) := by
  rw [perform, howner]

/-- Nothing is registered with it. -/
theorem perform_register_of_absent (howner : h.ownerOf user = none) (name : Value)
    (item : k.Item) : h.perform (.register k user name item) = (.error .missingKey, h) := by
  rw [perform, howner]

end Owned

end Host

end TemplateEngine
