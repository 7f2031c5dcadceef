/-
**The store law of registries.**

After any operations on any number of engines and threads, the registry of an owner answers as a
store should: under a name there is the item that was registered last under it, else the standard
item.  No owner's answers depend on what others do; an engine made for a thread and the thread
itself are two ways to one owner.

Main definitions:

* `Host.stored` — the item that should be found under a name;
* `Host.StoreAnswers` — the answers that a registry should give.

Main results:

* `Host.reply_ask` — answers depend on nothing but the registrations with the owner;
* `Host.store_law` — **the store law, and isolation**.
-/
import TemplateEngine.Proofs.Registries.History

set_option autoImplicit false

namespace TemplateEngine

namespace Host

/-! ### What should be answered -/

/-- The item that should be found under a name: of the items registered under it the last one, else
the standard one. -/
def stored (k : ItemKind) (o : Owner) (ops : List Operation) (name : String) : Option k.Item :=
  (((registrations k o ops).reverse.find? fun b => b.1 = name).map Prod.snd).or
    (k.standardItems.find? fun item => Named.name item = name)

/-- The answers that a user of an owner's registry should get after some operations. -/
structure StoreAnswers (ops : List Operation) (k : ItemKind) (user o : Owner) : Prop where
  get : ∀ name, reply ops (.ask k user (.get name)) =
    match stored k o ops name with
    | some item => .ok (.answer k (.item item))
    | none => .error (Named.missing k.Item name)
  find : ∀ name, reply ops (.ask k user (.find name)) =
    .ok (.answer k (.found (stored k o ops name)))
  contains : ∀ name, reply ops (.ask k user (.contains (.str name))) =
    .ok (.answer k (.contained (stored k o ops name).isSome))
  /-- The names are in order, each of them once, and as many as are counted. -/
  names : ∃ names, reply ops (.ask k user .names) = .ok (.answer k (.names names)) ∧
    names.Pairwise (· < ·) ∧
    (∀ name, name ∈ names ↔ name ∈ k.standardItems.map Named.name ∨
      name ∈ (registrations k o ops).map Prod.fst) ∧
    reply ops (.ask k user .size) = .ok (.answer k (.size names.length))

/-! ### What is answered -/

section Answers

variable {ops : List Operation} {k : ItemKind} {o user : Owner}

/-- No two standard items of a kind have the same name. -/
theorem nodup_standardItems (k : ItemKind) : (k.standardItems.map Named.name).Nodup := by
  cases k <;> decide

/-- **The registry of an owner finds what it should.** -/
theorem find_registered (name : String) :
    (registered k o ops).find name = stored k o ops name := by
  have hstandard : k.standard.items.find? name =
      k.standardItems.find? fun item => Named.name item = name := by
    rw [k.standard_eq]
    exact Registry.find_ofItems (nodup_standardItems k) name
  rw [Registry.find, registered, Table.find?_insertAll, hstandard, stored]

/-- Its names are the standard ones and the registered ones. -/
theorem mem_names_registered (name : String) : name ∈ (registered k o ops).names ↔
    name ∈ k.standardItems.map Named.name ∨ name ∈ (registrations k o ops).map Prod.fst := by
  rw [Registry.mem_names, registered, Table.mem_keys_insertAll, k.standard_eq,
    Registry.mem_keys_ofItems]

/-- **An answer depends on nothing but what was registered with the owner.** -/
theorem reply_ask (huser : usedBy (made ops) user = some o) (query : Query) :
    reply ops (.ask k user query) = ((registered k o ops).answer query).map (.answer k) := by
  rw [reply, perform_ask (ownerOf_after huser), (tellsOf_after ops).registry]

/-- So the answers are those of a store. -/
theorem storeAnswers (huser : usedBy (made ops) user = some o) : StoreAnswers ops k user o where
  get name := by
    rw [reply_ask huser, Registry.answer, Registry.get, find_registered]
    cases stored k o ops name <;> rfl
  find name := by
    rw [reply_ask huser, Registry.answer, find_registered]
    rfl
  contains name := by
    have hcontains : (registered k o ops).containsKey (.str name) =
        .ok ((registered k o ops).find name).isSome := rfl
    rw [reply_ask huser, Registry.answer, hcontains, find_registered]
    rfl
  names := by
    refine ⟨(registered k o ops).names, ?_, Registry.names_increasing _, mem_names_registered, ?_⟩
    · rw [reply_ask huser]
      rfl
    · rw [reply_ask huser, Registry.length_names]
      rfl

end Answers

/-! ### The law -/

section Law

variable {ops : List Operation} {k : ItemKind} {o user : Owner}

/-- A new engine has the next number. -/
theorem reply_newEngine (ops : List Operation) (config : Config) (thread? : Option String) :
    reply ops (.newEngine config thread?) = .ok (.engine (made ops).length) := by
  rw [← (tellsOf_after ops).length]
  rfl

/-- A registration under a name succeeds. -/
theorem reply_register (huser : usedBy (made ops) user = some o) {name : String} (hname : name ≠ "")
    (item : k.Item) : reply ops (.register k user (.str name) item) = .ok .registered := by
  rw [reply, perform_register (ownerOf_after huser), register_of_name hname]
  rfl

/-- **A registration under anything else fails, and nobody will ever notice it.** -/
theorem reply_register_of_noName (huser : usedBy (made ops) user = some o) {name : Value}
    (hname : ∀ s, s ≠ "" → name ≠ .str s) (item : k.Item) :
    reply ops (.register k user name item) = .error (.invalidName name) ∧
      ∀ rest op, reply (ops ++ .register k user name item :: rest) op =
        reply (ops ++ rest) op := by
  have hperform : (after ops).perform (.register k user name item) =
      (.error (.invalidName name), (after ops).touch k o) := by
    rw [perform_register (ownerOf_after huser), register_of_noName hname]
    rfl
  refine ⟨by rw [reply, hperform], fun rest op => ?_⟩
  have hsame : ((after ops).touch k o).Same (after ops) :=
    ⟨engines_touch, fun _ _ => registry_touch⟩
  rw [reply, reply, after_append, after_append, afterAll, List.foldl_cons, hperform]
  exact ((hsame.afterAll rest).perform op).1

/-- **Operations that register nothing with an owner do not change its answers.** -/
theorem reply_ask_append (huser : usedBy (made ops) user = some o) {rest : List Operation}
    (hrest : registrationsFrom k o (made ops) rest = []) (query : Query) :
    reply (ops ++ rest) (.ask k user query) = reply ops (.ask k user query) := by
  have huser' : usedBy (made (ops ++ rest)) user = some o := by
    rw [made, List.filterMap_append]
    exact usedBy_append huser _
  rw [reply_ask huser, reply_ask huser', registered, registered, registrations_append, hrest,
    List.append_nil]

/-- An operation on another registry registers nothing with this one. -/
theorem registrationsFrom_singleton_eq_nil {before : List (Option String)} {op : Operation}
    (hop : ∀ user name (item : k.Item), op = .register k user name item →
      usedBy before user ≠ some o) : registrationsFrom k o before [op] = [] := by
  rw [registrationsFrom, registrationsFrom, List.append_nil, Option.toList_eq_nil_iff]
  exact Operation.registration?_eq_none fun user _ item heq _ => hop user _ item heq

/-- Two ways to one owner cannot be told apart. -/
theorem perform_congr {h : Host} {user user' : Owner} (howner : h.ownerOf user = h.ownerOf user')
    (k : ItemKind) : (∀ query, h.perform (.ask k user query) = h.perform (.ask k user' query)) ∧
      ∀ name item, h.perform (.register k user name item) =
        h.perform (.register k user' name item) :=
  ⟨fun query => by rw [perform, perform, howner],
    fun name item => by rw [perform, perform, howner]⟩

/-- **The store law, and isolation.**  After any operations on any number of engines and threads:

* every registry tells what was registered last with its owner, else what is standard;
* a new engine has the next number;
* a registration under a text that is not empty succeeds; any other one fails, and no reply to any
  later operation shows it;
* operations that register nothing with an owner, such as all those on other registries, change
  none of its answers;
* an engine that was made for a thread and that thread use one registry, now and later. -/
theorem store_law (ops : List Operation) :
    (∀ k user o, usedBy (made ops) user = some o → StoreAnswers ops k user o) ∧
    (∀ config thread?,
      reply ops (.newEngine config thread?) = .ok (.engine (made ops).length)) ∧
    (∀ k user o, usedBy (made ops) user = some o → ∀ name (item : k.Item),
      (∀ s, s ≠ "" → name = .str s → reply ops (.register k user name item) = .ok .registered) ∧
      ((∀ s, s ≠ "" → name ≠ .str s) →
        reply ops (.register k user name item) = .error (.invalidName name) ∧
        ∀ rest op, reply (ops ++ .register k user name item :: rest) op =
          reply (ops ++ rest) op)) ∧
    (∀ k user o, usedBy (made ops) user = some o →
      (∀ rest, registrationsFrom k o (made ops) rest = [] → ∀ query,
        reply (ops ++ rest) (.ask k user query) = reply ops (.ask k user query)) ∧
      ∀ op, (∀ other name (item : k.Item), op = .register k other name item →
          usedBy (made ops) other ≠ some o) → registrationsFrom k o (made ops) [op] = []) ∧
    (∀ number name, (made ops)[number]? = some (some name) → ∀ k,
      (∀ query, reply ops (.ask k (.engine number) query) =
        reply ops (.ask k (.thread name) query)) ∧
      ∀ (given : Value) (item : k.Item) rest op,
        reply (ops ++ .register k (.engine number) given item :: rest) op =
          reply (ops ++ .register k (.thread name) given item :: rest) op) := by
  refine ⟨fun k user o huser => storeAnswers huser, reply_newEngine ops,
    fun k user o huser name item => ⟨?_, ?_⟩, fun k user o huser => ⟨fun rest hrest => reply_ask_append huser hrest,
      fun op => registrationsFrom_singleton_eq_nil⟩, fun number name hnumber k => ?_⟩
  · rintro s hs rfl
    exact reply_register huser hs item
  · exact fun hname => reply_register_of_noName huser hname item
  · have howner : (after ops).ownerOf (.engine number) = (after ops).ownerOf (.thread name) := by
      rw [(tellsOf_after ops).ownerOf, usedBy, hnumber]
      rfl
    obtain ⟨hask, hregister⟩ := perform_congr howner k
    refine ⟨fun query => by rw [reply, reply, hask], fun given item rest op => ?_⟩
    rw [reply, reply, after_append, after_append, afterAll, afterAll, List.foldl_cons,
      List.foldl_cons, hregister]

/-- A filter of one's own. -/
def shout : Filter := .ofFunction "shout" "echo" fun v _ => .ok v

/-- An engine by itself and one for a thread; the thread replaces a standard filter and adds one
through its engine, the other engine fails to register. -/
def bridged : List Operation :=
  [.newEngine {} none, .newEngine {} (some "main"),
    .register .filter (.thread "main") (.str "size") shout,
    .register .filter (.engine 0) (.str "") shout,
    .register .filter (.engine 1) (.str "shout") shout]

/-- Only the engine for the thread finds the new filters, and only filters are changed. -/
theorem store_law_bridged :
    reply bridged (.ask .filter (.engine 1) (.get "size")) =
        .ok (.answer .filter (.item (ItemKind.filter.rename "size" shout))) ∧
      reply bridged (.ask .filter (.engine 0) (.get "size")) =
        .ok (.answer .filter (.item (Filter.ofStandard .size))) ∧
      reply bridged (.ask .filter (.engine 0) (.get "shout")) = .error (.unknownFilter "shout") ∧
      reply bridged (.ask .tag (.engine 1) (.get "size")) = .error (.unknownTag "size") ∧
      (∀ query, reply bridged (.ask .filter (.engine 1) query) =
        reply bridged (.ask .filter (.thread "main") query)) := by
  obtain ⟨hstore, -, -, -, hbridge⟩ := store_law bridged
  refine ⟨?_, ?_, ?_, ?_, (hbridge 1 "main" rfl .filter).1⟩
  · exact (hstore .filter (.engine 1) (.thread "main") rfl).get "size"
  · exact (hstore .filter (.engine 0) (.engine 0) rfl).get "size"
  · exact (hstore .filter (.engine 0) (.engine 0) rfl).get "shout"
  · exact (hstore .tag (.engine 1) (.thread "main") rfl).get "size"

end Law

end Host

end TemplateEngine
