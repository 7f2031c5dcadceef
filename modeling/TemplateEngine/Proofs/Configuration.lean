/-
**What a configuration is read from, and what refuses it.**

A configuration is read from a map with no other keys than its two, each with a value that it can
have, and from nothing else; what is missing has its default.  Any other map has a problem, and
the refusal names one that it has.  But a problem has to be told: the unexpected keys are sorted,
and **keys of several kinds have no order**, so that the refusal is a mismatch of kinds; and a
value with an integer that is too long has no text.

Main definitions:

* `Config.Proper` — the maps that a configuration can be read from;
* `Config.Wrong` — what is wrong with a map;
* `Config.Exact` — a reading that returns what it should, and otherwise says what is wrong.

Main results:

* `Config.ofEntries_eq_ok_iff`, `Config.ofEntries_eq_error` — what a reading gives;
* `Config.loads_exactly` — **reading a map and reading a document are exact**.
-/
import TemplateEngine.Config.Document
import TemplateEngine.Proofs.SortSuccess
import TemplateEngine.Text.Search

set_option autoImplicit false

namespace TemplateEngine

section MapError

variable {α ε ε' : Type} {x : Except ε α} {f : ε → ε'}

theorem mapError_eq_ok {a : α} : x.mapError f = .ok a ↔ x = .ok a := by
  cases x with
  | ok b =>
      exact ⟨fun h => congrArg Except.ok (Except.ok.inj h),
        fun h => congrArg Except.ok (Except.ok.inj h)⟩
  | error e =>
      constructor
      · intro h
        cases h
      · intro h
        cases h

theorem mapError_eq_error {e' : ε'} : x.mapError f = .error e' ↔ ∃ e, x = .error e ∧ f e = e' := by
  cases x with
  | ok b =>
      constructor
      · intro h
        cases h
      · rintro ⟨e, h, -⟩
        cases h
  | error e₀ =>
      constructor
      · exact fun h => ⟨e₀, rfl, Except.error.inj h⟩
      · rintro ⟨e, h, rfl⟩
        exact congrArg (fun e => Except.error (f e)) (Except.error.inj h)

end MapError

namespace Value

/-- Only a text equals a text. -/
theorem same_str_left {v : Value} {s : String} : (Value.str s).same v = true ↔ v = .str s := by
  cases v with
  | str t =>
      rw [same, beq_iff_eq, Value.str.injEq]
      exact eq_comm
  | _ => simp [same, sameNumber, numeric?]

end Value

namespace Config

open Value (lookupEntry)

/-! ### Right and wrong -/

/-- The keys of a map that a configuration does not have. -/
def unknownKeys (entries : List (Value × Value)) : List Value :=
  (entries.map (·.1)).filter (!isKey ·)

/-- **The maps that a configuration can be read from.** -/
structure Proper (entries : List (Value × Value)) : Prop where
  keys {key v : Value} : (key, v) ∈ entries → key = .str straySignalKey ∨
    key = .str strictVariablesKey
  straySignal {v : Value} : lookupEntry entries (.str straySignalKey) = some v →
    v = .str "ignore" ∨ v = .str "error"
  strictVariables {v : Value} : lookupEntry entries (.str strictVariablesKey) = some v →
    ∃ b, v = .bool b

/-- **What is wrong with a map**: it has other keys, or a value that a configuration cannot have. -/
inductive Wrong (entries : List (Value × Value)) : ConfigProblem → Prop where
  | keys {keys : List Value} : keys.Perm (unknownKeys entries) → keys ≠ [] →
      Wrong entries (.unexpectedKeys keys)
  | policy {v : Value} : lookupEntry entries (.str straySignalKey) = some v →
      v ≠ .str "ignore" → v ≠ .str "error" → Wrong entries (.unknownPolicy v)
  | switch {v : Value} : lookupEntry entries (.str strictVariablesKey) = some v →
      (∀ b, v ≠ .bool b) → Wrong entries (.notABoolean v.kind)

variable {entries : List (Value × Value)} {c : Config} {r : Refusal}

theorem isKey_iff {key : Value} :
    isKey key = true ↔ key = .str straySignalKey ∨ key = .str strictVariablesKey := by
  rw [isKey, Bool.or_eq_true, Value.same_str_right, Value.same_str_right]

/-- There are no unknown keys where every key is one of the two. -/
theorem unknownKeys_eq_nil : unknownKeys entries = [] ↔ ∀ key v, (key, v) ∈ entries →
    key = .str straySignalKey ∨ key = .str strictVariablesKey := by
  rw [unknownKeys, List.filter_eq_nil_iff]
  constructor
  · intro h key v hmem
    have hkey := h key (List.mem_map_of_mem hmem)
    rw [Bool.not_eq_true, Bool.not_eq_false'] at hkey
    exact isKey_iff.1 hkey
  · intro h key hmem
    obtain ⟨⟨key, v⟩, hentry, rfl⟩ := List.mem_map.1 hmem
    rw [Bool.not_eq_true, Bool.not_eq_false']
    exact isKey_iff.2 (h key v hentry)

/-! ### The two values -/

/-- A policy is read from its word, and the default one from nothing. -/
theorem readPolicy_eq_ok {v? : Option Value} {p : StrayPolicy} :
    readPolicy v? = .ok p ↔ (v?.getD (.str "ignore")) = .str p.keyword := by
  unfold readPolicy
  split
  · cases p <;> simp [StrayPolicy.keyword]
  · cases p <;> simp [StrayPolicy.keyword]
  · cases p <;> simp [StrayPolicy.keyword]
  · next v hignore herror => cases p <;> simp_all [StrayPolicy.keyword]

/-- What is no policy is refused as such. -/
theorem readPolicy_eq_error {v? : Option Value} (h : readPolicy v? = .error r) :
    ∃ v, v? = some v ∧ v ≠ .str "ignore" ∧ v ≠ .str "error" ∧ r = refuse (.unknownPolicy v) := by
  unfold readPolicy at h
  split at h
  · cases h
  · cases h
  · cases h
  · next v hignore herror =>
      cases h
      exact ⟨v, rfl, hignore, herror, rfl⟩

/-- A switch is read from a boolean, and the default one from nothing. -/
theorem readSwitch_eq_ok {v? : Option Value} {b : Bool} :
    readSwitch v? = .ok b ↔ v?.getD (.bool false) = .bool b := by
  unfold readSwitch
  split
  · simp
  · simp
  · next v hbool => simp; exact hbool b

/-- What is no boolean is refused as such. -/
theorem readSwitch_eq_error {v? : Option Value} (h : readSwitch v? = .error r) :
    ∃ v, v? = some v ∧ (∀ b, v ≠ .bool b) ∧ r = refuse (.notABoolean v.kind) := by
  unfold readSwitch at h
  split at h
  · cases h
  · cases h
  · next v hbool =>
      cases h
      exact ⟨v, rfl, hbool, rfl⟩

/-! ### Readings -/

/-- **A map without unknown keys is read value by value.** -/
theorem ofEntries_of_known (h : unknownKeys entries = []) :
    ofEntries entries = do
      let policy ← readPolicy (lookupEntry entries (.str straySignalKey))
      let strict ← readSwitch (lookupEntry entries (.str strictVariablesKey))
      return ⟨policy, strict⟩ := by
  have hempty : ((entries.map (·.1)).filter (!isKey ·)).isEmpty = true :=
    List.isEmpty_iff.2 h
  simp only [ofEntries, hempty, Bool.not_true, Bool.false_eq_true, if_false]

/-- **A map with unknown keys is refused**, for these keys if they can be sorted. -/
theorem ofEntries_of_unknown (h : unknownKeys entries ≠ []) :
    ofEntries entries = .error (match Sorting.sort Value.less (unknownKeys entries) with
      | .ok keys => refuse (.unexpectedKeys keys)
      | .error m => .fault (.mismatch m)) := by
  have hempty : ((entries.map (·.1)).filter (!isKey ·)).isEmpty = false :=
    List.isEmpty_eq_false_iff.2 h
  simp only [ofEntries, hempty, Bool.not_false, if_true]
  rw [unknownKeys]
  cases Sorting.sort Value.less ((entries.map (·.1)).filter (!isKey ·)) <;> rfl

/-- **What a reading returns.** -/
theorem ofEntries_eq_ok_iff : ofEntries entries = .ok c ↔ unknownKeys entries = [] ∧
    (lookupEntry entries (.str straySignalKey)).getD (.str "ignore") =
      .str c.straySignal.keyword ∧
    (lookupEntry entries (.str strictVariablesKey)).getD (.bool false) =
      .bool c.strictVariables := by
  rw [← readPolicy_eq_ok, ← readSwitch_eq_ok]
  by_cases hknown : unknownKeys entries = []
  · rw [ofEntries_of_known hknown]
    obtain ⟨policy, strict⟩ := c
    cases readPolicy (lookupEntry entries (.str straySignalKey)) <;>
      cases readSwitch (lookupEntry entries (.str strictVariablesKey)) <;>
        simp [hknown, bind, Except.bind, pure, Except.pure]
  · simp [ofEntries_of_unknown hknown, hknown]

/-- **What a reading is refused for**: something that is wrong with the map, or unknown keys that
cannot be sorted. -/
theorem ofEntries_eq_error (h : ofEntries entries = .error r) :
    (∃ p, Wrong entries p ∧ r = refuse p) ∨
      ∃ m, Sorting.sort Value.less (unknownKeys entries) = .error m ∧ r = .fault (.mismatch m) := by
  by_cases hknown : unknownKeys entries = []
  · rw [ofEntries_of_known hknown] at h
    cases hpolicy : readPolicy (lookupEntry entries (.str straySignalKey)) with
    | error r' =>
        obtain ⟨v, hv, hignore, herror, hr⟩ := readPolicy_eq_error hpolicy
        rw [hpolicy] at h
        cases h
        exact .inl ⟨_, .policy hv hignore herror, hr⟩
    | ok policy =>
        cases hswitch : readSwitch (lookupEntry entries (.str strictVariablesKey)) with
        | error r' =>
            obtain ⟨v, hv, hbool, hr⟩ := readSwitch_eq_error hswitch
            rw [hpolicy, hswitch] at h
            cases h
            exact .inl ⟨_, .switch hv hbool, hr⟩
        | ok strict =>
            rw [hpolicy, hswitch] at h
            cases h
  · rw [ofEntries_of_unknown hknown] at h
    cases hsort : Sorting.sort Value.less (unknownKeys entries) with
    | error m =>
        rw [hsort] at h
        cases h
        exact .inr ⟨m, rfl, rfl⟩
    | ok keys =>
        have hperm : keys.Perm (unknownKeys entries) := Sorting.perm_sort _ _ keys hsort
        rw [hsort] at h
        cases h
        exact .inl ⟨_, .keys hperm fun hnil => hknown (List.nil_perm.1 (hnil ▸ hperm)), rfl⟩

/-! ### Keys with an order -/

/-- Two texts, or two numbers. -/
def HaveOrder (a b : Value) : Prop :=
  (∃ s t, a = .str s ∧ b = .str t) ∨ (a.numeric?.isSome = true ∧ b.numeric?.isSome = true)

/-- The keys of most maps: nil, booleans, numbers and texts. -/
def isScalar : Value → Bool
  | .nil | .bool _ | .int _ | .float _ | .str _ => true
  | _ => false

/-- **Scalar keys have an order if they are two texts or two numbers.** -/
theorem less_succeeds_iff {a b : Value} (ha : isScalar a = true) (hb : isScalar b = true) :
    Succeeds (Value.less a b) ↔ HaveOrder a b := by
  cases a <;> cases ha <;> cases b <;> cases hb <;>
    simp [Succeeds, HaveOrder, Value.less, Value.related, Value.relatedAtoms, Value.numeric?]

theorem HaveOrder.symm {a b : Value} (h : HaveOrder a b) : HaveOrder b a := by
  rcases h with ⟨s, t, ha, hb⟩ | ⟨ha, hb⟩
  · exact .inl ⟨t, s, hb, ha⟩
  · exact .inr ⟨hb, ha⟩

theorem HaveOrder.trans {a b d : Value} (h : HaveOrder a b) (h' : HaveOrder b d) :
    HaveOrder a d := by
  rcases h with ⟨s, t, ha, rfl⟩ | ⟨ha, hb⟩ <;> rcases h' with ⟨s', t', hb', hd⟩ | ⟨hb', hd⟩
  · exact .inl ⟨s, t', ha, hd⟩
  · cases hb'
  · rw [hb'] at hb
    cases hb
  · exact .inr ⟨ha, hd⟩

/-- **Scalar keys can be sorted if and only if any two of them have an order.** -/
theorem sort_scalars_iff {keys : List Value} (hkeys : ∀ key ∈ keys, isScalar key = true) :
    Succeeds (Sorting.sort Value.less keys) ↔ keys.Pairwise HaveOrder :=
  Sorting.sort_succeeds_iff (fun _ _ => HaveOrder.symm) (fun _ _ _ => HaveOrder.trans)
    (fun _ _ => less_succeeds_iff) hkeys

/-! ### Exact readings -/

/-- **A reading of a map that returns what it should, and otherwise says what is wrong.** -/
structure Exact (entries : List (Value × Value)) (result : Except Error Config) : Prop where
  /-- It returns if the map is proper, and only then. -/
  returns : (∃ c, result = .ok c) ↔ Proper entries
  /-- The configuration as a map is the given one with the defaults for what is missing. -/
  completes {c : Config} : result = .ok c → ∀ key, lookupEntry c.toEntries key =
    (lookupEntry entries key).or (lookupEntry (toEntries {}) key)
  /-- This map has the same configuration. -/
  returnsAgain {c : Config} : result = .ok c → ofValue (.map c.toEntries) = .ok c
  /-- A refusal names what is wrong, unless keys have no order or a value has no text. -/
  refuses {e : Error} : result = .error e → (∃ p, Wrong entries p ∧ e = .config p) ∨
    (∃ m, e = .fault (.mismatch m)) ∨ e = .fault .tooManyDigits
  /-- It does name it where the unknown keys can be compared, and all that is shown has a text. -/
  tells {e : Error} : result = .error e →
    Sorting.AllComparable Value.less (unknownKeys entries) →
    (∀ key ∈ unknownKeys entries, key.writable = true) →
    (∀ v, lookupEntry entries (.str straySignalKey) = some v → v.writable = true) →
    ∃ p, Wrong entries p ∧ e = .config p
  /-- Scalar keys of several kinds are refused as such a mix, and no others are. -/
  mixed : (∀ key ∈ unknownKeys entries, isScalar key = true) →
    ((∃ m, result = .error (.fault (.mismatch m))) ↔ ¬ (unknownKeys entries).Pairwise HaveOrder)

theorem proper_iff : (∃ c, ofEntries entries = .ok c) ↔ Proper entries := by
  constructor
  · rintro ⟨c, h⟩
    obtain ⟨hkeys, hpolicy, hswitch⟩ := ofEntries_eq_ok_iff.1 h
    refine ⟨fun hmem => unknownKeys_eq_nil.1 hkeys _ _ hmem, fun hv => ?_, fun hv => ?_⟩
    · rw [hv, Option.getD_some] at hpolicy
      obtain ⟨policy, strict⟩ := c
      cases policy with
      | ignore => exact .inl hpolicy
      | error => exact .inr hpolicy
    · rw [hv, Option.getD_some] at hswitch
      exact ⟨_, hswitch⟩
  · intro h
    have hkeys : unknownKeys entries = [] := unknownKeys_eq_nil.2 fun _ _ hmem => h.keys hmem
    have hpolicy : ∃ p : StrayPolicy,
        (lookupEntry entries (.str straySignalKey)).getD (.str "ignore") = .str p.keyword := by
      cases hv : lookupEntry entries (.str straySignalKey) with
      | none => exact ⟨.ignore, rfl⟩
      | some v =>
          rcases h.straySignal hv with rfl | rfl
          · exact ⟨.ignore, rfl⟩
          · exact ⟨.error, rfl⟩
    have hswitch : ∃ b,
        (lookupEntry entries (.str strictVariablesKey)).getD (.bool false) = .bool b := by
      cases hv : lookupEntry entries (.str strictVariablesKey) with
      | none => exact ⟨false, rfl⟩
      | some v =>
          obtain ⟨b, rfl⟩ := h.strictVariables hv
          exact ⟨b, rfl⟩
    obtain ⟨policy, hpolicy⟩ := hpolicy
    obtain ⟨strict, hswitch⟩ := hswitch
    exact ⟨⟨policy, strict⟩, ofEntries_eq_ok_iff.2 ⟨hkeys, hpolicy, hswitch⟩⟩

/-- A configuration as a map has the two keys only. -/
theorem unknownKeys_toEntries (c : Config) : unknownKeys c.toEntries = [] := rfl

/-- A map without unknown keys has nothing under any other key. -/
theorem lookupEntry_eq_none (h : unknownKeys entries = []) {key : Value}
    (hpolicy : key ≠ .str straySignalKey) (hswitch : key ≠ .str strictVariablesKey) :
    lookupEntry entries key = none := by
  rw [lookupEntry, Option.map_eq_none_iff, List.find?_eq_none]
  rintro ⟨k, v⟩ hmem hsame
  rcases unknownKeys_eq_nil.1 h k v hmem with rfl | rfl
  · exact hpolicy (Value.same_str_left.1 hsame)
  · exact hswitch (Value.same_str_left.1 hsame)

/-- **The configuration as a map is the given one with the defaults.** -/
theorem toEntries_completes (h : ofEntries entries = .ok c) (key : Value) :
    lookupEntry c.toEntries key =
      (lookupEntry entries key).or (lookupEntry (toEntries {}) key) := by
  obtain ⟨hkeys, hpolicy, hswitch⟩ := ofEntries_eq_ok_iff.1 h
  by_cases hkey : key = .str straySignalKey
  · subst hkey
    show some (Value.str c.straySignal.keyword) = Option.or _ (some (.str "ignore"))
    rw [← hpolicy]
    cases lookupEntry entries (.str straySignalKey) <;> rfl
  · by_cases hkey' : key = .str strictVariablesKey
    · subst hkey'
      show some (Value.bool c.strictVariables) = Option.or _ (some (.bool false))
      rw [← hswitch]
      cases lookupEntry entries (.str strictVariablesKey) <;> rfl
    · rw [lookupEntry_eq_none (unknownKeys_toEntries c) hkey hkey',
        lookupEntry_eq_none hkeys hkey hkey',
        lookupEntry_eq_none (unknownKeys_toEntries {}) hkey hkey']
      rfl

/-- A configuration is read back from its map. -/
theorem ofValue_toEntries (c : Config) : ofValue (.map c.toEntries) = .ok c :=
  ofEntries_eq_ok_iff.2 ⟨unknownKeys_toEntries c, rfl, rfl⟩

theorem writableItems_iff {items : List Value} :
    Value.writableItems items = true ↔ ∀ v ∈ items, v.writable = true := by
  induction items with
  | nil => simp [Value.writableItems]
  | cons v rest ih => simp [Value.writableItems, ih]

/-- **What is wrong can be written** if what is shown of the map can be. -/
theorem Wrong.writable {p : ConfigProblem} (h : Wrong entries p)
    (hkeys : ∀ key ∈ unknownKeys entries, key.writable = true)
    (hpolicy : ∀ v, lookupEntry entries (.str straySignalKey) = some v → v.writable = true) :
    p.writable = true := by
  cases h with
  | keys hperm _ => exact writableItems_iff.2 fun key hkey => hkeys key (hperm.subset hkey)
  | policy hv _ _ => exact hpolicy _ hv
  | switch _ _ => rfl

/-- The error of a problem is the problem, if it can be written. -/
theorem toError_refuse {p : ConfigProblem} : (refuse p).toError =
    if p.writable then .config p else .fault .tooManyDigits := by
  rw [refuse]
  split <;> rfl

/-- **Unknown scalar keys of several kinds are refused as such a mix**, and no others are. -/
theorem mismatch_iff (hscalar : ∀ key ∈ unknownKeys entries, isScalar key = true) :
    (∃ m, ofEntries entries = .error (.fault (.mismatch m))) ↔
      ¬(unknownKeys entries).Pairwise HaveOrder := by
  rw [← sort_scalars_iff hscalar]
  constructor
  · rintro ⟨m, h⟩ ⟨sorted, hsorted⟩
    rcases ofEntries_eq_error h with ⟨p, -, hp⟩ | ⟨m', hm', -⟩
    · unfold refuse at hp
      split at hp <;> cases hp
    · rw [hsorted] at hm'
      cases hm'
  · intro h
    have hne : unknownKeys entries ≠ [] := fun hnil => h (hnil ▸ ⟨[], rfl⟩)
    rw [ofEntries_of_unknown hne]
    cases hsort : Sorting.sort Value.less (unknownKeys entries) with
    | ok sorted => exact (h ⟨sorted, hsort⟩).elim
    | error m => exact ⟨m, rfl⟩

/-- **Reading a map is exact.** -/
theorem exact_ofEntries (entries : List (Value × Value)) :
    Exact entries ((ofEntries entries).mapError Refusal.toError) := by
  constructor
  case returns => simp only [mapError_eq_ok, proper_iff]
  case completes => exact fun h => toEntries_completes (mapError_eq_ok.1 h)
  case returnsAgain => exact fun _ => ofValue_toEntries _
  case refuses =>
    intro e h
    obtain ⟨r, hr, rfl⟩ := mapError_eq_error.1 h
    rcases ofEntries_eq_error hr with ⟨p, hp, rfl⟩ | ⟨m, -, rfl⟩
    · rw [toError_refuse]
      split
      · exact .inl ⟨p, hp, rfl⟩
      · exact .inr (.inr rfl)
    · exact .inr (.inl ⟨m, rfl⟩)
  case tells =>
    intro e h hkeys hwritable hpolicy
    obtain ⟨r, hr, rfl⟩ := mapError_eq_error.1 h
    rcases ofEntries_eq_error hr with ⟨p, hp, rfl⟩ | ⟨m, hm, -⟩
    · exact ⟨p, hp, toError_refuse.trans (if_pos (hp.writable hwritable hpolicy))⟩
    · obtain ⟨sorted, hsorted⟩ := Sorting.sort_succeeds hkeys
      rw [hsorted] at hm
      cases hm
  case mixed =>
    intro hscalar
    rw [← mismatch_iff hscalar]
    have hmismatch (r : Refusal) (m : Mismatch) :
        r.toError = .fault (.mismatch m) ↔ r = .fault (.mismatch m) := by
      cases r <;> simp [Refusal.toError]
    simp only [mapError_eq_error, hmismatch, exists_eq_right]

/-- **A configuration is loaded exactly**, from a map and from a file that any reader takes for one:
it is returned if the map has no other keys and no other values than a configuration, as the given
map with the defaults, and any other map is refused for what is wrong with it, unless its unknown
keys have no order or a value that the refusal would show has no text. -/
theorem loads_exactly (entries : List (Value × Value)) :
    Exact entries ((ofValue (.map entries)).mapError Refusal.toError) ∧
    ∀ (read : Document.Reader) (path text : String), read text = .ok (.map entries) →
      Exact entries (ofFile read path (some text)) := by
  refine ⟨exact_ofEntries entries, fun read path text h => ?_⟩
  have hread : ofFile read path (some text) = (ofEntries entries).mapError Refusal.toError := by
    simp only [ofFile, ofDocument, h]
  exact hread ▸ exact_ofEntries entries

/-- A reader of documents with one entry, a key and a word. -/
def wordReader : Document.Reader := fun text =>
  match Text.splitOn ": ".toList text.toList with
  | [key, word] => .ok (.map [(.str (String.ofList key), .str (String.ofList word))])
  | _ => .error (.malformed none)

/-- A document with a policy is loaded, with the default for the switch. -/
theorem loads_exactly_document :
    wordReader "stray_signal: error" = .ok (.map [(.str "stray_signal", .str "error")]) ∧
    Exact [(.str "stray_signal", .str "error")]
      (ofFile wordReader "lq.yaml" (some "stray_signal: error")) ∧
    (ofFile wordReader "lq.yaml" (some "stray_signal: error")).toOption = some ⟨.error, false⟩ :=
  ⟨rfl, (loads_exactly _).2 wordReader _ _ rfl, by decide +kernel⟩

/-- **Not every refusal is a problem of the configuration**: a number and a text as keys have no
order. -/
theorem mixed_keys_are_no_problem :
    ¬∀ (entries : List (Value × Value)) (e : Error),
      (ofValue (.map entries)).mapError Refusal.toError = .error e → ∃ p, e = .config p := by
  intro h
  obtain ⟨p, hp⟩ := h [(.int 1, .int 2), (.str "a", .int 3)] _ rfl
  cases hp

end Config

end TemplateEngine
