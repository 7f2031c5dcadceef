/-
**Entities, and texts in which only entities stand.**

An entity is an ampersand, a name or a number, and a semicolon.  Nothing that is written as an
entity stands inside of one, and this is what all of escaping rests upon: an entity is neither
begun, nor broken, nor completed by what is written around it.

A text is escaped if none of the marks `<`, `>`, `"` and `'` stands in it, and if each ampersand is
the start of an entity.

Main definitions and results:

* `Html.Reference`, `Html.IsEntity` — entities;
* `Html.startsEntity_iff` — the test behind an ampersand tells entities;
* `Html.startsEntity_append_ampersand` — **no entity reaches over an ampersand**;
* `Html.Escaped` — escaped texts, by the entities that may stand in them;
* `Html.Escaped.entity_append`, `Html.escaped_append_iff` — how they are put together.
-/
import TemplateEngine.Html.Escape
import Mathlib.Data.List.TakeWhile

set_option autoImplicit false

namespace TemplateEngine.Html

/-! ### Entities -/

/-- The characters that are written as entities. -/
def specials : List Char := ['&', '<', '>', '"', '\'']

/-- The characters that never stand in an escaped text. -/
def marks : List Char := ['<', '>', '"', '\'']

theorem mem_specials_iff {c : Char} : c ∈ specials ↔ c = '&' ∨ c ∈ marks := List.mem_cons

theorem not_mem_specials_iff {c : Char} : c ∉ specials ↔ c ≠ '&' ∧ c ∉ marks := by
  rw [mem_specials_iff, not_or]

/-- One or more characters of a class. -/
def IsRun (inClass : Char → Bool) (cs : List Char) : Prop := cs ≠ [] ∧ ∀ c ∈ cs, inClass c = true

/-- **What stands between the ampersand and the semicolon of an entity**: a name, or a number in
decimal or hexadecimal digits. -/
inductive Reference : List Char → Prop where
  | name {c : Char} {rest : List Char} : c.isAlpha = true → IsRun Char.isAlphanum (c :: rest) →
      Reference (c :: rest)
  | decimal {ds : List Char} : IsRun Text.isDecimalDigit ds → Reference ('#' :: ds)
  | hexadecimal {x : Char} {ds : List Char} : x = 'x' ∨ x = 'X' → IsRun isHexDigit ds →
      Reference ('#' :: x :: ds)

/-- An ampersand, a name or a number, and a semicolon. -/
def IsEntity (e : List Char) : Prop := ∃ body, Reference body ∧ e = '&' :: (body ++ [';'])

section Runs

variable {inClass : Char → Bool} {cs : List Char}

theorem isRun_of_all (hne : cs ≠ []) (hall : cs.all inClass = true) : IsRun inClass cs :=
  ⟨hne, List.all_eq_true.1 hall⟩

/-- No character outside of a class stands in a run of it. -/
theorem IsRun.not_mem {xs : List Char} (h : IsRun inClass cs)
    (hxs : xs.all (fun x => !inClass x) = true) : ∀ x ∈ xs, x ∉ cs := by
  intro x hx hmem
  have hout := List.all_eq_true.1 hxs x hx
  rw [h.2 x hmem] at hout
  cases hout

/-- A text is taken in as far as its characters are of the class, up to a semicolon. -/
theorem endsAfter_iff (hsemicolon : inClass ';' = false) :
    endsAfter inClass cs = true ↔ ∃ body after, IsRun inClass body ∧ cs = body ++ ';' :: after := by
  constructor
  · intro h
    have hsplit : cs.takeWhile inClass ++ cs.dropWhile inClass = cs :=
      List.takeWhile_append_dropWhile
    rw [endsAfter, Bool.and_eq_true, Bool.not_eq_true', List.isEmpty_eq_false_iff,
      beq_iff_eq] at h
    obtain ⟨hne, hhead⟩ := h
    have hdrop : (cs.takeWhile inClass ++ cs.dropWhile inClass).drop
        (cs.takeWhile inClass).length = cs.dropWhile inClass := List.drop_left
    rw [hsplit] at hdrop
    rw [hdrop] at hhead
    obtain ⟨after, hafter⟩ := List.head?_eq_some_iff.1 hhead
    refine ⟨cs.takeWhile inClass, after, ⟨hne, ?_⟩, ?_⟩
    · intro c hc
      exact List.mem_takeWhile_imp hc
    · rw [← hafter, hsplit]
  · rintro ⟨body, after, ⟨hne, hclass⟩, rfl⟩
    have hbody : (body ++ ';' :: after).takeWhile inClass = body := by
      rw [List.takeWhile_append_of_pos hclass, List.takeWhile_cons_of_neg (by simp [hsemicolon])]
      simp
    rw [endsAfter, hbody]
    simp [hne]

end Runs

/-- None of the characters that are written as entities, and no semicolon, stands in the name or
the number of an entity. -/
theorem Reference.not_mem {body : List Char} (h : Reference body) :
    ∀ x ∈ ';' :: specials, x ∉ body := by
  intro x hx
  have hne : ∀ c, c ∉ ';' :: specials → x ≠ c := by
    rintro c hc rfl
    exact hc hx
  cases h with
  | name _ hrun => exact hrun.not_mem (by decide) x hx
  | decimal hrun =>
      exact List.not_mem_cons_of_ne_of_not_mem (hne '#' (by decide))
        (hrun.not_mem (by decide +kernel) x hx)
  | hexadecimal hletter hrun =>
      refine List.not_mem_cons_of_ne_of_not_mem (hne '#' (by decide)) ?_
      refine List.not_mem_cons_of_ne_of_not_mem ?_ (hrun.not_mem (by decide) x hx)
      rcases hletter with rfl | rfl
      · exact hne 'x' (by decide)
      · exact hne 'X' (by decide)

/-- Nothing that is written as an entity stands behind the ampersand of one. -/
theorem Reference.not_special {body : List Char} (h : Reference body) :
    ∀ c ∈ body ++ [';'], c ∉ specials := by
  intro c hc hspecial
  rcases List.mem_append.1 hc with hc | hc
  · exact h.not_mem c (List.mem_cons_of_mem _ hspecial) hc
  · obtain rfl := List.mem_singleton.1 hc
    revert hspecial
    decide

/-- **The test behind an ampersand tells entities.** -/
theorem startsEntity_iff {cs : List Char} :
    startsEntity cs = true ↔ ∃ body after, Reference body ∧ cs = body ++ ';' :: after := by
  constructor
  · intro h
    unfold startsEntity at h
    split at h
    · next rest =>
        obtain ⟨ds, after, hrun, rfl⟩ := (endsAfter_iff (by decide)).1 h
        exact ⟨_, after, .hexadecimal (.inl rfl) hrun, rfl⟩
    · next rest =>
        obtain ⟨ds, after, hrun, rfl⟩ := (endsAfter_iff (by decide)).1 h
        exact ⟨_, after, .hexadecimal (.inr rfl) hrun, rfl⟩
    · next rest _ _ =>
        obtain ⟨ds, after, hrun, rfl⟩ := (endsAfter_iff (by decide +kernel)).1 h
        exact ⟨_, after, .decimal hrun, rfl⟩
    · next c rest _ _ _ =>
        obtain ⟨halpha, hends⟩ := Bool.and_eq_true_iff.1 h
        obtain ⟨body, after, hrun, heq⟩ := (endsAfter_iff (by decide)).1 hends
        obtain ⟨d, ds, rfl⟩ := List.exists_cons_of_ne_nil hrun.1
        obtain rfl := (List.cons.inj heq).1
        exact ⟨_, after, .name halpha hrun, heq⟩
    · cases h
  · rintro ⟨body, after, hbody, rfl⟩
    cases hbody with
    | @name c rest halpha hrun =>
        have hhash : c ≠ '#' := by
          rintro rfl
          cases halpha
        have hends : endsAfter Char.isAlphanum (c :: rest ++ ';' :: after) = true :=
          (endsAfter_iff (by decide)).2 ⟨_, after, hrun, rfl⟩
        rw [List.cons_append] at hends ⊢
        rw [startsEntity.eq_def]
        simp [hhash, halpha, hends]
    | @decimal ds hrun =>
        have hends : endsAfter Text.isDecimalDigit (ds ++ ';' :: after) = true :=
          (endsAfter_iff (by decide +kernel)).2 ⟨_, after, hrun, rfl⟩
        obtain ⟨d, ds, rfl⟩ := List.exists_cons_of_ne_nil hrun.1
        have hletters : ∀ x ∈ ['x', 'X'], x ∉ d :: ds := hrun.not_mem (by decide +kernel)
        have hd : d ≠ 'x' ∧ d ≠ 'X' := by
          constructor
          · rintro rfl
            exact hletters 'x' (by simp) List.mem_cons_self
          · rintro rfl
            exact hletters 'X' (by simp) List.mem_cons_self
        rw [List.cons_append, List.cons_append] at *
        rw [startsEntity.eq_def]
        simp [hd, hends]
    | @hexadecimal x ds hx hrun =>
        have hends : endsAfter isHexDigit (ds ++ ';' :: after) = true :=
          (endsAfter_iff (by decide)).2 ⟨_, after, hrun, rfl⟩
        rcases hx with rfl | rfl
        · exact hends
        · exact hends

/-- **No entity reaches over an ampersand**: what stands behind the next one does not matter. -/
theorem startsEntity_append_ampersand (before rest : List Char) :
    startsEntity (before ++ '&' :: rest) = startsEntity before := by
  rw [Bool.eq_iff_iff, startsEntity_iff, startsEntity_iff]
  constructor
  · rintro ⟨body, after, hbody, heq⟩
    rcases List.append_eq_append_iff.1 heq with ⟨between, rfl, hbetween⟩ | ⟨between, rfl, hbetween⟩
    · -- the ampersand would be in the name or the number, or be the semicolon
      cases between with
      | nil => cases hbetween
      | cons c between =>
          obtain rfl := (List.cons.inj hbetween).1
          exact absurd (List.mem_append_right before List.mem_cons_self)
            (hbody.not_mem '&' (by decide))
    · cases between with
      | nil => cases hbetween
      | cons c between =>
          obtain rfl := (List.cons.inj hbetween).1
          exact ⟨body, between, hbody, rfl⟩
  · rintro ⟨body, after, hbody, rfl⟩
    exact ⟨body, after ++ '&' :: rest, hbody, by simp⟩

/-- An ampersand and what follows it begin with an entity if the test says so. -/
theorem startsEntity_iff_exists_entity {rest : List Char} :
    startsEntity rest = true ↔ ∃ e, IsEntity e ∧ e <+: '&' :: rest := by
  rw [startsEntity_iff]
  constructor
  · rintro ⟨body, after, hbody, rfl⟩
    exact ⟨_, ⟨body, hbody, rfl⟩, after, by simp⟩
  · rintro ⟨_, ⟨body, hbody, rfl⟩, after, heq⟩
    refine ⟨body, after, hbody, ?_⟩
    simpa using (List.cons.inj heq).2.symm

/-! ### Escaped texts -/

/-- **An escaped text**: no mark stands in it, and each ampersand is the start of an entity in
`E`. -/
structure Escaped (E : List Char → Prop) (cs : List Char) : Prop where
  noMark : ∀ c ∈ marks, c ∉ cs
  ampersand (rest : List Char) : '&' :: rest <:+ cs → ∃ e, E e ∧ e <+: '&' :: rest

section Escaped

variable {E : List Char → Prop} {c : Char} {cs xs e : List Char}

theorem escaped_nil : Escaped E [] := by
  refine ⟨fun c _ => List.not_mem_nil, fun rest h => ?_⟩
  cases List.suffix_nil.1 h

theorem escaped_cons_iff : Escaped E (c :: cs) ↔
    c ∉ marks ∧ (c = '&' → ∃ e, E e ∧ e <+: '&' :: cs) ∧ Escaped E cs := by
  constructor
  · rintro ⟨hmark, hampersand⟩
    refine ⟨fun hc => hmark c hc List.mem_cons_self, ?_, ⟨fun x hx hmem => ?_, fun rest h => ?_⟩⟩
    · rintro rfl
      exact hampersand cs (List.suffix_refl _)
    · exact hmark x hx (List.mem_cons_of_mem c hmem)
    · exact hampersand rest (h.trans (List.suffix_cons c cs))
  · rintro ⟨hc, hstart, hmark, hampersand⟩
    refine ⟨fun x hx hmem => ?_, fun rest h => ?_⟩
    · rcases List.mem_cons.1 hmem with rfl | hmem
      · exact hc hx
      · exact hmark x hx hmem
    · rcases List.suffix_cons_iff.1 h with heq | h
      · obtain ⟨rfl, rfl⟩ := List.cons.inj heq
        exact hstart rfl
      · exact hampersand rest h

/-- More entities may be allowed. -/
theorem Escaped.mono {E' : List Char → Prop} (h : Escaped E cs) (hE : ∀ e, E e → E' e) :
    Escaped E' cs := by
  refine ⟨h.noMark, fun rest hrest => ?_⟩
  obtain ⟨e, he, hbegins⟩ := h.ampersand rest hrest
  exact ⟨e, hE e he, hbegins⟩

/-- Characters that are not written as entities may stand everywhere. -/
theorem escaped_append_iff (hxs : ∀ c ∈ xs, c ∉ specials) :
    Escaped E (xs ++ cs) ↔ Escaped E cs := by
  induction xs with
  | nil => rfl
  | cons c xs ih =>
      obtain ⟨hampersand, hmark⟩ := not_mem_specials_iff.1 (hxs c List.mem_cons_self)
      rw [List.cons_append, escaped_cons_iff, ih fun x hx => hxs x (List.mem_cons_of_mem c hx)]
      simp [hmark, hampersand]

/-- An entity may stand everywhere. -/
theorem Escaped.entity_append (h : Escaped E cs) (he : IsEntity e) (hE : E e) :
    Escaped E (e ++ cs) := by
  obtain ⟨body, hbody, rfl⟩ := he
  rw [List.cons_append]
  exact escaped_cons_iff.2
    ⟨by decide, fun _ => ⟨_, hE, cs, rfl⟩, (escaped_append_iff hbody.not_special).2 h⟩

end Escaped

end TemplateEngine.Html
