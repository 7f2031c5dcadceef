/-
**Escaping loses nothing, and escaping once is enough.**

Escaping writes five characters as entities.  The entities are read back from left to right in one
pass, whatever stood in the text: an ampersand that stood there is written as an entity as well, so
no entity in the result is one that was there before.

Escaping once leaves the entities that are there, and makes entities of all other ampersands and of
the marks.  What it gives is escaped, **and escaped texts are exactly those that it leaves alone**;
all that is said of escaping twice follows from this.

Main definitions and results:

* `Html.unescape` — the five entities replaced by their characters;
* `Html.escaped_escape`, `Html.unescape_escape` — what escaping gives, and that it can be undone;
* `TextFilter.escape_lossless` — **escaping is lossless and safe**;
* `Html.escapeOnce_eq_passes` — escaping once is two passes;
* `Html.escapeOnce_eq_self_iff` — **the texts that escaping once leaves alone**;
* `Html.escapeOnce_append_entity` — **an entity is kept**, and divides what is escaped;
* `Html.escapeOnce_eq_escape_iff` — where escaping once is escaping;
* `TextFilter.escape_once_settles` — **one time is enough**.
-/
import TemplateEngine.Filter.Basic
import TemplateEngine.Proofs.Html.Entities

set_option autoImplicit false

namespace TemplateEngine

namespace Html

/-! ### Reading entities back -/

/-- The five entities that escaping writes, with the characters that they stand for. -/
def markEntities : List (List Char × Char) :=
  [("&amp;".toList, '&'), ("&lt;".toList, '<'), ("&gt;".toList, '>'), ("&quot;".toList, '"'),
    ("&#39;".toList, '\'')]

/-- Replace the five entities by their characters, from left to right in one pass. -/
def unescape : List Char → List Char
  | '&' :: 'a' :: 'm' :: 'p' :: ';' :: rest => '&' :: unescape rest
  | '&' :: 'l' :: 't' :: ';' :: rest => '<' :: unescape rest
  | '&' :: 'g' :: 't' :: ';' :: rest => '>' :: unescape rest
  | '&' :: 'q' :: 'u' :: 'o' :: 't' :: ';' :: rest => '"' :: unescape rest
  | '&' :: '#' :: '3' :: '9' :: ';' :: rest => '\'' :: unescape rest
  | c :: rest => c :: unescape rest
  | [] => []

/-- An entity is read as its character. -/
theorem unescape_entity_append {e : List Char × Char} (he : e ∈ markEntities) (cs : List Char) :
    unescape (e.1 ++ cs) = e.2 :: unescape cs := by
  simp only [markEntities, List.mem_cons, List.not_mem_nil, or_false] at he
  rcases he with rfl | rfl | rfl | rfl | rfl <;> rfl

/-- What begins with no ampersand begins with no entity. -/
theorem unescape_cons {c : Char} (hc : c ≠ '&') (cs : List Char) :
    unescape (c :: cs) = c :: unescape cs := by
  rw [unescape.eq_def]
  split <;> simp_all

/-! ### Escaping -/

/-- A character is written as one of the five entities, or as itself. -/
theorem escapeChar_cases (c : Char) :
    (escapeChar c, c) ∈ markEntities ∨ (escapeChar c = [c] ∧ c ∉ specials) := by
  unfold escapeChar
  split
  · exact .inl (by decide)
  · exact .inl (by decide)
  · exact .inl (by decide)
  · exact .inl (by decide)
  · exact .inl (by decide)
  · next hamp hlt hgt hquot hapos =>
      refine .inr ⟨rfl, ?_⟩
      simp only [specials, List.mem_cons, List.not_mem_nil, or_false, not_or]
      exact ⟨hamp, hlt, hgt, hquot, hapos⟩

theorem escapeChar_of_not_special {c : Char} (hc : c ∉ specials) : escapeChar c = [c] := by
  rcases escapeChar_cases c with h | ⟨heq, -⟩
  · have hspecial : ∀ e ∈ markEntities, e.2 ∈ specials := by decide
    exact absurd (hspecial _ h) hc
  · exact heq

/-- The five entities are entities. -/
theorem isEntity_of_mem {e : List Char × Char} (he : e ∈ markEntities) : IsEntity e.1 := by
  simp only [markEntities, List.mem_cons, List.not_mem_nil, or_false] at he
  rcases he with rfl | rfl | rfl | rfl | rfl
  · exact ⟨"amp".toList, .name (by decide) (isRun_of_all (by decide) (by decide)), rfl⟩
  · exact ⟨"lt".toList, .name (by decide) (isRun_of_all (by decide) (by decide)), rfl⟩
  · exact ⟨"gt".toList, .name (by decide) (isRun_of_all (by decide) (by decide)), rfl⟩
  · exact ⟨"quot".toList, .name (by decide) (isRun_of_all (by decide) (by decide)), rfl⟩
  · exact ⟨"#39".toList, .decimal (isRun_of_all (by decide) (by decide +kernel)), rfl⟩

/-- One of the five entities that escaping writes. -/
def IsMarkEntity (e : List Char) : Prop := e ∈ markEntities.map Prod.fst

theorem IsMarkEntity.isEntity {e : List Char} (h : IsMarkEntity e) : IsEntity e := by
  obtain ⟨p, hp, rfl⟩ := List.mem_map.1 h
  exact isEntity_of_mem hp

/-- What is written for a character may stand before an escaped text. -/
theorem Escaped.escapeChar_append {E : List Char → Prop} {cs : List Char} (h : Escaped E cs)
    (hE : ∀ e, IsMarkEntity e → E e) (c : Char) : Escaped E (escapeChar c ++ cs) := by
  rcases escapeChar_cases c with hmem | ⟨heq, hspecial⟩
  · exact h.entity_append (isEntity_of_mem hmem) (hE _ (List.mem_map_of_mem hmem))
  · obtain ⟨hampersand, hmark⟩ := not_mem_specials_iff.1 hspecial
    rw [heq]
    exact escaped_cons_iff.2 ⟨hmark, fun hc => absurd hc hampersand, h⟩

theorem escape_cons (c : Char) (cs : List Char) : escape (c :: cs) = escapeChar c ++ escape cs :=
  List.flatMap_cons

/-- **What escaping gives is escaped**, by the five entities alone. -/
theorem escaped_escape (cs : List Char) : Escaped IsMarkEntity (escape cs) := by
  induction cs with
  | nil => exact escaped_nil
  | cons c cs ih =>
      rw [escape_cons]
      exact ih.escapeChar_append (fun _ he => he) c

/-- **Escaping can be undone.** -/
theorem unescape_escape (cs : List Char) : unescape (escape cs) = cs := by
  induction cs with
  | nil => rfl
  | cons c cs ih =>
      rw [escape_cons]
      rcases escapeChar_cases c with h | ⟨heq, hspecial⟩
      · have hread : unescape (escapeChar c ++ escape cs) = c :: unescape (escape cs) :=
          unescape_entity_append h (escape cs)
        rw [hread, ih]
      · have hampersand : c ≠ '&' := (not_mem_specials_iff.1 hspecial).1
        rw [heq, List.singleton_append, unescape_cons hampersand, ih]

/-! ### Escaping once -/

theorem escapeOnce_ampersand_of_entity {rest : List Char} (h : startsEntity rest = true) :
    escapeOnce ('&' :: rest) = '&' :: escapeOnce rest := by
  rw [escapeOnce, if_pos ⟨rfl, h⟩]

theorem escapeOnce_ampersand_of_bare {rest : List Char} (h : startsEntity rest = false) :
    escapeOnce ('&' :: rest) = escapeChar '&' ++ escapeOnce rest := by
  rw [escapeOnce, if_neg (by simp [h])]

theorem escapeOnce_cons {c : Char} (hc : c ≠ '&') (rest : List Char) :
    escapeOnce (c :: rest) = escapeChar c ++ escapeOnce rest := by
  rw [escapeOnce, if_neg (by simp [hc])]

/-- Characters that are not written as entities are kept. -/
theorem escapeOnce_append {xs : List Char} (hxs : ∀ c ∈ xs, c ∉ specials) (cs : List Char) :
    escapeOnce (xs ++ cs) = xs ++ escapeOnce cs := by
  induction xs with
  | nil => rfl
  | cons x xs ih =>
      have hx : x ∉ specials := hxs x List.mem_cons_self
      have hampersand : x ≠ '&' := (not_mem_specials_iff.1 hx).1
      rw [List.cons_append, escapeOnce_cons hampersand, escapeChar_of_not_special hx,
        ih fun c hc => hxs c (List.mem_cons_of_mem x hc)]
      rfl

/-- What follows an ampersand and completes an entity is kept. -/
theorem escapeOnce_reference {body : List Char} (h : Reference body) (after : List Char) :
    escapeOnce (body ++ ';' :: after) = body ++ ';' :: escapeOnce after := by
  have hkept := escapeOnce_append h.not_special after
  simpa using hkept

/-- **Escaping the text behind an ampersand completes no entity, and breaks none.** -/
theorem startsEntity_escapeOnce (rest : List Char) (h : startsEntity rest = true) :
    startsEntity (escapeOnce rest) = true := by
  obtain ⟨body, after, hbody, rfl⟩ := startsEntity_iff.1 h
  rw [escapeOnce_reference hbody]
  exact startsEntity_iff.2 ⟨body, escapeOnce after, hbody, rfl⟩

/-- **What escaping once gives is escaped.** -/
theorem escaped_escapeOnce (cs : List Char) : Escaped IsEntity (escapeOnce cs) := by
  induction cs with
  | nil => exact escaped_nil
  | cons c cs ih =>
      by_cases hkept : c = '&' ∧ startsEntity cs = true
      · obtain ⟨rfl, hstarts⟩ := hkept
        rw [escapeOnce_ampersand_of_entity hstarts]
        have hentity := startsEntity_iff_exists_entity.1 (startsEntity_escapeOnce cs hstarts)
        exact escaped_cons_iff.2 ⟨by decide, fun _ => hentity, ih⟩
      · rw [escapeOnce, if_neg hkept]
        exact ih.escapeChar_append (fun _ he => he.isEntity) c

/-- **Escaping once leaves exactly the escaped texts alone.** -/
theorem escapeOnce_eq_self_iff {cs : List Char} :
    escapeOnce cs = cs ↔ Escaped IsEntity cs := by
  constructor
  · intro h
    rw [← h]
    exact escaped_escapeOnce cs
  · intro h
    induction cs with
    | nil => rfl
    | cons c cs ih =>
        obtain ⟨hmark, hentity, hcs⟩ := escaped_cons_iff.1 h
        by_cases hc : c = '&'
        · subst hc
          have hstarts := startsEntity_iff_exists_entity.2 (hentity rfl)
          rw [escapeOnce_ampersand_of_entity hstarts, ih hcs]
        · have hspecial : c ∉ specials := not_mem_specials_iff.2 ⟨hc, hmark⟩
          rw [escapeOnce_cons hc, escapeChar_of_not_special hspecial, ih hcs]
          rfl

/-- **An entity is kept where it stands**, and the texts on both sides of it are escaped as if each
stood alone. -/
theorem escapeOnce_append_entity (before : List Char) {e : List Char} (he : IsEntity e)
    (after : List Char) :
    escapeOnce (before ++ e ++ after) = escapeOnce before ++ e ++ escapeOnce after := by
  obtain ⟨body, hbody, rfl⟩ := he
  have hlist : before ++ '&' :: (body ++ [';']) ++ after =
      before ++ '&' :: (body ++ ';' :: after) := by simp
  rw [hlist]
  induction before with
  | nil =>
      have hstarts : startsEntity (body ++ ';' :: after) = true :=
        startsEntity_iff.2 ⟨body, after, hbody, rfl⟩
      rw [List.nil_append, escapeOnce_ampersand_of_entity hstarts, escapeOnce_reference hbody]
      simp [escapeOnce]
  | cons c before ih =>
      rw [List.cons_append]
      by_cases hc : c = '&'
      · subst hc
        cases hstarts : startsEntity before with
        | true =>
            rw [escapeOnce_ampersand_of_entity hstarts, escapeOnce_ampersand_of_entity
              ((startsEntity_append_ampersand before _).trans hstarts), ih (by simp)]
            simp
        | false =>
            rw [escapeOnce_ampersand_of_bare hstarts, escapeOnce_ampersand_of_bare
              ((startsEntity_append_ampersand before _).trans hstarts), ih (by simp)]
            simp
      · rw [escapeOnce_cons hc, escapeOnce_cons hc, ih (by simp)]
        simp

/-! ### Escaping once and escaping -/

/-- Escaping once never gives a longer text than escaping. -/
theorem length_escapeOnce_le (cs : List Char) :
    (escapeOnce cs).length ≤ (escape cs).length := by
  induction cs with
  | nil => exact Nat.le_refl _
  | cons c cs ih =>
      rw [escape_cons, List.length_append]
      by_cases hkept : c = '&' ∧ startsEntity cs = true
      · obtain ⟨rfl, hstarts⟩ := hkept
        have hamp : (escapeChar '&').length = 5 := rfl
        rw [escapeOnce_ampersand_of_entity hstarts, List.length_cons]
        omega
      · rw [escapeOnce, if_neg hkept, List.length_append]
        omega

theorem length_escapeChar_pos (c : Char) : 0 < (escapeChar c).length := by
  have hall : ∀ e ∈ markEntities, 0 < e.1.length := by decide
  rcases escapeChar_cases c with h | ⟨heq, -⟩
  · exact hall _ h
  · simp [heq]

/-- Escaping makes no text shorter. -/
theorem length_le_length_escape (cs : List Char) : cs.length ≤ (escape cs).length := by
  induction cs with
  | nil => exact Nat.le_refl _
  | cons c cs ih =>
      have hpos := length_escapeChar_pos c
      rw [escape_cons, List.length_append, List.length_cons]
      omega

/-- Escaping makes an entity longer. -/
theorem length_lt_length_escape {e : List Char} (he : IsEntity e) :
    e.length < (escape e).length := by
  obtain ⟨body, -, rfl⟩ := he
  have hamp : (escapeChar '&').length = 5 := rfl
  have hbody := length_le_length_escape (body ++ [';'])
  rw [escape_cons, List.length_append, List.length_cons]
  omega

/-- **Escaping once is escaping for the texts without entities**, and for no others. -/
theorem escapeOnce_eq_escape_iff {cs : List Char} :
    escapeOnce cs = escape cs ↔ ∀ e, IsEntity e → ¬e <:+: cs := by
  constructor
  · rintro h e he ⟨before, after, rfl⟩
    have hlengths := congrArg List.length h
    rw [escapeOnce_append_entity before he] at hlengths
    simp only [escape, List.flatMap_append, List.length_append] at hlengths
    have hbefore := length_escapeOnce_le before
    have hafter := length_escapeOnce_le after
    have hentity := length_lt_length_escape he
    simp only [escape] at hbefore hafter hentity
    omega
  · intro h
    induction cs with
    | nil => rfl
    | cons c cs ih =>
        have hbare : ¬(c = '&' ∧ startsEntity cs = true) := by
          rintro ⟨rfl, hstarts⟩
          obtain ⟨e, he, hbegins⟩ := startsEntity_iff_exists_entity.1 hstarts
          exact h e he hbegins.isInfix
        have hcs : ∀ e, IsEntity e → ¬e <:+: cs := by
          intro e he hpart
          exact h e he (hpart.trans (List.suffix_cons c cs).isInfix)
        rw [escapeOnce, if_neg hbare, escape_cons, ih hcs]

/-! ### Two passes -/

/-- Write the ampersands that begin no entity as entities. -/
def escapeBare : List Char → List Char
  | [] => []
  | c :: rest =>
      (if c = '&' ∧ startsEntity rest = false then "&amp;".toList else [c]) ++ escapeBare rest

/-- Write the marks as entities. -/
def escapeMarks (cs : List Char) : List Char :=
  cs.flatMap fun c => if c ∈ marks then escapeChar c else [c]

/-- **Escaping once is two passes**: the bare ampersands first, and then the marks, which stand in
none of the entities that the first pass writes. -/
theorem escapeOnce_eq_passes (cs : List Char) : escapeOnce cs = escapeMarks (escapeBare cs) := by
  induction cs with
  | nil => rfl
  | cons c cs ih =>
      have happend : ∀ xs ys, escapeMarks (xs ++ ys) = escapeMarks xs ++ escapeMarks ys :=
        fun xs ys => List.flatMap_append
      rw [escapeBare, happend, ← ih]
      by_cases hc : c = '&'
      · subst hc
        cases hstarts : startsEntity cs with
        | true =>
            rw [escapeOnce_ampersand_of_entity hstarts]
            rfl
        | false =>
            rw [escapeOnce_ampersand_of_bare hstarts]
            rfl
      · have hone : escapeMarks [c] = escapeChar c := by
          by_cases hmark : c ∈ marks
          · simp [escapeMarks, hmark]
          · have hspecial : c ∉ specials := not_mem_specials_iff.2 ⟨hc, hmark⟩
            simp [escapeMarks, hmark, escapeChar_of_not_special hspecial]
        rw [escapeOnce_cons hc, if_neg (by simp [hc]), hone]

end Html

open Html

/-- **Escaping is lossless and safe.**  Both filters that escape give, for every text, one in which
no mark stands, in which each ampersand is the start of one of the five entities, and which is the
text again when these are replaced by their characters.  So no two texts are escaped alike. -/
theorem TextFilter.escape_lossless (now : Moment) :
    let escaped := fun s : String => (Filter.ofStandard .escape).apply now (.str s) []
    (∀ s, ∃ t, escaped s = .ok (.str t) ∧
      (Filter.ofStandard .h).apply now (.str s) [] = .ok (.str t) ∧
      Escaped IsMarkEntity t.toList ∧ unescape t.toList = s.toList) ∧
    Function.Injective escaped := by
  intro escaped
  have happly : ∀ s, escaped s = .ok (.str (String.ofList (escape s.toList))) := fun s =>
    Filter.apply_onText rfl s
  constructor
  · intro s
    refine ⟨_, happly s, Filter.apply_onText rfl s, ?_, ?_⟩
    · rw [String.toList_ofList]
      exact escaped_escape s.toList
    · rw [String.toList_ofList]
      exact unescape_escape s.toList
  · intro s s' h
    rw [happly, happly] at h
    injection h with h
    injection h with h
    have hlists : escape s.toList = escape s'.toList := String.ofList_injective h
    have hread := congrArg unescape hlists
    rw [unescape_escape, unescape_escape] at hread
    exact String.toList_injective hread

/-- **Escaping once is enough.**  The filter gives, for every text, one that it leaves alone, as it
leaves alone what escaping gives; no mark stands in it, and each ampersand is the start of an
entity.  An entity of the text is kept, between what the filter makes of the texts on both sides of
it, and the text is escaped in full if and only if there is no entity in it.  All this comes of two
passes, one for ampersands and one for marks. -/
theorem TextFilter.escape_once_settles (now : Moment) (s : String) :
    let escaped := fun s : String => (Filter.ofStandard .escape).apply now (.str s) []
    let once := fun s : String => (Filter.ofStandard .escapeOnce).apply now (.str s) []
    ∃ t u, once s = .ok (.str t) ∧ escaped s = .ok (.str u) ∧
      once t = .ok (.str t) ∧ once u = .ok (.str u) ∧
      t.toList = escapeMarks (escapeBare s.toList) ∧ Escaped IsEntity t.toList ∧
      (∀ before e after, IsEntity e → s.toList = before ++ e ++ after →
        t.toList = escapeOnce before ++ e ++ escapeOnce after) ∧
      (t = u ↔ ∀ e, IsEntity e → ¬e <:+: s.toList) := by
  intro escaped once
  have honce : ∀ s, once s = .ok (.str (String.ofList (escapeOnce s.toList))) := fun s =>
    Filter.apply_onText rfl s
  -- the filter leaves an escaped text alone
  have hsettled : ∀ cs, Escaped IsEntity cs →
      once (String.ofList cs) = .ok (.str (String.ofList cs)) := by
    intro cs h
    rw [honce, String.toList_ofList, escapeOnce_eq_self_iff.2 h]
  refine ⟨String.ofList (escapeOnce s.toList), String.ofList (escape s.toList), honce s,
    Filter.apply_onText rfl s, hsettled _ (escaped_escapeOnce _), hsettled _ ?_, ?_, ?_, ?_, ?_⟩
  · exact (escaped_escape _).mono fun e he => he.isEntity
  · rw [String.toList_ofList]
    exact escapeOnce_eq_passes _
  · rw [String.toList_ofList]
    exact escaped_escapeOnce _
  · intro before e after he hs
    rw [String.toList_ofList, hs]
    exact escapeOnce_append_entity before he after
  · rw [String.ofList_inj]
    exact escapeOnce_eq_escape_iff

/-- A bare ampersand, a mark, and an entity between them. -/
theorem TextFilter.escape_once_settles_mixedText :
    ∃ t u, (Filter.ofStandard .escapeOnce).apply default (.str "& &#x2f; <") [] = .ok (.str t) ∧
      (Filter.ofStandard .escape).apply default (.str "& &#x2f; <") [] = .ok (.str u) ∧
      t.toList = escapeOnce "& ".toList ++ "&#x2f;".toList ++ escapeOnce " <".toList ∧
      t = "&amp; &#x2f; &lt;" ∧ t ≠ u := by
  have hentity : IsEntity "&#x2f;".toList :=
    ⟨"#x2f".toList, .hexadecimal (.inl rfl) (isRun_of_all (by decide) (by decide)), rfl⟩
  obtain ⟨t, u, ht, hu, -, -, -, -, hkept, hequal⟩ :=
    TextFilter.escape_once_settles default "& &#x2f; <"
  have hwritten := hkept "& ".toList "&#x2f;".toList " <".toList hentity rfl
  refine ⟨t, u, ht, hu, hwritten, String.toList_injective hwritten, fun h => ?_⟩
  exact hequal.1 h _ hentity ⟨"& ".toList, " <".toList, rfl⟩

end TemplateEngine
