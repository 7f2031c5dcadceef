/-
**Texts without tags.**

A tag is a `<` with a `>` somewhere behind it, whatever stands between them.  Markup is taken out
in two passes from left to right, and what stood on both sides of a piece that is taken out comes
together.  Yet no tag can come of this: where a pass leaves a `<`, there was no `>` in all that
followed it, and a pass adds none.

Both passes match only where a tag begins, so they leave a text without tags alone.

Main definitions and results:

* `Html.HasTag`, `Html.BeginsTag` — a tag in a text, and at its start;
* `Html.removeMatches_sublist` — a pass only takes away;
* `Html.removeMatches_eq_self` — a pass that matches only tags leaves a text without tags alone;
* `Html.not_hasTag_removeMatches` — **a pass that matches every tag leaves none**;
* `Html.tagLength?_isSome_iff`, `Html.beginsTag_of_block` — what the two passes match;
* `TextFilter.strip_html_leaves_no_tag` — **no tag is left**, and nothing is lost without one.
-/
import TemplateEngine.Filter.Basic

set_option autoImplicit false

namespace TemplateEngine

namespace Html

/-! ### Tags -/

/-- Somewhere behind a `<` there is a `>`. -/
def HasTag (cs : List Char) : Prop := ['<', '>'].Sublist cs

/-- A text begins with `<`, and there is a `>` behind it. -/
def BeginsTag (cs : List Char) : Prop := ∃ rest, cs = '<' :: rest ∧ '>' ∈ rest

/-- A tag stands behind the first character, or begins with it. -/
theorem hasTag_cons_iff {c : Char} {cs : List Char} :
    HasTag (c :: cs) ↔ HasTag cs ∨ BeginsTag (c :: cs) := by
  rw [HasTag, List.sublist_cons_iff]
  constructor
  · rintro (h | ⟨behind, heq, h⟩)
    · exact .inl h
    · obtain ⟨rfl, rfl⟩ := List.cons.inj heq
      exact .inr ⟨cs, rfl, List.singleton_sublist.1 h⟩
  · rintro (h | ⟨rest, heq, h⟩)
    · exact .inl h
    · obtain ⟨rfl, rfl⟩ := List.cons.inj heq
      exact .inr ⟨['>'], rfl, List.singleton_sublist.2 h⟩

theorem not_hasTag_nil : ¬HasTag [] := by
  intro h
  cases h

/-! ### One pass -/

section Pass

variable {matchLength? : List Char → Option Nat} {cs : List Char}

/-- **A pass only takes away.** -/
theorem removeMatches_sublist (cs : List Char) :
    ∀ skip, (removeMatches matchLength? skip cs).Sublist cs := by
  induction cs with
  | nil =>
      intro skip
      cases skip <;> exact List.Sublist.refl _
  | cons c rest ih =>
      intro skip
      cases skip with
      | succ skip => exact (ih skip).trans (List.sublist_cons_self c rest)
      | zero =>
          rw [removeMatches]
          split
          · next n _ => exact (ih (n - 1)).trans (List.sublist_cons_self c rest)
          · exact (ih 0).cons_cons c

/-- **A pass that matches only tags leaves a text without tags alone.** -/
theorem removeMatches_eq_self (hmatches : ∀ cs, (matchLength? cs).isSome = true → BeginsTag cs)
    (h : ¬HasTag cs) : removeMatches matchLength? 0 cs = cs := by
  induction cs with
  | nil => rfl
  | cons c rest ih =>
      rw [hasTag_cons_iff, not_or] at h
      obtain ⟨hrest, hbegins⟩ := h
      rw [removeMatches]
      split
      · next n hn =>
          have hsome : (matchLength? (c :: rest)).isSome = true := by
            rw [hn]
            rfl
          exact absurd (hmatches _ hsome) hbegins
      · rw [ih hrest]

/-- **A pass that matches every tag leaves none**, wherever it begins.  By induction along the
text: a `<` is kept only if no `>` stood behind it, and what is kept behind it stood there. -/
theorem not_hasTag_removeMatches
    (hmatches : ∀ cs, BeginsTag cs → (matchLength? cs).isSome = true) (cs : List Char) :
    ∀ skip, ¬HasTag (removeMatches matchLength? skip cs) := by
  induction cs with
  | nil =>
      intro skip
      cases skip <;> exact not_hasTag_nil
  | cons c rest ih =>
      intro skip
      cases skip with
      | succ skip => exact ih skip
      | zero =>
          rw [removeMatches]
          split
          · next n _ => exact ih (n - 1)
          · next hnone =>
              rw [hasTag_cons_iff, not_or]
              refine ⟨ih 0, ?_⟩
              rintro ⟨kept, heq, hclosing⟩
              obtain ⟨rfl, rfl⟩ := List.cons.inj heq
              have hbegins : BeginsTag ('<' :: rest) :=
                ⟨rest, rfl, (removeMatches_sublist rest 0).subset hclosing⟩
              have hsome := hmatches _ hbegins
              rw [hnone] at hsome
              cases hsome

end Pass

/-! ### What is matched -/

/-- A mark is found if it stands somewhere in the text. -/
theorem lengthThrough_isSome_iff {isMark : List Char → Bool} (hnil : isMark [] = false)
    (markLength : Nat) {cs : List Char} :
    (lengthThrough isMark markLength cs).isSome = true ↔ ∃ t, t <:+ cs ∧ isMark t = true := by
  induction cs with
  | nil =>
      constructor
      · intro h
        cases h
      · rintro ⟨t, ht, hmark⟩
        rw [List.suffix_nil.1 ht, hnil] at hmark
        cases hmark
  | cons c rest ih =>
      rw [lengthThrough]
      by_cases hc : isMark (c :: rest) = true
      · rw [if_pos hc]
        exact iff_of_true rfl ⟨_, List.suffix_refl _, hc⟩
      · rw [if_neg hc, Option.isSome_map, ih]
        constructor
        · rintro ⟨t, ht, hmark⟩
          exact ⟨t, ht.trans (List.suffix_cons c rest), hmark⟩
        · rintro ⟨t, ht, hmark⟩
          rcases List.suffix_cons_iff.1 ht with rfl | ht
          · exact absurd hmark hc
          · exact ⟨t, ht, hmark⟩

/-- **The second pass matches exactly where a tag begins.** -/
theorem tagLength?_isSome_iff {cs : List Char} :
    (tagLength? cs).isSome = true ↔ BeginsTag cs := by
  have hclosing : ∀ rest : List Char, (∃ t, t <:+ rest ∧ (t.head? == some '>') = true) ↔
      '>' ∈ rest := by
    intro rest
    constructor
    · rintro ⟨t, ht, hhead⟩
      obtain ⟨after, rfl⟩ := List.head?_eq_some_iff.1 (beq_iff_eq.1 hhead)
      exact ht.subset List.mem_cons_self
    · intro hmem
      obtain ⟨before, after, rfl⟩ := List.append_of_mem hmem
      exact ⟨'>' :: after, List.suffix_append before _, rfl⟩
  unfold tagLength?
  split
  · next rest =>
      rw [Option.isSome_map, lengthThrough_isSome_iff rfl, hclosing]
      constructor
      · intro h
        exact ⟨rest, rfl, h⟩
      · rintro ⟨rest', heq, h⟩
        obtain rfl := (List.cons.inj heq).2
        exact h
  · next hne =>
      constructor
      · intro h
        cases h
      · rintro ⟨rest, rfl, -⟩
        exact absurd rfl (hne rest)

/-- `<` and `>` are read only as themselves. -/
theorem eq_of_foldsTo {p c : Char} (hp : p = '<' ∨ p = '>') (h : foldsTo p c = true) : c = p := by
  have hupper : p.toUpper = p ∧ p ≠ 's' ∧ p ≠ 'i' := by
    rcases hp with rfl | rfl <;> decide
  simpa [foldsTo, hupper] using h

theorem beginsWith_nil {mark : List Char} (h : mark ≠ []) : beginsWith mark [] = false := by
  obtain ⟨p, ps, rfl⟩ := List.exists_cons_of_ne_nil h
  rfl

/-- What begins with a mark holds all characters of it, up to case. -/
theorem exists_foldsTo_of_beginsWith {mark : List Char} : ∀ {cs : List Char},
    beginsWith mark cs = true → ∀ p ∈ mark, ∃ c ∈ cs, foldsTo p c = true := by
  induction mark with
  | nil =>
      intro cs _ p hp
      cases hp
  | cons q mark ih =>
      intro cs h p hp
      cases cs with
      | nil => cases h
      | cons c rest =>
          obtain ⟨hc, hrest⟩ := Bool.and_eq_true_iff.1 h
          rcases List.mem_cons.1 hp with rfl | hp
          · exact ⟨c, List.mem_cons_self, hc⟩
          · obtain ⟨d, hd, hfolds⟩ := ih hrest p hp
            exact ⟨d, List.mem_cons_of_mem c hd, hfolds⟩

/-- **The first pass matches only where a tag begins**: each block opens with `<`, and there is a
`>` in what it closes with. -/
theorem beginsTag_of_block {cs : List Char} (h : (anyBlockLength? cs).isSome = true) :
    BeginsTag cs := by
  have hblocks : ∀ b ∈ blocks, b.1.head? = some '<' ∧ '>' ∈ b.2 := by decide
  obtain ⟨b, hb, hlength⟩ := List.findSome?_isSome_iff.1 h
  obtain ⟨hhead, hclosing⟩ := hblocks b hb
  obtain ⟨word, hword⟩ := List.head?_eq_some_iff.1 hhead
  rw [blockLength?] at hlength
  split at hlength
  · next hopens =>
      rw [Option.isSome_map, hword] at hlength
      rw [hword] at hopens
      cases cs with
      | nil => cases hopens
      | cons c rest =>
          obtain rfl := eq_of_foldsTo (.inl rfl) (Bool.and_eq_true_iff.1 hopens).1
          refine ⟨rest, rfl, ?_⟩
          have hnil := beginsWith_nil (List.ne_nil_of_mem hclosing)
          obtain ⟨t, ht, hcloses⟩ := (lengthThrough_isSome_iff hnil _).1 hlength
          obtain ⟨d, hd, hfolds⟩ := exists_foldsTo_of_beginsWith hcloses '>' hclosing
          obtain rfl := eq_of_foldsTo (.inr rfl) hfolds
          -- behind the opening mark there is at least not the first character
          have hbehind : t <:+ rest := ht.trans (List.drop_suffix word.length rest)
          exact hbehind.subset hd
  · cases hlength

/-! ### Both passes -/

/-- **No tag is left.** -/
theorem not_hasTag_strip (cs : List Char) : ¬HasTag (strip cs) :=
  not_hasTag_removeMatches (fun _ => tagLength?_isSome_iff.2) (stripBlocks cs) 0

theorem strip_sublist (cs : List Char) : (strip cs).Sublist cs :=
  (removeMatches_sublist (stripBlocks cs) 0).trans (removeMatches_sublist cs 0)

/-- **The texts without tags are those that are left alone.** -/
theorem strip_eq_self_iff {cs : List Char} : strip cs = cs ↔ ¬HasTag cs := by
  constructor
  · intro h
    rw [← h]
    exact not_hasTag_strip cs
  · intro h
    have hblocks : stripBlocks cs = cs := removeMatches_eq_self (fun _ => beginsTag_of_block) h
    have htags : stripTags cs = cs := removeMatches_eq_self (fun _ => tagLength?_isSome_iff.1) h
    rw [strip, hblocks, htags]

end Html

open Html

/-- **Taking the markup out leaves no tag.**  The filter gives, for every text, one in which no `<`
has a `>` behind it, and which it leaves alone.  This text is what is left of the first one when
some characters are taken away, and it is the first one itself if and only if there was no tag. -/
theorem TextFilter.strip_html_leaves_no_tag (now : Moment) (s : String) :
    let stripped := fun s : String => (Filter.ofStandard .stripHtml).apply now (.str s) []
    ∃ t, stripped s = .ok (.str t) ∧ ¬HasTag t.toList ∧ stripped t = .ok (.str t) ∧
      t.toList.Sublist s.toList ∧ (t = s ↔ ¬HasTag s.toList) := by
  intro stripped
  have happly : ∀ s, stripped s = .ok (.str (String.ofList (strip s.toList))) := fun s =>
    Filter.apply_onText rfl s
  have htext : (String.ofList (strip s.toList)).toList = strip s.toList := String.toList_ofList
  refine ⟨_, happly s, ?_, ?_, ?_, ?_⟩
  · rw [htext]
    exact not_hasTag_strip s.toList
  · rw [happly, htext, strip_eq_self_iff.2 (not_hasTag_strip s.toList)]
  · rw [htext]
    exact strip_sublist s.toList
  · rw [← String.toList_inj, htext]
    exact strip_eq_self_iff

end TemplateEngine
