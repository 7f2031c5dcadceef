/-
**Cutting a text short.**

A text is cut to a number of characters, the ellipsis included, or to a number of words with the
ellipsis behind them.  The first never gives more characters than it is asked for, unless the
ellipsis alone is longer; then it gives the ellipsis, and would do so again.

The second asks two different numbers: it leaves a text alone if this has no more words than asked
for, but it keeps one word at least.  **So where no word is asked for, a text of one word or none
gets an ellipsis though nothing is cut off.**

Main definitions:

* `Text.HasWords` — the words of a text, with the blanks around them;
* `TextFilter.Cuts` — what a filter that cuts a text makes of it.

Main results:

* `Text.hasWords_iff` — the words that are read are the words of the text;
* `TextFilter.truncate_truncate` — cutting twice is cutting once;
* `TextFilter.truncate_fits` — **what cutting to a length gives**;
* `TextFilter.truncatewords_cuts` — **what cutting to a number of words gives**.
-/
import TemplateEngine.Proofs.Splitting

set_option autoImplicit false

namespace TemplateEngine

/-! ### The words of a text -/

namespace Text

/-- **A text has some words** if it is these words in order, each of them without blanks, not empty
and as long as it can be, with nothing but blanks around them. -/
inductive HasWords : List Char → List (List Char) → Prop
  | blank {gap : List Char} (hgap : ∀ c ∈ gap, isBlank c = true) : HasWords gap []
  | word {gap word rest : List Char} {others : List (List Char)}
      (hgap : ∀ c ∈ gap, isBlank c = true) (hne : word ≠ [])
      (hword : ∀ c ∈ word, isBlank c = false) (hend : ∀ c ∈ rest.head?, isBlank c = true)
      (hrest : HasWords rest others) : HasWords (gap ++ word ++ rest) (word :: others)

variable {cs gap word : List Char} {ws : List (List Char)}

/-- A blank in front changes no word. -/
theorem HasWords.blank_cons {c : Char} (hc : isBlank c = true) (h : HasWords cs ws) :
    HasWords (c :: cs) ws := by
  cases h with
  | blank hgap => exact .blank (List.forall_mem_cons.2 ⟨hc, hgap⟩)
  | word hgap hne hword hend hrest =>
      exact .word (List.forall_mem_cons.2 ⟨hc, hgap⟩) hne hword hend hrest

/-- A text that begins with a word. -/
theorem HasWords.word_append (hne : word ≠ []) (hword : ∀ c ∈ word, isBlank c = false)
    (hend : ∀ c ∈ cs.head?, isBlank c = true) (h : HasWords cs ws) :
    HasWords (word ++ cs) (word :: ws) :=
  .word (List.forall_mem_nil _) hne hword hend h

/-- The words that are read are words of the text.  By induction along the text, with the word that
is being read in front of it. -/
theorem hasWords_wordsFrom (word cs : List Char) (hword : ∀ c ∈ word, isBlank c = false) :
    HasWords (word.reverse ++ cs) (wordsFrom word cs) := by
  induction cs generalizing word with
  | nil =>
      cases word with
      | nil => exact .blank (List.forall_mem_nil _)
      | cons c rest =>
          have hnil : HasWords [] [] := .blank (List.forall_mem_nil _)
          exact .word_append (by simp) (fun d hd => hword d (List.mem_reverse.1 hd)) (by simp) hnil
  | cons c rest ih =>
      cases hc : isBlank c with
      | true =>
          have hrest : HasWords (c :: rest) (wordsFrom [] rest) :=
            .blank_cons hc (ih [] (List.forall_mem_nil _))
          cases word with
          | nil =>
              rw [wordsFrom, if_pos hc]
              exact hrest
          | cons d before =>
              rw [wordsFrom, if_pos hc]
              refine .word_append (by simp) (fun x hx => hword x (List.mem_reverse.1 hx)) ?_ hrest
              rintro x ⟨⟩
              exact hc
      | false =>
          have hlonger := ih (c :: word) (List.forall_mem_cons.2 ⟨hc, hword⟩)
          rw [List.reverse_cons, List.append_assoc, List.singleton_append] at hlonger
          rw [wordsFrom, if_neg (by rw [hc]; decide)]
          exact hlonger

theorem words_blank_append (hgap : ∀ c ∈ gap, isBlank c = true) (cs : List Char) :
    words (gap ++ cs) = words cs := by
  induction gap with
  | nil => rfl
  | cons c gap ih =>
      rw [List.forall_mem_cons] at hgap
      rw [List.cons_append, words, wordsFrom, if_pos hgap.1]
      exact ih hgap.2

/-- The characters of a word go to the word that is being read. -/
theorem wordsFrom_append (hword : ∀ c ∈ word, isBlank c = false) (before cs : List Char) :
    wordsFrom before (word ++ cs) = wordsFrom (word.reverse ++ before) cs := by
  induction word generalizing before with
  | nil => rfl
  | cons c word ih =>
      rw [List.forall_mem_cons] at hword
      rw [List.cons_append, wordsFrom, if_neg (by rw [hword.1]; decide), ih hword.2]
      simp

/-- A word that has been read ends in front of a blank, and at the end of the text. -/
theorem wordsFrom_of_end (hne : word ≠ []) (hend : ∀ c ∈ cs.head?, isBlank c = true) :
    wordsFrom word cs = word.reverse :: words cs := by
  cases word with
  | nil => exact absurd rfl hne
  | cons d before =>
      cases cs with
      | nil => rfl
      | cons c rest =>
          have hc : isBlank c = true := hend c rfl
          rw [words, wordsFrom, wordsFrom, if_pos hc, if_pos hc]
          rfl

/-- **The words of a text are those that are read**, and no others. -/
theorem hasWords_iff : HasWords cs ws ↔ ws = words cs := by
  constructor
  · intro h
    induction h with
    | blank hgap =>
        have hnone := words_blank_append hgap []
        rw [List.append_nil] at hnone
        exact hnone.symm
    | word hgap hne hword hend _ ih =>
        rw [List.append_assoc, words_blank_append hgap, words, wordsFrom_append hword,
          List.append_nil, wordsFrom_of_end (mt List.reverse_eq_nil_iff.1 hne) hend,
          List.reverse_reverse, ih]
  · rintro rfl
    exact hasWords_wordsFrom [] cs (List.forall_mem_nil _)

end Text

/-! ### Cutting -/

namespace TextFilter

/-- A filter that cuts texts, with a size and an ellipsis, makes one text of another. -/
def Cuts (kind : StandardFilter) (now : Moment) (s : String) (n : Int) (ellipsis r : String) :
    Prop :=
  (Filter.ofStandard kind).apply now (.str s) [.int n, .str ellipsis] = .ok (.str r)

/-- What a filter that cuts texts makes of a text. -/
theorem cuts_cutting (kind : StandardFilter) (now : Moment)
    {f : Int → List Char → List Char → List Char} {size : Int}
    (h : kind.operation now = .optional₂ (cutting f size)) (s : String) (n : Int)
    (ellipsis : String) :
    Cuts kind now s n ellipsis (String.ofList (f n ellipsis.toList s.toList)) := by
  have hbody : cutting f size (.str s) (some (.int n)) (some (.str ellipsis)) =
      .ok (.str (String.ofList (f n ellipsis.toList s.toList))) := by
    rw [cutting, Value.text_str]
    simp only [Value.text_str]
    rfl
  refine Filter.apply_of_run ?_
  rw [h, Operation.run, hbody]

/-! ### Cutting to a length -/

section Truncate

variable {n : Int} {cs : List Char} (ellipsis : List Char)

theorem truncate_of_length_le (h : (cs.length : Int) ≤ n) : truncate n ellipsis cs = cs := if_pos h

theorem truncate_of_lt_length (h : n < cs.length) :
    truncate n ellipsis cs = cs.take (n - ellipsis.length).toNat ++ ellipsis :=
  if_neg (Int.not_le.2 h)

/-- A text that is cut gets the length that is asked for, if there is room for the ellipsis. -/
theorem length_truncate_of_lt (h : n < cs.length) :
    ((truncate n ellipsis cs).length : Int) = max n ellipsis.length := by
  rw [truncate_of_lt_length ellipsis h, List.length_append, List.length_take]
  omega

/-- **Cutting twice is cutting once.**  A text that has been cut is short enough, or it is the
ellipsis alone, and this is what it is cut to again. -/
theorem truncate_truncate (n : Int) (ellipsis cs : List Char) :
    truncate n ellipsis (truncate n ellipsis cs) = truncate n ellipsis cs := by
  rcases Int.lt_or_le n cs.length with hlong | hshort
  · have hlength := length_truncate_of_lt ellipsis hlong
    rcases Int.lt_or_le n ellipsis.length with hellipsis | hroom
    · have hnothing : (n - ellipsis.length).toNat = 0 := by omega
      have hcut : truncate n ellipsis cs = ellipsis := by
        rw [truncate_of_lt_length ellipsis hlong, hnothing, List.take_zero, List.nil_append]
      rw [hcut, truncate_of_lt_length ellipsis hellipsis, hnothing, List.take_zero, List.nil_append]
    · exact truncate_of_length_le ellipsis (by omega)
  · rw [truncate_of_length_le ellipsis hshort, truncate_of_length_le ellipsis hshort]

end Truncate

/-- **What cutting to a length gives.**  A text of at most `n` characters is left alone.  A longer
one gets `n` characters, or as many as the ellipsis has if these are more: a piece from the start of
the text, and the ellipsis.  Either way, cutting what comes out once more changes nothing. -/
theorem truncate_fits (now : Moment) (s : String) (n : Int) (ellipsis : String) :
    ∃ r, Cuts .truncate now s n ellipsis r ∧ Cuts .truncate now r n ellipsis r ∧
      ((s.length : Int) ≤ n ∧ r = s ∨
        n < s.length ∧ (r.length : Int) = max n ellipsis.length ∧
          ∃ start, r = start ++ ellipsis ∧ start.toList <+: s.toList) := by
  have hcuts := cuts_cutting .truncate now rfl
  have hagain := hcuts (String.ofList (truncate n ellipsis.toList s.toList)) n ellipsis
  rw [String.toList_ofList, truncate_truncate] at hagain
  refine ⟨_, hcuts s n ellipsis, hagain, ?_⟩
  simp only [← String.length_toList]
  rcases Int.lt_or_le n s.toList.length with hlong | hshort
  · right
    refine ⟨hlong, ?_, String.ofList (s.toList.take (n - ellipsis.toList.length).toNat), ?_, ?_⟩
    · rw [String.toList_ofList, length_truncate_of_lt _ hlong]
    · rw [truncate_of_lt_length _ hlong, String.ofList_append, String.ofList_toList]
    · rw [String.toList_ofList]
      exact List.take_prefix _ _
  · left
    rw [truncate_of_length_le _ hshort, String.ofList_toList]
    exact ⟨hshort, rfl⟩

/-! ### Cutting to a number of words -/

/-- The words that are kept of a text that is cut. -/
theorem truncateWords_of_lt {n : Int} {cs : List Char} (h : n < (Text.words cs).length)
    (ellipsis : List Char) : truncateWords n ellipsis cs =
      [' '].intercalate ((Text.words cs).take (max n 1).toNat) ++ ellipsis := by
  rw [truncateWords, if_neg (Int.not_le.2 h), Text.joinWith_eq_intercalate]

/-- **What cutting to a number of words gives.**  Let `ws` be the words of the text.

* A text of at most `n` words is left alone.
* A text of more words, of which one at least is kept and one at least is not, becomes the first
  `n` words, or the first one if `n` is less than 1, with single spaces between them and the
  ellipsis behind them.
* But a text of one word, or none, becomes that word with the ellipsis behind it if fewer words are
  asked for than it has. -/
theorem truncatewords_cuts (now : Moment) (s : String) (n : Int) (ellipsis : String) :
    ∃ ws r, Text.HasWords s.toList ws ∧ Cuts .truncatewords now s n ellipsis r ∧
      ((ws.length : Int) ≤ n ∧ r = s ∨
        max n 1 < (ws.length : Int) ∧
          r.toList = [' '].intercalate (ws.take (max n 1).toNat) ++ ellipsis.toList ∨
        n < ws.length ∧ ws.length ≤ 1 ∧ r.toList = ws.flatten ++ ellipsis.toList) := by
  refine ⟨Text.words s.toList, _, Text.hasWords_iff.2 rfl,
    cuts_cutting .truncatewords now rfl s n ellipsis, ?_⟩
  rw [String.toList_ofList]
  rcases Int.lt_or_le n (Text.words s.toList).length with hmore | hfits
  · right
    rw [truncateWords_of_lt hmore]
    rcases Int.lt_or_le (max n 1) (Text.words s.toList).length with hcut | hkept
    · exact .inl ⟨hcut, rfl⟩
    · -- at most one word, and it is kept: there is nothing to put a space between
      have hone : (Text.words s.toList).length ≤ 1 := by omega
      refine .inr ⟨hmore, hone, ?_⟩
      rw [List.take_of_length_le (by omega)]
      rcases hws : Text.words s.toList with _ | ⟨word, _ | ⟨other, others⟩⟩
      · rfl
      · rw [List.intercalate_singleton, List.flatten_singleton]
      · rw [hws, List.length_cons, List.length_cons] at hone
        omega
  · left
    rw [truncateWords, if_pos hfits, String.ofList_toList]
    exact ⟨hfits, rfl⟩

/-- **An ellipsis where nothing is cut off.**  No word is asked for, but the only word is kept: the
text is not left alone, and there is no word behind those that are kept. -/
theorem ellipsis_without_cut :
    Cuts .truncatewords default "one" 0 "..." "one..." ∧
      ¬∃ ws, Text.HasWords "one".toList ws ∧
        ("one..." = "one" ∨ max 0 1 < (ws.length : Int) ∧
          "one...".toList = [' '].intercalate (ws.take (max 0 1 : Int).toNat) ++ "...".toList) := by
  refine ⟨cuts_cutting .truncatewords default rfl "one" 0 "...", ?_⟩
  rintro ⟨ws, hws, hsame | ⟨hmore, -⟩⟩
  · exact absurd hsame (by decide)
  · have hone : ws = ["one".toList] := Text.hasWords_iff.1 hws
    rw [hone] at hmore
    exact absurd hmore (by decide)

end TextFilter

end TemplateEngine
