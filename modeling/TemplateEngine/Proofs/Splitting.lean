/-
**Cutting a text at a separator, and putting it together again.**

A text is cut at the matches of a separator, from left to right; matches do not overlap, though the
separator may overlap itself.  So a text is read in steps: a match at the start is passed over, and
any other character goes to the part that is being read.  With the separator between them the parts
are the text again, and the separator stands in none of them: what stands in a part would have been
a match.  Empty parts at the end are dropped, and each of them stood behind a separator that the
joined parts lack.

A separator of one character cannot overlap the parts that it is put between.  Then cutting gives
the parts back, but for empty ones at the end.

Main definitions and results:

* `Text.splitOn_append_left`, `Text.splitOn_cons` — the two steps, and `Text.induction_on_matches`;
* `Text.joinWith_splitOn` — **the parts with the separator between them are the text**;
* `Text.not_isInfix_of_mem_splitOn` — **the separator stands in no part**;
* `Text.splitOn_singleton` — a separator of one character;
* `TextFilter.split_join_inverse` — **cutting and joining undo each other**, but for separators at
  the end.
-/
import TemplateEngine.Filter.Basic
import Mathlib.Data.List.DropRight

set_option autoImplicit false

namespace TemplateEngine

namespace Text

/-! ### One step of the cut -/

section Steps

variable {piece : List Char}

/-- The characters of a match are passed over. -/
theorem splitFrom_skip (piece part : List Char) (skip : Nat) (cs : List Char) :
    splitFrom piece part skip cs = splitFrom piece part 0 (cs.drop skip) := by
  induction cs generalizing skip with
  | nil => cases skip <;> rfl
  | cons c rest ih =>
      cases skip with
      | zero => rfl
      | succ skip => exact ih skip

theorem splitFrom_of_match {c : Char} {cs : List Char} (h : piece <+: c :: cs)
    (part : List Char) : splitFrom piece part 0 (c :: cs) =
      part.reverse :: splitOn piece (cs.drop (piece.length - 1)) := by
  rw [splitFrom, if_pos (List.isPrefixOf_iff_prefix.2 h), splitFrom_skip, splitOn]

theorem splitFrom_of_no_match {c : Char} {cs : List Char} (h : ¬piece <+: c :: cs)
    (part : List Char) : splitFrom piece part 0 (c :: cs) = splitFrom piece (c :: part) 0 cs := by
  rw [splitFrom, if_neg (mt List.isPrefixOf_iff_prefix.1 h)]

/-- What has been read of a part stands at the start of the first one. -/
theorem splitFrom_eq_modifyHead (part cs : List Char) :
    splitFrom piece part 0 cs = (splitOn piece cs).modifyHead (part.reverse ++ ·) := by
  induction cs generalizing part with
  | nil =>
      show [part.reverse] = [part.reverse ++ []]
      rw [List.append_nil]
  | cons c rest ih =>
      by_cases h : piece <+: c :: rest
      · rw [splitOn, splitFrom_of_match h, splitFrom_of_match h, List.modifyHead_cons,
          List.reverse_nil, List.append_nil]
      · rw [splitOn, splitFrom_of_no_match h, splitFrom_of_no_match h, ih, ih [c],
          List.modifyHead_modifyHead]
        congr 1
        funext x
        simp

theorem splitOn_nil : splitOn piece [] = [[]] := rfl

/-- **A match at the start** leaves an empty part in front of the rest. -/
theorem splitOn_append_left (hne : piece ≠ []) (cs : List Char) :
    splitOn piece (piece ++ cs) = [] :: splitOn piece cs := by
  obtain ⟨p, ps, rfl⟩ := List.exists_cons_of_ne_nil hne
  have hmatch : p :: ps <+: p :: (ps ++ cs) := List.prefix_append (p :: ps) cs
  rw [List.cons_append, splitOn, splitFrom_of_match hmatch, List.length_cons, Nat.add_sub_cancel,
    List.drop_left, List.reverse_nil]

/-- **Any other character** goes to the first part. -/
theorem splitOn_cons {c : Char} {cs : List Char} (h : ¬piece <+: c :: cs) :
    splitOn piece (c :: cs) = (splitOn piece cs).modifyHead (c :: ·) := by
  rw [splitOn, splitFrom_of_no_match h, splitFrom_eq_modifyHead]
  rfl

/-- **A text is read from match to match.** -/
@[elab_as_elim]
theorem induction_on_matches {motive : List Char → Prop} (hne : piece ≠ []) (cs : List Char)
    (nil : motive []) (here : ∀ cs, motive cs → motive (piece ++ cs))
    (other : ∀ c cs, ¬piece <+: c :: cs → motive cs → motive (c :: cs)) : motive cs := by
  -- a match may be of any length, so the induction is on that of the text
  induction hlength : cs.length using Nat.strong_induction_on generalizing cs with
  | h n ih =>
      subst hlength
      cases cs with
      | nil => exact nil
      | cons c rest =>
          by_cases h : piece <+: c :: rest
          · obtain ⟨after, hafter⟩ := h
            rw [← hafter] at ih ⊢
            have hshorter : after.length < (piece ++ after).length := by
              have := List.length_pos_iff.2 hne
              rw [List.length_append]
              omega
            exact here after (ih after.length hshorter after rfl)
          · exact other c rest h (ih rest.length (Nat.lt_succ_self _) rest rfl)

theorem splitOn_ne_nil (hne : piece ≠ []) (cs : List Char) : splitOn piece cs ≠ [] := by
  induction cs using induction_on_matches hne with
  | nil => exact List.cons_ne_nil _ _
  | here cs _ =>
      rw [splitOn_append_left hne]
      exact List.cons_ne_nil _ _
  | other c cs h ih =>
      obtain ⟨first, others, hparts⟩ := List.exists_cons_of_ne_nil ih
      rw [splitOn_cons h, hparts]
      exact List.cons_ne_nil _ _

end Steps

/-! ### Parts in a row -/

/-- Joining is what lists call intercalation. -/
theorem joinWith_eq_intercalate (glue : List Char) (parts : List (List Char)) :
    joinWith glue parts = glue.intercalate parts := by
  induction parts with
  | nil => rfl
  | cons part rest ih =>
      cases rest with
      | nil => exact List.intercalate_singleton.symm
      | cons q rest =>
          rw [joinWith, ih, List.intercalate_cons_cons]
          exact List.cons_ne_nil q rest

theorem joinWith_cons (glue part : List Char) {rest : List (List Char)} (hne : rest ≠ []) :
    joinWith glue (part :: rest) = part ++ glue ++ joinWith glue rest := by
  obtain ⟨q, rest, rfl⟩ := List.exists_cons_of_ne_nil hne
  rfl

/-- A row begins with its first part. -/
theorem prefix_joinWith (glue part : List Char) (rest : List (List Char)) :
    part <+: joinWith glue (part :: rest) := by
  cases rest with
  | nil => exact List.prefix_refl _
  | cons q rest => exact ⟨glue ++ joinWith glue (q :: rest), by rw [← List.append_assoc]; rfl⟩

/-- A row ends with the glue and its last part. -/
theorem joinWith_concat (glue : List Char) {parts : List (List Char)} (hne : parts ≠ [])
    (last : List Char) : joinWith glue (parts ++ [last]) = joinWith glue parts ++ glue ++ last := by
  induction parts with
  | nil => exact absurd rfl hne
  | cons part rest ih =>
      cases rest with
      | nil => rfl
      | cons q rest =>
          rw [List.cons_append, joinWith_cons glue part (List.append_ne_nil_of_left_ne_nil
              (List.cons_ne_nil q rest) _), ih (List.cons_ne_nil _ _),
            joinWith_cons glue part (List.cons_ne_nil _ _)]
          simp only [List.append_assoc]

/-- **An empty part at the end stands for a glue behind the others**, if there are others. -/
theorem joinWith_eq_rdropWhile (glue : List Char) (parts : List (List Char)) :
    ∃ k, joinWith glue parts =
      joinWith glue (parts.rdropWhile List.isEmpty) ++ (List.replicate k glue).flatten := by
  induction parts using List.reverseRecOn with
  | nil => exact ⟨0, rfl⟩
  | append_singleton parts last ih =>
      cases last with
      | cons c rest =>
          refine ⟨0, ?_⟩
          rw [List.rdropWhile_concat_neg _ _ _ (by simp), List.replicate_zero, List.flatten_nil,
            List.append_nil]
      | nil =>
          rw [List.rdropWhile_concat_pos _ _ _ rfl]
          by_cases hparts : parts = []
          · subst hparts
            exact ⟨0, rfl⟩
          · obtain ⟨k, hk⟩ := ih
            refine ⟨k + 1, ?_⟩
            rw [joinWith_concat glue hparts, hk, List.replicate_succ', List.flatten_concat,
              List.append_nil, List.append_assoc]

/-! ### Cutting and joining -/

section Cut

variable {piece : List Char}

/-- **The parts with the separator between them are the text.** -/
theorem joinWith_splitOn (hne : piece ≠ []) (cs : List Char) :
    joinWith piece (splitOn piece cs) = cs := by
  induction cs using induction_on_matches hne with
  | nil => rfl
  | here cs ih =>
      rw [splitOn_append_left hne, joinWith_cons piece [] (splitOn_ne_nil hne cs), ih,
        List.nil_append]
  | other c cs h ih =>
      obtain ⟨first, others, hparts⟩ := List.exists_cons_of_ne_nil (splitOn_ne_nil hne cs)
      rw [splitOn_cons h]
      rw [hparts] at ih ⊢
      subst ih
      cases others <;> rfl

/-- **The separator stands in no part.**  By induction along the text: it does not begin in front
of a character that goes to a part, for the part is what the text goes on with. -/
theorem not_isInfix_of_mem_splitOn (hne : piece ≠ []) (cs : List Char) :
    ∀ part ∈ splitOn piece cs, ¬piece <:+: part := by
  have hnil : ¬piece <:+: [] := fun h => hne (List.infix_nil.1 h)
  induction cs using induction_on_matches hne with
  | nil =>
      intro part hpart
      rw [splitOn_nil, List.mem_singleton] at hpart
      exact hpart ▸ hnil
  | here cs ih =>
      rw [splitOn_append_left hne]
      exact List.forall_mem_cons.2 ⟨hnil, ih⟩
  | other c cs h ih =>
      obtain ⟨first, others, hparts⟩ := List.exists_cons_of_ne_nil (splitOn_ne_nil hne cs)
      rw [hparts, List.forall_mem_cons] at ih
      obtain ⟨hfirst, hothers⟩ := ih
      rw [splitOn_cons h, hparts]
      refine List.forall_mem_cons.2 ⟨fun hinfix => ?_, hothers⟩
      rcases List.infix_cons_iff.1 hinfix with hstart | hinfix
      · have hcs : first <+: cs := by
          have hjoin := joinWith_splitOn hne cs
          rw [hparts] at hjoin
          exact hjoin ▸ prefix_joinWith piece first others
        exact h (hstart.trans (List.cons_prefix_cons.2 ⟨rfl, hcs⟩))
      · exact hfirst hinfix

/-- **A separator of one character** cuts where this character stands. -/
theorem splitOn_singleton (c : Char) (cs : List Char) : splitOn [c] cs = List.splitOn c cs := by
  induction cs with
  | nil => rfl
  | cons d rest ih =>
      by_cases hd : d = c
      · subst hd
        have hmatch := splitOn_append_left (List.cons_ne_nil d []) rest
        rw [List.singleton_append] at hmatch
        rw [hmatch, ih]
        simp [List.splitOn_eq_splitOnP, List.splitOnP_cons_eq_if_modifyHead]
      · have hno : ¬[c] <+: d :: rest := fun h => hd (List.cons_prefix_cons.1 h).1.symm
        rw [splitOn_cons hno, ih]
        simp [List.splitOn_eq_splitOnP, List.splitOnP_cons_eq_if_modifyHead, hd]

end Cut

end Text

/-! ### The two filters -/

namespace TextFilter

/-- The parts that are kept are those up to the last one that is not empty. -/
theorem split_eq_rdropWhile {separator : List Char} (hne : separator ≠ []) (cs : List Char) :
    split separator cs = (Text.splitOn separator cs).rdropWhile List.isEmpty := by
  rw [split, List.isEmpty_eq_false_iff.2 hne]
  rfl

/-- **What is dropped are separators at the end.** -/
theorem exists_eq_joinWith_split {separator : List Char} (hne : separator ≠ []) (cs : List Char) :
    ∃ k, cs = Text.joinWith separator (split separator cs) ++
      (List.replicate k separator).flatten := by
  obtain ⟨k, hk⟩ := Text.joinWith_eq_rdropWhile separator (Text.splitOn separator cs)
  rw [Text.joinWith_splitOn hne, ← split_eq_rdropWhile hne] at hk
  exact ⟨k, hk⟩

theorem not_isInfix_of_mem_split {separator : List Char} (hne : separator ≠ [])
    {cs part : List Char} (h : part ∈ split separator cs) : ¬separator <:+: part := by
  rw [split_eq_rdropWhile hne] at h
  exact Text.not_isInfix_of_mem_splitOn hne cs part ((List.rdropWhile_prefix _ _).subset h)

theorem ne_nil_of_mem_getLast?_split {separator : List Char} (hne : separator ≠ [])
    {cs last : List Char} (h : last ∈ (split separator cs).getLast?) : last ≠ [] := by
  obtain ⟨hparts, rfl⟩ := List.mem_getLast?_eq_getLast h
  intro hempty
  simp only [split_eq_rdropWhile hne] at hparts hempty
  exact List.rdropWhile_last_not _ _ hparts (List.isEmpty_iff.2 hempty)

/-- Without a separator every character is a part. -/
theorem split_nil (cs : List Char) : split [] cs = cs.map ([·]) := by
  have hkept : (cs.map ([·])).rdropWhile List.isEmpty = cs.map ([·]) := by
    refine List.rdropWhile_eq_self_iff.2 fun hne hlast => ?_
    obtain ⟨c, -, hc⟩ := List.mem_map.1 (List.getLast_mem hne)
    rw [← hc] at hlast
    cases hlast
  exact hkept

/-- **What one character joins, the same character cuts**, but for empty parts at the end. -/
theorem split_joinWith_singleton {c : Char} {parts : List (List Char)}
    (h : ∀ part ∈ parts, c ∉ part) :
    split [c] (Text.joinWith [c] parts) = parts.rdropWhile List.isEmpty := by
  rw [split_eq_rdropWhile (List.cons_ne_nil c []), Text.splitOn_singleton,
    Text.joinWith_eq_intercalate]
  by_cases hparts : parts = []
  · subst hparts
    rfl
  · rw [List.splitOn_intercalate c h hparts]

/-- Texts that are empty are those without characters. -/
theorem rdropWhile_texts (parts : List String) :
    ((parts.map String.toList).rdropWhile List.isEmpty).map String.ofList =
      parts.rdropWhile String.isEmpty := by
  have hempty : List.isEmpty ∘ String.toList = String.isEmpty := by
    funext part
    rw [Bool.eq_iff_iff, String.isEmpty_iff, ← String.toList_eq_nil_iff]
    exact List.isEmpty_iff
  have htexts : String.ofList ∘ String.toList = id := funext fun _ => String.ofList_toList
  rw [List.rdropWhile, ← List.map_reverse, List.dropWhile_map, ← List.map_reverse, List.map_map,
    hempty, htexts, List.map_id, List.rdropWhile]

variable (now : Moment)

/-- The filter cuts a text at a separator into parts. -/
def Splits (s separator : String) (parts : List String) : Prop :=
  (Filter.ofStandard .split).apply now (.str s) [.str separator] = .ok (.list (parts.map .str))

/-- The filter joins parts by a separator to a text. -/
def Joins (parts : List String) (separator s : String) : Prop :=
  (Filter.ofStandard .join).apply now (.list (parts.map .str)) [.str separator] = .ok (.str s)

theorem splits_split (s p : String) :
    Splits now s p ((split p.toList s.toList).map String.ofList) := by
  have hbody : splitting (.str s) (.str p) =
      .ok (.list (((split p.toList s.toList).map String.ofList).map .str)) := by
    rw [splitting, Value.text_str, Value.text_str, List.map_map]
    rfl
  exact Filter.apply_of_run (congrArg some hbody)

theorem joins_joinWith (parts : List String) (p : String) :
    Joins now parts p (String.ofList (Text.joinWith p.toList (parts.map String.toList))) := by
  have htexts : (parts.map Value.str).mapM (fun item => (item.text : Except Failure String)) =
      .ok parts := by
    induction parts with
    | nil => rfl
    | cons part rest ih =>
        rw [List.map_cons, List.mapM_cons, ih, Value.text_str]
        rfl
  have hbody : CollectionFilter.joining (.list (parts.map .str)) (some (.str p)) =
      .ok (.str (String.ofList (Text.joinWith p.toList (parts.map String.toList)))) := by
    simp only [CollectionFilter.joining, CollectionFilter.items?, Value.text_str]
    exact congrArg (fun r : Except Failure (List String) => r.bind fun parts =>
      .ok (Value.str (String.ofList (Text.joinWith p.toList (parts.map String.toList))))) htexts
  exact Filter.apply_of_run (congrArg some hbody)

/-- **Cutting and joining undo each other.**

* A text that is cut at a separator is the row of the parts with the separator between them, and
  behind it the separator once more for each empty part that was dropped.  The separator stands in
  no part, and the last part is not empty.
* Cut at the empty separator a text is its characters, and these put end to end are the text.
* Texts in which a character does not stand, joined by this character and cut at it, are the same
  texts up to the last one that is not empty. -/
theorem split_join_inverse :
    (∀ s p, p ≠ "" → ∃ parts t k, Splits now s p parts ∧ Joins now parts p t ∧
      s.toList = t.toList ++ (List.replicate k p.toList).flatten ∧
      (∀ part ∈ parts, ¬p.toList <:+: part.toList) ∧ ∀ last ∈ parts.getLast?, last ≠ "") ∧
    (∀ s, Splits now s "" (s.toList.map String.singleton) ∧
      Joins now (s.toList.map String.singleton) "" s) ∧
    ∀ (c : Char) (parts : List String), (∀ part ∈ parts, c ∉ part.toList) →
      ∃ t, Joins now parts (String.singleton c) t ∧
        Splits now t (String.singleton c) (parts.rdropWhile String.isEmpty) := by
  have htexts (parts : List (List Char)) : (parts.map String.ofList).map String.toList = parts := by
    simp [List.map_map, Function.comp_def]
  refine ⟨fun s p hp => ?_, fun s => ⟨?_, ?_⟩, fun c parts hparts => ?_⟩
  · have hne : p.toList ≠ [] := fun h => hp (String.toList_eq_nil_iff.1 h)
    obtain ⟨k, hk⟩ := exists_eq_joinWith_split hne s.toList
    refine ⟨_, _, k, splits_split now s p, joins_joinWith now _ p, ?_, ?_, ?_⟩
    · rw [String.toList_ofList, htexts]
      exact hk
    · intro part hpart
      obtain ⟨cs, hcs, rfl⟩ := List.mem_map.1 hpart
      rw [String.toList_ofList]
      exact not_isInfix_of_mem_split hne hcs
    · intro last hlast
      rw [List.getLast?_map] at hlast
      obtain ⟨cs, hcs, rfl⟩ := Option.map_eq_some_iff.1 hlast
      exact fun h => ne_nil_of_mem_getLast?_split hne hcs (String.ofList_eq_empty_iff.1 h)
  · have hparts : (split "".toList s.toList).map String.ofList =
        s.toList.map String.singleton := by
      rw [String.toList_empty, split_nil, List.map_map]
      exact List.map_congr_left fun c _ => String.singleton_eq_ofList.symm
    exact hparts ▸ splits_split now s ""
  · have hone : String.toList ∘ String.singleton = fun c => [c] :=
      funext fun c => String.toList_singleton c
    have hrow : Text.joinWith "".toList ((s.toList.map String.singleton).map String.toList) =
        s.toList := by
      rw [String.toList_empty, Text.joinWith_nil, List.map_map, hone]
      exact List.flatMap_singleton' s.toList
    have hjoin := joins_joinWith now (s.toList.map String.singleton) ""
    rw [hrow, String.ofList_toList] at hjoin
    exact hjoin
  · have hjoin := joins_joinWith now parts (String.singleton c)
    have hsplit := splits_split now (String.ofList (Text.joinWith [c] (parts.map String.toList)))
      (String.singleton c)
    rw [String.toList_singleton] at hjoin
    rw [String.toList_ofList, String.toList_singleton,
      split_joinWith_singleton (List.forall_mem_map.2 hparts), rdropWhile_texts] at hsplit
    exact ⟨_, hjoin, hsplit⟩

/-- A separator that overlaps itself, and empty texts among others. -/
theorem split_join_inverse_overlapping :
    (∃ parts t k, Splits default "aaabaaaa" "aa" parts ∧ Joins default parts "aa" t ∧
      "aaabaaaa".toList = t.toList ++ (List.replicate k "aa".toList).flatten ∧
      (∀ part ∈ parts, ¬"aa".toList <:+: part.toList) ∧ ∀ last ∈ parts.getLast?, last ≠ "") ∧
    ∃ t, Joins default ["a", "", "b", ""] (String.singleton ',') t ∧
      Splits default t (String.singleton ',') ["a", "", "b"] := by
  have hcomma : ∀ part ∈ ["a", "", "b", ""], ',' ∉ part.toList := by decide
  obtain ⟨hcut, -, hcharacter⟩ := split_join_inverse default
  exact ⟨hcut "aaabaaaa" "aa" (by decide), hcharacter ',' _ hcomma⟩

end TextFilter

end TemplateEngine
