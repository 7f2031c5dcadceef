/-
**Blocks that come together.**

The first pass over a text takes out its blocks, that is its scripts, style sheets and comments:
whatever stands between an opening mark and the next closing one, with both marks.  It goes over
the text only once, from left to right, and what stood on both sides of a block comes together.
**So a mark can come together from two parts with a block between them**, and a block that the
text did not have is handed over to the second pass, which takes its marks out and leaves what
stands between them.

This is the only way for a block to be left.  In the text that is handed over, every block has a
mark with its parts on both sides of a gap.

Main definitions:

* `Html.Block`, `Html.Block.IsShortest` — a block, and one that closes as soon as it can;
* `Html.Cut` — the pieces of a text that are left when its blocks are taken out;
* `Html.Straddles` — a mark with its parts on both sides of a gap.

Main results:

* `Html.exists_cut` — the first pass leaves the pieces of a cut;
* `Html.Cut.straddles_of_block` — **a block that is left has a mark that straddles a gap**;
* `TextFilter.strip_html_cuts_blocks` — what the filter does with the blocks of a text.
-/
import TemplateEngine.Proofs.Html.Stripping
import Mathlib.Data.List.Forall2

set_option autoImplicit false

namespace TemplateEngine

namespace Html

/-! ### Blocks -/

/-- A mark as it stands in a text, up to case. -/
def Spelled (mark cs : List Char) : Prop := List.Forall₂ (fun p c => foldsTo p c = true) mark cs

/-- **A block**: what stands between the two marks of a script, a style sheet or a comment, with
these marks. -/
structure Block where
  /-- The opening and the closing mark. -/
  marks : List Char × List Char
  known : marks ∈ blocks
  opening : List Char
  body : List Char
  closing : List Char
  opens : Spelled marks.1 opening
  closes : Spelled marks.2 closing

/-- The whole block. -/
def Block.text (b : Block) : List Char := b.opening ++ (b.body ++ b.closing)

/-- Behind the opening mark, the first closing mark stands at the end. -/
def Block.IsShortest (b : Block) : Prop :=
  ∀ before mark after, b.body ++ b.closing = before ++ (mark ++ after) → Spelled b.marks.2 mark →
    after = []

/-- A text begins with a block. -/
def BeginsBlock (cs : List Char) : Prop := ∃ b : Block, b.text <+: cs

/-- **The pieces of a text without its blocks**, from left to right: a character that begins no
block is kept, and a block leaves a gap between two pieces. -/
inductive Cut : List Char → List (List Char) → Prop
  | nil : Cut [] [[]]
  | keep {c : Char} {rest piece : List Char} {pieces : List (List Char)} :
      ¬BeginsBlock (c :: rest) → Cut rest (piece :: pieces) →
        Cut (c :: rest) ((c :: piece) :: pieces)
  | block {b : Block} {rest : List Char} {pieces : List (List Char)} :
      b.IsShortest → Cut rest pieces → Cut (b.text ++ rest) ([] :: pieces)

/-! ### Marks -/

section Marks

variable {mark cs : List Char}

/-- What begins with a mark has the mark in front. -/
theorem beginsWith_iff : beginsWith mark cs = true ↔ ∃ m rest, cs = m ++ rest ∧ Spelled mark m := by
  induction mark generalizing cs with
  | nil =>
      rw [beginsWith]
      exact iff_of_true rfl ⟨[], cs, rfl, .nil⟩
  | cons p mark ih =>
      constructor
      · intro h
        cases cs with
        | nil => cases h
        | cons c cs =>
            obtain ⟨hc, hcs⟩ := Bool.and_eq_true_iff.1 h
            obtain ⟨m, rest, rfl, hm⟩ := ih.1 hcs
            exact ⟨c :: m, rest, rfl, .cons hc hm⟩
      · rintro ⟨m, rest, rfl, hm⟩
        cases hm with
        | cons hc hm => exact Bool.and_eq_true_iff.2 ⟨hc, ih.2 ⟨_, rest, rfl, hm⟩⟩

theorem Spelled.length_eq (h : Spelled mark cs) : cs.length = mark.length :=
  (List.Forall₂.length_eq h).symm

/-- A mark stands for itself. -/
theorem spelled_self (mark : List Char) : Spelled mark mark :=
  List.forall₂_same.2 fun p _ => by simp [foldsTo]

/-- The block between two marks that are written as they are. -/
def Block.between (marks : List Char × List Char) (known : marks ∈ blocks) (body : List Char) :
    Block :=
  ⟨marks, known, marks.1, body, marks.2, spelled_self marks.1, spelled_self marks.2⟩

theorem marks_ne_nil {marks : List Char × List Char} (h : marks ∈ blocks) :
    marks.1 ≠ [] ∧ marks.2 ≠ [] := by
  have hblocks : ∀ b ∈ blocks, b.1 ≠ [] ∧ b.2 ≠ [] := by decide
  exact hblocks marks h

theorem Block.opening_ne_nil (b : Block) : b.opening ≠ [] := by
  intro h
  have hlength := b.opens.length_eq
  rw [h] at hlength
  exact (marks_ne_nil b.known).1 (List.length_eq_zero_iff.1 hlength.symm)

theorem Block.text_ne_nil (b : Block) : b.text ≠ [] :=
  List.append_ne_nil_of_left_ne_nil b.opening_ne_nil _

/-- **The search for a mark ends behind the first one.** -/
theorem lengthThrough_eq_some {n : Nat}
    (h : lengthThrough (beginsWith mark) mark.length cs = some n) :
    ∃ before m after, cs = before ++ (m ++ after) ∧ Spelled mark m ∧ (before ++ m).length = n ∧
      ∀ before' m' after', before ++ m = before' ++ (m' ++ after') → Spelled mark m' →
        after' = [] := by
  induction cs generalizing n with
  | nil => cases h
  | cons c rest ih =>
      rw [lengthThrough] at h
      split at h
      · next hbegins =>
          obtain ⟨m, after, hcs, hm⟩ := beginsWith_iff.1 hbegins
          refine ⟨[], m, after, hcs, hm, hm.length_eq.trans (Option.some.inj h), ?_⟩
          intro before' m' after' heq hm'
          have hlength := congrArg List.length heq
          rw [List.nil_append, List.length_append, List.length_append, hm.length_eq,
            hm'.length_eq] at hlength
          exact List.length_eq_zero_iff.1 (by omega)
      · next hbegins =>
          obtain ⟨k, hk, rfl⟩ := Option.map_eq_some_iff.1 h
          obtain ⟨before, m, after, rfl, hm, rfl, hfirst⟩ := ih hk
          refine ⟨c :: before, m, after, rfl, hm, rfl, ?_⟩
          intro before' m' after' heq hm'
          cases before' with
          | cons d before' => exact hfirst before' m' after' (List.cons.inj heq).2 hm'
          | nil =>
              -- a mark at the start would have been found there
              refine absurd (beginsWith_iff.2 ⟨m', after' ++ after, ?_, hm'⟩) hbegins
              rw [← List.append_assoc, ← List.append_assoc, ← List.cons_append, ← List.cons_append]
              exact congrArg (· ++ after) heq

/-- **What is matched is a block**, and it closes as soon as it can. -/
theorem exists_block_of_anyBlockLength? {n : Nat} (h : anyBlockLength? cs = some n) :
    ∃ (b : Block) (after : List Char), cs = b.text ++ after ∧ b.text.length = n ∧
      b.IsShortest := by
  obtain ⟨marks, hknown, hlength⟩ := List.exists_of_findSome?_eq_some h
  rw [blockLength?] at hlength
  split at hlength
  · next hopens =>
      obtain ⟨opening, rest, rfl, hopening⟩ := beginsWith_iff.1 hopens
      rw [← hopening.length_eq, List.drop_left] at hlength
      obtain ⟨k, hk, rfl⟩ := Option.map_eq_some_iff.1 hlength
      obtain ⟨body, closing, after, rfl, hclosing, rfl, hfirst⟩ := lengthThrough_eq_some hk
      let b : Block := ⟨marks, hknown, opening, body, closing, hopening, hclosing⟩
      refine ⟨b, after, ?_, ?_, hfirst⟩
      · simp only [b, Block.text, List.append_assoc]
      · rw [Block.text, List.length_append, Nat.add_comm]
  · cases hlength

/-- **A block is matched.** -/
theorem not_beginsBlock_of_none (h : anyBlockLength? cs = none) : ¬BeginsBlock cs := by
  rintro ⟨b, after, rfl⟩
  have hnone := List.findSome?_eq_none_iff.1 h b.marks b.known
  have hopens : beginsWith b.marks.1 (b.text ++ after) = true :=
    beginsWith_iff.2 ⟨b.opening, b.body ++ b.closing ++ after, List.append_assoc _ _ _, b.opens⟩
  have hbehind : (b.text ++ after).drop b.marks.1.length = b.body ++ (b.closing ++ after) := by
    rw [Block.text, List.append_assoc, ← b.opens.length_eq, List.drop_left, List.append_assoc]
  have hnil := beginsWith_nil (marks_ne_nil b.known).2
  have hsome : (lengthThrough (beginsWith b.marks.2) b.marks.2.length
      (b.body ++ (b.closing ++ after))).isSome = true :=
    (lengthThrough_isSome_iff hnil _).2 ⟨b.closing ++ after, List.suffix_append _ _,
      beginsWith_iff.2 ⟨b.closing, after, rfl, b.closes⟩⟩
  rw [blockLength?, if_pos hopens, hbehind, Option.map_eq_none_iff] at hnone
  rw [hnone] at hsome
  cases hsome

end Marks

/-! ### Cuts -/

section Cuts

variable {cs piece : List Char} {pieces : List (List Char)}

theorem Cut.exists_cons (h : Cut cs pieces) : ∃ piece rest, pieces = piece :: rest := by
  cases h <;> exact ⟨_, _, rfl⟩

/-- **The first pass leaves the pieces of a cut**, wherever it begins. -/
theorem exists_cut (cs : List Char) : ∀ skip ≤ cs.length,
    ∃ pieces, Cut (cs.drop skip) pieces ∧
      removeMatches anyBlockLength? skip cs = pieces.flatten := by
  induction cs with
  | nil =>
      intro skip _
      refine ⟨[[]], ?_, by cases skip <;> rfl⟩
      rw [List.drop_nil]
      exact .nil
  | cons c rest ih =>
      intro skip hskip
      cases skip with
      | succ skip => exact ih skip (Nat.le_of_succ_le_succ hskip)
      | zero =>
          rw [removeMatches, List.drop_zero]
          cases hlength : anyBlockLength? (c :: rest) with
          | some n =>
              obtain ⟨b, after, hcs, rfl, hshortest⟩ := exists_block_of_anyBlockLength? hlength
              obtain ⟨d, text, htext⟩ := List.exists_cons_of_ne_nil b.text_ne_nil
              have hrest : rest = text ++ after := by
                rw [htext] at hcs
                exact (List.cons.inj hcs).2
              have hn : b.text.length - 1 = text.length := by
                rw [htext]
                rfl
              obtain ⟨pieces, hcut, hpieces⟩ := ih text.length (by simp [hrest])
              rw [hrest, List.drop_left] at hcut
              rw [← hn] at hpieces
              rw [hcs]
              exact ⟨[] :: pieces, .block hshortest hcut, hpieces⟩
          | none =>
              obtain ⟨pieces, hcut, hpieces⟩ := ih 0 (Nat.zero_le _)
              obtain ⟨piece, pieces, rfl⟩ := hcut.exists_cons
              refine ⟨(c :: piece) :: pieces, .keep (not_beginsBlock_of_none hlength) hcut, ?_⟩
              exact congrArg (c :: ·) hpieces

/-- The first piece stands at the start of the text, and what is behind a part of it is cut
alike. -/
theorem Cut.drop {front : List Char} (h : Cut cs ((front ++ piece) :: pieces)) :
    ∃ rest, cs = front ++ rest ∧ Cut rest (piece :: pieces) := by
  induction front generalizing cs with
  | nil => exact ⟨cs, rfl, h⟩
  | cons c front ih =>
      cases h with
      | keep _ hcut =>
          obtain ⟨rest, rfl, hrest⟩ := ih hcut
          exact ⟨rest, rfl, hrest⟩

/-! ### Marks on both sides of a gap -/

/-- **A mark straddles a gap**: behind `before`, it begins in one piece and ends in a later one. -/
def Straddles (pieces : List (List Char)) (before mark : List Char) : Prop :=
  ∃ left right front back, pieces = left ++ right ∧ left.flatten = before ++ front ∧
    mark = front ++ back ∧ front ≠ [] ∧ back ≠ []

variable {before mark after : List Char}

/-- A piece in front of the others leaves a mark where it is. -/
theorem Straddles.cons (h : Straddles pieces before mark) (piece : List Char) :
    Straddles (piece :: pieces) (piece ++ before) mark := by
  obtain ⟨left, right, front, back, rfl, hleft, hmark, hfront, hback⟩ := h
  refine ⟨piece :: left, right, front, back, rfl, ?_, hmark, hfront, hback⟩
  rw [List.flatten_cons, hleft, List.append_assoc]

/-- A longer first piece leaves a mark where it is. -/
theorem Straddles.prepend (h : Straddles (piece :: pieces) before mark) (front : List Char) :
    Straddles ((front ++ piece) :: pieces) (front ++ before) mark := by
  obtain ⟨left, right, first, back, hpieces, hleft, hmark, hfirst, hback⟩ := h
  cases left with
  | nil => exact absurd (List.append_eq_nil_iff.1 hleft.symm).2 hfirst
  | cons q left =>
      obtain ⟨rfl, rfl⟩ := List.cons.inj hpieces
      refine ⟨(front ++ piece) :: left, right, first, back, rfl, ?_, hmark, hfirst, hback⟩
      rw [List.flatten_cons] at hleft
      rw [List.flatten_cons, List.append_assoc, hleft, List.append_assoc]

/-- A mark at the start that straddles no gap stands in the first piece. -/
theorem exists_of_not_straddles (hne : piece ≠ [])
    (hflat : (piece :: pieces).flatten = mark ++ after)
    (h : ¬Straddles (piece :: pieces) [] mark) :
    ∃ rest, piece = mark ++ rest ∧ (rest :: pieces).flatten = after := by
  rw [List.flatten_cons] at hflat
  rcases List.append_eq_append_iff.1 hflat with ⟨back, hmark, hback⟩ | ⟨rest, hpiece, hrest⟩
  · by_cases hnil : back = []
    · subst hnil
      rw [List.append_nil] at hmark
      exact ⟨[], by rw [hmark, List.append_nil], hback⟩
    · refine absurd ⟨[piece], pieces, piece, back, rfl, ?_, hmark, hne, hnil⟩ h
      rw [List.flatten_singleton, List.nil_append]
  · exact ⟨rest, hpiece, hrest.symm⟩

/-- **A mark that straddles no gap stands in the text that is cut.** -/
theorem Cut.infix_of_not_straddles (hcut : Cut cs pieces)
    (hflat : pieces.flatten = before ++ (mark ++ after)) (h : ¬Straddles pieces before mark) :
    mark <:+: cs := by
  induction hcut generalizing before with
  | nil =>
      obtain ⟨-, hmark⟩ := List.append_eq_nil_iff.1 hflat.symm
      obtain ⟨rfl, -⟩ := List.append_eq_nil_iff.1 hmark
      exact List.nil_infix
  | @keep c rest piece pieces hbegins hcut ih =>
      cases before with
      | nil =>
          rw [List.nil_append] at hflat
          obtain ⟨behind, hpiece, -⟩ := exists_of_not_straddles (List.cons_ne_nil _ _) hflat h
          have hwhole := Cut.keep hbegins hcut
          rw [hpiece] at hwhole
          obtain ⟨rest', hcs, -⟩ := hwhole.drop
          rw [hcs]
          exact (List.prefix_append mark rest').isInfix
      | cons d before =>
          obtain ⟨rfl, htail⟩ := List.cons.inj hflat
          have hrest := ih htail fun hs => h (hs.prepend [c])
          exact hrest.trans (List.suffix_cons c rest).isInfix
  | @block b rest pieces _ _ ih =>
      exact (ih hflat fun hs => h (hs.cons [])).trans (List.suffix_append b.text rest).isInfix

/-- **A block that is left has a mark that straddles a gap.**  By induction along the cut: where
the opening mark stands in one piece, its first character was kept, so there was no closing mark
in all that followed it. -/
theorem Cut.straddles_of_block (hcut : Cut cs pieces) (b : Block)
    (hflat : pieces.flatten = before ++ (b.text ++ after)) :
    Straddles pieces before b.opening ∨
      Straddles pieces (before ++ (b.opening ++ b.body)) b.closing := by
  induction hcut generalizing before with
  | nil =>
      obtain ⟨-, htext⟩ := List.append_eq_nil_iff.1 hflat.symm
      exact absurd (List.append_eq_nil_iff.1 htext).1 b.text_ne_nil
  | @keep c rest piece pieces hbegins hcut ih =>
      cases before with
      | nil =>
          by_contra hnot
          obtain ⟨hopening, hclosing⟩ := not_or.1 hnot
          have hflat : ((c :: piece) :: pieces).flatten =
              b.opening ++ (b.body ++ (b.closing ++ after)) := by
            rw [hflat, Block.text, List.nil_append, List.append_assoc, List.append_assoc]
          obtain ⟨behind, hpiece, hbehind⟩ :=
            exists_of_not_straddles (List.cons_ne_nil _ _) hflat hopening
          have hwhole := Cut.keep hbegins hcut
          rw [hpiece] at hwhole hclosing
          obtain ⟨rest', hcs, hcut'⟩ := hwhole.drop
          obtain ⟨body, last, hrest⟩ := hcut'.infix_of_not_straddles hbehind
            fun hs => hclosing (hs.prepend b.opening)
          refine hbegins ⟨{ b with body := body }, last, ?_⟩
          rw [hcs, ← hrest, Block.text, List.append_assoc]
      | cons d before =>
          obtain ⟨rfl, htail⟩ := List.cons.inj hflat
          exact (ih htail).imp (·.prepend [c]) (·.prepend [c])
  | block _ _ ih => exact (ih hflat).imp (·.cons []) (·.cons [])

end Cuts

end Html

open Html

namespace TextFilter

/-- **What the filter does with the blocks of a text.**  It takes the tags out of what is left of
the text when its blocks are cut out from left to right, each of them as short as it can be.  In
what is left there is a block only where one of its marks straddles a gap. -/
theorem strip_html_cuts_blocks (now : Moment) (s : String) :
    ∃ pieces, Cut s.toList pieces ∧ stripBlocks s.toList = pieces.flatten ∧
      (Filter.ofStandard .stripHtml).apply now (.str s) [] =
        .ok (.str (String.ofList (stripTags pieces.flatten))) ∧
      ∀ (b : Block) (before after : List Char), pieces.flatten = before ++ (b.text ++ after) →
        Straddles pieces before b.opening ∨
          Straddles pieces (before ++ (b.opening ++ b.body)) b.closing := by
  obtain ⟨pieces, hcut, hpieces⟩ := exists_cut s.toList 0 (Nat.zero_le _)
  have happly : (Filter.ofStandard .stripHtml).apply now (.str s) [] =
      .ok (.str (String.ofList (strip s.toList))) := Filter.apply_onText rfl s
  refine ⟨pieces, hcut, hpieces, ?_, fun b _ _ hflat => hcut.straddles_of_block b hflat⟩
  rw [happly, strip, stripBlocks, hpieces]

/-- A script whose opening mark has a comment in it. -/
def brokenScript : String := "<scr<!-- -->ipt>alert(1)</script>"

theorem strip_html_cuts_blocks_brokenScript :
    ∃ pieces, Cut brokenScript.toList pieces ∧
      (Straddles pieces [] "<script".toList ∨
        Straddles pieces "<script>alert(1)".toList "</script>".toList) := by
  obtain ⟨pieces, hcut, hblocks, -, hstraddles⟩ := strip_html_cuts_blocks default brokenScript
  refine ⟨pieces, hcut, ?_⟩
  have hflat : pieces.flatten = "<script>alert(1)</script>".toList := hblocks.symm
  exact hstraddles (.between ("<script".toList, "</script>".toList) (by decide) ">alert(1)".toList)
    [] [] hflat

/-- **A script comes together around a comment, and what it encloses is put out.** -/
theorem script_comes_together :
    BeginsBlock (stripBlocks brokenScript.toList) ∧
    (Filter.ofStandard .stripHtml).apply default (.str brokenScript) [] =
      .ok (.str "alert(1)") :=
  ⟨⟨.between ("<script".toList, "</script>".toList) (by decide) ">alert(1)".toList, [], rfl⟩, rfl⟩

end TextFilter

end TemplateEngine
