/-
**How the date filter reads texts.**

Without the blanks around it a text is a word for the current moment, or an integer that counts
seconds, or it is read in ISO 8601, and what names no moment passes unchanged.  Two kinds of texts
fall between: a text that only looks like an integer, with several dashes or with signs that are
no decimal digits, is read as zero, **and so as the start of 1970**; and an integer of too many
digits is not read at all, so that the filter fails.

Main definitions:

* `IntegerText` — an optional dash and decimal digits, with what they denote;
* `DateFilter.shown` — what the filter gives for a value that is read as a moment.

Main results:

* `Number.read?_integerText`, `Number.read?_figures` — the number in a text that looks like one;
* `integerText_denotes` — the text of an integer denotes it;
* `DateFilter.reads_texts` — **what the filter gives for every text**.
-/
import TemplateEngine.Filter.Basic
import Mathlib.Data.List.TakeWhile

set_option autoImplicit false

namespace TemplateEngine

/-! ### Signs for digits -/

namespace Text

/-- A decimal digit is a sign for a digit. -/
theorem isDigitSign_of_digitValue? {c : Char} {d : Nat} (h : digitValue? c = some d) :
    isDigitSign c = true := by
  rw [isDigitSign, isDecimalDigit, h]
  rfl

/-- A sign for a digit lies in a range of one of the two tables. -/
theorem exists_range_of_isDigitSign {c : Char} (h : isDigitSign c = true) :
    ∃ r ∈ decimalRanges ++ figureRanges, r.1 ≤ c.toNat ∧ c.toNat ≤ r.2 := by
  rcases Bool.or_eq_true_iff.1 h with h | h
  · obtain ⟨d, hd⟩ := Option.isSome_iff_exists.1 h
    obtain ⟨r, hr, -⟩ := Option.map_eq_some_iff.1 hd
    have hrange := List.find?_some hr
    rw [Bool.and_eq_true, decide_eq_true_eq, decide_eq_true_eq] at hrange
    exact ⟨r, List.mem_append_left _ (List.mem_of_find?_eq_some hr), hrange⟩
  · obtain ⟨r, hmem, hr⟩ := (CharRanges.contains_iff _ _).1 h
    exact ⟨r, List.mem_append_right _ hmem, hr⟩

/-- A sign for a digit is none of the characters that are not. -/
theorem beq_eq_false_of_isDigitSign {c x : Char} (h : isDigitSign c = true)
    (hx : isDigitSign x = false) : (c == x) = false := by
  rw [beq_eq_false_iff_ne]
  rintro rfl
  rw [h] at hx
  cases hx

/-- The ranges of digits and blanks are apart. -/
theorem not_isBlank_of_isDigitSign {c : Char} (h : isDigitSign c = true) : isBlank c = false := by
  obtain ⟨r, hr, hle, hge⟩ := exists_range_of_isDigitSign h
  have hapart : ∀ r ∈ decimalRanges ++ figureRanges, ∀ b ∈ blankRanges, r.2 < b.1 ∨ b.2 < r.1 := by
    decide +kernel
  rw [← Bool.not_eq_true, isBlank, CharRanges.contains_iff]
  rintro ⟨b, hb, hleb, hgeb⟩
  have := hapart r hr b hb
  omega

/-- A text without blanks has none around it. -/
theorem trim_eq_self {cs : List Char} (h : ∀ c ∈ cs, isBlank c = false) : trim cs = cs := by
  have hstart {ds : List Char} (h : ∀ c ∈ ds, isBlank c = false) : trimStart ds = ds := by
    cases ds with
    | nil => rfl
    | cons c rest => exact List.dropWhile_cons_of_neg (by rw [h c List.mem_cons_self]; decide)
  rw [trim, hstart h, trimEnd, hstart fun c hc => h c (List.mem_reverse.1 hc), List.reverse_reverse]

theorem toNat_of_isDigit {c : Char} (h : c.isDigit = true) : 48 ≤ c.toNat ∧ c.toNat ≤ 57 := by
  rw [Char.isDigit, Bool.and_eq_true, decide_eq_true_eq, decide_eq_true_eq] at h
  exact ⟨UInt32.le_iff_toNat_le.1 h.1, UInt32.le_iff_toNat_le.1 h.2⟩

/-- The value of the digits that numbers are written with. -/
theorem digitValue?_of_isDigit {c : Char} (h : c.isDigit = true) :
    digitValue? c = some (c.toNat - 48) := by
  obtain ⟨hle, hge⟩ := toNat_of_isDigit h
  have hfirst : decimalRanges.find? (fun r => r.1 ≤ c.toNat && c.toNat ≤ r.2) = some (0x30, 0x39) :=
    List.find?_cons_of_pos (by simp only [decide_eq_true hle, decide_eq_true hge, Bool.and_self])
  have hsmall : (c.toNat - 48) % 10 = c.toNat - 48 := Nat.mod_eq_of_lt (by omega)
  rw [digitValue?, hfirst]
  exact congrArg some hsmall

end Text

/-! ### Integers as texts -/

open Numeral (digits1? ofDigits splitSign)

/-- **An optional dash and decimal digits**, with the number of the digits and the integer that
the text denotes. -/
inductive IntegerText : List Char → Nat → Int → Prop where
  | plain {cs : List Char} {ds : List Nat} : cs.mapM Text.digitValue? = some ds → ds ≠ [] →
      IntegerText cs ds.length (ofDigits ds)
  | negative {cs : List Char} {ds : List Nat} : cs.mapM Text.digitValue? = some ds → ds ≠ [] →
      IntegerText ('-' :: cs) ds.length (-(ofDigits ds : Int))

/-- Digits have values, and other characters have none. -/
theorem Numeral.digits1?_eq_some {cs : List Char} {ds : List Nat} :
    digits1? cs = some ds ↔ cs.mapM Text.digitValue? = some ds ∧ ds ≠ [] := by
  rw [digits1?, digits?, Option.filter_eq_some_iff, Bool.not_eq_true', List.isEmpty_eq_false_iff]

/-- A text of digits is made of signs for digits. -/
theorem isDigitSign_of_mapM {cs : List Char} {ds : List Nat}
    (h : cs.mapM Text.digitValue? = some ds) : ∀ c ∈ cs, Text.isDigitSign c = true := by
  induction cs generalizing ds with
  | nil => exact fun c hc => by cases hc
  | cons c rest ih =>
      rw [List.mapM_cons] at h
      obtain ⟨d, hd, h⟩ := Option.bind_eq_some_iff.1 h
      obtain ⟨ds', hds, -⟩ := Option.bind_eq_some_iff.1 h
      intro x hx
      rcases List.mem_cons.1 hx with rfl | hx
      · exact Text.isDigitSign_of_digitValue? hd
      · exact ih hds x hx

/-- What is not empty and made of signs for digits, behind a dash or not, looks like seconds. -/
theorem looksLikeSeconds_of_isDigitSign {cs : List Char} (hne : cs ≠ [])
    (h : ∀ c ∈ cs, Text.isDigitSign c = true) :
    looksLikeSeconds cs = true ∧ looksLikeSeconds ('-' :: cs) = true := by
  obtain ⟨c, rest, rfl⟩ := List.exists_cons_of_ne_nil hne
  have hdash : (c == '-') = false :=
    Text.beq_eq_false_of_isDigitSign (h c List.mem_cons_self) (by decide +kernel)
  have hfigures : (c :: rest).dropWhile (· == '-') = c :: rest :=
    List.dropWhile_cons_of_neg (Bool.eq_false_iff.1 hdash)
  have hall : (c :: rest).all Text.isDigitSign = true := List.all_eq_true.2 h
  constructor
  · rw [looksLikeSeconds, hfigures, hall]
    rfl
  · rw [looksLikeSeconds, List.dropWhile_cons_of_pos (by decide), hfigures, hall]
    rfl

/-- **The text of an integer looks like seconds.** -/
theorem IntegerText.looksLikeSeconds {cs : List Char} {k : Nat} {n : Int}
    (h : IntegerText cs k n) : looksLikeSeconds cs = true := by
  cases h with
  | plain hds hne =>
      refine (looksLikeSeconds_of_isDigitSign ?_ (isDigitSign_of_mapM hds)).1
      rintro rfl
      cases hds
      exact hne rfl
  | negative hds hne =>
      refine (looksLikeSeconds_of_isDigitSign ?_ (isDigitSign_of_mapM hds)).2
      rintro rfl
      cases hds
      exact hne rfl

/-- A text that looks like seconds has dashes and signs for digits only. -/
theorem mem_looksLikeSeconds {cs : List Char} (h : looksLikeSeconds cs = true) :
    ∀ c ∈ cs, c = '-' ∨ Text.isDigitSign c = true := by
  intro c hc
  rw [← List.takeWhile_append_dropWhile (p := (· == '-')) (l := cs)] at hc
  rcases List.mem_append.1 hc with hc | hc
  · exact .inl (beq_iff_eq.1 (List.all_eq_true.1 List.all_takeWhile c hc))
  · exact .inr (List.all_eq_true.1 (Bool.and_eq_true_iff.1 h).2 c hc)

/-! ### The number in a text -/

section Reading

variable {cs : List Char}

/-- A text that looks like seconds has no blanks. -/
theorem not_isBlank_of_looksLikeSeconds (h : looksLikeSeconds cs = true) :
    ∀ c ∈ cs, Text.isBlank c = false := by
  intro c hc
  rcases mem_looksLikeSeconds h c hc with rfl | hc
  · decide
  · exact Text.not_isBlank_of_isDigitSign hc

/-- The information separators are blank. -/
theorem Numeral.not_isSeparator_of_not_isBlank {c : Char} (h : Text.isBlank c = false) :
    Numeral.isSeparator c = false := by
  rw [← Bool.not_eq_true]
  intro hsep
  rw [Numeral.isSeparator, Bool.and_eq_true, decide_eq_true_eq, decide_eq_true_eq] at hsep
  have hblank : Text.isBlank c = true :=
    (Text.CharRanges.contains_iff _ _).2 ⟨(0x1c, 0x20), by decide, by omega, by omega⟩
  rw [h] at hblank
  cases hblank

/-- A text that looks like seconds is read as it is: it has no blanks and no separators. -/
theorem Number.read?_of_looksLikeSeconds (h : looksLikeSeconds cs = true) :
    Number.read? cs = match Numeral.ofText? cs with
      | none => .ok none
      | some numeral => numeral.value.map some := by
  have hblank := not_isBlank_of_looksLikeSeconds h
  have hseparator : cs.any Numeral.isSeparator = false := by
    rw [List.any_eq_false]
    intro c hc
    rw [Numeral.not_isSeparator_of_not_isBlank (hblank c hc)]
    decide
  rw [Number.read?, Text.trim_eq_self hblank, hseparator]
  rfl

/-- Dashes, and signs for digits, are an integer or have no sign but a dash. -/
theorem Numeral.splitSign_cases (h : ∀ c ∈ cs, c = '-' ∨ Text.isDigitSign c = true) :
    splitSign cs = (false, cs) ∨ ∃ rest, cs = '-' :: rest ∧ splitSign cs = (true, rest) := by
  unfold splitSign
  split
  · next rest => exact .inr ⟨rest, rfl, rfl⟩
  · next rest =>
      rcases h '+' List.mem_cons_self with hplus | hplus
      · cases hplus
      · exact (Bool.false_ne_true hplus).elim
  · exact .inl rfl

/-- Digits behind a sign are an integer numeral. -/
theorem Numeral.ofText?_eq_integer {rest : List Char} {negative : Bool} {ds : List Nat}
    (hsign : splitSign cs = (negative, rest)) (hds : rest.mapM Text.digitValue? = some ds)
    (hne : ds ≠ []) : Numeral.ofText? cs = some (.integer negative ds) := by
  simp only [Numeral.ofText?, hsign, Numeral.digits1?_eq_some.2 ⟨hds, hne⟩]

/-- **An integer is read as what it denotes**, if it has not too many digits. -/
theorem Number.read?_integerText {k : Nat} {n : Int} (h : IntegerText cs k n) :
    Number.read? cs =
      if Numeral.maxDigits < k then .error (.overlong k) else .ok (some (.int n)) := by
  have hread : ∃ negative ds, Numeral.ofText? cs = some (.integer negative ds) ∧ ds.length = k ∧
      (if negative then -(ofDigits ds : Int) else ofDigits ds) = n := by
    cases h with
    | @plain _ ds hds hne =>
        have hfigures := isDigitSign_of_mapM hds
        have hsign : splitSign cs = (false, cs) := by
          rcases Numeral.splitSign_cases fun c hc => .inr (hfigures c hc) with h | ⟨rest, rfl, -⟩
          · exact h
          · exact (Bool.false_ne_true (hfigures '-' List.mem_cons_self)).elim
        exact ⟨false, ds, Numeral.ofText?_eq_integer hsign hds hne, rfl, rfl⟩
    | @negative rest ds hds hne =>
        exact ⟨true, ds, Numeral.ofText?_eq_integer rfl hds hne, rfl, rfl⟩
  obtain ⟨negative, ds, htext, rfl, rfl⟩ := hread
  rw [Number.read?_of_looksLikeSeconds h.looksLikeSeconds, htext]
  simp only [Numeral.value]
  split <;> rfl

/-- What is written with dashes and signs for digits, but not as an integer, is no numeral. -/
theorem Numeral.ofText?_eq_none {rest : List Char} {negative : Bool}
    (hsign : splitSign cs = (negative, rest))
    (hrest : ∀ c ∈ rest, c = '-' ∨ Text.isDigitSign c = true) (hdigits : digits1? rest = none) :
    Numeral.ofText? cs = none := by
  have hnone {x : Char} (hdash : ('-' == x) = false) (hx : Text.isDigitSign x = false) :
      ∀ c ∈ rest, (c != x) = true := by
    intro c hc
    rw [bne, Bool.not_eq_true']
    rcases hrest c hc with rfl | hc
    · exact hdash
    · exact Text.beq_eq_false_of_isDigitSign hc hx
  have hfront : rest.takeWhile (fun c => c != 'e' && c != 'E') = rest := by
    refine List.takeWhile_eq_self_iff.2 fun c hc => ?_
    rw [hnone (by decide) (by decide +kernel) c hc, hnone (by decide) (by decide +kernel) c hc]
    rfl
  have hwhole : rest.takeWhile (· != '.') = rest :=
    List.takeWhile_eq_self_iff.2 (hnone (by decide) (by decide +kernel))
  simp only [Numeral.ofText?, hsign, hdigits, hfront, List.drop_length, Numeral.mantissa?, hwhole,
    Option.map_none]

/-- **A text that only looks like an integer is no number.** -/
theorem Number.read?_figures (h : looksLikeSeconds cs = true)
    (hnone : ∀ k n, ¬IntegerText cs k n) : Number.read? cs = .ok none := by
  have hmem := mem_looksLikeSeconds h
  have htext : Numeral.ofText? cs = none := by
    rcases Numeral.splitSign_cases hmem with hsign | ⟨rest, rfl, hsign⟩
    · refine Numeral.ofText?_eq_none hsign hmem ?_
      rw [Option.eq_none_iff_forall_ne_some]
      intro ds hds
      obtain ⟨hds, hne⟩ := Numeral.digits1?_eq_some.1 hds
      exact hnone _ _ (.plain hds hne)
    · refine Numeral.ofText?_eq_none hsign (fun c hc => hmem c (List.mem_cons_of_mem _ hc)) ?_
      rw [Option.eq_none_iff_forall_ne_some]
      intro ds hds
      obtain ⟨hds, hne⟩ := Numeral.digits1?_eq_some.1 hds
      exact hnone _ _ (.negative hds hne)
  rw [Number.read?_of_looksLikeSeconds h, htext]

end Reading

/-! ### The text of an integer -/

/-- Decimal digits denote the number that they are the digits of. -/
theorem ofDigits_toDigits (n : Nat) :
    ∃ ds, (Nat.toDigits 10 n).mapM Text.digitValue? = some ds ∧ ds ≠ [] ∧ ofDigits ds = n ∧
      ds.length = (Nat.toDigits 10 n).length := by
  have hvalues : ∀ cs : List Char, (∀ c ∈ cs, c.isDigit = true) →
      cs.mapM Text.digitValue? = some (cs.map fun c => c.toNat - 48) := by
    intro cs
    induction cs with
    | nil => exact fun _ => rfl
    | cons c rest ih =>
        intro h
        rw [List.mapM_cons, Text.digitValue?_of_isDigit (h c List.mem_cons_self),
          ih fun x hx => h x (List.mem_cons_of_mem _ hx)]
        rfl
  have hdigits : ∀ c ∈ Nat.toDigits 10 n, c.isDigit = true := fun c hc =>
    Nat.isDigit_of_mem_toDigits (by decide) (by decide) hc
  refine ⟨_, hvalues _ hdigits, mt List.map_eq_nil_iff.1 Nat.toDigits_ne_nil, ?_,
    List.length_map _⟩
  rw [ofDigits, List.foldl_map]
  exact Nat.ofDigitChars_ten_toDigits

/-- **The text of an integer denotes it.** -/
theorem integerText_denotes (n : Int) :
    IntegerText (integerText n) (Nat.toDigits 10 n.natAbs).length n := by
  obtain ⟨ds, hds, hne, hvalue, hlength⟩ := ofDigits_toDigits n.natAbs
  rw [integerText, ← hlength]
  split
  · next hneg =>
      have hn : -(ofDigits ds : Int) = n := by omega
      have htext := IntegerText.negative hds hne
      rwa [hn] at htext
  · next hpos =>
      have hn : (ofDigits ds : Int) = n := by omega
      have htext := IntegerText.plain hds hne
      rwa [hn] at htext

/-- A dash and the decimal digits have no case. -/
theorem lowerOf_of_isDigit {c : Char} (h : c = '-' ∨ c.isDigit = true) : Text.lowerOf c = [c] := by
  rcases h with rfl | h
  · decide +kernel
  · obtain ⟨hle, hge⟩ := Text.toNat_of_isDigit h
    have hfigures : ∀ k : Fin 10, Text.lowerOf (Char.ofNat (48 + k)) = [Char.ofNat (48 + k)] := by
      decide +kernel
    have hc : Char.ofNat (48 + (⟨c.toNat - 48, by omega⟩ : Fin 10).val) = c := by
      rw [Nat.add_sub_cancel' hle]
      exact Char.ofNat_toNat c
    exact hc ▸ hfigures _

/-- What begins with a dash or a decimal digit does not mean the current moment. -/
theorem meansNow_of_isDigit {c : Char} {rest : List Char} (h : c = '-' ∨ c.isDigit = true) :
    meansNow (c :: rest) = false := by
  have hne {x : Char} (hdash : '-' ≠ x) (hx : x.isDigit = false) : c ≠ x := by
    rintro rfl
    rcases h with hc | hc
    · exact hdash hc.symm
    · rw [hx] at hc
      cases hc
  have hlower : Text.lower (c :: rest) = c :: Text.lowerFrom [c] rest := by
    rw [Text.lower, Text.lowerFrom, if_neg (hne (by decide) (by decide)), lowerOf_of_isDigit h]
    rfl
  rw [meansNow, hlower, Bool.or_eq_false_iff, beq_eq_false_iff_ne, beq_eq_false_iff_ne]
  constructor
  · exact fun heq => hne (by decide) (by decide) (List.cons.inj heq).1
  · exact fun heq => hne (by decide) (by decide) (List.cons.inj heq).1

theorem meansNow_integerText (n : Int) : meansNow (integerText n) = false := by
  rw [integerText]
  split
  · exact meansNow_of_isDigit (.inl rfl)
  · have hne : Nat.toDigits 10 n.natAbs ≠ [] := Nat.toDigits_ne_nil
    obtain ⟨c, rest, hcs⟩ := List.exists_cons_of_ne_nil hne
    have hc : c.isDigit = true := Nat.isDigit_of_mem_toDigits (b := 10) (n := n.natAbs) (by decide)
      (by decide) (hcs ▸ List.mem_cons_self)
    rw [hcs]
    exact meansNow_of_isDigit (.inr hc)

/-- The seconds of the moments in the calendar have no more than twelve digits. -/
theorem length_toDigits_of_ofSeconds? {n : Int} (h : (Moment.ofSeconds? n 0).isSome = true) :
    (Nat.toDigits 10 n.natAbs).length ≤ Numeral.maxDigits := by
  have hrange : n.natAbs < 10 ^ 12 := by
    unfold Moment.ofSeconds? Moment.epoch at h
    split at h
    · omega
    · cases h
  have htwelve : (Nat.toDigits 10 n.natAbs).length ≤ 12 :=
    (Nat.length_toDigits_le_iff (by decide) (by decide)).2 hrange
  exact Nat.le_trans htwelve (by decide)

/-! ### The filter -/

namespace DateFilter

variable {now : Moment} {v format : Value} {f : String}

/-- What the filter gives for a value that is read as a moment, or as nothing. -/
def shown (f : String) (v : Value) : Option Moment → Value
  | some m => .str (String.ofList (m.format f.toList))
  | none => v

/-- A value that is read is shown, unless the format is empty. -/
theorem apply_of_read (hformat : format.text = .ok f) (hf : f ≠ "") (d? : Option DateLike)
    (hread : v.moment? now = .ok d?) :
    (Filter.ofStandard .date).apply now v [format] =
      .ok (shown f v (d?.map DateLike.toMoment)) := by
  have hempty : f.isEmpty = false := by
    rw [← Bool.not_eq_true, String.isEmpty_iff]
    exact hf
  show (dating now v format).mapError _ = _
  unfold dating
  rw [hformat, hread]
  cases d? with
  | none => rfl
  | some d =>
      show Except.mapError _ (if f.isEmpty then _ else _) = _
      rw [hempty]
      rfl

/-- A value that cannot be read makes the filter fail. -/
theorem apply_of_fault (hformat : format.text = .ok f) {e : Fault}
    (hread : v.moment? now = .error e) :
    (Filter.ofStandard .date).apply now v [format] = .error (.fault e) := by
  show (dating now v format).mapError _ = _
  unfold dating
  rw [hformat, hread]
  rfl

/-- An integer is the number of seconds of a moment. -/
theorem apply_int (hformat : format.text = .ok f) (hf : f ≠ "") (n : Int) :
    (Filter.ofStandard .date).apply now (.int n) [format] =
      .ok (shown f (.int n) (Moment.ofSeconds? n 0)) := by
  rw [apply_of_read (v := .int n) hformat hf ((Moment.ofSeconds? n 0).map .moment) rfl,
    Option.map_map]
  exact congrArg (fun m? => Except.ok (shown f (.int n) m?)) Option.map_id'

/-- A word for the current moment is this moment. -/
theorem apply_now (hformat : format.text = .ok f) (hf : f ≠ "") {s : String}
    (hnow : meansNow (Text.trim s.toList) = true) :
    (Filter.ofStandard .date).apply now (.str s) [format] =
      .ok (shown f (.str s) (some now)) := by
  refine apply_of_read hformat hf (some (.moment now)) ?_
  simp only [Value.moment?, hnow, if_true]

/-- A text that denotes an integer is the number of seconds of a moment, if it is not too long. -/
theorem apply_integerText (hformat : format.text = .ok f) (hf : f ≠ "") {s : String} {k : Nat}
    {n : Int} (hnow : meansNow (Text.trim s.toList) = false)
    (h : IntegerText (Text.trim s.toList) k n) :
    (Filter.ofStandard .date).apply now (.str s) [format] =
      if Numeral.maxDigits < k then .error (.fault (.overlong k))
      else .ok (shown f (.str s) (Moment.ofSeconds? n 0)) := by
  have hread : (Value.str s).moment? now = if Numeral.maxDigits < k then .error (.overlong k)
      else .ok ((Moment.ofSeconds? n 0).map .moment) := by
    simp only [Value.moment?, hnow, Bool.false_eq_true, if_false, h.looksLikeSeconds, if_true,
      Number.read?_integerText h]
    split <;> rfl
  by_cases hlong : Numeral.maxDigits < k
  · rw [if_pos hlong] at hread ⊢
    exact apply_of_fault hformat hread
  · rw [if_neg hlong] at hread ⊢
    rw [apply_of_read hformat hf _ hread, Option.map_map]
    exact congrArg (fun m? => Except.ok (shown f (.str s) m?)) Option.map_id'

/-- A text that only looks like an integer is the start of 1970. -/
theorem apply_figures (hformat : format.text = .ok f) (hf : f ≠ "") {s : String}
    (hnow : meansNow (Text.trim s.toList) = false)
    (hlooks : looksLikeSeconds (Text.trim s.toList) = true)
    (hnone : ∀ k n, ¬IntegerText (Text.trim s.toList) k n) :
    (Filter.ofStandard .date).apply now (.str s) [format] =
      .ok (shown f (.str s) (Moment.ofSeconds? 0 0)) := by
  refine apply_of_read hformat hf ((Moment.ofSeconds? 0 0).map .moment) ?_
  simp only [Value.moment?, hnow, Bool.false_eq_true, if_false, hlooks, if_true,
    Number.read?_figures hlooks hnone]
  rfl

/-- Any other text is read in ISO 8601. -/
theorem apply_iso (hformat : format.text = .ok f) (hf : f ≠ "") {s : String}
    (hnow : meansNow (Text.trim s.toList) = false)
    (hlooks : looksLikeSeconds (Text.trim s.toList) = false) :
    (Filter.ofStandard .date).apply now (.str s) [format] =
      .ok (shown f (.str s) (Moment.ofIso? (Text.trim s.toList))) := by
  have hread : (Value.str s).moment? now =
      .ok ((Moment.ofIso? (Text.trim s.toList)).map .moment) := by
    simp only [Value.moment?, hnow, hlooks, Bool.false_eq_true, if_false]
  rw [apply_of_read hformat hf _ hread, Option.map_map]
  exact congrArg (fun m? => Except.ok (shown f (.str s) m?)) Option.map_id'

/-- **What the date filter gives for a text**, by a format that is not empty.  Of a text without
the blanks around it:

* a word for the current moment is this moment;
* an integer is the moment of so many seconds, the same one that the integer itself is, or passes
  unchanged if there is none, but one of too many digits makes the filter fail;
* a text that only looks like an integer is the start of 1970;
* any other text is the moment that it names in ISO 8601, or passes unchanged.

The text of an integer is one that denotes it. -/
theorem reads_texts (hformat : format.text = .ok f) (hf : f ≠ "") (s : String) :
    let t := Text.trim s.toList
    let read := fun v : Value => (Filter.ofStandard .date).apply now v [format]
    (meansNow t = true → read (.str s) = .ok (shown f (.str s) (some now))) ∧
    (meansNow t = false → ∀ k n, IntegerText t k n →
      (k ≤ Numeral.maxDigits → read (.str s) = .ok (shown f (.str s) (Moment.ofSeconds? n 0)) ∧
        ((Moment.ofSeconds? n 0).isSome = true → read (.str s) = read (.int n))) ∧
      (Numeral.maxDigits < k → read (.str s) = .error (.fault (.overlong k)))) ∧
    (meansNow t = false → looksLikeSeconds t = true → (∀ k n, ¬IntegerText t k n) →
      read (.str s) = .ok (shown f (.str s) (Moment.ofSeconds? 0 0))) ∧
    (meansNow t = false → looksLikeSeconds t = false →
      read (.str s) = .ok (shown f (.str s) (Moment.ofIso? t))) ∧
    ∀ n, (Moment.ofSeconds? n 0).isSome = true →
      read (.str (String.ofList (integerText n))) = read (.int n) := by
  intro t read
  -- an integer, as a text or not, that is in the calendar
  have hagrees : ∀ (text : String) (k : Nat) (n : Int), meansNow (Text.trim text.toList) = false →
      IntegerText (Text.trim text.toList) k n → k ≤ Numeral.maxDigits →
      (Moment.ofSeconds? n 0).isSome = true → read (.str text) = read (.int n) := by
    intro text k n hnow h hk hmoment
    obtain ⟨m, hm⟩ := Option.isSome_iff_exists.1 hmoment
    show (Filter.ofStandard .date).apply now (.str text) [format] = _
    rw [apply_integerText hformat hf hnow h, if_neg (Nat.not_lt.2 hk), hm]
    refine Eq.trans ?_ (apply_int hformat hf n).symm
    rw [hm]
    rfl
  refine ⟨apply_now hformat hf, fun hnow k n h => ⟨fun hk => ⟨?_, hagrees s k n hnow h hk⟩,
    fun hk => ?_⟩, apply_figures hformat hf, apply_iso hformat hf, fun n hmoment => ?_⟩
  · exact (apply_integerText hformat hf hnow h).trans (if_neg (Nat.not_lt.2 hk))
  · exact (apply_integerText hformat hf hnow h).trans (if_pos hk)
  · have hdenotes := integerText_denotes n
    have htrim : Text.trim (String.ofList (integerText n)).toList = integerText n := by
      rw [String.toList_ofList,
        Text.trim_eq_self (not_isBlank_of_looksLikeSeconds hdenotes.looksLikeSeconds)]
    exact hagrees _ _ n (by rw [htrim, meansNow_integerText]) (htrim.symm ▸ hdenotes)
      (length_toDigits_of_ofSeconds? hmoment) hmoment

/-- The second day of 1970, counted in seconds. -/
theorem reads_texts_secondDay :
    (Filter.ofStandard .date).apply default (.str " 86400 ") [.str "%Y-%m-%d"] =
      .ok (.str "1970-01-02") := by
  have hds : "86400".toList.mapM Text.digitValue? = some [8, 6, 4, 0, 0] := rfl
  have htext : IntegerText (Text.trim " 86400 ".toList) 5 86400 :=
    .plain hds (List.cons_ne_nil _ _)
  have hread : (Filter.ofStandard .date).apply default (.str " 86400 ") [.str "%Y-%m-%d"] = _ :=
    (((reads_texts (Value.text_str "%Y-%m-%d") (by decide) " 86400 ").2.1 (by decide +kernel) 5
      86400 htext).1 (by decide)).1
  rw [hread]
  rfl

/-- **Two dashes and a digit are no integer and no date, and yet they do not pass unchanged.** -/
theorem dashes_do_not_pass :
    meansNow "--5".toList = false ∧ (∀ k n, ¬IntegerText "--5".toList k n) ∧
    Moment.ofIso? "--5".toList = none ∧
    (Filter.ofStandard .date).apply default (.str "--5") [.str "%Y"] = .ok (.str "1970") := by
  refine ⟨by decide +kernel, fun k n h => ?_, by decide +kernel, rfl⟩
  generalize hcs : "--5".toList = cs at h
  cases h with
  | plain hds hne =>
      subst hcs
      cases hds
  | negative hds hne =>
      obtain rfl := (List.cons.inj hcs).2
      cases hds

end DateFilter

end TemplateEngine
