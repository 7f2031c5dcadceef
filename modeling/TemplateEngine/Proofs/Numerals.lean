/-
**Which texts are numbers.**

A numeral is a sign or none, then decimal digits of any script, with a point among them or none,
then an exponent or none.  Without point and exponent it is an integer, and a float otherwise.
Blanks may stand around it.  A text that is a numeral counts as the number that this denotes, and
any other text counts as zero.  Two kinds of numerals are refused: an integer of too many digits,
and, **though these are blank, a numeral between information separators**.

Main definitions:

* `Numeral.Sign`, `Numeral.Digits`, `Numeral.Mantissa`, `Numeral.Exponent` — the parts of a numeral;
* `Numeral.Spells` — the grammar of numerals, `Numeral.Names` — with blanks around them;
* `Numeral.Separated` — a text with an information separator.

Main results:

* `Numeral.ofText?_of_integer`, `Numeral.ofText?_of_decimal`, `Numeral.spells_of_ofText?` — the
  reader follows the grammar;
* `Value.number_of_text` — **the number that a text counts as**.
-/
import TemplateEngine.Proofs.DateTexts
import Mathlib.Data.List.Forall2

set_option autoImplicit false

namespace TemplateEngine

/-! ### Trimming -/

namespace Text

variable {front core back : List Char}

/-- The blanks at the start of a text are cut off. -/
theorem trimStart_append (hfront : ∀ c ∈ front, isBlank c = true)
    (hcore : ∀ c ∈ core.head?, isBlank c = false) : trimStart (front ++ core) = core := by
  rw [trimStart, List.dropWhile_append_of_pos hfront]
  cases core with
  | nil => rfl
  | cons c rest => exact List.dropWhile_cons_of_neg (by rw [hcore c rfl]; decide)

/-- **The blanks around a text are cut off.** -/
theorem trim_append (hfront : ∀ c ∈ front, isBlank c = true)
    (hcore : ∀ c ∈ core, isBlank c = false) (hne : core ≠ [])
    (hback : ∀ c ∈ back, isBlank c = true) : trim (front ++ core ++ back) = core := by
  have hstart : trimStart (front ++ core ++ back) = core ++ back := by
    rw [List.append_assoc]
    refine trimStart_append hfront fun c hc => ?_
    rw [List.head?_append_of_ne_nil _ hne] at hc
    exact hcore c (List.mem_of_mem_head? hc)
  have hend : trimStart (back.reverse ++ core.reverse) = core.reverse :=
    trimStart_append (fun c hc => hback c (List.mem_reverse.1 hc))
      fun c hc => hcore c (List.mem_reverse.1 (List.mem_of_mem_head? hc))
  rw [trim, hstart, trimEnd, List.reverse_append, hend, List.reverse_reverse]

/-- Only blanks are cut off. -/
theorem exists_eq_append_trim (cs : List Char) :
    ∃ front back, cs = front ++ trim cs ++ back ∧ (∀ c ∈ front, isBlank c = true) ∧
      ∀ c ∈ back, isBlank c = true := by
  have hstart (cs : List Char) :
      ∃ front, cs = front ++ trimStart cs ∧ ∀ c ∈ front, isBlank c = true :=
    ⟨_, List.takeWhile_append_dropWhile.symm, List.all_eq_true.1 List.all_takeWhile⟩
  obtain ⟨front, hcs, hfront⟩ := hstart cs
  obtain ⟨last, hrest, hlast⟩ := hstart (trimStart cs).reverse
  have hend : trimStart cs = trim cs ++ last.reverse := by
    rw [← List.reverse_reverse (trimStart cs), hrest, List.reverse_append]
    rfl
  refine ⟨front, last.reverse, ?_, hfront, fun c hc => hlast c (List.mem_reverse.1 hc)⟩
  rw [List.append_assoc, ← hend]
  exact hcs

end Text

namespace Numeral

/-! ### The grammar -/

/-- Decimal digits of any script, and their values. -/
def Digits (cs : List Char) (ds : List Nat) : Prop :=
  List.Forall₂ (fun c d => Text.digitValue? c = some d) cs ds

/-- A sign or none; a dash makes the number negative. -/
inductive Sign : List Char → Bool → Prop
  | none : Sign [] false
  | plus : Sign ['+'] false
  | dash : Sign ['-'] true

/-- An integer of a sign and digits. -/
def signed (negative : Bool) (ds : List Nat) : Int :=
  if negative then -(ofDigits ds : Int) else ofDigits ds

/-- Digits before and behind a point, on one side at least; or digits alone. -/
inductive Mantissa : List Char → List Nat → List Nat → Prop
  | whole {cs : List Char} {a : List Nat} : Digits cs a → a ≠ [] → Mantissa cs a []
  | pointed {cs ds : List Char} {a b : List Nat} : Digits cs a → a ≠ [] → Digits ds b →
      Mantissa (cs ++ '.' :: ds) a b
  | pointFirst {ds : List Char} {b : List Nat} : Digits ds b → b ≠ [] →
      Mantissa ('.' :: ds) [] b

/-- A letter, a sign or none, and digits; or nothing at all. -/
inductive Exponent : List Char → Int → Prop
  | none : Exponent [] 0
  | power {letter : Char} {sign cs : List Char} {negative : Bool} {ds : List Nat} :
      letter = 'e' ∨ letter = 'E' → Sign sign negative → Digits cs ds → ds ≠ [] →
      Exponent (letter :: (sign ++ cs)) (signed negative ds)

/-- **The grammar of numerals**: how a numeral is written. -/
inductive Spells : List Char → Numeral → Prop
  | integer {sign cs : List Char} {negative : Bool} {ds : List Nat} :
      Sign sign negative → Digits cs ds → ds ≠ [] → Spells (sign ++ cs) (.integer negative ds)
  | decimal {sign mantissa exponent : List Char} {negative : Bool} {a b : List Nat} {power : Int} :
      Sign sign negative → Mantissa mantissa a b → Exponent exponent power →
      Spells (sign ++ (mantissa ++ exponent)) (.decimal negative a b power)

/-- A text names a numeral that it spells between blanks. -/
def Names (cs : List Char) (n : Numeral) : Prop :=
  ∃ front core back, cs = front ++ core ++ back ∧ (∀ c ∈ front, Text.isBlank c = true) ∧
    (∀ c ∈ back, Text.isBlank c = true) ∧ Spells core n

/-- An information separator stands in a text. -/
def Separated (cs : List Char) : Prop := ∃ c ∈ cs, isSeparator c = true

instance (cs : List Char) : Decidable (Separated cs) :=
  decidable_of_iff (cs.any isSeparator = true) List.any_eq_true

/-! ### The parts -/

section Parts

variable {cs rest : List Char} {ds a b : List Nat} {negative : Bool} {power : Int}

/-- The values of digits are read one by one. -/
theorem digits?_eq_some_iff : digits? cs = some ds ↔ Digits cs ds := by
  induction cs generalizing ds with
  | nil =>
      rw [Digits, List.forall₂_nil_left_iff]
      exact ⟨fun h => (Option.some.inj h).symm, fun h => h ▸ rfl⟩
  | cons c rest ih =>
      rw [Digits, List.forall₂_cons_left_iff, digits?, List.mapM_cons]
      constructor
      · intro h
        obtain ⟨d, hd, h⟩ := Option.bind_eq_some_iff.1 h
        obtain ⟨ds', hds, h⟩ := Option.bind_eq_some_iff.1 h
        exact ⟨d, ds', hd, ih.1 hds, (Option.some.inj h).symm⟩
      · rintro ⟨d, ds', hd, hds, rfl⟩
        have hrest : rest.mapM Text.digitValue? = some ds' := ih.2 hds
        rw [hd, hrest]
        rfl

theorem digits1?_eq_some_iff : digits1? cs = some ds ↔ Digits cs ds ∧ ds ≠ [] := by
  rw [digits1?_eq_some, ← digits?_eq_some_iff, digits?]

/-- Digits are signs for digits, so no other character is among them. -/
theorem Digits.isDigitSign (h : Digits cs ds) : ∀ c ∈ cs, Text.isDigitSign c = true :=
  isDigitSign_of_mapM (digits?_eq_some_iff.2 h)

theorem Digits.not_mem {x : Char} (h : Digits cs ds) (hx : Text.isDigitSign x = false) :
    x ∉ cs := by
  intro hmem
  rw [h.isDigitSign x hmem] at hx
  cases hx

theorem Digits.ne_nil (h : Digits cs ds) (hne : ds ≠ []) : cs ≠ [] := by
  rintro rfl
  exact hne (List.forall₂_nil_left_iff.1 h)

/-- What stands behind the sign begins with none. -/
def Unsigned (cs : List Char) : Prop := ∀ c ∈ cs.head?, c ≠ '-' ∧ c ≠ '+'

theorem Digits.unsigned (h : Digits cs ds) (hne : ds ≠ []) (after : List Char) :
    Unsigned (cs ++ after) := by
  obtain ⟨c, rest, rfl⟩ := List.exists_cons_of_ne_nil (h.ne_nil hne)
  intro x hx
  obtain rfl : c = x := Option.some.inj hx
  constructor
  · rintro rfl
    exact h.not_mem (x := '-') (by decide +kernel) List.mem_cons_self
  · rintro rfl
    exact h.not_mem (x := '+') (by decide +kernel) List.mem_cons_self

/-- A sign is split off. -/
theorem Sign.splitSign_append {sign : List Char} (h : Sign sign negative) (hrest : Unsigned rest) :
    splitSign (sign ++ rest) = (negative, rest) := by
  cases h with
  | plus => rfl
  | dash => rfl
  | none =>
      rw [List.nil_append]
      unfold splitSign
      split
      · exact absurd rfl (hrest _ rfl).1
      · exact absurd rfl (hrest _ rfl).2
      · rfl

/-- What is split off is a sign. -/
theorem exists_sign_of_splitSign (h : splitSign cs = (negative, rest)) :
    ∃ sign, Sign sign negative ∧ cs = sign ++ rest := by
  unfold splitSign at h
  split at h
  · cases h
    exact ⟨_, .dash, rfl⟩
  · cases h
    exact ⟨_, .plus, rfl⟩
  · cases h
    exact ⟨_, .none, rfl⟩

/-- A text is cut at the first of its characters that is not in a class. -/
theorem takeWhile_eq_of_append {p : Char → Bool} {front : List Char} {x : Char}
    {back : List Char} (hfront : ∀ c ∈ front, p c = true) (hx : p x = false) :
    (front ++ x :: back).takeWhile p = front := by
  rw [List.takeWhile_append_of_pos hfront, List.takeWhile_cons_of_neg (by rw [hx]; decide),
    List.append_nil]

/-- Where not all characters are in a class, there is a first one that is not. -/
theorem exists_first_not {p : Char → Bool} (h : ¬∀ c ∈ cs, p c = true) :
    ∃ front x back, cs = front ++ x :: back ∧ (∀ c ∈ front, p c = true) ∧ p x = false := by
  induction cs with
  | nil => exact absurd (List.forall_mem_nil _) h
  | cons c rest ih =>
      cases hc : p c with
      | false => exact ⟨[], c, rest, rfl, List.forall_mem_nil _, hc⟩
      | true =>
          have hrest : ¬∀ c ∈ rest, p c = true := fun hrest =>
            h (List.forall_mem_cons.2 ⟨hc, hrest⟩)
          obtain ⟨front, x, back, rfl, hfront, hx⟩ := ih hrest
          exact ⟨c :: front, x, back, rfl, List.forall_mem_cons.2 ⟨hc, hfront⟩, hx⟩

/-! ### Mantissa and exponent -/

theorem mantissa?_of_no_point (h : '.' ∉ cs) :
    mantissa? cs = (digits1? cs).map fun a => (a, []) := by
  have hwhole : cs.takeWhile (· != '.') = cs :=
    List.takeWhile_eq_self_iff.2 fun c hc => bne_iff_ne.2 fun heq => h (heq ▸ hc)
  simp only [mantissa?, hwhole, List.drop_length]

theorem mantissa?_of_point (back : List Char) (h : '.' ∉ cs) :
    mantissa? (cs ++ '.' :: back) = (digits? cs).bind fun a => (digits? back).bind fun b =>
      if a.isEmpty && b.isEmpty then none else some (a, b) := by
  have hwhole : (cs ++ '.' :: back).takeWhile (· != '.') = cs :=
    takeWhile_eq_of_append (fun c hc => bne_iff_ne.2 fun heq => h (heq ▸ hc)) rfl
  simp only [mantissa?, hwhole, List.drop_left]
  rfl

/-- **The mantissa is read as the grammar says.** -/
theorem mantissa?_eq_some_iff : mantissa? cs = some (a, b) ↔ Mantissa cs a b := by
  have hpoint : Text.isDigitSign '.' = false := by decide +kernel
  constructor
  · intro h
    by_cases hmem : '.' ∈ cs
    · obtain ⟨front, back, rfl, hfront⟩ := List.eq_append_cons_of_mem hmem
      rw [mantissa?_of_point back hfront] at h
      obtain ⟨a', ha, h⟩ := Option.bind_eq_some_iff.1 h
      obtain ⟨b', hb, h⟩ := Option.bind_eq_some_iff.1 h
      rw [digits?_eq_some_iff] at ha hb
      split at h
      · cases h
      · next hempty =>
          cases h
          by_cases hne : a = []
          · subst hne
            rw [List.forall₂_nil_right_iff.1 ha]
            exact .pointFirst hb fun hb' => hempty (by simp [hb'])
          · exact .pointed ha hne hb
    · rw [mantissa?_of_no_point hmem] at h
      obtain ⟨a', ha, h⟩ := Option.map_eq_some_iff.1 h
      cases h
      obtain ⟨ha, hne⟩ := digits1?_eq_some_iff.1 ha
      exact .whole ha hne
  · intro h
    cases h with
    | whole ha hne =>
        rw [mantissa?_of_no_point (ha.not_mem hpoint), digits1?_eq_some_iff.2 ⟨ha, hne⟩]
        rfl
    | pointed ha hne hb =>
        rw [mantissa?_of_point _ (ha.not_mem hpoint), digits?_eq_some_iff.2 ha,
          digits?_eq_some_iff.2 hb]
        simp [hne]
    | @pointFirst back _ hb hne =>
        have hread : mantissa? ([] ++ '.' :: back) = _ := mantissa?_of_point back List.not_mem_nil
        rw [List.nil_append, digits?_eq_some_iff.2 hb] at hread
        rw [hread]
        simp [digits?, hne]

/-- **The exponent is read as the grammar says.** -/
theorem exponent?_eq_some_iff {letter : Char} (hletter : letter = 'e' ∨ letter = 'E') :
    exponent? cs = some power ↔ Exponent (letter :: cs) power := by
  have hequation {rest : List Char} {negative : Bool} (h : splitSign cs = (negative, rest)) :
      exponent? cs = (digits1? rest).map (signed negative) := by
    simp only [exponent?, h]
    cases digits1? rest <;> rfl
  constructor
  · intro h
    rcases hsplit : splitSign cs with ⟨negative, rest⟩
    rw [hequation hsplit] at h
    obtain ⟨ds, hds, rfl⟩ := Option.map_eq_some_iff.1 h
    obtain ⟨hds, hne⟩ := digits1?_eq_some_iff.1 hds
    obtain ⟨sign, hsign, rfl⟩ := exists_sign_of_splitSign hsplit
    exact .power hletter hsign hds hne
  · intro h
    cases h with
    | power _ hsign hds hne =>
        have hrest := hds.unsigned hne []
        rw [List.append_nil] at hrest
        rw [hequation (hsign.splitSign_append hrest), digits1?_eq_some_iff.2 ⟨hds, hne⟩]
        rfl

end Parts

/-! ### Numerals -/

section Whole

variable {cs rest : List Char} {ds a b : List Nat} {negative : Bool} {power : Int}

theorem Mantissa.unsigned {mantissa : List Char} (h : Mantissa mantissa a b)
    (after : List Char) : Unsigned (mantissa ++ after) := by
  cases h with
  | whole ha hne => exact ha.unsigned hne after
  | pointed ha hne _ =>
      rw [List.append_assoc]
      exact ha.unsigned hne _
  | pointFirst _ _ =>
      intro c hc
      obtain rfl : '.' = c := Option.some.inj hc
      decide

/-- The letters of an exponent stand in no mantissa. -/
theorem Mantissa.not_mem_letter {mantissa : List Char} (h : Mantissa mantissa a b) :
    ∀ c ∈ mantissa, (c != 'e' && c != 'E') = true := by
  have hdigits {cs : List Char} {ds : List Nat} (h : Digits cs ds) :
      ∀ c ∈ cs, (c != 'e' && c != 'E') = true := by
    intro c hc
    have hlower : 'e' ∉ cs := h.not_mem (by decide +kernel)
    have hupper : 'E' ∉ cs := h.not_mem (by decide +kernel)
    rw [Bool.and_eq_true, bne_iff_ne, bne_iff_ne]
    exact ⟨fun heq => hlower (heq ▸ hc), fun heq => hupper (heq ▸ hc)⟩
  cases h with
  | whole ha _ => exact hdigits ha
  | pointed ha _ hb =>
      intro c hc
      rcases List.mem_append.1 hc with hc | hc
      · exact hdigits ha c hc
      · rcases List.mem_cons.1 hc with rfl | hc
        · decide
        · exact hdigits hb c hc
  | pointFirst hb _ =>
      exact List.forall_mem_cons.2 ⟨by decide, hdigits hb⟩

/-- **An integer is read as one.** -/
theorem ofText?_of_integer (h : Spells cs (.integer negative ds)) :
    ofText? cs = some (.integer negative ds) := by
  cases h with
  | integer hsign hds hne =>
      have hrest := hds.unsigned hne []
      rw [List.append_nil] at hrest
      exact ofText?_eq_integer (hsign.splitSign_append hrest) (digits?_eq_some_iff.2 hds) hne

theorem ofText?_of_no_letter (hsign : splitSign cs = (negative, rest))
    (hdigits : digits1? rest = none) (h : ∀ c ∈ rest, (c != 'e' && c != 'E') = true) :
    ofText? cs = (mantissa? rest).map fun m => .decimal negative m.1 m.2 0 := by
  have hfront : rest.takeWhile (fun c => c != 'e' && c != 'E') = rest :=
    List.takeWhile_eq_self_iff.2 h
  simp only [ofText?, hsign, hdigits, hfront, List.drop_length]

theorem ofText?_of_letter {front back : List Char} {letter : Char}
    (hletter : letter = 'e' ∨ letter = 'E')
    (hsign : splitSign cs = (negative, front ++ letter :: back))
    (hdigits : digits1? (front ++ letter :: back) = none)
    (h : ∀ c ∈ front, (c != 'e' && c != 'E') = true) :
    ofText? cs = (mantissa? front).bind fun m => (exponent? back).map fun power =>
      .decimal negative m.1 m.2 power := by
  have hstop : (letter != 'e' && letter != 'E') = false := by
    rcases hletter with rfl | rfl <;> rfl
  have hfront : (front ++ letter :: back).takeWhile (fun c => c != 'e' && c != 'E') = front :=
    takeWhile_eq_of_append h hstop
  simp only [ofText?, hsign, hdigits, hfront, List.drop_left]
  cases mantissa? front with
  | none => rfl
  | some m => cases exponent? back <;> rfl

/-- **A float is read as one**, if the text is no integer. -/
theorem ofText?_of_decimal (h : Spells cs (.decimal negative a b power))
    (hinteger : ∀ negative ds, ¬Spells cs (.integer negative ds)) :
    ofText? cs = some (.decimal negative a b power) := by
  cases h with
  | @decimal sign mantissa exponent _ _ _ _ hsign hmantissa hexponent =>
      have hsplit := hsign.splitSign_append (hmantissa.unsigned exponent)
      have hdigits : digits1? (mantissa ++ exponent) = none := by
        rw [Option.eq_none_iff_forall_ne_some]
        intro ds hds
        obtain ⟨hds, hne⟩ := digits1?_eq_some_iff.1 hds
        exact hinteger _ _ (.integer hsign hds hne)
      have hmantissa? := mantissa?_eq_some_iff.2 hmantissa
      cases hexponent with
      | none =>
          rw [List.append_nil] at hsplit hdigits ⊢
          rw [ofText?_of_no_letter hsplit hdigits hmantissa.not_mem_letter, hmantissa?]
          rfl
      | power hletter hs hds hne =>
          have hexponent? := (exponent?_eq_some_iff hletter).2 (.power hletter hs hds hne)
          rw [ofText?_of_letter hletter hsplit hdigits hmantissa.not_mem_letter, hmantissa?,
            hexponent?]
          rfl

/-- **What is read is spelled.** -/
theorem spells_of_ofText? {n : Numeral} (h : ofText? cs = some n) : Spells cs n := by
  rcases hsplit : splitSign cs with ⟨negative, rest⟩
  obtain ⟨sign, hsign, hcs⟩ := exists_sign_of_splitSign hsplit
  cases hdigits : digits1? rest with
  | some ds =>
      obtain ⟨hds, hne⟩ := digits1?_eq_some_iff.1 hdigits
      rw [hcs] at h ⊢
      rw [ofText?_of_integer (.integer hsign hds hne)] at h
      cases h
      exact .integer hsign hds hne
  | none =>
      by_cases hletter : ∀ c ∈ rest, (c != 'e' && c != 'E') = true
      · rw [ofText?_of_no_letter hsplit hdigits hletter] at h
        obtain ⟨m, hm, rfl⟩ := Option.map_eq_some_iff.1 h
        have hspells := Spells.decimal hsign (mantissa?_eq_some_iff.1 hm) .none
        rw [List.append_nil, ← hcs] at hspells
        exact hspells
      · obtain ⟨front, letter, back, rfl, hfront, hstop⟩ := exists_first_not hletter
        have hletter : letter = 'e' ∨ letter = 'E' := by
          rw [Bool.and_eq_false_iff, bne_eq_false_iff_eq, bne_eq_false_iff_eq] at hstop
          exact hstop
        rw [ofText?_of_letter hletter hsplit hdigits hfront] at h
        obtain ⟨m, hm, h⟩ := Option.bind_eq_some_iff.1 h
        obtain ⟨power, hpower, rfl⟩ := Option.map_eq_some_iff.1 h
        rw [hcs]
        exact .decimal hsign (mantissa?_eq_some_iff.1 hm) ((exponent?_eq_some_iff hletter).1 hpower)

/-- **What is not spelled is not read.** -/
theorem ofText?_eq_none_iff : ofText? cs = none ↔ ∀ n, ¬Spells cs n := by
  rw [Option.eq_none_iff_forall_ne_some]
  constructor
  · intro h n hn
    by_cases hinteger : ∃ negative ds, Spells cs (.integer negative ds)
    · obtain ⟨negative, ds, hspells⟩ := hinteger
      exact h _ (ofText?_of_integer hspells)
    · have hdecimal : ∀ negative ds, ¬Spells cs (.integer negative ds) :=
        fun negative ds hspells => hinteger ⟨negative, ds, hspells⟩
      cases n with
      | integer negative ds => exact hdecimal negative ds hn
      | decimal => exact h _ (ofText?_of_decimal hn hdecimal)
  · exact fun h n hn => h n (spells_of_ofText? hn)

end Whole

/-! ### Blanks around a numeral -/

section Blanks

variable {cs : List Char} {ds a b : List Nat} {negative : Bool} {power : Int}

theorem Sign.not_isBlank (h : Sign cs negative) : ∀ c ∈ cs, Text.isBlank c = false := by
  cases h with
  | none => exact List.forall_mem_nil _
  | plus | dash => exact List.forall_mem_singleton.2 (by decide)

theorem Digits.not_isBlank (h : Digits cs ds) : ∀ c ∈ cs, Text.isBlank c = false :=
  fun c hc => Text.not_isBlank_of_isDigitSign (h.isDigitSign c hc)

theorem Mantissa.not_isBlank (h : Mantissa cs a b) : ∀ c ∈ cs, Text.isBlank c = false := by
  cases h with
  | whole ha _ => exact ha.not_isBlank
  | pointed ha _ hb =>
      exact List.forall_mem_append.2
        ⟨ha.not_isBlank, List.forall_mem_cons.2 ⟨by decide, hb.not_isBlank⟩⟩
  | pointFirst hb _ => exact List.forall_mem_cons.2 ⟨by decide, hb.not_isBlank⟩

theorem Mantissa.ne_nil (h : Mantissa cs a b) : cs ≠ [] := by
  cases h with
  | whole ha hne => exact ha.ne_nil hne
  | pointed _ _ _ => exact List.append_ne_nil_of_right_ne_nil _ (List.cons_ne_nil _ _)
  | pointFirst _ _ => exact List.cons_ne_nil _ _

theorem Exponent.not_isBlank (h : Exponent cs power) : ∀ c ∈ cs, Text.isBlank c = false := by
  cases h with
  | none => exact List.forall_mem_nil _
  | @power letter _ _ _ _ hletter hsign hds _ =>
      have hblank : Text.isBlank letter = false := by
        rcases hletter with rfl | rfl <;> decide
      exact List.forall_mem_cons.2
        ⟨hblank, List.forall_mem_append.2 ⟨hsign.not_isBlank, hds.not_isBlank⟩⟩

/-- A numeral has no blanks, but it has characters. -/
theorem Spells.not_isBlank {n : Numeral} (h : Spells cs n) :
    cs ≠ [] ∧ ∀ c ∈ cs, Text.isBlank c = false := by
  cases h with
  | integer hsign hds hne =>
      exact ⟨List.append_ne_nil_of_right_ne_nil _ (hds.ne_nil hne),
        List.forall_mem_append.2 ⟨hsign.not_isBlank, hds.not_isBlank⟩⟩
  | decimal hsign hmantissa hexponent =>
      exact ⟨List.append_ne_nil_of_right_ne_nil _
          (List.append_ne_nil_of_left_ne_nil hmantissa.ne_nil _),
        List.forall_mem_append.2 ⟨hsign.not_isBlank,
          List.forall_mem_append.2 ⟨hmantissa.not_isBlank, hexponent.not_isBlank⟩⟩⟩

end Blanks

/-- **A text names what it spells without the blanks around it.** -/
theorem names_iff_spells_trim {cs : List Char} {n : Numeral} :
    Names cs n ↔ Spells (Text.trim cs) n := by
  constructor
  · rintro ⟨front, core, back, rfl, hfront, hback, hcore⟩
    obtain ⟨hne, hnonblank⟩ := hcore.not_isBlank
    rw [Text.trim_append hfront hnonblank hne hback]
    exact hcore
  · intro h
    obtain ⟨front, back, hcs, hfront, hback⟩ := Text.exists_eq_append_trim cs
    exact ⟨front, Text.trim cs, back, hcs, hfront, hback, h⟩

/-- The text of an integer names it, between blanks as well. -/
theorem names_integerText (n : Int) {front back : List Char}
    (hfront : ∀ c ∈ front, Text.isBlank c = true) (hback : ∀ c ∈ back, Text.isBlank c = true) :
    ∃ negative ds, Names (front ++ integerText n ++ back) (.integer negative ds) ∧
      ds.length = (Nat.toDigits 10 n.natAbs).length ∧ signed negative ds = n := by
  have hspells {cs : List Char} {k : Nat} (h : IntegerText cs k n) :
      ∃ negative ds, Spells cs (.integer negative ds) ∧ ds.length = k ∧ signed negative ds = n := by
    cases h with
    | plain hds hne =>
        exact ⟨_, _, .integer .none (digits?_eq_some_iff.1 hds) hne, rfl, rfl⟩
    | negative hds hne =>
        exact ⟨_, _, .integer .dash (digits?_eq_some_iff.1 hds) hne, rfl, rfl⟩
  obtain ⟨negative, ds, hcore, hlength, hvalue⟩ := hspells (integerText_denotes n)
  exact ⟨negative, ds, ⟨front, _, back, rfl, hfront, hback, hcore⟩, hlength, hvalue⟩

end Numeral

/-! ### The number that a text counts as -/

namespace Value

open Numeral (Names Separated maxDigits isSeparator signed)

section Reading

variable {s : String} {n : Numeral}

/-- A text that is read as a numeral counts as what that stands for, or is refused. -/
theorem number_of_ofText? (h : Numeral.ofText? (Text.trim s.toList) = some n) :
    (Value.str s).number =
      if s.toList.any isSeparator then .error (.strayBlank s) else n.value := by
  simp only [number, Number.read?, h, String.ofList_toList]
  cases s.toList.any isSeparator with
  | true => rfl
  | false =>
      rw [if_neg Bool.false_ne_true, if_neg Bool.false_ne_true]
      cases n.value <;> rfl

/-- **An integer in a text.** -/
theorem number_of_integer {negative : Bool} {ds : List Nat}
    (h : Names s.toList (.integer negative ds)) (hsep : ¬Separated s.toList) :
    (Value.str s).number =
      if maxDigits < ds.length then .error (.overlong ds.length)
      else .ok (.int (signed negative ds)) := by
  have hread := Numeral.ofText?_of_integer (Numeral.names_iff_spells_trim.1 h)
  rw [number_of_ofText? hread, List.any_eq_false.2 fun c hc h => hsep ⟨c, hc, h⟩]
  rfl

/-- **A float in a text.** -/
theorem number_of_decimal {negative : Bool} {a b : List Nat} {power : Int}
    (h : Names s.toList (.decimal negative a b power))
    (hinteger : ∀ negative ds, ¬Names s.toList (.integer negative ds))
    (hsep : ¬Separated s.toList) :
    ∃ x, (Numeral.decimal negative a b power).value = .ok (.float x) ∧
      (Value.str s).number = .ok (.float x) := by
  have hread := Numeral.ofText?_of_decimal (Numeral.names_iff_spells_trim.1 h)
    fun negative ds hspells => hinteger negative ds (Numeral.names_iff_spells_trim.2 hspells)
  rw [number_of_ofText? hread, List.any_eq_false.2 fun c hc h => hsep ⟨c, hc, h⟩]
  exact ⟨_, rfl, rfl⟩

/-- **A numeral between information separators is refused.** -/
theorem number_of_separated (h : Names s.toList n) (hsep : Separated s.toList) :
    (Value.str s).number = .error (.strayBlank s) := by
  have hany : s.toList.any isSeparator = true := List.any_eq_true.2 hsep
  cases hread : Numeral.ofText? (Text.trim s.toList) with
  | none => exact absurd (Numeral.names_iff_spells_trim.1 h) (Numeral.ofText?_eq_none_iff.1 hread n)
  | some m => rw [number_of_ofText? hread, hany, if_pos rfl]

/-- **A text that is no numeral counts as zero**, with separators and without. -/
theorem number_of_no_numeral (h : ∀ n, ¬Names s.toList n) :
    (Value.str s).number = .ok (.int 0) := by
  have hread : Numeral.ofText? (Text.trim s.toList) = none :=
    Numeral.ofText?_eq_none_iff.2 fun n hn => h n (Numeral.names_iff_spells_trim.2 hn)
  rw [number, Number.read?, hread]
  rfl

end Reading

/-- An integer of not too many digits has a text. -/
theorem text_int {n : Int} (h : (Nat.toDigits 10 n.natAbs).length ≤ maxDigits) :
    (Value.int n).text = .ok (String.ofList (integerText n)) := by
  have hbound {k : Nat} (hk : 0 < k) (h : (Nat.toDigits 10 n.natAbs).length ≤ k) :
      n.natAbs < tenPow k := (Nat.length_toDigits_le_iff (by decide) hk).1 h
  have hfits : integerFits n = true := by
    rw [integerFits, decide_eq_true_eq]
    exact hbound (by decide) h
  rw [text, writable, hfits]
  rfl

/-- **An integer is read back from its text**, with blanks around it. -/
theorem number_of_integerText {n : Int} {front back : List Char}
    (hk : (Nat.toDigits 10 n.natAbs).length ≤ maxDigits)
    (haround : ∀ c ∈ front ++ back, Text.isBlank c = true ∧ isSeparator c = false) :
    (Value.str (String.ofList (front ++ integerText n ++ back))).number = .ok (.int n) := by
  obtain ⟨hfront, hback⟩ := List.forall_mem_append.1 haround
  obtain ⟨negative, ds, hnames, hlength, hvalue⟩ := Numeral.names_integerText n
    (fun c hc => (hfront c hc).1) fun c hc => (hback c hc).1
  have hcore : ∀ c ∈ integerText n, isSeparator c = false := fun c hc =>
    Numeral.not_isSeparator_of_not_isBlank
      (not_isBlank_of_looksLikeSeconds (integerText_denotes n).looksLikeSeconds c hc)
  have hclean : ∀ c ∈ front ++ integerText n ++ back, isSeparator c = false :=
    List.forall_mem_append.2 ⟨List.forall_mem_append.2
      ⟨fun c hc => (hfront c hc).2, hcore⟩, fun c hc => (hback c hc).2⟩
  rw [← String.toList_ofList (l := front ++ integerText n ++ back)] at hnames hclean
  rw [number_of_integer hnames, if_neg (by omega), hvalue]
  rintro ⟨c, hc, hsep⟩
  rw [hclean c hc] at hsep
  cases hsep

/-- **The number that a text counts as.**  A text that holds no information separator

* is the integer that it names, and is refused if this has too many digits;
* is the float that it names, if it names no integer.

A text that names a number is refused if it does hold one.  A text that names none is zero.  So an
integer of not too many digits is read back from its text, with blanks around it that are no
information separators. -/
theorem number_of_text (s : String) :
    (∀ negative ds, Names s.toList (.integer negative ds) →
      (Separated s.toList → (Value.str s).number = .error (.strayBlank s)) ∧
      (¬Separated s.toList → maxDigits < ds.length →
        (Value.str s).number = .error (.overlong ds.length)) ∧
      (¬Separated s.toList → ds.length ≤ maxDigits →
        (Value.str s).number = .ok (.int (signed negative ds)))) ∧
    ((∀ negative ds, ¬Names s.toList (.integer negative ds)) →
      ∀ negative a b power, Names s.toList (.decimal negative a b power) →
        (Separated s.toList → (Value.str s).number = .error (.strayBlank s)) ∧
        (¬Separated s.toList → ∃ x, (Numeral.decimal negative a b power).value = .ok (.float x) ∧
          (Value.str s).number = .ok (.float x))) ∧
    ((∀ n, ¬Names s.toList n) → (Value.str s).number = .ok (.int 0)) ∧
    ∀ (n : Int) (front back : List Char), (Nat.toDigits 10 n.natAbs).length ≤ maxDigits →
      (∀ c ∈ front ++ back, Text.isBlank c = true ∧ isSeparator c = false) →
      ∃ t, (Value.int n).text = .ok t ∧
        (Value.str (String.ofList (front ++ t.toList ++ back))).number = .ok (.int n) := by
  refine ⟨fun negative ds h => ⟨number_of_separated h, fun hsep hk => ?_, fun hsep hk => ?_⟩,
    fun hinteger negative a b power h =>
      ⟨number_of_separated h, fun hsep => number_of_decimal h hinteger hsep⟩,
    number_of_no_numeral, fun n front back hk haround => ⟨_, text_int hk, ?_⟩⟩
  · rw [number_of_integer h hsep, if_pos hk]
  · rw [number_of_integer h hsep, if_neg (Nat.not_lt.2 hk)]
  · rw [String.toList_ofList]
    exact number_of_integerText hk haround

/-- An integer and a float with blanks around them, and an integer that is read back. -/
theorem number_of_text_blanks :
    (Value.str " -12\t").number = .ok (.int (-12)) ∧
    (∃ x, (Numeral.decimal false [2] [5] 0).value = .ok (.float x) ∧
      (Value.str " 2.5").number = .ok (.float x)) ∧
    ∃ t, (Value.int 40).text = .ok t ∧
      (Value.str (String.ofList ([' '] ++ t.toList ++ []))).number = .ok (.int 40) := by
  have hinteger : Names " -12\t".toList (.integer true [1, 2]) :=
    Numeral.names_iff_spells_trim.2 (Numeral.spells_of_ofText? rfl)
  have hdecimal : Names " 2.5".toList (.decimal false [2] [5] 0) :=
    Numeral.names_iff_spells_trim.2 (Numeral.spells_of_ofText? rfl)
  have hnot : ∀ negative ds, ¬Names " 2.5".toList (.integer negative ds) := by
    intro negative ds h
    cases Numeral.ofText?_of_integer (Numeral.names_iff_spells_trim.1 h)
  have haround : ∀ c ∈ [' '] ++ [], Text.isBlank c = true ∧ isSeparator c = false :=
    List.forall_mem_singleton.2 (by decide)
  exact ⟨((number_of_text " -12\t").1 _ _ hinteger).2.2 (by decide +kernel) (by decide),
    ((number_of_text " 2.5").2.1 hnot _ _ _ _ hdecimal).2 (by decide +kernel),
    (number_of_text "").2.2.2 40 [' '] [] (by decide +kernel) haround⟩

/-- **A numeral is refused for a blank behind it**, whether an integer or a float, although it has
no more than one digit on each side of the point. -/
theorem refused_for_blank :
    Text.isBlank '\x1f' = true ∧
    Names "5\x1f".toList (.integer false [5]) ∧ [5].length ≤ maxDigits ∧
    (Value.str "5\x1f").number = .error (.strayBlank "5\x1f") ∧
    Names "2.5\x1f".toList (.decimal false [2] [5] 0) ∧
    (Value.str "2.5\x1f").number = .error (.strayBlank "2.5\x1f") :=
  ⟨by decide, Numeral.names_iff_spells_trim.2 (Numeral.spells_of_ofText? rfl), by decide, rfl,
    Numeral.names_iff_spells_trim.2 (Numeral.spells_of_ofText? rfl), rfl⟩

end Value

end TemplateEngine
