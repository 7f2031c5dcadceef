/-
**Quotients and remainders.**

One filter gives the quotient of two integers and another one the remainder.  Neither knows of the
other, but both read their operands as numbers in the same way: an integer is itself, a text that
names an integer is that integer, and nearly everything else is zero, booleans and nil included.
The quotient is rounded down, whatever the signs, and **so the remainder has the sign of the
divisor**; the quotient times the divisor and the remainder together are the dividend again.  What
counts as zero divides nothing.

Main definitions and results:

* `Value.CountsAs`, `Value.number_eq_int_iff` — the values whose number is an integer;
* `Filter.apply_combining`, `Filter.apply_dividing` — the filters on numbers, given integers;
* `Node.Steady`, `Node.runOn_pipe` — a pipe whose parameters leave the state as it is;
* `Node.recomposed` — a dividend that is taken apart and put together again in one pipe;
* `NumberFilter.division_fits_together` — **quotient and remainder fit together**.
-/
import TemplateEngine.Proofs.Arity
import TemplateEngine.Proofs.Numerals
import TemplateEngine.Proofs.PipeSplit

set_option autoImplicit false

namespace TemplateEngine

/-! ### Values that count as integers -/

namespace Value

open Numeral (Names Separated maxDigits signed)

/-- **What counts as an integer**: integers, texts that name one, and what counts as zero. -/
inductive CountsAs : Value → Int → Prop
  | int (n : Int) : CountsAs (.int n) n
  | numeral {s : String} {negative : Bool} {ds : List Nat} :
      Names s.toList (.integer negative ds) → ¬Separated s.toList → ds.length ≤ maxDigits →
      CountsAs (.str s) (signed negative ds)
  | noNumeral {s : String} : (∀ n, ¬Names s.toList n) → CountsAs (.str s) 0
  | noNumber {v : Value} : v.kind ∉ [.int, .float, .str] → CountsAs v 0

variable {v : Value} {n : Int}

theorem CountsAs.number_eq (h : v.CountsAs n) : v.number = .ok (.int n) := by
  cases h with
  | int => rfl
  | numeral hnames hsep hlength =>
      rw [number_of_integer hnames hsep, if_neg (by omega)]
  | noNumeral hnone => exact number_of_no_numeral hnone
  | noNumber hkind =>
      cases v with
      | int | float | str => simp [kind] at hkind
      | _ => rfl

/-- A text whose number is an integer names this integer, or no number at all. -/
theorem countsAs_of_number_str {s : String} (h : (str s).number = .ok (.int n)) :
    (str s).CountsAs n := by
  cases hread : Numeral.ofText? (Text.trim s.toList) with
  | none =>
      have hnone : ∀ m, ¬Names s.toList m := by
        intro m hm
        exact Numeral.ofText?_eq_none_iff.1 hread m (Numeral.names_iff_spells_trim.1 hm)
      rw [number_of_no_numeral hnone] at h
      cases h
      exact .noNumeral hnone
  | some numeral =>
      have hnames : Names s.toList numeral :=
        Numeral.names_iff_spells_trim.2 (Numeral.spells_of_ofText? hread)
      by_cases hsep : Separated s.toList
      · rw [number_of_separated hnames hsep] at h
        cases h
      · cases numeral with
        | integer negative ds =>
            rw [number_of_integer hnames hsep] at h
            split at h
            · cases h
            · next hlength =>
                cases h
                exact .numeral hnames hsep (by omega)
        | decimal negative a b power =>
            rw [number_of_ofText? hread, List.any_eq_false.2 fun c hc h => hsep ⟨c, hc, h⟩] at h
            cases h

/-- **The values whose number is an integer are those that count as one.** -/
theorem number_eq_int_iff : v.number = .ok (.int n) ↔ v.CountsAs n := by
  constructor
  · intro h
    cases v with
    | int m =>
        cases h
        exact .int _
    | float x => cases h
    | str s => exact countsAs_of_number_str h
    | _ =>
        cases h
        exact .noNumber (by simp [kind])
  · exact CountsAs.number_eq

end Value

/-! ### The filters on numbers, given integers -/

/-- An integer is zero if it is 0. -/
theorem Number.isZero_int (b : Int) : (Number.int b).isZero = decide (b = 0) := same_int b 0

namespace Filter

open NumberFilter

variable {kind : StandardFilter} {now : Moment} {onInts : Int → Int → Int}
  {onFloats : Float → Float → Float} {x y : Value} {a b : Int}

/-- A filter with one parameter gives what its body gives. -/
theorem apply_unary {body : Value → Value → Except Failure Value}
    (hkind : kind.operation now = .unary body) (x y : Value) :
    (ofStandard kind).apply now x [y] = (body x y).mapError (Failure.toError kind.name) := by
  have hrun : (kind.operation now).run x [y] = some (body x y) := by
    rw [hkind]
    rfl
  simp only [apply, ofStandard, hrun]

/-- A filter that combines two numbers combines two integers into one. -/
theorem apply_combining
    (hkind : kind.operation now = .unary (combining (Number.lift onInts onFloats)))
    (hx : x.number = .ok (.int a)) (hy : y.number = .ok (.int b)) :
    (ofStandard kind).apply now x [y] = .ok (.int (onInts a b)) := by
  rw [apply_unary hkind, combining, hx, hy]
  rfl

/-- A filter that divides two integers gives an integer, unless the divisor is 0. -/
theorem apply_dividing
    (hkind : kind.operation now = .unary (dividing (Number.lift onInts onFloats)))
    (hx : x.number = .ok (.int a)) (hy : y.number = .ok (.int b)) :
    (ofStandard kind).apply now x [y] =
      if b = 0 then .error (.filterFailed kind.name "divided by 0")
      else .ok (.int (onInts a b)) := by
  have hbody : dividing (Number.lift onInts onFloats) x y =
      if (Number.int b).isZero then .error (.refused "divided by 0")
      else .ok (.int (onInts a b)) := by
    rw [dividing, hx, hy]
    show (if (Number.int b).isZero = true then _ else _) = _
    split <;> rfl
  rw [apply_unary hkind, hbody, Number.isZero_int]
  by_cases hb : b = 0
  · rw [if_pos hb, if_pos (decide_eq_true hb)]
    rfl
  · rw [if_neg hb, decide_eq_false hb]
    rfl

end Filter

/-! ### Pipes whose parameters leave the state as it is -/

namespace Node

variable {env : Surroundings} {s : State}

/-- A stage with one parameter, which has a value and leaves the state as it is. -/
inductive Steady (env : Surroundings) (s : State) : Node → Stage → Prop
  | stage {n : Node} {v : Value} (filter : String) : n.render.runOn env s = (.ok v, s) →
      Steady env s (.stage filter [n]) ⟨filter, [v]⟩

/-- The parameters of steady stages are evaluated one after another in one state. -/
theorem runOn_evaluateStages_of_steady {ns : List Node} {stages : List Stage}
    (h : List.Forall₂ (Steady env s) ns stages) :
    (evaluateStages (parts ns)).runOn env s = (.ok stages, s) := by
  induction h with
  | nil => rfl
  | cons hstage _ ih =>
      cases hstage with
      | @stage n v filter hn =>
          have hall : (Render.all [n.render]).runOn env s = (.ok [v], s) := by
            rw [Render.all, Render.runOn_bind_ok _ _ hn]
            rfl
          simp only [parts, part, evaluateStages, List.map_cons, List.map_nil]
          rw [← render, Render.runOn_bind_ok _ _ hall, Render.runOn_bind_ok _ _ ih]
          rfl

/-- A value goes through a pipe of steady stages. -/
theorem runOn_pipe {m : Node} {x : Value} (hm : m.render.runOn env s = (.ok x, s))
    {ns : List Node} {stages : List Stage} (h : List.Forall₂ (Steady env s) ns stages) :
    (output m ns).render.runOn env s = (s.filters.pipe env.now x stages, s) := by
  rw [render_output, Render.runOn_bind_ok _ _ hm, runPipe,
    Render.runOn_bind_ok _ _ (runOn_evaluateStages_of_steady h), runOn_applyStages]

/-- A dividend that is divided and multiplied by the same divisor, with the remainder added. -/
def recomposed (dividend divisor : Node) : Node :=
  .output dividend
    [.stage "divided_by" [divisor], .stage "times" [divisor],
      .stage "plus" [.output dividend [.stage "modulo" [divisor]]]]

end Node

/-! ### Quotient and remainder -/

namespace NumberFilter

/-- The remainder for a quotient that is rounded down lies between 0 and the divisor. -/
theorem fmod_between (a b : Int) :
    (0 < b → 0 ≤ a.fmod b ∧ a.fmod b < b) ∧ (b < 0 → b < a.fmod b ∧ a.fmod b ≤ 0) := by
  constructor
  · intro hb
    exact ⟨Int.fmod_nonneg_of_pos a hb, Int.fmod_lt_of_pos a hb⟩
  · intro hb
    have hneg : (-a).fmod (-b) = -a.fmod b := Int.neg_fmod_neg a b
    have hnonneg := Int.fmod_nonneg_of_pos (-a) (b := -b) (by omega)
    have hlt := Int.fmod_lt_of_pos (-a) (b := -b) (by omega)
    omega

variable {filters : Registry Filter} {x y : Value} {a b : Int}

/-- A standard filter that is found under its name hands its result to the next stage. -/
theorem pipe_cons_of_apply {kind : StandardFilter} {now : Moment} {v w : Value}
    {params : List Value} (hget : filters.get kind.name = .ok (Filter.ofStandard kind))
    (h : (Filter.ofStandard kind).apply now v params = .ok w) (rest : List Stage) :
    filters.pipe now v (⟨kind.name, params⟩ :: rest) = filters.pipe now w rest := by
  rw [Registry.pipe, hget]
  show ((Filter.ofStandard kind).apply now v params >>= _) = _
  rw [h]
  rfl

section Pipes

variable (hfilters : ∀ kind : StandardFilter, filters.get kind.name = .ok (Filter.ofStandard kind))
  (now : Moment) (hx : x.number = .ok (.int a)) (hy : y.number = .ok (.int b)) (hb : b ≠ 0)

include hfilters hx hy hb

theorem pipe_remainder : filters.pipe now x [⟨"modulo", [y]⟩] = .ok (.int (a.fmod b)) := by
  have hmod : (Filter.ofStandard .modulo).apply now x [y] = _ :=
    Filter.apply_dividing rfl hx hy
  rw [if_neg hb] at hmod
  exact pipe_cons_of_apply (hfilters .modulo) hmod []

/-- A quotient, times the divisor, with the remainder added, is the dividend. -/
theorem pipe_recomposed :
    filters.pipe now x [⟨"divided_by", [y]⟩, ⟨"times", [y]⟩, ⟨"plus", [.int (a.fmod b)]⟩] =
      .ok (.int a) := by
  have hdiv : (Filter.ofStandard .dividedBy).apply now x [y] = _ :=
    Filter.apply_dividing rfl hx hy
  rw [if_neg hb] at hdiv
  have htimes : (Filter.ofStandard .times).apply now (.int (a.fdiv b)) [y] =
      .ok (.int (a.fdiv b * b)) := Filter.apply_combining rfl rfl hy
  have hplus : (Filter.ofStandard .plus).apply now (.int (a.fdiv b * b)) [.int (a.fmod b)] =
      .ok (.int (a.fdiv b * b + a.fmod b)) := Filter.apply_combining rfl rfl rfl
  rw [Int.fdiv_mul_add_fmod] at hplus
  calc filters.pipe now x [⟨"divided_by", [y]⟩, ⟨"times", [y]⟩, ⟨"plus", [.int (a.fmod b)]⟩]
      = filters.pipe now (.int (a.fdiv b)) [⟨"times", [y]⟩, ⟨"plus", [.int (a.fmod b)]⟩] :=
        pipe_cons_of_apply (hfilters .dividedBy) hdiv _
    _ = filters.pipe now (.int (a.fdiv b * b)) [⟨"plus", [.int (a.fmod b)]⟩] :=
        pipe_cons_of_apply (hfilters .times) htimes _
    _ = .ok (.int a) := pipe_cons_of_apply (hfilters .plus) hplus []

end Pipes

/-- In a template the operands may be any nodes that leave the state as it is. -/
theorem runOn_recomposed {env : Surroundings} {s : State} {dividend divisor : Node}
    (hfilters : ∀ kind : StandardFilter, s.filters.get kind.name = .ok (Filter.ofStandard kind))
    (hdividend : dividend.render.runOn env s = (.ok x, s))
    (hdivisor : divisor.render.runOn env s = (.ok y, s))
    (hx : x.number = .ok (.int a)) (hy : y.number = .ok (.int b)) (hb : b ≠ 0) :
    (Node.recomposed dividend divisor).render.runOn env s = (.ok (.int a), s) := by
  have hremainder : (Node.output dividend [.stage "modulo" [divisor]]).render.runOn env s =
      (.ok (.int (a.fmod b)), s) := by
    rw [Node.runOn_pipe hdividend (.cons (.stage _ hdivisor) .nil),
      pipe_remainder hfilters _ hx hy hb]
  have hstages : List.Forall₂ (Node.Steady env s)
      [.stage "divided_by" [divisor], .stage "times" [divisor],
        .stage "plus" [.output dividend [.stage "modulo" [divisor]]]]
      [⟨"divided_by", [y]⟩, ⟨"times", [y]⟩, ⟨"plus", [.int (a.fmod b)]⟩] :=
    .cons (.stage _ hdivisor) (.cons (.stage _ hdivisor) (.cons (.stage _ hremainder) .nil))
  rw [Node.recomposed, Node.runOn_pipe hdividend hstages, pipe_recomposed hfilters _ hx hy hb]

/-- **Quotient and remainder fit together.**  The number of the dividend is an integer `a` and that
of the divisor an integer `b`, so each of them is an integer, a text that names one, or counts as
zero.

* If `b` is 0, both filters refuse to divide by it.
* Otherwise they give integers `q` and `r` with `q * b + r = a`, and `r` lies between 0 and `b`, on
  the side of `b`.
* Then a pipe that divides by the divisor, multiplies by it and adds the remainder gives `a`, where
  the standard filters have their names and the operands leave the state as it is. -/
theorem division_fits_together (now : Moment) (hx : x.number = .ok (.int a))
    (hy : y.number = .ok (.int b)) :
    let quotient := (Filter.ofStandard .dividedBy).apply now x [y]
    let remainder := (Filter.ofStandard .modulo).apply now x [y]
    (x.CountsAs a ∧ y.CountsAs b) ∧
    (b = 0 → quotient = .error (.filterFailed "divided_by" "divided by 0") ∧
      remainder = .error (.filterFailed "modulo" "divided by 0")) ∧
    (b ≠ 0 → (∃ q r : Int, quotient = .ok (.int q) ∧ remainder = .ok (.int r) ∧ q * b + r = a ∧
        (0 < b → 0 ≤ r ∧ r < b) ∧ (b < 0 → b < r ∧ r ≤ 0)) ∧
      ∀ (env : Surroundings) (s : State) (dividend divisor : Node),
        (∀ kind : StandardFilter, s.filters.get kind.name = .ok (Filter.ofStandard kind)) →
        dividend.render.runOn env s = (.ok x, s) → divisor.render.runOn env s = (.ok y, s) →
        (Node.recomposed dividend divisor).render.runOn env s = (.ok (.int a), s)) := by
  intro quotient remainder
  have hquotient : quotient = _ := Filter.apply_dividing rfl hx hy
  have hremainder : remainder = _ := Filter.apply_dividing rfl hx hy
  refine ⟨⟨Value.number_eq_int_iff.1 hx, Value.number_eq_int_iff.1 hy⟩, ?_, ?_⟩
  · intro hb
    rw [if_pos hb] at hquotient hremainder
    exact ⟨hquotient, hremainder⟩
  · intro hb
    rw [if_neg hb] at hquotient hremainder
    obtain ⟨hpos, hneg⟩ := fmod_between a b
    refine ⟨⟨a.fdiv b, a.fmod b, hquotient, hremainder, Int.fdiv_mul_add_fmod a b, hpos, hneg⟩, ?_⟩
    intro env s dividend divisor hfilters hdividend hdivisor
    exact runOn_recomposed hfilters hdividend hdivisor hx hy hb

/-- A text with a blank is divided by an integer and rounded down, and nothing is divided by a
boolean. -/
theorem division_fits_together_blanks :
    (Value.str " -7").number = .ok (.int (-7)) ∧ (Value.int 2).number = .ok (.int 2) ∧
    (Value.bool true).number = .ok (.int 0) ∧
    (∃ q r : Int, (Filter.ofStandard .dividedBy).apply default (.str " -7") [.int 2] =
        .ok (.int q) ∧ (Filter.ofStandard .modulo).apply default (.str " -7") [.int 2] =
          .ok (.int r) ∧ q * 2 + r = -7 ∧ 0 ≤ r ∧ r < 2) ∧
    (Node.recomposed (.literal (.str " -7")) (.literal (.int 2))).render.runOn
        ((Engine.new {}).surroundings default 1) ((Engine.new {}).start (.ofVariables ∅) ∅) =
      (.ok (.int (-7)), (Engine.new {}).start (.ofVariables ∅) ∅) ∧
    (Filter.ofStandard .dividedBy).apply default (.str " -7") [.bool true] =
      .error (.filterFailed "divided_by" "divided by 0") := by
  have hx : (Value.str " -7").number = .ok (.int (-7)) := rfl
  have hy : (Value.int 2).number = .ok (.int 2) := rfl
  have hzero : (Value.bool true).number = .ok (.int 0) := rfl
  obtain ⟨⟨q, r, hq, hr, hsum, hbetween, -⟩, hpipe⟩ :=
    (division_fits_together default hx hy).2.2 (by decide)
  exact ⟨hx, hy, hzero, ⟨q, r, hq, hr, hsum, hbetween (by decide)⟩,
    hpipe _ _ _ _ StandardFilter.get_standardFilters rfl rfl,
    ((division_fits_together default hx hzero).2.1 rfl).1⟩

end NumberFilter

end TemplateEngine
