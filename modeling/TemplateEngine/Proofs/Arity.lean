/-
**How many parameters a filter takes.**

Every standard filter takes a number of parameters from a range.  A count outside the range is an
error, **whatever the value and the parameters are**: none of them is looked at before they are
counted.  A count inside the range never is such an error, whatever else may go wrong.

The table of ranges is given apart from the filters, as the documentation has it.  Filters with a
fixed number of parameters and filters with optional ones are checked in two ways; the two checks
are one and the same.

Main definitions and results:

* `StandardFilter.parameters`, `StandardFilter.arity_operation` — the table, and that filters keep
  to it;
* `checkParams_some` — the check of a fixed number is the check of a range;
* `Arity.IsNearest`, `Arity.isNearest_iff` — the bound that a count comes nearest to;
* `Filter.apply_of_check` — **a filter fails as its check does**;
* `StandardFilter.arity_errors_exact` — when a filter complains of a count, and how.
-/
import TemplateEngine.Engine

set_option autoImplicit false

namespace TemplateEngine

/-! ### Ranges -/

namespace Arity

variable {a : Arity} {count : Nat}

/-- **The bound of a range that a count comes nearest to**: no number in the range is closer. -/
structure IsNearest (a : Arity) (count : Nat) (bound : Int) : Prop where
  isBound : bound = a.low ∨ bound = a.high
  nearest (n : Int) : a.low ≤ n → n ≤ a.high → (bound - count).natAbs ≤ (n - count).natAbs

/-- A count outside a range misses the bound that it comes nearest to. -/
theorem isNearest_iff (ha : a.low ≤ a.high) (h : a.admits count = false) (bound : Int) :
    a.IsNearest count bound ↔ bound = a.nearest count := by
  have hout : ¬ (a.low ≤ count ∧ (count : Int) ≤ a.high) := by
    rw [← admits_iff, h]
    simp
  unfold nearest
  constructor
  · rintro ⟨hbound, hnearest⟩
    have hlow := hnearest a.low (Int.le_refl _) ha
    have hhigh := hnearest a.high ha (Int.le_refl _)
    split <;> omega
  · rintro rfl
    refine ⟨?_, fun n hlow hhigh => ?_⟩
    · split
      · exact .inl rfl
      · exact .inr rfl
    · split <;> omega

/-- A check fails outside the range, and with one error. -/
theorem check_eq_error (filter? : Option String) (e : Error) :
    a.check filter? count = .error e ↔ a.admits count = false ∧ e = a.error filter? count := by
  rw [check]
  cases a.admits count with
  | true => simp
  | false => simp [eq_comm]

end Arity

/-- **The check of a fixed number is the check of a range** with one number in it. -/
theorem checkParams_some (filter? : Option String) (expected : Int) (params : List Value) :
    checkParams filter? expected (some params) =
      Arity.check ⟨expected, expected⟩ filter? params.length := by
  have hnearest : Arity.nearest ⟨expected, expected⟩ params.length = expected := by
    simp [Arity.nearest]
  by_cases h : (params.length : Int) = expected
  · have hadmits : Arity.admits ⟨expected, expected⟩ params.length = true :=
      (Arity.admits_iff _ _).2 ⟨Int.le_of_eq h.symm, Int.le_of_eq h⟩
    rw [checkParams, Arity.check, hadmits]
    exact if_pos h
  · have hadmits : Arity.admits ⟨expected, expected⟩ params.length = false := by
      rw [Bool.eq_false_iff, Ne, Arity.admits_iff]
      simp only
      omega
    rw [checkParams, Arity.check, hadmits, Arity.error, hnearest]
    exact if_neg h

/-! ### The table -/

namespace StandardFilter

/-- **The table of standard filters**: how many parameters each of them takes. -/
def parameters : StandardFilter → Arity
  | append | prepend => ⟨1, 1⟩
  | capitalize => ⟨0, 0⟩
  | date => ⟨1, 1⟩
  | dividedBy | minus | modulo | plus | times => ⟨1, 1⟩
  | downcase | upcase => ⟨0, 0⟩
  | escape | h => ⟨0, 0⟩
  | escapeOnce => ⟨0, 0⟩
  | first | last => ⟨0, 0⟩
  | join => ⟨0, 1⟩
  | map => ⟨1, 1⟩
  | remove | removeFirst => ⟨1, 1⟩
  | replace | replaceFirst => ⟨2, 2⟩
  | size => ⟨0, 0⟩
  | sort => ⟨0, 1⟩
  | split => ⟨1, 1⟩
  | stripHtml => ⟨0, 0⟩
  | stripNewlines => ⟨0, 0⟩
  | truncate => ⟨0, 2⟩
  | truncatewords => ⟨0, 2⟩

/-- What a filter does takes as many parameters as the table says. -/
theorem arity_operation (kind : StandardFilter) (now : Moment) :
    (kind.operation now).arity = kind.parameters := by
  cases kind <;> rfl

/-- No range is empty. -/
theorem low_le_high (kind : StandardFilter) : kind.parameters.low ≤ kind.parameters.high := by
  cases kind <;> decide

/-- Every registry starts with a filter under its name. -/
theorem get_standardFilters (kind : StandardFilter) :
    standardFilters.get kind.name = .ok (Filter.ofStandard kind) := by
  cases kind <;> rfl

end StandardFilter

/-! ### Filters that complain of a count -/

/-- What a body fails with is never a complaint of a count. -/
theorem Failure.toError_ne_wrongArity (filter : String) (x : Failure) (filter? : Option String)
    (expected actual : Int) : x.toError filter ≠ .wrongArity filter? expected actual := by
  cases x with
  | refused reason => simp [toError]
  | fault f => simp [toError]

namespace Filter

variable {f : Filter} {kind : StandardFilter} (now : Moment) (v : Value) {params : List Value}

/-- **A filter fails as its check does**, before anything else is done. -/
theorem apply_of_check (hf : f.body = .standard kind) {e : Error}
    (h : kind.parameters.check (some f.name) params.length = .error e) :
    f.apply now v params = .error e := by
  obtain ⟨hadmits, rfl⟩ := (Arity.check_eq_error _ _).1 h
  have hnone : (kind.operation now).run v params = none := by
    rw [← Option.not_isSome_iff_eq_none, Operation.run_isSome, kind.arity_operation, hadmits]
    exact Bool.false_ne_true
  rw [apply, hf]
  simp only [hnone, kind.arity_operation]

/-- A count inside the range is never complained of. -/
theorem apply_ne_wrongArity (hf : f.body = .standard kind)
    (h : kind.parameters.admits params.length = true) (filter? : Option String)
    (expected actual : Int) :
    f.apply now v params ≠ .error (.wrongArity filter? expected actual) := by
  rw [← kind.arity_operation now, ← Operation.run_isSome _ v] at h
  obtain ⟨r, hr⟩ := Option.isSome_iff_exists.1 h
  rw [apply, hf]
  simp only [hr]
  cases r with
  | ok w =>
      intro h
      cases h
  | error x =>
      intro h
      exact x.toError_ne_wrongArity f.name filter? expected actual (Except.error.inj h)

/-- **When a filter complains of a count**: it does as its check does. -/
theorem apply_eq_wrongArity (hf : f.body = .standard kind) (filter? : Option String)
    (expected actual : Int) :
    f.apply now v params = .error (.wrongArity filter? expected actual) ↔
      kind.parameters.check (some f.name) params.length =
        .error (.wrongArity filter? expected actual) := by
  constructor
  · intro h
    rw [Arity.check_eq_error]
    cases hadmits : kind.parameters.admits params.length with
    | true => exact absurd h (apply_ne_wrongArity now v hf hadmits _ _ _)
    | false =>
        have hcheck := apply_of_check now v hf
          ((Arity.check_eq_error (some f.name) _).2 ⟨hadmits, rfl⟩)
        exact ⟨rfl, Except.error.inj (h.symm.trans hcheck)⟩
  · exact apply_of_check now v hf

end Filter

/-- **Complaints of a count are complete, exact and come first.**  Whatever the value and the
parameters are, a standard filter complains of their count exactly if the table does not have it,
and it tells its own name, the count, and the bound that the count comes nearest to. -/
theorem StandardFilter.arity_errors_exact (kind : StandardFilter) :
    standardFilters.get kind.name = .ok (Filter.ofStandard kind) ∧
      ∀ (now : Moment) (v : Value) (params : List Value),
        ((∃ filter? expected actual, (Filter.ofStandard kind).apply now v params =
            .error (.wrongArity filter? expected actual)) ↔
          (params.length : Int) < kind.parameters.low ∨
            kind.parameters.high < (params.length : Int)) ∧
        ∀ filter? expected actual, (Filter.ofStandard kind).apply now v params =
            .error (.wrongArity filter? expected actual) →
          filter? = some kind.name ∧ actual = params.length ∧
            kind.parameters.IsNearest params.length expected := by
  refine ⟨kind.get_standardFilters, fun now v params => ?_⟩
  have hcomplains (filter? : Option String) (expected actual : Int) :
      (Filter.ofStandard kind).apply now v params = .error (.wrongArity filter? expected actual) ↔
        kind.parameters.check (some kind.name) params.length =
          .error (.wrongArity filter? expected actual) :=
    Filter.apply_eq_wrongArity now v rfl filter? expected actual
  have hout : kind.parameters.admits params.length = false ↔
      (params.length : Int) < kind.parameters.low ∨
        kind.parameters.high < (params.length : Int) := by
    rw [Bool.eq_false_iff, Ne, Arity.admits_iff]
    omega
  refine ⟨?_, ?_⟩
  · rw [← hout]
    constructor
    · rintro ⟨filter?, expected, actual, h⟩
      rw [hcomplains, Arity.check_eq_error] at h
      exact h.1
    · intro h
      exact ⟨_, _, _, (hcomplains _ _ _).2 ((Arity.check_eq_error _ _).2 ⟨h, rfl⟩)⟩
  · intro filter? expected actual h
    rw [hcomplains, Arity.check_eq_error] at h
    obtain ⟨hadmits, herror⟩ := h
    obtain ⟨rfl, rfl, rfl⟩ := Error.wrongArity.inj herror
    exact ⟨rfl, rfl, (Arity.isNearest_iff kind.low_le_high hadmits _).2 rfl⟩

/-- A filter with up to two parameters is given three. -/
example : (Filter.ofStandard .truncate).apply default (.str "value") [.int 1, .int 2, .int 3] =
    .error (.wrongArity (some "truncate") 2 3) := rfl

end TemplateEngine
