/-
**Operations of filters.**

An operation takes a value and a number of parameters.  How many it may take is part of the
operation, so a body never sees a missing or surplus parameter, and **the count is checked before
anything else**.

Main definitions:

* `Operation` — a body with its parameters;
* `Arity` — the range of parameter counts, and the error outside it;
* `Operation.run` — the result, `none` for a wrong number of parameters.
-/
import TemplateEngine.Error

set_option autoImplicit false

namespace TemplateEngine

/-! ### Counts of parameters -/

/-- The least and the greatest number of parameters. -/
structure Arity where
  low : Int
  high : Int
  deriving DecidableEq, Repr

namespace Arity

/-- Whether a count is in range. -/
def admits (a : Arity) (count : Nat) : Bool := a.low ≤ count && (count : Int) ≤ a.high

/-- A count is admitted iff it lies between the bounds. -/
theorem admits_iff (a : Arity) (count : Nat) :
    a.admits count = true ↔ a.low ≤ count ∧ (count : Int) ≤ a.high := by
  simp [admits]

/-- The bound that a count misses. -/
def nearest (a : Arity) (count : Nat) : Int := if (count : Int) < a.low then a.low else a.high

/-- The error of a filter that is given a count outside its range. -/
def error (a : Arity) (filter? : Option String) (count : Nat) : Error :=
  .wrongArity filter? (a.nearest count) count

/-- Fail unless a count is in range. -/
def check (a : Arity) (filter? : Option String) (count : Nat) : Except Error Unit :=
  if a.admits count then .ok () else .error (a.error filter? count)

end Arity

/-- Fail unless there are parameters, and as many as expected. -/
def checkParams (filter? : Option String) (expected : Int) (params? : Option (List Value)) :
    Except Error Unit :=
  match params? with
  | none => .error (.wrongArity filter? expected 0)
  | some params =>
      if (params.length : Int) = expected then .ok ()
      else .error (.wrongArity filter? expected params.length)

/-- The parameter with a number. -/
def paramAt (filter : String) (index : Int) (params : List Value) : Except Error Value :=
  if index < 0 then .error (.noParameter filter index params)
  else match params[index.toNat]? with
    | some v => .ok v
    | none => .error (.noParameter filter index params)

/-! ### Operations -/

/-- Why a body gives no value: it refuses its input, or an operation on values failed. -/
inductive Failure where
  | refused (reason : String)
  | fault (f : Fault)

/-- The error of a filter whose body failed. -/
def Failure.toError (filter : String) : Failure → Error
  | .refused reason => .filterFailed filter reason
  | .fault f => .fault f

/-- A failure of an operation on values is a failure of the body that runs it. -/
instance : MonadLift (Except Fault) (Except Failure) where
  monadLift := fun r => r.mapError .fault

/-- A mismatch of kinds is a failure of the body that meets it. -/
instance : MonadLift (Except Mismatch) (Except Failure) where
  monadLift := fun r => r.mapError fun m => .fault (.mismatch m)

/-- A body, with the parameters that it takes behind the value. -/
inductive Operation where
  | plain (body : Value → Except Failure Value)
  | unary (body : Value → Value → Except Failure Value)
  | binary (body : Value → Value → Value → Except Failure Value)
  | optional (body : Value → Option Value → Except Failure Value)
  | optional₂ (body : Value → Option Value → Option Value → Except Failure Value)

namespace Operation

/-- The range of parameter counts. -/
def arity : Operation → Arity
  | .plain _ => ⟨0, 0⟩
  | .unary _ => ⟨1, 1⟩
  | .binary _ => ⟨2, 2⟩
  | .optional _ => ⟨0, 1⟩
  | .optional₂ _ => ⟨0, 2⟩

/-- The result of an operation; `none` if the number of parameters is wrong. -/
def run : Operation → Value → List Value → Option (Except Failure Value)
  | .plain body, v, [] => some (body v)
  | .unary body, v, [p] => some (body v p)
  | .binary body, v, [p, q] => some (body v p q)
  | .optional body, v, [] => some (body v none)
  | .optional body, v, [p] => some (body v (some p))
  | .optional₂ body, v, [] => some (body v none none)
  | .optional₂ body, v, [p] => some (body v (some p) none)
  | .optional₂ body, v, [p, q] => some (body v (some p) (some q))
  | _, _, _ => none

/-- **An operation has a result for exactly the counts of parameters in its range**, whatever the
value and the parameters are. -/
theorem run_isSome (op : Operation) (v : Value) (params : List Value) :
    (op.run v params).isSome = op.arity.admits params.length := by
  rw [Bool.eq_iff_iff, Arity.admits_iff]
  cases op <;> rcases params with _ | ⟨p, _ | ⟨q, _ | ⟨r, rest⟩⟩⟩ <;>
    simp only [run, arity, Option.isSome, List.length_cons, List.length_nil, true_iff,
      Bool.false_eq_true, false_iff] <;> omega

end Operation

end TemplateEngine
