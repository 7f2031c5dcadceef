/-
**The two switches of an engine.**

An engine either drops a signal that reached the top of a template or fails, and it either reads
an undefined variable as nil or fails.  A configuration is read from a map; keys that it does not
have are refused first, then the values are checked.

Main definitions:

* `Config.ofValue` — the configuration of a map, or the problem with it;
* `Config.toEntries` — the configuration as entries of a map.
-/
import TemplateEngine.Value.Order
import TemplateEngine.Value.Sort
import TemplateEngine.Value.Text

set_option autoImplicit false

namespace TemplateEngine

/-- What becomes of a signal outside of every loop. -/
inductive StrayPolicy where
  | ignore
  | error
  deriving DecidableEq, Repr

/-- The word for a policy. -/
def StrayPolicy.keyword : StrayPolicy → String
  | .ignore => "ignore"
  | .error => "error"

/-- The switches of an engine. -/
structure Config where
  straySignal : StrayPolicy := .ignore
  strictVariables : Bool := false
  deriving DecidableEq, Repr, Inhabited

/-- What is wrong with a configuration. -/
inductive ConfigProblem where
  | notAMapping (kind : Kind)
  | unexpectedKeys (keys : List Value)
  | unknownPolicy (given : Value)
  | notABoolean (kind : Kind)
  /-- A document at `path` is not well formed, for a reason that may be given. -/
  | invalidDocument (path : String) (reason? : Option String)
  | documentNotAMapping (path : String)

namespace Config

/-- The key of the policy for stray signals. -/
def straySignalKey : String := "stray_signal"

/-- The key of the switch for undefined variables. -/
def strictVariablesKey : String := "strict_variables"

end Config

/-- The wording of a problem; one with the value of a key names the key first. -/
def ConfigProblem.message : ConfigProblem → String
  | .notAMapping k => "expected mapping, got " ++ k.name
  | .unexpectedKeys keys => "unexpected keys: " ++ String.ofList (Value.list keys).written
  | .unknownPolicy v =>
      Config.straySignalKey ++ ": expected one of ignore, error, got " ++ String.ofList v.written
  | .notABoolean k => Config.strictVariablesKey ++ ": expected boolean, got " ++ k.name
  | .invalidDocument path none => "invalid YAML in " ++ path
  | .invalidDocument path (some reason) => "invalid YAML in " ++ path ++ ": " ++ reason
  | .documentNotAMapping path => "YAML must be a mapping: " ++ path

/-- Whether the wording of a problem can be written: it may show an integer that is too long. -/
def ConfigProblem.writable : ConfigProblem → Bool
  | .unexpectedKeys keys => Value.writableItems keys
  | .unknownPolicy v => v.writable
  | _ => true

namespace Config

/-- Why a configuration is refused: a problem with it, or what keeps the problem from being told,
unexpected keys that have no order or a value that has no text. -/
inductive Refusal where
  | problem (p : ConfigProblem)
  | fault (f : Fault)

/-- Refuse a configuration for a problem. -/
def refuse (p : ConfigProblem) : Refusal := if p.writable then .problem p else .fault .tooManyDigits

/-- Whether a key belongs to a configuration. -/
def isKey (key : Value) : Bool :=
  key.same (.str straySignalKey) || key.same (.str strictVariablesKey)

/-- The policy that a value names. -/
def readPolicy : Option Value → Except Refusal StrayPolicy
  | none => .ok .ignore
  | some (.str "ignore") => .ok .ignore
  | some (.str "error") => .ok .error
  | some v => .error (refuse (.unknownPolicy v))

/-- The switch that a value sets. -/
def readSwitch : Option Value → Except Refusal Bool
  | none => .ok false
  | some (.bool b) => .ok b
  | some v => .error (refuse (.notABoolean v.kind))

/-- The configuration of the entries of a map. -/
def ofEntries (entries : List (Value × Value)) : Except Refusal Config := do
  let extras := (entries.map (·.1)).filter (!isKey ·)
  if !extras.isEmpty then
    match Sorting.sort Value.less extras with
    | .ok keys => throw (refuse (.unexpectedKeys keys))
    | .error m => throw (.fault (.mismatch m))
  let policy ← readPolicy (Value.lookupEntry entries (.str straySignalKey))
  let strict ← readSwitch (Value.lookupEntry entries (.str strictVariablesKey))
  return ⟨policy, strict⟩

/-- The configuration of a map. -/
def ofValue : Value → Except Refusal Config
  | .map entries => ofEntries entries
  | v => .error (refuse (.notAMapping v.kind))

/-- The configuration as entries, the policy first. -/
def toEntries (c : Config) : List (Value × Value) :=
  [(.str straySignalKey, .str c.straySignal.keyword),
    (.str strictVariablesKey, .bool c.strictVariables)]

end Config

end TemplateEngine
