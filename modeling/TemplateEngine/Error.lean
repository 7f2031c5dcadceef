/-
**What a render or a registration can fail with.**

An error names its cause; `Error.message` is its wording.  Errors that templates and their
authors are meant to read have a wording, the others are told apart by their cause alone.
-/
import TemplateEngine.Config

set_option autoImplicit false

namespace TemplateEngine

/-- The causes of failure. -/
inductive Error where
  | unknownFilter (name : String)
  | unknownTag (name : String)
  /-- A filter was given `actual` parameters where the nearest number it takes is `expected`. -/
  | wrongArity (filter? : Option String) (expected actual : Int)
  | noParameter (filter : String) (index : Int) (params : List Value)
  | filterFailed (filter reason : String)
  | unknownTemplate (name : String) (available : List String)
  | undefinedVariable (name : String)
  /-- Two operands have no order, or the one cannot be looked up in the other. -/
  | incomparable (symbol : String) (left right : Value)
  | straySignal (s : Signal)
  | config (p : ConfigProblem)
  | invalidName (given : Value)
  | duplicateName (name : String)
  | unknownComparison (symbol : String)
  | unknownConnective (symbol : String)
  /-- A conditional tag has a condition without a body. -/
  | unpairedBranches
  /-- An operation on values failed. -/
  | fault (f : Fault)
  /-- The name to be removed or read is not there. -/
  | missingKey
  /-- A tag lacks a child that it needs. -/
  | missingChild
  /-- A loop lacks its variable, collection or body. -/
  | incompleteLoop
  /-- A pipe stage was rendered, or something else stands where a pipe stage belongs. -/
  | misplacedStage
  /-- A pipe stage stands by itself where a template belongs. -/
  | loneStage
  /-- A placeholder was rendered. -/
  | placeholder
  /-- Templates include each other more deeply than the engine follows. -/
  | tooDeep

/-- Words in a row with commas. -/
def commaSeparated (words : List String) : String :=
  String.ofList (Text.joinWith ", ".toList (words.map String.toList))

/-- The wording of an error, for the errors that have one. -/
def Error.message? : Error → Option String
  | .unknownFilter name => some ("unknown filter: " ++ name)
  | .unknownTag name => some ("unknown tag: " ++ name)
  | .wrongArity _ expected actual =>
      some ("Liquid error: wrong number of arguments (" ++
        String.ofList (integerText (actual + 1)) ++ " for " ++
        String.ofList (integerText (expected + 1)) ++ ")")
  | .noParameter filter index params =>
      some ("error in filter '" ++ filter ++ "': cannot get param index: " ++
        String.ofList (integerText index) ++ " from: " ++
        String.ofList (Value.list params).written)
  | .filterFailed filter reason =>
      some ("Liquid error in filter '" ++ filter ++ "': " ++ reason)
  | .unknownTemplate name available =>
      some ("unknown template '" ++ name ++ "'" ++
        if available.isEmpty then "" else ". Available: " ++ commaSeparated available)
  | .undefinedVariable name => some ("undefined variable '" ++ name ++ "'")
  | .incomparable symbol left right =>
      some ("Liquid error: comparison of " ++ left.kind.name ++ " with " ++ right.kind.name ++
        " failed (" ++ symbol ++ ")")
  | .straySignal s => some ("'" ++ s.keyword ++ "' used outside of a loop")
  | .config p => some p.message
  | .invalidName given =>
      some ("Name must be a non-empty string, got " ++ String.ofList given.written)
  | .duplicateName name => some ("Duplicate name '" ++ name ++ "' in default set")
  | .unknownComparison symbol => some ("Unknown comparison operator '" ++ symbol ++ "'")
  | .unknownConnective symbol => some ("Unknown logical operator '" ++ symbol ++ "'")
  | .unpairedBranches => some "Conditional tag expects (condition, body) node pairs"
  | .fault _ | .missingKey | .missingChild | .incompleteLoop | .misplacedStage | .loneStage
  | .placeholder | .tooDeep => none

/-- The error of a refused configuration. -/
def Config.Refusal.toError : Config.Refusal → Error
  | .problem p => .config p
  | .fault f => .fault f

end TemplateEngine
