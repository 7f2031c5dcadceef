/-
**The kinds of values, and what can go wrong with values.**

Messages name a value by its kind.  Operations on values fail for one of the reasons listed in
`Fault`; where they fail, the failure belongs to the operation, and what is built from it
(filters, comparisons, tags) may report it in its own words.
-/

set_option autoImplicit false

namespace TemplateEngine

/-- The kinds of values. -/
inductive Kind where
  | nil | bool | int | float | str | list | tuple | map | range
  | date | moment | signal | interrupted
  deriving DecidableEq, Repr

/-- The name of a kind in messages. -/
def Kind.name : Kind → String
  | .nil => "NoneType"
  | .bool => "bool"
  | .int => "int"
  | .float => "float"
  | .str => "str"
  | .list => "list"
  | .tuple => "tuple"
  | .map => "dict"
  | .range => "range"
  | .date => "date"
  | .moment => "datetime"
  | .signal => "Signal"
  | .interrupted => "Interrupted"

/-- The name of a kind in messages about order, which name dates and moments with their family. -/
def Kind.fullName : Kind → String
  | .date => "datetime.date"
  | .moment => "datetime.datetime"
  | k => k.name

/-- The four order relations. -/
inductive Relation where
  | lt | le | gt | ge
  deriving DecidableEq, Repr

/-- How a relation is written. -/
def Relation.symbol : Relation → String
  | .lt => "<"
  | .le => "<="
  | .gt => ">"
  | .ge => ">="

/-- Whether the relation holds between two things that compare as `o`. -/
def Relation.holds : Relation → Ordering → Bool
  | .lt, o => o.isLT
  | .le, o => o.isLE
  | .gt, o => o.isGT
  | .ge, o => o.isGE

/-- Values of kinds that an operation does not take. -/
inductive Mismatch where
  /-- Two kinds without an order between them. -/
  | unordered (relation : Relation) (left right : Kind)
  /-- A moment and a plain date have no order. -/
  | momentAgainstDate
  /-- A moment with an offset and one without have no order. -/
  | offsetAgainstNone
  /-- A value that cannot be looked up in a map. -/
  | unhashable (kind : Kind)
  deriving DecidableEq, Repr

/-- The wording of a mismatch. -/
def Mismatch.message : Mismatch → String
  | .unordered r a b =>
      "'" ++ r.symbol ++ "' not supported between instances of '" ++ a.fullName ++ "' and '" ++
        b.fullName ++ "'"
  | .momentAgainstDate => "can't compare datetime.datetime to datetime.date"
  | .offsetAgainstNone => "can't compare offset-naive and offset-aware datetimes"
  | .unhashable k => "unhashable type: '" ++ k.name ++ "'"

/-- Why an operation on values fails. -/
inductive Fault where
  /-- The kinds do not fit the operation. -/
  | mismatch (m : Mismatch)
  /-- An integer of more decimal digits than are written. -/
  | tooManyDigits
  /-- An integer of more decimal digits than are read. -/
  | overlong (digits : Nat)
  /-- A numeral between separators that are no plain white space. -/
  | strayBlank (text : String)
  /-- What is not a number has no integer part. -/
  | notANumber
  /-- Infinity has no integer part. -/
  | infinite
  /-- An integer beyond the largest float. -/
  | beyondFloat
  /-- A numeral without digits. -/
  | noDigits
  /-- A date or a time of day that does not exist. -/
  | noSuchTime
  /-- A moment behind the end of the calendar. -/
  | beyondCalendar
  /-- A code point behind the last character. -/
  | noSuchCharacter
  /-- A code point of more than 31 bits. -/
  | beyondCodes
  /-- More numbers than are counted. -/
  | uncounted
  /-- More items than a list has room for. -/
  | noRoom
  /-- What has no items cannot be gone through. -/
  | noItems
  /-- What should be a key and a value has not two items. -/
  | notAPair
  deriving DecidableEq, Repr

end TemplateEngine
