/-
**The order of values.**

Numbers are ordered by size, texts by code points, dates and moments by time, and lists and
tuples by their first unequal items, a shorter one before its extensions.  Other values have no
order, and what is not a number stands in no relation to anything.

Main definitions:

* `Value.related` — whether two values stand in an order relation, or why they cannot be compared;
* `Value.less` — the relation that sorting uses.
-/
import TemplateEngine.Value.Equality

set_option autoImplicit false

namespace TemplateEngine

namespace Value

/-- The order of two texts: by the code points of the first difference. -/
def compareText : List Char → List Char → Ordering
  | [], [] => .eq
  | [], _ :: _ => .lt
  | _ :: _, [] => .gt
  | c :: cs, d :: ds => (compare c.toNat d.toNat).then (compareText cs ds)

/-- Whether two moments stand in a relation. -/
def relatedMoments (r : Relation) (m n : Moment) : Except Mismatch Bool :=
  match m.compare? n with
  | some o => .ok (r.holds o)
  | none => .error .offsetAgainstNone

/-- Whether two values that are no collections stand in a relation. -/
def relatedAtoms (r : Relation) (a b : Value) : Except Mismatch Bool :=
  match a.numeric?, b.numeric? with
  | some x, some y => .ok ((x.compare? y).any r.holds)
  | _, _ => .error (.unordered r a.kind b.kind)

mutual

/-- Whether two values stand in a relation. -/
def related (r : Relation) : Value → Value → Except Mismatch Bool
  | .str s, .str t => .ok (r.holds (compareText s.toList t.toList))
  | .list xs, .list ys => relatedItems r xs ys
  | .tuple xs, .tuple ys => relatedItems r xs ys
  | .date d, .date e => .ok (r.holds (d.compare e))
  | .moment m, .moment n => relatedMoments r m n
  | .date _, .moment _ => .error .momentAgainstDate
  | .moment _, .date _ => .error .momentAgainstDate
  | a, b => relatedAtoms r a b

/-- Whether two lists stand in a relation: **the first unequal pair decides**, and the lengths
if there is none. -/
def relatedItems (r : Relation) : List Value → List Value → Except Mismatch Bool
  | x :: xs, y :: ys => if same x y then relatedItems r xs ys else related r x y
  | xs, ys => .ok (r.holds (compare xs.length ys.length))

end

/-- Whether a value is smaller than another. -/
def less (a b : Value) : Except Mismatch Bool := related .lt a b

end Value

end TemplateEngine
