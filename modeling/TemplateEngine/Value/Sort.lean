/-
**Sorting with a comparison that may fail.**

The sort is stable and asks only whether one element is smaller than another.  It first takes
the longest initial run that ascends, or descends strictly and is turned around; then it inserts
the other elements one by one, each behind its equals, at a place found by halving.  Since a
comparison may fail, the order of the questions shows in the failure.

Main definitions:

* `Sorting.initialRun` — the run, and what follows it;
* `Sorting.insert` — insertion by halving;
* `Sorting.sort` — the sort.
-/

set_option autoImplicit false

namespace TemplateEngine.Sorting

variable {α ε : Type}

/-- Continue a run behind its last element, as long as `smaller next last` stays `down`. -/
def continueRun (smaller : α → α → Except ε Bool) (down : Bool) (last : α) :
    List α → Except ε (List α × List α)
  | [] => .ok ([], [])
  | x :: rest => do
      if (← smaller x last) = down then
        let (run, others) ← continueRun smaller down x rest
        return (x :: run, others)
      else return ([], x :: rest)

/-- The initial run in ascending order, and the elements behind it. -/
def initialRun (smaller : α → α → Except ε Bool) : List α → Except ε (List α × List α)
  | [] => .ok ([], [])
  | [x] => .ok ([x], [])
  | x :: y :: rest => do
      let down ← smaller y x
      let (run, others) ← continueRun smaller down y rest
      -- a run that descends strictly holds no equals, so turning it around keeps it stable
      let run := x :: y :: run
      return (if down then run.reverse else run, others)

/-- Insert `x` into a sorted list of at most `fuel` elements, behind its equals. -/
def insertFuel (smaller : α → α → Except ε Bool) (x : α) : Nat → List α → Except ε (List α)
  | 0, sorted => .ok (x :: sorted)
  | fuel + 1, sorted =>
      let left := sorted.take (sorted.length / 2)
      match sorted.drop (sorted.length / 2) with
      | [] => .ok [x]
      | middle :: right => do
          if ← smaller x middle then
            return (← insertFuel smaller x fuel left) ++ middle :: right
          else
            return left ++ middle :: (← insertFuel smaller x fuel right)

/-- Insert `x` into a sorted list, behind its equals. -/
def insert (smaller : α → α → Except ε Bool) (x : α) (sorted : List α) : Except ε (List α) :=
  insertFuel smaller x sorted.length sorted

/-- Insert elements one after another. -/
def insertAll (smaller : α → α → Except ε Bool) : List α → List α → Except ε (List α)
  | sorted, [] => .ok sorted
  | sorted, x :: rest => do insertAll smaller (← insert smaller x sorted) rest

/-- The elements in ascending order, equal ones in the order in which they stood. -/
def sort (smaller : α → α → Except ε Bool) (xs : List α) : Except ε (List α) := do
  let (run, others) ← initialRun smaller xs
  insertAll smaller run others

/-- Sort by a key. -/
def sortBy {κ : Type} (smaller : κ → κ → Except ε Bool) (xs : List (κ × α)) :
    Except ε (List (κ × α)) :=
  sort (fun a b => smaller a.1 b.1) xs

end TemplateEngine.Sorting
