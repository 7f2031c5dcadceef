/-
**Rendering onto a stream.**

A reference for what a template writes.  A writer appends text to one stream and tells only
whether it ended normally or with a signal.  Blocks, branches, inclusions and loops write in
place, piece by piece; a capture writes into a buffer of its own.  Every other node is rendered,
and the text of what it gives is appended.

Main definitions:

* `Writer`, `Press` — computations that append to a stream, and what they read;
* `Piece` — a child together with its writer;
* `Writer.standardTag` — what each standard tag writes;
* `Node.write`, `Engine.press`, `Writer.top` — **the reference**, for nodes and for engines.
-/
import TemplateEngine.Proofs.Run

set_option autoImplicit false

namespace TemplateEngine

/-- What a writer reads: what a render reads, and the writers of the templates. -/
structure Press where
  surroundings : Surroundings
  template : String → Except Error (String → State → Outcome (Option Signal × String))

/-- A computation that reads its press, appends to a stream, works on the state and may fail. -/
abbrev Writer (α : Type) := ReaderT Press (StateT String (ExceptT Error (StateM State))) α

/-- A child of a tag together with its writer, which tells the signal that ended it. -/
structure Piece where
  part : Part
  write : Writer (Option Signal)

namespace Writer

variable {α : Type}

/-- Run a writer on a stream that holds `out`. -/
def runOn (w : Writer α) (press : Press) (out : String) (s : State) : Outcome (α × String) :=
  w press out s

/-- The writer of a given outcome. -/
def ofFunction (f : Press → String → State → Outcome (α × String)) : Writer α := f

/-- Do what a render does, and write nothing. -/
def eval (r : Render α) : Writer α :=
  ofFunction fun press out s =>
    let (result, t) := r.runOn press.surroundings s
    (result.map (·, out), t)

/-- Append a text. -/
def put (text : String) : Writer Unit := ofFunction fun _ out s => (.ok ((), out ++ text), s)

/-- Write into a buffer of its own, and leave the stream alone. -/
def buffered (w : Writer α) : Writer (α × String) :=
  ofFunction fun press out s =>
    let (result, t) := w.runOn press "" s
    (result.map (·, out), t)

/-- Write in a scope of its own, which is closed **whatever the outcome**. -/
def inScope (scope : Scope) (body : Writer α) : Writer α :=
  ofFunction fun press out s =>
    let (result, t) := body.runOn press out { s with context := s.context.push scope }
    (result, { t with context := t.context.pop })

/-- Look up a template. -/
def findTemplate (name : String) : Writer (Writer (Option Signal)) :=
  ofFunction fun press out s =>
    ((press.template name).map fun run => (ofFunction fun _ out s => run out s, out), s)

/-- Append the text of what a render gives, and tell its signal. -/
def append (r : Render Value) : Writer (Option Signal) := do
  let v ← eval r
  let (text, signal?) ← eval (Render.split v)
  put text
  return signal?

/-! ### Tags -/

/-- Pieces in a row, up to the first signal. -/
def row : List Piece → Writer (Option Signal)
  | [] => return none
  | p :: rest => do
      match ← p.write with
      | some s => return some s
      | none => row rest

/-- The body of the first true condition. -/
def branch : List Piece → Writer (Option Signal)
  | condition :: body :: rest => do
      let v ← eval condition.part.run
      if v.isTruthy then body.write else branch rest
  | _ => return none

def ifTag (pieces : List Piece) : Writer (Option Signal) := do
  eval (Tags.checkPairs (pieces.map Piece.part))
  branch pieces

def unlessTag (pieces : List Piece) : Writer (Option Signal) := do
  eval (Tags.checkPairs (pieces.map Piece.part))
  match pieces with
  | condition :: body :: rest => do
      let v ← eval condition.part.run
      if v.isTruthy then branch rest else body.write
  | _ => return none

/-- The body of the first value that is equal to the subject, or the body left over. -/
def candidate (subject : Value) : List Piece → Writer (Option Signal)
  | [] => return none
  | [otherwise] => otherwise.write
  | value :: body :: rest => do
      let v ← eval value.part.run
      if v.same subject then body.write else candidate subject rest

def caseTag : List Piece → Writer (Option Signal)
  | [] => return none
  | subject :: rest => do
      let v ← eval subject.part.run
      candidate v rest

/-- The template in place, under its scope. -/
def includeTag : List Piece → Writer (Option Signal)
  | [] => throw .missingChild
  | [name] => do
      let template ← eval name.part.text
      let body ← findTemplate template
      inScope ∅ body
  | name :: value :: _ => do
      let template ← eval name.part.text
      let body ← findTemplate template
      let v ← eval value.part.run
      inScope (Table.ofList [(.name template, v)]) body

/-- The body goes into a buffer, which is bound at a normal end; behind a signal it goes to the
stream. -/
def captureTag : List Piece → Writer (Option Signal)
  | [] => throw .missingChild
  | [name] => do
      let _ ← eval name.part.text
      throw .missingChild
  | name :: body :: _ => do
      let target ← eval name.part.text
      let (signal?, text) ← buffered body.write
      match signal? with
      | some s =>
          put text
          return some s
      | none =>
          eval (Render.assign target (.str text))
          return none

/-- The turns of a `for` loop from turn `index` on, each in place. -/
def turns (name : String) (length : Nat) (body : Piece) : Nat → List Value → Writer Unit
  | _, [] => return ()
  | index, item :: rest => do
      eval (Render.bindLocal name item)
      eval (Render.bindLocal "forloop" (.map (Tags.turnFields name index length)))
      let signal? ← body.write
      if signal? = some .break then return () else turns name length body (index + 1) rest

/-- The pieces that are no attributes, in order. -/
def positional (pieces : List Piece) : List Piece := pieces.filter (!·.part.isAttribute)

def forTag (pieces : List Piece) : Writer (Option Signal) :=
  match positional pieces with
  | binder :: collection :: body :: _ => do
      let name ← eval binder.part.text
      let items ← eval (Tags.collectItems collection.part (Tags.attributes (pieces.map Piece.part)))
      inScope ∅ (turns name items.length body 0 items)
      return none
  | _ => throw .incompleteLoop

/-- The cells of a `tablerow` loop from turn `index` on; **a cell that is begun is closed**. -/
def cells (name : String) (length cols : Nat) (body : Piece) :
    Nat → Nat → Nat → List Value → Writer Unit
  | _, _, _, [] => return ()
  | index, row, col, item :: rest => do
      eval (Render.bindLocal name item)
      eval (Render.bindLocal "tablerowloop"
        (.map (Tags.turnFields name index length ++ Tags.cellFields cols col row)))
      put ("<td class=\"col" ++ Tags.numberText col ++ "\">")
      let signal? ← body.write
      put "</td>"
      if signal? = some .break then return ()
      else if col = cols ∧ index + 1 ≠ length then
        put ("</tr>\n<tr class=\"row" ++ Tags.numberText (row + 1) ++ "\">")
        cells name length cols body (index + 1) (row + 1) 1 rest
      else cells name length cols body (index + 1) row (col + 1) rest

def tablerowTag (pieces : List Piece) : Writer (Option Signal) :=
  match positional pieces with
  | binder :: collection :: body :: _ => do
      let attributes := Tags.attributes (pieces.map Piece.part)
      let name ← eval binder.part.text
      let items ← eval (Tags.collectItems collection.part attributes)
      let cols? ← eval (Tags.integerAttribute attributes "cols")
      put "<tr class=\"row1\">\n"
      inScope ∅ (cells name items.length (Tags.columnCount cols? items.length) body 0 1 1 items)
      put "</tr>\n"
      return none
  | _ => throw .incompleteLoop

/-- What a standard tag writes; those that only render append what they give. -/
def standardTag : StandardTag → List Piece → Writer (Option Signal)
  | .capture => captureTag
  | .case => caseTag
  | .for => forTag
  | .if => ifTag
  | .include => includeTag
  | .raw => row
  | .tablerow => tablerowTag
  | .unless => unlessTag
  | .assign => fun pieces => append (StandardTag.assign.run (pieces.map Piece.part))
  | .comment => fun pieces => append (StandardTag.comment.run (pieces.map Piece.part))
  | .cycle => fun pieces => append (StandardTag.cycle.run (pieces.map Piece.part))

/-- What a tag writes; what a custom tag gives is appended. -/
def tag (t : Tag) (pieces : List Piece) : Writer (Option Signal) :=
  match t.body with
  | .standard kind => standardTag kind pieces
  | .custom _ run => append (run (pieces.map Piece.part))

/-- Pieces at the top of a template; their signals are dropped or are errors, as `policy` says. -/
def top (policy : StrayPolicy) : List Piece → Writer Unit
  | [] => return ()
  | p :: rest => do
      let signal? ← p.write
      match signal?, policy with
      | some s, .error => throw (.straySignal s)
      | _, _ => top policy rest

end Writer

/-! ### Nodes and engines -/

namespace Node

mutual

/-- What a node writes. -/
def write : Node → Writer (Option Signal)
  | .block children => Writer.row (pieces children)
  | .tag t children => Writer.tag t (pieces children)
  | n => Writer.append n.render

/-- Several nodes as pieces of the tag around them. -/
def pieces : List Node → List Piece
  | [] => []
  | n :: rest => ⟨n.part, write n⟩ :: pieces rest

end

/-- The parts of the pieces are the parts of the nodes. -/
theorem part_pieces (ns : List Node) : (pieces ns).map Piece.part = parts ns := by
  induction ns with
  | nil => rfl
  | cons n rest ih => rw [pieces, List.map_cons, ih, parts]

end Node

/-- What writers of an engine read, with `depth` inclusions inside each other at most. -/
def Engine.press (e : Engine) (now : Moment) : Nat → Press
  | 0 =>
      { surroundings := e.surroundings now 0
        template := fun name => do
          let _ ← e.findTemplate name
          return fun _ s => (.error .tooDeep, s) }
  | depth + 1 =>
      { surroundings := e.surroundings now (depth + 1)
        template := fun name => do
          let n ← e.findTemplate name
          return n.write.runOn (press e now depth) }

/-- What nodes at the top of a template write onto an empty stream. -/
def Engine.writeNodes (e : Engine) (now : Moment) (policy : StrayPolicy) (nodes : List Node)
    (s : State) : Outcome (Unit × String) :=
  (Writer.top policy (Node.pieces nodes)).runOn (e.press now maxDepth) "" s

end TemplateEngine
