/-
**The value of a YAML document.**

Sequences are lists and mappings are maps.  Two equal keys in a mapping are a mistake, unless
entries of other mappings are merged into it; a sequence as a key counts as a tuple, and a mapping
can be no key.  **Of several faults the one nearest to the root of the document counts**, and of
these the first.

Only small documents are read: a reference to a node that it is part of, and a declared type that
templates have no values of, are mistakes here.

Main definitions:

* `Node.merge` — mappings with the entries that are merged into them;
* `Node.value` — the value of a node;
* `Node.check` — the first fault, level by level;
* `readDocument` — the value of the only document of a text;
* `reader` — this as a reader of documents.
-/
import TemplateEngine.Config.Document
import TemplateEngine.Value.Equality
import TemplateEngine.Yaml.Layout
import TemplateEngine.Yaml.Node

set_option autoImplicit false

namespace TemplateEngine.Yaml

namespace Node

/-! ### Merging -/

/-- Whether an entry stands for entries of other mappings. -/
def isMerge (e : Node × Node) : Bool :=
  match e.1 with
  | .scalar .merge _ => true
  | _ => false

/-- The entries of a mapping. -/
def entries? : Node → Option (List (Node × Node))
  | .mapping _ entries => some entries
  | _ => none

/-- The entries to be merged: those of a mapping, or of the mappings in a sequence, of which
earlier ones go before later ones. -/
def sources : Node → Except Failure (List (Node × Node))
  | .mapping _ entries => .ok entries
  | .sequence items =>
      match items.mapM entries? with
      | some sources => .ok sources.reverse.flatten
      | none => .error .malformed
  | .scalar _ _ => .error .malformed

/-- A key that is not read as a default. -/
def plainKey : Node → Node
  | .scalar .default text => .scalar .text text
  | n => n

/-- The mapping of entries of which some may stand for entries of other mappings. -/
def ofEntries (entries : List (Node × Node)) : Except Failure Node := do
  let merged ← (entries.filter isMerge).mapM fun e => sources e.2
  let own := (entries.filter (!isMerge ·)).map fun e => (plainKey e.1, e.2)
  -- behind entries that are merged there may be no other ones to be merged
  if (merged.dropWhile List.isEmpty).length > 1 then throw .malformed
  let merged := merged.flatten
  return .mapping merged.isEmpty (merged ++ own)

mutual

/-- A node with the entries that are merged into its mappings. -/
def merge : Node → Except Failure Node
  | .scalar type text => .ok (.scalar type text)
  | .sequence items => do return .sequence (← mergeItems items)
  | .mapping _ entries => do ofEntries (← mergeEntries entries)

/-- Nodes with the entries that are merged into their mappings. -/
def mergeItems : List Node → Except Failure (List Node)
  | [] => .ok []
  | n :: rest => do return (← merge n) :: (← mergeItems rest)

/-- Entries with the entries that are merged into their mappings. -/
def mergeEntries : List (Node × Node) → Except Failure (List (Node × Node))
  | [] => .ok []
  | (k, v) :: rest => do return (← merge k, ← merge v) :: (← mergeEntries rest)

end

/-! ### Values -/

/-- The key that a value makes: a list counts as a tuple, and a map makes none. -/
def keyOf : Value → Except Failure Value
  | .list items => .ok (.tuple items)
  | .map _ => .error .malformed
  | v => .ok v

/-- Add an entry.  A key that holds what cannot be looked up is a fault, and so is an equal key
before it if keys are `checked`. -/
def addEntry (checked : Bool) (entries : List (Value × Value)) (key v : Value) :
    Except Failure (List (Value × Value)) :=
  match key.hashable with
  | .error m => .error (.fault (.mismatch m))
  | .ok () =>
      if checked && (Value.lookupEntry entries key).isSome then .error .malformed
      else .ok (Value.insertEntry key v entries)

mutual

/-- The value of a node. -/
def value : Node → Except Failure Value
  | .scalar type text => type.read text
  | .sequence items => do return .list (← values items)
  | .mapping checked entries => do return .map (← valueEntries checked [] entries)

/-- The values of nodes. -/
def values : List Node → Except Failure (List Value)
  | [] => .ok []
  | n :: rest => do return (← value n) :: (← values rest)

/-- The entries of a map, behind those that are there already. -/
def valueEntries (checked : Bool) :
    List (Value × Value) → List (Node × Node) → Except Failure (List (Value × Value))
  | done, [] => .ok done
  | done, (k, v) :: rest => do
      let key ← keyOf (← value k)
      let v ← value v
      valueEntries checked (← addEntry checked done key v) rest

end

/-! ### Faults level by level -/

/-- The value of a scalar; the parts of a collection are looked at later. -/
def shallow (n : Node) : Except Failure Value :=
  match n with
  | .scalar type text => type.read text
  | _ => .ok .nil

/-- Look at the entries of a mapping, the values only if they are scalars. -/
def checkEntries (checked : Bool) :
    List (Value × Value) → List (Node × Node) → Except Failure Unit
  | _, [] => .ok ()
  | done, (k, v) :: rest => do
      let key ← keyOf (← value k)
      let v ← shallow v
      checkEntries checked (← addEntry checked done key v) rest

/-- Look at a node and its scalar parts, and give the other parts. -/
def level : Node → Except Failure (List Node)
  | .scalar type text => do
      let _ ← type.read text
      return []
  | .sequence items => do
      items.forM fun n => do
        let _ ← shallow n
      return items.filter isCollection
  | .mapping checked entries => do
      checkEntries checked [] entries
      return (entries.map Prod.snd).filter isCollection

/-- Look at nodes and their parts, level by level; there are at most `fuel` levels. -/
def check : Nat → List Node → Except Failure Unit
  | 0, _ => .ok ()
  | fuel + 1, nodes =>
      if nodes.isEmpty then .ok ()
      else do
        let below ← nodes.mapM level
        check fuel below.flatten

end Node

/-! ### Texts -/

/-- One kind of line end. -/
def unifyLineEnds : List Char → List Char
  | '\r' :: '\n' :: rest => '\n' :: unifyLineEnds rest
  | '\r' :: rest => '\n' :: unifyLineEnds rest
  | c :: rest => c :: unifyLineEnds rest
  | [] => []

/-- Whether a character may stand in a document. -/
def isAllowed (c : Char) : Bool :=
  c == '\t' || c == '\n' || c == '\r' || c == '\x85' ||
    (0x20 ≤ c.toNat && c.toNat ≤ 0x7e) || (0xa0 ≤ c.toNat && c.toNat ≤ 0xfffd) ||
    0x10000 ≤ c.toNat

/-- The value of the only document of a text, nil if the text has no document. -/
def readDocument (text : List Char) : Except Failure Value := do
  if !text.all isAllowed then throw .malformed
  let tokens ← readTokens (unifyLineEnds text)
  match ← Node.ofTokens tokens with
  | none => return .nil
  | some node =>
      let node ← node.merge
      Node.check (text.length + 1) [node]
      node.value

/-- Why a text has no value, for those who ask for the value of a document. -/
def Failure.toDocument : Failure → Document.Failure
  | .malformed => .malformed none
  | .fault f => .other (.fault f)
  | .noTruthWord => .other .missingKey
  | .noNumber => .other .missingChild

/-- A reader of small documents. -/
def reader : Document.Reader := fun text => (readDocument text.toList).mapError Failure.toDocument

end TemplateEngine.Yaml
