/-
**YAML nodes.**

The tokens of a document make one node: a scalar, a sequence or a mapping.  References are
replaced by the nodes of their anchors; a node cannot refer to itself.

Main definitions:

* `Node` — the nodes;
* `Node.parse` — the node at the start of tokens;
* `Node.ofTokens` — the node of a document.
-/
import TemplateEngine.Yaml.Schema
import TemplateEngine.Yaml.Token

set_option autoImplicit false

namespace TemplateEngine.Yaml

/-- The nodes of a document.  The keys of a mapping are `checked` if they must be distinct. -/
inductive Node where
  | scalar (type : ScalarType) (text : List Char)
  | sequence (items : List Node)
  | mapping (checked : Bool) (entries : List (Node × Node))

instance : Inhabited Node := ⟨.scalar .null []⟩

namespace Node

/-- The node where none is written. -/
def absent : Node := .scalar .null []

/-- Whether a node has parts. -/
def isCollection : Node → Bool
  | .scalar _ _ => false
  | _ => true

/-! ### Declarations -/

/-- The type of scalars that a declaration means. -/
def typeOf? : String → Option ScalarType
  | "null" => some .null
  | "bool" => some .bool
  | "int" => some .int
  | "float" => some .float
  | "timestamp" => some .timestamp
  | "str" => some .text
  | _ => none

/-- A scalar that may be declared to be something. -/
def ofScalar (d? : Option Declaration) (isPlain : Bool) (text : List Char) :
    Except Failure Node :=
  match d? with
  | none => .ok (.scalar (if isPlain then .ofPlain text else .text) text)
  | some .plain => .ok (.scalar (.ofPlain text) text)
  | some (.standard name) =>
      match typeOf? name with
      | some type => .ok (.scalar type text)
      | none => .error .malformed
  | some .other => .error .malformed

/-- Fail unless a collection may be declared like this. -/
def checkDeclaration (d? : Option Declaration) (name : String) : Except Failure Unit :=
  if d?.all fun d => d == .plain || d == .standard name then .ok () else .error .malformed

/-! ### Anchors -/

/-- The nodes of anchors; a node that is not read to its end is there without its parts. -/
abbrev Anchors := List (List Char × Option Node)

/-- Mark the node of an anchor as not read to its end. -/
def openAnchor (name? : Option (List Char)) (anchors : Anchors) : Anchors :=
  match name? with
  | some name => (name, none) :: anchors
  | none => anchors

/-- Keep the node of an anchor, unless a part of it took the name. -/
def closeAnchor (name? : Option (List Char)) (node : Node) (anchors : Anchors) : Anchors :=
  match name? with
  | some name =>
      match anchors.lookup name with
      | some none => (name, some node) :: anchors
      | _ => anchors
  | none => anchors

/-! ### Parsing -/

/-- What is left behind a node: tokens, and the anchors so far. -/
structure Rest where
  tokens : List Token
  anchors : Anchors

/-- What is left without its first token. -/
def Rest.drop (r : Rest) : Rest := { r with tokens := r.tokens.drop 1 }

/-- Whether the next token is one of a list. -/
def Rest.at (r : Rest) (ts : List Token) : Bool := r.tokens.head?.any ts.contains

/-- The anchor and the declaration in front of a node, in either order. -/
def properties (r : Rest) : Option (List Char) × Option Declaration × Rest :=
  match r.tokens with
  | .anchor name :: .declaration d :: rest => (some name, some d, { r with tokens := rest })
  | .declaration d :: .anchor name :: rest => (some name, some d, { r with tokens := rest })
  | .anchor name :: rest => (some name, none, { r with tokens := rest })
  | .declaration d :: rest => (none, some d, { r with tokens := rest })
  | _ => (none, none, r)

mutual

/-- The node at the start of tokens.  Inside brackets it may be no block (`block`), and only as the
part of an entry may its sequence stand in the column of the entry (`inEntry`). -/
def parse : Nat → Bool → Bool → Rest → Except Failure (Node × Rest)
  | 0, _, _, _ => .error .malformed
  | fuel + 1, block, inEntry, r =>
      match r.tokens with
      | .reference name :: _ =>
          match r.anchors.lookup name with
          | some (some node) => .ok (node, r.drop)
          | _ => .error .malformed
      | _ => do
          let (name?, d?, r) := properties r
          let r := { r with anchors := openAnchor name? r.anchors }
          let (node, r) ← parseContent fuel block inEntry d? (name?.isSome || d?.isSome) r
          return (node, { r with anchors := closeAnchor name? node r.anchors })

/-- The content of a node; one that is `announced` by an anchor or a declaration may be absent. -/
def parseContent : Nat → Bool → Bool → Option Declaration → Bool → Rest →
    Except Failure (Node × Rest)
  | 0, _, _, _, _, _ => .error .malformed
  | fuel + 1, block, inEntry, d?, announced, r =>
      match r.tokens, block with
      | .scalar isPlain text :: _, _ => do return (← ofScalar d? isPlain text, r.drop)
      | .flowSequenceStart :: _, _ => do
          checkDeclaration d? "seq"
          let (items, r) ← parseFlowItems fuel true r.drop
          return (.sequence items, r)
      | .flowMappingStart :: _, _ => do
          checkDeclaration d? "map"
          let (entries, r) ← parseFlowEntries fuel true r.drop
          return (.mapping true entries, r)
      | .blockSequenceStart :: _, true => do
          checkDeclaration d? "seq"
          let (items, r) ← parseItems fuel true r.drop
          return (.sequence items, r)
      | .blockMappingStart :: _, true => do
          checkDeclaration d? "map"
          let (entries, r) ← parseEntries fuel r.drop
          return (.mapping true entries, r)
      | .entry :: _, _ =>
          if inEntry then do
            checkDeclaration d? "seq"
            let (items, r) ← parseItems fuel false r
            return (.sequence items, r)
          else if announced then do return (← ofScalar d? (d? = none) [], r)
          else .error .malformed
      | _, _ =>
          if announced then do return (← ofScalar d? (d? = none) [], r) else .error .malformed

/-- A node, unless one of given tokens shows that it is absent. -/
def parseUnless : Nat → Bool → Bool → List Token → Rest → Except Failure (Node × Rest)
  | 0, _, _, _, _ => .error .malformed
  | fuel + 1, block, inEntry, ends, r =>
      if r.at ends then .ok (absent, r) else parse fuel block inEntry r

/-- The entries of a block sequence.  One that is `indented` ends where its block is closed,
another one where no entry follows. -/
def parseItems : Nat → Bool → Rest → Except Failure (List Node × Rest)
  | 0, _, _ => .error .malformed
  | fuel + 1, indented, r =>
      if r.at [.entry] then do
        let ends : List Token :=
          if indented then [.entry, .blockEnd] else [.entry, .key, .value, .blockEnd]
        let (item, r) ← parseUnless fuel true false ends r.drop
        let (items, r) ← parseItems fuel indented r
        return (item :: items, r)
      else if !indented then .ok ([], r)
      else if r.at [.blockEnd] then .ok ([], r.drop)
      else .error .malformed

/-- The entries of a block mapping; the key or the value of one may be absent. -/
def parseEntries : Nat → Rest → Except Failure (List (Node × Node) × Rest)
  | 0, _ => .error .malformed
  | fuel + 1, r =>
      if r.at [.blockEnd] then .ok ([], r.drop)
      else if r.at [.key, .value] then do
        let ends : List Token := [.key, .value, .blockEnd]
        let (key, r) ← if r.at [.key] then parseUnless fuel true true ends r.drop
          else .ok (absent, r)
        let (value, r) ← if r.at [.value] then parseUnless fuel true true ends r.drop
          else .ok (absent, r)
        let (entries, r) ← parseEntries fuel r
        return ((key, value) :: entries, r)
      else .error .malformed

/-- The items of a bracketed sequence; one with a mark of a key or a value is a mapping of one
entry. -/
def parseFlowItems : Nat → Bool → Rest → Except Failure (List Node × Rest)
  | 0, _, _ => .error .malformed
  | fuel + 1, first, r =>
      if r.at [.flowSequenceEnd] then .ok ([], r.drop)
      else if !first && !r.at [.separator] then .error .malformed
      else
        let r := if first then r else r.drop
        if r.at [.flowSequenceEnd] then .ok ([], r.drop)
        else do
          let ends : List Token := [.separator, .flowSequenceEnd]
          let (item, r) ← if r.at [.key] then do
              let (key, r) ← parseUnless fuel false false (.value :: ends) r.drop
              let (value, r) ← if r.at [.value] then parseUnless fuel false false ends r.drop
                else .ok (absent, r)
              pure (Node.mapping true [(key, value)], r)
            else parse fuel false false r
          let (items, r) ← parseFlowItems fuel false r
          return (item :: items, r)

/-- The entries of a bracketed mapping. -/
def parseFlowEntries : Nat → Bool → Rest → Except Failure (List (Node × Node) × Rest)
  | 0, _, _ => .error .malformed
  | fuel + 1, first, r =>
      if r.at [.flowMappingEnd] then .ok ([], r.drop)
      else if !first && !r.at [.separator] then .error .malformed
      else
        let r := if first then r else r.drop
        if r.at [.flowMappingEnd] then .ok ([], r.drop)
        else do
          let ends : List Token := [.separator, .flowMappingEnd]
          let marked := r.at [.key, .value]
          let (key, r) ← if r.at [.key] then parseUnless fuel false false (.value :: ends) r.drop
            else if marked then .ok (absent, r) else parse fuel false false r
          let (value, r) ← if marked && r.at [.value] then
              parseUnless fuel false false ends r.drop
            else .ok (absent, r)
          let (entries, r) ← parseFlowEntries fuel false r
          return ((key, value) :: entries, r)

end

/-! ### Documents -/

/-- Fail unless the text ends here, behind the end marker if there is one. -/
def checkEnd (tokens : List Token) : Except Failure Unit :=
  match tokens with
  | [.streamEnd] => .ok ()
  | [.documentEnd, .streamEnd] => .ok ()
  | _ => .error .malformed

/-- The node of the only document of a text; none if the text has no document. -/
def ofTokens (tokens : List Token) : Except Failure (Option Node) :=
  let fuel := 3 * tokens.length + 3
  let start := tokens.dropWhile (· == .directive)
  let node (tokens : List Token) : Except Failure (Option Node) := do
    let (node, r) ← parse fuel true false ⟨tokens, []⟩
    checkEnd r.tokens
    return some node
  match start with
  | .documentStart :: rest =>
      match rest with
      | .streamEnd :: _ => .ok (some absent)
      | .documentEnd :: _ => do
          checkEnd rest
          return some absent
      | .documentStart :: _ => .error .malformed
      | _ => node rest
  | [.streamEnd] => if tokens.length = 1 then .ok none else .error .malformed
  | _ => if start.length = tokens.length then node tokens else .error .malformed

end Node

end TemplateEngine.Yaml
