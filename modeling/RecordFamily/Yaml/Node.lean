import RecordFamily.Yaml.Token

/-!
# Nodes of a YAML document

The tokens of a text are read as one document. Its nodes are numbered, and a collection holds the
numbers of its parts: an alias gives the number of its anchor's node, which may be a collection around
the alias.

* `Content`, `Node`, `Document`: the nodes, with their tags, and the whole of them;
* `Feed`, `Parse`: the tokens that are left, with the nodes, the anchors and the tag handles so far;
* `Parse.node`: a node at the front of the tokens;
* **`Document.ofTokens`**: the one document of a text, if it has any.
-/

namespace RecordFamily

namespace Yaml

/-- What a node holds, where the parts of a collection are given by their numbers. -/
inductive Content where
  | scalar (text : String)
  | sequence (items : List Nat)
  | mapping (entries : List (Nat × Nat))
  deriving DecidableEq, Repr, Inhabited

/-- A node of a document. -/
structure Node where
  tag : Tag
  content : Content
  deriving DecidableEq, Repr

/-- The node of an empty place. -/
def Node.empty : Node := ⟨.null, .scalar ""⟩

instance : Inhabited Node := ⟨.empty⟩

/-- A document: its nodes, and the number of the outermost one. -/
structure Document where
  nodes : Array Node
  root : Nat
  deriving DecidableEq, Repr

/-- The number of collections inside each other at which reading gives up. -/
def nestingBound : Nat := 488

/-- The tokens that are left. -/
structure Feed where
  tokens : List Token
  /-- The fault at which the tokens end, if they do. -/
  fault : Option Fault
  /-- The nodes so far. -/
  nodes : Array Node := #[]
  /-- The number of collections open. -/
  depth : Nat := 0
  /-- The nodes of the anchors. -/
  anchors : List (String × Nat) := []
  /-- The meanings of the tag handles. -/
  handles : List (String × String) := []

/-- A reader of tokens. -/
abbrev Parse := StateT Feed (Except Fault)

namespace Parse

/-- The token at the front. -/
def peek : Parse Token := do
  let feed ← get
  match feed.tokens with
  | t :: _ => return t
  | [] => throw (feed.fault.getD .invalidYaml)

/-- Drops the token at the front. -/
def advance : Parse Unit := modify fun feed => { feed with tokens := feed.tokens.drop 1 }

/-- The text has another shape. -/
def refuse {α : Type} : Parse α := throw .invalidYaml

/-- Drops the token at the front, which has to be `t`. -/
def expect (t : Token) : Parse Unit := do
  if (← peek) == t then advance else refuse

/-- The node of an alias. -/
def aliased (name : String) : Parse Nat := do
  match (← get).anchors.lookup name with
  | some number => return number
  | none => refuse

/-- Adds a node, which is that of the anchor. -/
def add (anchor : Option String) (n : Node) : Parse Nat := do
  let number := (← get).nodes.size
  modify fun feed =>
    let anchors := match anchor with
      | some name => (name, number) :: feed.anchors
      | none => feed.anchors
    { feed with nodes := feed.nodes.push n, anchors := anchors }
  return number

/-- Adds the node of an empty place. -/
def addEmpty : Parse Nat := add none .empty

/-- Sets what a node holds. -/
def setContent (number : Nat) (content : Content) : Parse Unit :=
  modify fun feed => { feed with nodes := feed.nodes.modify number fun n => { n with content := content } }

/-- Goes into a collection. -/
def enter : Parse Unit := do
  if nestingBound ≤ (← get).depth + 1 then throw .tooDeep
  else modify fun feed => { feed with depth := feed.depth + 1 }

/-- Goes out of a collection. -/
def leave : Parse Unit := modify fun feed => { feed with depth := feed.depth - 1 }

/-- A collection whose node is there before its parts are read, so that they may refer to it. -/
def collection (anchor : Option String) (n : Node) (parts : Parse Content) : Parse Nat := do
  let number ← add anchor n
  enter
  setContent number (← parts)
  leave
  return number

/-- An anchor may be used once. -/
def checkAnchor (anchor : Option String) : Parse Unit := do
  match anchor with
  | none => return ()
  | some name => if ((← get).anchors.lookup name).isSome then refuse else return ()

/-- The full name of a tag. -/
def tagName (t : TagText) : Parse String := do
  match t.handle with
  | none => return t.suffix
  | some handle =>
    match (← get).handles.lookup handle with
    | some meaning => return meaning ++ t.suffix
    | none => refuse

/-- The anchor at the front, if there is one. -/
def anchor? : Parse (Option String) := do
  match ← peek with
  | .anchor name => do
    advance
    return some name
  | _ => return none

/-- The tag at the front, if there is one. -/
def tag? : Parse (Option TagText) := do
  match ← peek with
  | .tag text => do
    advance
    return some text
  | _ => return none

/-- The anchor and the tag in front of a node, in either order. -/
def properties : Parse (Option String × Option String) := do
  let anchor ← anchor?
  let tag ← tag?
  let anchor ← if anchor.isNone && tag.isSome then anchor? else pure anchor
  match tag with
  | none => return (anchor, none)
  | some text => return (anchor, some (← tagName text))

/-- The tag is told by the node. -/
def isUnstated (tag : Option String) : Bool := tag.isNone || tag == some "!"

/-- The tag of a scalar, given the one in front of it. -/
def scalarTag (tag : Option String) (text : String) (isPlain : Bool) : Tag :=
  match tag with
  | none => if isPlain then .ofPlain text else .str
  | some name => if name == "!" then .ofPlain text else .ofName name

/-- The tag of a collection, given the one in front of it. -/
def collectionTag (tag : Option String) (plain : Tag) : Tag :=
  match tag with
  | none => plain
  | some name => if name == "!" then plain else .ofName name

/-- The tokens after which an entry of a block mapping has no content. -/
def endsEntry (t : Token) : Bool := t == .key || t == .value || t == .blockEnd

/-- The node without content, which has to have an anchor or a tag. -/
def emptyNode (anchor tag : Option String) : Parse Nat :=
  if anchor.isNone && tag.isNone then refuse else add anchor ⟨scalarTag tag "" true, .scalar ""⟩

mutual

/-- The node at the front. `isBlock` tells that block collections may stand here, and `isIndentless`
that the items of a list may stand in the column of their key. -/
def node (isBlock isIndentless : Bool) : (bound : Nat) → Parse Nat
  | 0 => refuse
  | bound + 1 => do
    match ← peek with
    | .alias name => do
      advance
      aliased name
    | _ => do
      let (anchor, tag) ← properties
      checkAnchor anchor
      let sequence : Node := ⟨collectionTag tag .seq, .sequence []⟩
      let mapping : Node := ⟨collectionTag tag .map, .mapping []⟩
      match ← peek with
      | .blockEntry =>
        if isIndentless then
          collection anchor sequence (.sequence <$> indentlessItems bound)
        else emptyNode anchor tag
      | .scalar text isPlain => do
        advance
        add anchor ⟨scalarTag tag text isPlain, .scalar text⟩
      | .flowSequenceStart => do
        advance
        collection anchor sequence (.sequence <$> flowItems true bound)
      | .flowMappingStart => do
        advance
        collection anchor mapping (.mapping <$> flowEntries true bound)
      | .blockSequenceStart =>
        if isBlock then do
          advance
          collection anchor sequence (.sequence <$> blockItems bound)
        else emptyNode anchor tag
      | .blockMappingStart =>
        if isBlock then do
          advance
          collection anchor mapping (.mapping <$> blockEntries bound)
        else emptyNode anchor tag
      | _ => emptyNode anchor tag

/-- The items of a block list up to its end. -/
def blockItems : (bound : Nat) → Parse (List Nat)
  | 0 => refuse
  | bound + 1 => do
    match ← peek with
    | .blockEntry => do
      advance
      let t ← peek
      let item ← if t == .blockEntry || t == .blockEnd then addEmpty else node true false bound
      return item :: (← blockItems bound)
    | .blockEnd => do
      advance
      return []
    | _ => refuse

/-- The items of a block list in the column of its key. -/
def indentlessItems : (bound : Nat) → Parse (List Nat)
  | 0 => refuse
  | bound + 1 => do
    if (← peek) == .blockEntry then do
      advance
      let t ← peek
      let item ← if t == .blockEntry || endsEntry t then addEmpty else node true false bound
      return item :: (← indentlessItems bound)
    else return []

/-- The entries of a block mapping up to its end. -/
def blockEntries : (bound : Nat) → Parse (List (Nat × Nat))
  | 0 => refuse
  | bound + 1 => do
    match ← peek with
    | .key => do
      advance
      let key ← blockPart bound
      let value ← if (← peek) == .value then do
          advance
          blockPart bound
        else addEmpty
      return (key, value) :: (← blockEntries bound)
    | .blockEnd => do
      advance
      return []
    | _ => refuse

/-- A key or a value of a block mapping. -/
def blockPart : (bound : Nat) → Parse Nat
  | 0 => refuse
  | bound + 1 => do
    if endsEntry (← peek) then addEmpty else node true true bound

/-- The items of a list between brackets up to its end; `isFirst` tells that none was read yet. -/
def flowItems (isFirst : Bool) : (bound : Nat) → Parse (List Nat)
  | 0 => refuse
  | bound + 1 => do
    if (← peek) == .flowSequenceEnd then do
      advance
      return []
    else do
      if !isFirst then expect .flowEntry
      match ← peek with
      | .flowSequenceEnd => do
        advance
        return []
      | .key => do
        let item ← collection none ⟨.map, .mapping []⟩ do
          return .mapping [← flowPair .flowSequenceEnd bound]
        return item :: (← flowItems false bound)
      | _ => do
        let item ← node false false bound
        return item :: (← flowItems false bound)

/-- A key with its sign, and its value, in a collection that `close` closes. -/
def flowPair (close : Token) : (bound : Nat) → Parse (Nat × Nat)
  | 0 => refuse
  | bound + 1 => do
    advance
    let t ← peek
    let key ← if t == .value || t == .flowEntry || t == close then addEmpty
      else node false false bound
    if (← peek) == .value then do
      advance
      let t ← peek
      let value ← if t == .flowEntry || t == close then addEmpty else node false false bound
      return (key, value)
    else return (key, ← addEmpty)

/-- The entries of a mapping between brackets up to its end. -/
def flowEntries (isFirst : Bool) : (bound : Nat) → Parse (List (Nat × Nat))
  | 0 => refuse
  | bound + 1 => do
    if (← peek) == .flowMappingEnd then do
      advance
      return []
    else do
      if !isFirst then expect .flowEntry
      match ← peek with
      | .flowMappingEnd => do
        advance
        return []
      | .key => do
        let entry ← flowPair .flowMappingEnd bound
        return entry :: (← flowEntries false bound)
      | _ => do
        let key ← node false false bound
        let value ← addEmpty
        return (key, value) :: (← flowEntries false bound)

end

/-! ## Documents -/

/-- The tag handles that are known without a directive. -/
def standardHandles : List (String × String) := [("!", "!"), ("!!", standardScope)]

/-- The directives in front of a document: whether a version was given, and the handles. -/
def directives (hasVersion : Bool) (handles : List (String × String)) :
    (bound : Nat) → Parse (List (String × String))
  | 0 => refuse
  | bound + 1 => do
    match ← peek with
    | .directive (.version major _) => do
      advance
      if hasVersion || major != 1 then refuse else directives true handles bound
    | .directive (.handle handle meaning) => do
      advance
      if (handles.lookup handle).isSome then refuse
      else directives hasVersion ((handle, meaning) :: handles) bound
    | .directive .other => do
      advance
      directives hasVersion handles bound
    | _ => return handles

/-- Drops the signs at the end of a document. -/
def documentEnds : (bound : Nat) → Parse Unit
  | 0 => return ()
  | bound + 1 => do
    if (← peek) == .documentEnd then do
      advance
      documentEnds bound
    else return ()

/-- A document has no content in front of this token. -/
def endsDocument : Token → Bool
  | .directive _ | .documentStart | .documentEnd | .streamEnd => true
  | _ => false

/-- A document with directives or with the sign of its start. -/
def explicitDocument (bound : Nat) : Parse Nat := do
  let handles ← directives false [] bound
  expect .documentStart
  modify fun feed => { feed with handles := handles ++ standardHandles }
  if endsDocument (← peek) then addEmpty else node true false bound

/-- The one document of a text, if it has any. -/
def document (bound : Nat) : Parse (Option Nat) := do
  let t ← peek
  if t == .streamEnd then return none
  else do
    let root ←
      if endsDocument t && t != .documentEnd then explicitDocument bound
      else do
        modify fun feed => { feed with handles := standardHandles }
        node true false bound
    documentEnds bound
    expect .streamEnd
    return some root

end Parse

/-- **The document of the tokens of a text.** -/
def Document.ofTokens (tokens : List Token) (fault : Option Fault) :
    Except Fault (Option Document) := do
  let bound := 4 * tokens.length + 8
  let (root, feed) ← (Parse.document bound).run { tokens := tokens, fault := fault }
  return root.map fun root => ⟨feed.nodes, root⟩

end Yaml

end RecordFamily
