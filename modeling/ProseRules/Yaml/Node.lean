import ProseRules.Yaml.Stream
import ProseRules.Yaml.Tag

namespace ProseRules.Yaml

/-!
# Nodes of a document

A document is a tree of tagged nodes. An anchor names a node, and a reference
stands for the node that was named before; names are given once in a document.
-/

/-- A node of a document. -/
inductive Node where
  | scalar (tag : Tag) (content : String)
  | sequence (tag : Tag) (elements : List Node)
  | mapping (tag : Tag) (entries : List (Node × Node))
  deriving Repr

namespace Node

/-- The tag of a node. -/
def tag : Node → Tag
  | scalar tag _ => tag
  | sequence tag _ => tag
  | mapping tag _ => tag

/-- A node with nothing in it. -/
def empty : Node :=
  scalar .null ""

end Node

/-- What is known while nodes are read. -/
structure Reading where
  rest : List Lexeme
  /-- The addresses that the handles of tags stand for. -/
  handles : List (String × String)
  /-- The named nodes; a node that is still being read has none. -/
  anchors : List (String × Option Node) := []
  /-- What a reference inside of the node that it names stands for. -/
  enclosing : List (String × Node) := []
  /-- Some reference stands inside of the node that it names. -/
  hasLoop : Bool := false

/-- A step of reading nodes. -/
abbrev NodeReader (α : Type) : Type :=
  StateT Reading (Except ReadFlaw) α

/-- The handles that need no directive. -/
def usualHandles : List (String × String) :=
  [("!", "!"), ("!!", Tag.namespaceName)]

/-- The tag and the name given before a node. -/
structure Properties where
  tag : Option String := none
  anchor : Option String := none
  deriving Repr, DecidableEq

namespace NodeReader

/-- The next lexeme, left in place. -/
def peek : NodeReader Lexeme := do
  return (← get).rest.headD .streamEnd

/-- Take the next lexeme. -/
def drop : NodeReader Unit :=
  modify fun reading => { reading with rest := reading.rest.tail }

/-- Take the next lexeme if it is the given one. -/
def accept (lexeme : Lexeme) : NodeReader Bool := do
  if (← peek) = lexeme then
    drop
    return true
  else
    return false

/-- Take the given lexeme, which has to come next. -/
def expect (lexeme : Lexeme) : NodeReader Unit := do
  unless ← accept lexeme do
    throw .malformed

/-- One of some lexemes comes next. -/
def isAt (lexemes : List Lexeme) : NodeReader Bool := do
  return lexemes.contains (← peek)

/-- The full name of a tag. -/
def tagName (handle : Option String) (address : String) : NodeReader String := do
  match handle with
  | none => return address
  | some handle =>
      match (← get).handles.lookup handle with
      | some start => return start ++ address
      | none => throw .malformed

/-- Take a tag, if one comes next. -/
def takeTag : NodeReader (Option String) := do
  match ← peek with
  | .tag handle address => do
      drop
      return some (← tagName handle address)
  | _ => return none

/-- Take the name of a node, if one comes next. -/
def takeAnchor : NodeReader (Option String) := do
  match ← peek with
  | .anchor name => do
      drop
      return some name
  | _ => return none

/-- Take the tag and the name before a node, in either order. -/
def takeProperties : NodeReader Properties := do
  match ← takeAnchor with
  | some anchor => return ⟨← takeTag, some anchor⟩
  | none =>
      match ← takeTag with
      | some tag => return ⟨some tag, ← takeAnchor⟩
      | none => return {}

/-- Begin a named node; a name may be given only once. -/
def beginNode (anchor : Option String) : NodeReader Unit := do
  match anchor with
  | none => return
  | some name => do
      if ((← get).anchors.lookup name).isSome then
        throw .malformed
      modify fun reading => { reading with anchors := (name, none) :: reading.anchors }

/-- Finish a node and remember it by its name. -/
def finishNode (anchor : Option String) (node : Node) : NodeReader Node := do
  if let some name := anchor then
    modify fun reading => { reading with anchors := (name, some node) :: reading.anchors }
  return node

/-- The node that a reference stands for; inside of its own node it may not be known yet. -/
def referenced (name : String) : NodeReader Node := do
  match (← get).anchors.lookup name with
  | some (some node) => return node
  | some none => do
      modify fun reading => { reading with hasLoop := true }
      return ((← get).enclosing.lookup name).getD (.sequence .sequence [])
  | none => throw .malformed

/-- The tag of a scalar. -/
def scalarTag (tag : Option String) (content : String) (plain : Bool) : Tag :=
  match tag with
  | none => if plain then Tag.ofPlain content else .text
  | some "!" => Tag.ofPlain content
  | some name => Tag.ofName name

/-- The tag of a list or mapping. -/
def collectionTag (tag : Option String) (usual : Tag) : Tag :=
  match tag with
  | none => usual
  | some "!" => usual
  | some name => Tag.ofName name

mutual

/--
A node. Blocks are read where `inBlock` allows them, and a list without an indent
of its own where `bareList` does.
-/
def node (inBlock bareList : Bool) : (depth : Nat) → NodeReader Node
  | 0 => throw .malformed
  | depth + 1 => do
      if let .reference name ← peek then
        drop
        return ← referenced name
      let properties ← takeProperties
      beginNode properties.anchor
      let found ← content inBlock bareList properties depth
      finishNode properties.anchor found

/-- A node after its tag and name. -/
def content (inBlock bareList : Bool) (properties : Properties) : (depth : Nat) → NodeReader Node
  | 0 => throw .malformed
  | depth + 1 => do
      let listTag := collectionTag properties.tag .sequence
      let mapTag := collectionTag properties.tag .mapping
      match ← peek with
      | .scalar text plain => do
          drop
          return .scalar (scalarTag properties.tag text plain) text
      | .flowSequenceStart => do
          drop
          return .sequence listTag (← flowElements true depth)
      | .flowMappingStart => do
          drop
          return .mapping mapTag (← flowEntries true depth)
      | lexeme => do
          if bareList && lexeme = .blockEntry then
            return .sequence listTag (← blockElements true depth)
          else if inBlock && lexeme = .blockSequenceStart then
            drop
            return .sequence listTag (← blockElements false depth)
          else if inBlock && lexeme = .blockMappingStart then
            drop
            return .mapping mapTag (← blockEntries depth)
          else if properties.tag.isSome || properties.anchor.isSome then
            return .scalar (scalarTag properties.tag "" true) ""
          else
            throw .malformed

/-- A node, or an empty one if one of some lexemes comes next. -/
def nodeUnless (ends : List Lexeme) (inBlock bareList : Bool) :
    (depth : Nat) → NodeReader Node
  | 0 => throw .malformed
  | depth + 1 => do
      if ← isAt ends then
        return .empty
      else
        node inBlock bareList depth

/-- The elements of a list in a block; a bare one has no mark at its end. -/
def blockElements (bare : Bool) : (depth : Nat) → NodeReader (List Node)
  | 0 => throw .malformed
  | depth + 1 => do
      if ← accept .blockEntry then
        let ends :=
          if bare then [.blockEntry, .key, .value, .blockEnd] else [.blockEntry, .blockEnd]
        let first ← nodeUnless ends true false depth
        return first :: (← blockElements bare depth)
      else
        unless bare do
          expect .blockEnd
        return []

/-- The value after a key, or an empty node. -/
def valueAfterKey (ends : List Lexeme) (inBlock : Bool) : (depth : Nat) → NodeReader Node
  | 0 => throw .malformed
  | depth + 1 => do
      if ← accept .value then
        nodeUnless ends inBlock inBlock depth
      else
        return .empty

/-- The entries of a mapping in a block. -/
def blockEntries : (depth : Nat) → NodeReader (List (Node × Node))
  | 0 => throw .malformed
  | depth + 1 => do
      let ends := [.key, .value, .blockEnd]
      if ← accept .key then
        let key ← nodeUnless ends true true depth
        let value ← valueAfterKey ends true depth
        return (key, value) :: (← blockEntries depth)
      else
        expect .blockEnd
        return []

/-- The elements of a list between brackets. -/
def flowElements (isFirst : Bool) : (depth : Nat) → NodeReader (List Node)
  | 0 => throw .malformed
  | depth + 1 => do
      if ← accept .flowSequenceEnd then
        return []
      unless isFirst do
        expect .flowEntry
      if ← accept .key then
        let ends := [.value, .flowEntry, .flowSequenceEnd]
        let key ← nodeUnless ends false false depth
        let value ← valueAfterKey [.flowEntry, .flowSequenceEnd] false depth
        return .mapping .mapping [(key, value)] :: (← flowElements false depth)
      else if ← accept .flowSequenceEnd then
        return []
      else
        let first ← node false false depth
        return first :: (← flowElements false depth)

/-- The entries of a mapping between braces. -/
def flowEntries (isFirst : Bool) : (depth : Nat) → NodeReader (List (Node × Node))
  | 0 => throw .malformed
  | depth + 1 => do
      if ← accept .flowMappingEnd then
        return []
      unless isFirst do
        expect .flowEntry
      if ← accept .key then
        let ends := [.value, .flowEntry, .flowMappingEnd]
        let key ← nodeUnless ends false false depth
        let value ← valueAfterKey [.flowEntry, .flowMappingEnd] false depth
        return (key, value) :: (← flowEntries false depth)
      else if ← accept .flowMappingEnd then
        return []
      else
        let key ← node false false depth
        return (key, .empty) :: (← flowEntries false depth)

end

/-- The directives before a document; each handle and the version may be given once. -/
def directives (hasVersion : Bool) (handles : List (String × String)) :
    (limit : Nat) → NodeReader (List (String × String))
  | 0 => return handles
  | limit + 1 => do
      match ← peek with
      | .directive (.version major _) => do
          if hasVersion || major ≠ 1 then
            throw .malformed
          drop
          directives true handles limit
      | .directive (.tagHandle handle address) => do
          if (handles.lookup handle).isSome then
            throw .malformed
          drop
          directives hasVersion ((handle, address) :: handles) limit
      | .directive .other => do
          drop
          directives hasVersion handles limit
      | _ => return handles

/-- Skip marks of the end of a document. -/
def skipEnds : (limit : Nat) → NodeReader Unit
  | 0 => return
  | limit + 1 => do
      if ← accept .documentEnd then
        skipEnds limit

/-- The root of a document that begins with a mark. -/
def markedRoot (limit depth : Nat) : NodeReader (Option Node) := do
  skipEnds limit
  if (← peek) = .streamEnd then
    return none
  let handles ← directives false [] limit
  modify fun reading => { reading with handles := handles ++ usualHandles }
  expect .documentStart
  match ← peek with
  | .directive _ | .documentStart | .documentEnd | .streamEnd => return some .empty
  | _ => return some (← node true false depth)

/-- The root of the only document of a stream; an empty stream has none. -/
def root (limit depth : Nat) : NodeReader (Option Node) := do
  let found ←
    match ← peek with
    | .directive _ | .documentStart | .streamEnd => markedRoot limit depth
    | _ => do
        let found ← node true false depth
        pure (some found)
  skipEnds limit
  expect .streamEnd
  return found

end NodeReader

/-- The nodes that a document names. -/
def Reading.namedNodes (reading : Reading) : List (String × Node) :=
  reading.anchors.filterMap fun (name, node) => node.map fun node => (name, node)

/--
The root of a document; an empty document has none. A node that refers to itself
is unrolled once.
-/
def rootOf (document : List Char) : Except ReadFlaw (Option Node) := do
  let lexemes ← lexemesOf document
  let reading : Reading := { rest := lexemes, handles := usualHandles }
  let root := NodeReader.root (lexemes.length + 1) (4 * lexemes.length + 8)
  let (found, after) ← StateT.run root reading
  if after.hasLoop then
    let (unrolled, _) ← StateT.run root { reading with enclosing := after.namedNodes }
    return unrolled
  else
    return found

end ProseRules.Yaml
