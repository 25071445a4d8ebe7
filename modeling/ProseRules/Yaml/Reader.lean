import ProseRules.Yaml.Content
import ProseRules.Yaml.Node

namespace ProseRules.Yaml

/-!
# Reading documents

The value of a document is built from its nodes. Mappings take over the entries
of mappings merged into them, which their own entries replace.
-/

namespace Node

/-- The text of a scalar; a mapping has the one of its default value. -/
def text? : Node → Option String
  | scalar _ content => some content
  | sequence _ _ => none
  | mapping _ entries => textOfDefault? entries
where
  textOfDefault? : List (Node × Node) → Option String
    | [] => none
    | (key, value) :: rest => if key.tag = .value then text? value else textOfDefault? rest

/-- The key as it counts in a mapping: the key of the default value is a text. -/
def plainKey : Node → Node
  | scalar .value content => scalar .text content
  | key => key

mutual

/-- The entries of a node that is merged into a mapping, its own merges resolved. -/
def merged : Node → Except ReadFlaw (List (Node × Node))
  | mapping _ entries => flattened entries
  | sequence _ elements => mergedAll elements
  | scalar _ _ => .error .malformed

/-- The entries of several merged mappings; those of the first one count most. -/
def mergedAll : List Node → Except ReadFlaw (List (Node × Node))
  | [] => .ok []
  | mapping _ entries :: rest => do
      let first ← flattened entries
      let others ← mergedAll rest
      return others ++ first
  | _ :: _ => .error .malformed

/-- The entries of a mapping with merges put before them. -/
def flattened (entries : List (Node × Node)) : Except ReadFlaw (List (Node × Node)) := do
  let merges ← mergesOf entries
  let own := entries.filter (·.1.tag ≠ .merge)
  return merges ++ own.map fun (key, value) => (plainKey key, value)

/-- The entries merged into a mapping. -/
def mergesOf : List (Node × Node) → Except ReadFlaw (List (Node × Node))
  | [] => .ok []
  | (key, value) :: rest => do
      let first ← if key.tag = .merge then merged value else .ok []
      let others ← mergesOf rest
      return first ++ others

end

/-- The only entry of a mapping that has one. -/
def onlyEntry? : Node → Option (Node × Node)
  | mapping _ [entry] => some entry
  | _ => none

/-- The text of a node that has to have one. -/
def requireText (node : Node) : Except ReadFlaw String :=
  match node.text? with
  | some content => .ok content
  | none => .error .malformed

/-- The elements of a node that has to be a list. -/
def requireElements : Node → Except ReadFlaw (List Node)
  | sequence _ elements => .ok elements
  | _ => .error .malformed

/-- The entries of a node that has to be a mapping, with merges resolved. -/
def requireEntries : Node → Except ReadFlaw (List (Node × Node))
  | mapping _ entries => flattened entries
  | _ => .error .malformed

/-- The value of a node. -/
def value : (depth : Nat) → Node → Except ReadFlaw Value
  | 0, _ => .error .malformed
  | depth + 1, node =>
      let pairsOf := fun (elements : List Node) => elements.mapM fun element => do
        match element.onlyEntry? with
        | none => throw ReadFlaw.malformed
        | some (key, content) => return Value.tuple [← value depth key, ← value depth content]
      let entriesOf := fun (entries : List (Node × Node)) =>
        entries.foldlM
          (fun found (entry : Node × Node) => do
            let key ← value depth entry.1
            if !key.isKey then
              throw ReadFlaw.malformed
            let content ← value depth entry.2
            return Value.insert key content found)
          []
      match node.tag with
      | .null => return (fun _ => .null) (← node.requireText)
      | .bool => return .bool (← boolOf (← node.requireText))
      | .int => return .int (← intOf (← node.requireText))
      | .float => return .real (← realOf (← node.requireText))
      | .binary => return .bytes (← bytesOf (← node.requireText))
      | .timestamp => do timeOf (← node.requireText)
      | .text => return .text (← node.requireText)
      | .sequence => return .list (← (← node.requireElements).mapM (value depth))
      | .orderedMap | .pairs => return .list (← pairsOf (← node.requireElements))
      | .mapping => return .mapping (← entriesOf (← node.requireEntries))
      | .set => return .set ((← entriesOf (← node.requireEntries)).map (·.1))
      | .merge | .value | .other _ => .error .malformed

/-- A bound on how deep nodes are nested. -/
def depthBound (document : List Char) : Nat :=
  2 * document.length + 2

end Node

/-- The value of a document; an empty one is null. -/
def read (document : String) : Except ReadFlaw Value := do
  let characters := document.toList
  match ← rootOf characters with
  | none => return .null
  | some root => root.value (Node.depthBound characters)

end ProseRules.Yaml
