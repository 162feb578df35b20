import TextGrammar.Json.Basic
import TextGrammar.Position

/-!
What a parse says: texts, lists of values, and nodes, which are named by rules. The nodes below a
node are found by name, or by a path of names with dots between them.
-/

namespace TextGrammar

inductive Value where
  | text (text : String)
  | list (items : List Value)
  | node (rule : String) (value : Value) (start stop : Position)
  deriving Repr

structure Node where
  rule : String
  value : Value
  start : Position
  stop : Position
  deriving Repr

/-- The text of a source between two positions, or no text if they are not in it in this order. -/
def excerpt (source : String) (start stop : Position) : String :=
  String.ofList ((Text.slice? source.toList start.offset stop.offset).getD [])

namespace Value

def isEmpty : Value → Bool
  | .text content => content.isEmpty
  | .list items => items.isEmpty
  | .node .. => false

def asText? : Value → Option String
  | .text content => some content
  | _ => none

def asList? : Value → Option (List Value)
  | .list items => some items
  | _ => none

def asNode? : Value → Option Node
  | .node rule value start stop => some ⟨rule, value, start, stop⟩
  | _ => none

mutual

def nodes : Value → List Node
  | .text _ => []
  | .list items => nodesOfAll items
  | .node rule value start stop => [⟨rule, value, start, stop⟩]

def nodesOfAll : List Value → List Node
  | [] => []
  | item :: rest => item.nodes ++ nodesOfAll rest

end

end Value

def Position.toJson (position : Position) : Json :=
  .object
    [("column", .number (.integer position.column)), ("line", .number (.integer position.line)),
      ("offset", .number (.integer position.offset))]

namespace Value

mutual

def toJson : Value → Json
  | .text content => .string content
  | .list items => .array (allToJson items)
  | .node rule value start stop =>
    .object
      [("end", stop.toJson), ("ref", .string rule), ("start", start.toJson),
        ("value", value.toJson)]

def allToJson : List Value → List Json
  | [] => []
  | item :: rest => item.toJson :: allToJson rest

end

end Value

namespace Node

def toValue (node : Node) : Value := .node node.rule node.value node.start node.stop

def toJson (node : Node) : Json := node.toValue.toJson

def children (node : Node) : List Node := node.value.nodes

def child? (node : Node) (rule : String) : Option Node := node.children.find? (·.rule == rule)

def childrenOf (node : Node) (rule : String) : List Node := node.children.filter (·.rule == rule)

def segments : List Char → List (List Char)
  | [] => [[]]
  | c :: rest =>
    if c = '.' then [] :: segments rest
    else
      match segments rest with
      | [] => [[c]]
      | first :: others => (c :: first) :: others

def get? (node : Node) (path : String) : Option Node :=
  (segments path.toList).foldlM (fun node part => node.child? (String.ofList part)) node

def textIn (node : Node) (source : String) : String := excerpt source node.start node.stop

end Node

end TextGrammar
