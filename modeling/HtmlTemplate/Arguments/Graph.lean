/-
# Value graphs

Accepted arguments are kept as a graph without cycles. Each list or object is one node, in
which children are either primitive or earlier nodes, so what was shared stays shared and
the trees can be built from the first node to the last, each once.
-/

import HtmlTemplate.Value.Basic

namespace HtmlTemplate.Arguments

/-- The identity of a node. -/
structure NodeId where
  index : Nat
  deriving DecidableEq, Repr

/-- A place in a graph: a primitive value, or a node. -/
inductive Slot where
  | null
  | bool (value : Bool)
  | number (value : Float)
  | string (value : String)
  | node (id : NodeId)
  deriving Inhabited

/-- A list or an object of the graph. -/
inductive Node where
  | array (items : List Slot)
  | object (fields : List (String × Slot))
  deriving Inhabited

/-- The accepted arguments: all nodes, children first, and what each variable stands for. -/
structure Graph where
  nodes : Array Node
  bindings : List (String × Slot)

namespace Slot

/-- The value at a place, given the values of the nodes. -/
def toValue (values : Array Value) : Slot → Value
  | .null => .null
  | .bool value => .bool value
  | .number value => .number value
  | .string value => .string value
  | .node id => values.getD id.index .null

end Slot

namespace Node

/-- The value of a node, given the values of the nodes before it. -/
def toValue (values : Array Value) : Node → Value
  | .array items => .array (items.map (Slot.toValue values))
  | .object fields => .object (fields.map fun field => (field.1, field.2.toValue values))

end Node

namespace Graph

/-- The values of all nodes, in order. -/
def values (nodes : Array Node) : Array Value :=
  nodes.foldl (fun values node => values.push (node.toValue values)) #[]

/-- The value of each variable. -/
def toVariables (graph : Graph) : List (String × Value) :=
  let values := values graph.nodes
  graph.bindings.map fun binding => (binding.1, binding.2.toValue values)

end Graph

end HtmlTemplate.Arguments
