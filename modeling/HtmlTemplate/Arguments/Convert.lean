/-
# Accepting arguments

The caller's arguments are walked once, depth first, and turned into a value graph. A
container that is met inside itself is a cycle and is refused. One that was finished before
is merely shared: its node is used again, and only its height is checked against the room
left at the new place. Thus a container is looked into at most once, however often it is
reached, and every path through the result is within the limit.
-/

import HtmlTemplate.Arguments.Graph
import HtmlTemplate.Host.Describe
import HtmlTemplate.Render.Error
import Std.Data.HashMap

namespace HtmlTemplate.Arguments

open Host Render

/-- The name by which reports call the arguments as a whole. -/
def argumentsName : String := "arguments"

/-- What reports say about an object that is not plain. -/
def plainObjectNote : String := "Objects must be plain, stable data."

/-- A converted value and how many containers are nested in it at most. -/
structure Converted where
  slot : Slot
  height : Nat
  deriving Inhabited

/-- How far a conversion has come: the containers being walked, innermost first, what the
finished ones became, and the nodes made for them. -/
structure Progress where
  onStack : List ContainerId
  converted : Std.HashMap ContainerId Converted
  nodes : Array Node

/-- A step of a conversion, which may refuse the arguments. -/
abbrev Conversion := StateT Progress (Except Cause)

namespace Progress

/-- Begin with the arguments themselves, which are never finished. -/
def start (arguments : ContainerId) : Progress := ⟨[arguments], ∅, #[]⟩

/-- Begin to walk a container. -/
def enter (progress : Progress) (id : ContainerId) : Progress :=
  { progress with onStack := id :: progress.onStack }

/-- Finish a container: make its node and remember it. -/
def leave (progress : Progress) (id : ContainerId) (node : Node) (height : Nat) :
    Converted × Progress :=
  let done : Converted := ⟨.node ⟨progress.nodes.size⟩, height⟩
  (done,
    { onStack := progress.onStack.erase id
      converted := progress.converted.insert id done
      nodes := progress.nodes.push node })

end Progress

/-- Convert the items of a list. The height is that of the highest item. -/
def convertItems (convert : Host.Value → Conversion Converted) :
    List Host.Value → Conversion (List Slot × Nat)
  | [] => pure ([], 0)
  | item :: rest => do
      let done ← convert item
      let (slots, height) ← convertItems convert rest
      pure (done.slot :: slots, max done.height height)

/-- Convert the properties of a plain object. Each value is reported under its own name. -/
def convertProperties (convert : String → Host.Value → Conversion Converted) :
    List (PropertyKey × Property) → Conversion (List (String × Slot) × Nat)
  | [] => pure ([], 0)
  | (.symbol description, _) :: _ => throw (.invalidKey (PropertyKey.symbol description).display)
  | (.name name, .accessor) :: _ => throw (.accessorProperty name)
  | (.name name, .data value) :: rest => do
      let done ← convert name value
      let (fields, height) ← convertProperties convert rest
      pure ((name, done.slot) :: fields, max done.height height)

/-- Convert what is in a container. Items are reported under the name that the list has. -/
def convertContainer (convert : String → Host.Value → Conversion Converted) (key : String) :
    Container → Conversion (Node × Nat)
  | .array items => do
      let (slots, height) ← convertItems (convert key) items
      pure (.array slots, height)
  | .object (.named cls) _ => throw (.invalidValue key cls (some plainObjectNote))
  | .object .plain props => do
      let (fields, height) ← convertProperties convert props.entries
      pure (.object fields, height)

/-- Convert a value, when `room` more containers may be nested at its place. The key is the
nearest name, for reports. -/
def convertValue (heap : Heap) (room : Nat) (key : String) :
    Host.Value → Conversion Converted
  | .null => pure ⟨.null, 0⟩
  | .bool value => pure ⟨.bool value, 0⟩
  | .number value => pure ⟨.number value, 0⟩
  | .string value => pure ⟨.string value, 0⟩
  | .undefined => throw (.invalidValue key "undefined" none)
  | .bigint _ => throw (.invalidValue key "bigint" none)
  | .symbol _ => throw (.invalidValue key "symbol" none)
  | .function _ => throw (.invalidValue key "function" none)
  | .ref id => do
      let progress ← get
      match progress.converted[id]? with
      | some done =>
          if done.height ≤ room then pure done
          else throw (.nestingTooDeep key maxNestingDepth)
      | none =>
          if id ∈ progress.onStack then throw .cyclicReference
          else match room with
            | 0 => throw (.nestingTooDeep key maxNestingDepth)
            | room + 1 =>
                match heap.inspect? id with
                | none => throw (.uninspectable key)
                | some container => do
                    set (progress.enter id)
                    let (node, height) ← convertContainer (convertValue heap room) key container
                    modifyGet fun progress => progress.leave id node (height + 1)

/-- The properties of the arguments, which have to be a plain object that nobody holds. -/
def argumentProperties (heap : Heap) (arguments : Host.Value) :
    Except Cause (ContainerId × List (PropertyKey × Property)) :=
  match arguments with
  | .ref id =>
      if heap.isArray id then .error (.invalidArguments (describe heap arguments))
      else match heap.inspect? id with
        | some (.object .plain props) => .ok (id, props.entries)
        | some _ => .error (.invalidArguments (describe heap arguments))
        | none => .error (.uninspectable argumentsName)
  | _ => .error (.invalidArguments (describe heap arguments))

/-- Check the arguments of a caller and turn them into a value graph. -/
def convert (heap : Heap) (arguments : Host.Value) : Except Cause Graph := do
  let (id, props) ← argumentProperties heap arguments
  let ((bindings, _), progress) ←
    (convertProperties (convertValue heap maxNestingDepth) props).run (.start id)
  pure ⟨progress.nodes, bindings⟩

end HtmlTemplate.Arguments
