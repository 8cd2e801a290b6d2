/-
# Host values

The caller's data is a graph. Lists and objects live in a heap and are reached through
references, so two places may share one of them, and one may even contain itself. Objects
may have computed properties, properties named by symbols, and a class of their own. While
somebody holds a container for mutation it is locked and cannot be looked into.
-/

import HtmlTemplate.Data.OrderedMap

namespace HtmlTemplate.Host

open Data

/-- The identity of a container in a heap. -/
structure ContainerId where
  index : Nat
  deriving DecidableEq, Hashable, Repr

/-- A value of the caller. Lists and objects are references into the heap. -/
inductive Value where
  | undefined
  | null
  | bool (value : Bool)
  | number (value : Float)
  | string (value : String)
  | bigint (value : Int)
  | symbol (description : String)
  | function (name : String)
  | ref (id : ContainerId)
  deriving Inhabited

/-- What a property is named by. A name and a symbol never coincide. -/
inductive PropertyKey where
  | name (text : String)
  | symbol (description : String)
  deriving DecidableEq, Repr

namespace PropertyKey

/-- The key as diagnostics show it. -/
def display : PropertyKey → String
  | .name text => text
  | .symbol description => s!"[Symbol({description})]"

end PropertyKey

/-- What a property holds. -/
inductive Property where
  | data (value : Value)
  /-- The value is computed whenever it is asked for. -/
  | accessor
  deriving Inhabited

/-- The class of an object. -/
inductive ObjectClass where
  | plain
  | named (name : String)
  deriving DecidableEq, Repr

/-- A list or an object. -/
inductive Container where
  | array (items : List Value)
  | object (cls : ObjectClass) (props : OrderedMap PropertyKey Property)

namespace Container

/-- Whether the container is a list. -/
def isArray : Container → Bool
  | .array _ => true
  | .object .. => false

/-- How many items or properties there are. -/
def size : Container → Nat
  | .array items => items.length
  | .object _ props => props.size

/-- The values stored in the container, in order. -/
def children : Container → List Value
  | .array items => items
  | .object _ props => props.entries.filterMap fun entry =>
      match entry.2 with
      | .data value => some value
      | .accessor => none

end Container

/-- A container and whether somebody holds it for mutation. -/
structure Cell where
  container : Container
  locked : Bool

/-- All containers of a caller. -/
structure Heap where
  cells : Array Cell

namespace Heap

/-- The heap without containers. -/
def empty : Heap := ⟨#[]⟩

/-- The container with the given identity and its lock. -/
def cell? (heap : Heap) (id : ContainerId) : Option Cell := heap.cells[id.index]?

/-- Look into a container, which is possible only while nobody holds it. -/
def inspect? (heap : Heap) (id : ContainerId) : Option Container :=
  match heap.cell? id with
  | some ⟨container, false⟩ => some container
  | _ => none

/-- Whether the container is a list. Its kind can be told even while it is held. -/
def isArray (heap : Heap) (id : ContainerId) : Bool :=
  match heap.cell? id with
  | some cell => cell.container.isArray
  | none => false

/-- Add a container, which gets an identity of its own. -/
def alloc (heap : Heap) (container : Container) : ContainerId × Heap :=
  (⟨heap.cells.size⟩, ⟨heap.cells.push ⟨container, false⟩⟩)

/-- Change what a cell holds. -/
def modify (heap : Heap) (id : ContainerId) (change : Cell → Cell) : Heap :=
  ⟨heap.cells.modify id.index change⟩

/-- Put a container in the place of another. -/
def replace (heap : Heap) (id : ContainerId) (container : Container) : Heap :=
  heap.modify id fun cell => { cell with container }

/-- Say whether somebody holds a container. -/
def setLocked (heap : Heap) (id : ContainerId) (locked : Bool) : Heap :=
  heap.modify id fun cell => { cell with locked }

/-- Append items to a list that nobody holds. -/
def append? (heap : Heap) (id : ContainerId) (values : List Value) : Option Heap :=
  match heap.inspect? id with
  | some (.array items) => some (heap.replace id (.array (items ++ values)))
  | _ => none

/-- Take the last item off a list that nobody holds. -/
def pop? (heap : Heap) (id : ContainerId) : Option (Option Value × Heap) :=
  match heap.inspect? id with
  | some (.array items) => some (items.getLast?, heap.replace id (.array items.dropLast))
  | _ => none

/-- Define properties of an object that nobody holds. Existing keys keep their places. -/
def define? (heap : Heap) (id : ContainerId) (props : List (PropertyKey × Property)) :
    Option Heap :=
  match heap.inspect? id with
  | some (.object cls old) =>
      some (heap.replace id
        (.object cls (props.foldl (fun map prop => map.insert prop.1 prop.2) old)))
  | _ => none

/-- The value stored under a name, if the object has one there. -/
def property? (heap : Heap) (id : ContainerId) (name : String) : Option (Option Value) :=
  match heap.inspect? id with
  | some (.object _ props) =>
      match props.get? (.name name) with
      | some (.data value) => some (some value)
      | _ => some none
  | _ => none

/-- The class of an object that nobody holds. -/
def class? (heap : Heap) (id : ContainerId) : Option ObjectClass :=
  match heap.inspect? id with
  | some (.object cls _) => some cls
  | _ => none

/-- The name of a value's type. Instances are named after their class, which only an
object that nobody holds tells. -/
def typeName? (heap : Heap) : Value → Option String
  | .undefined => some "undefined"
  | .null => some "null"
  | .bool _ => some "boolean"
  | .number _ => some "number"
  | .string _ => some "string"
  | .bigint _ => some "bigint"
  | .symbol _ => some "symbol"
  | .function _ => some "function"
  | .ref id =>
      if heap.isArray id then some "array"
      else match heap.class? id with
        | some .plain => some "object"
        | some (.named name) => some name
        | none => none

end Heap

end HtmlTemplate.Host
