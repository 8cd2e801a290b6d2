/-
# JSON as host data

A JSON value becomes host data with a container of its own for each list and object, so
nothing in it is shared, and objects are plain. Numbers become doubles.
-/

import HtmlTemplate.Host.Heap
import HtmlTemplate.Json.Value

namespace HtmlTemplate.Host

open Json

namespace Heap

mutual

/-- Add a JSON value to the heap. A container is added after everything in it. -/
def ofJson (heap : Heap) : JsonValue → Value × Heap
  | .null => (.null, heap)
  | .bool value => (.bool value, heap)
  | .number value => (.number value.toFloat, heap)
  | .string value => (.string value, heap)
  | .array items =>
      let (values, heap) := heap.ofJsonItems items
      let (id, heap) := heap.alloc (.array values)
      (.ref id, heap)
  | .object fields =>
      let (props, heap) := heap.ofJsonFields fields
      let (id, heap) := heap.alloc
        (.object .plain (props.foldl (fun map prop => map.insert prop.1 prop.2) .empty))
      (.ref id, heap)

/-- Add the items of a list to the heap. -/
def ofJsonItems (heap : Heap) : List JsonValue → List Value × Heap
  | [] => ([], heap)
  | item :: rest =>
      let (value, heap) := heap.ofJson item
      let (values, heap) := heap.ofJsonItems rest
      (value :: values, heap)

/-- Add the fields of an object to the heap. -/
def ofJsonFields (heap : Heap) :
    List (String × JsonValue) → List (PropertyKey × Property) × Heap
  | [] => ([], heap)
  | (name, field) :: rest =>
      let (value, heap) := heap.ofJson field
      let (props, heap) := heap.ofJsonFields rest
      ((.name name, .data value) :: props, heap)

end

end Heap

end HtmlTemplate.Host
