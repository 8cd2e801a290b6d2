/-
# Unfolding arguments

The plain way to accept arguments keeps no table of finished containers. It walks every
occurrence of every container again and builds the trees outright. At each occurrence the
checks come in a fixed order: the container must not be one of those around it, there must
be room for it, it must be open, and what is in it must be plain data. This is slow on data
in which much is shared, and it says in one place what acceptance means.
-/

import HtmlTemplate.Arguments.Convert

namespace HtmlTemplate.Arguments

open Host Render

/-- Unfold a property of a plain object. Its value is reported under its own name. -/
def unfoldProperty (unfold : String → Host.Value → Except Cause Value) :
    PropertyKey × Property → Except Cause (String × Value)
  | (.symbol description, _) => .error (.invalidKey (PropertyKey.symbol description).display)
  | (.name name, .accessor) => .error (.accessorProperty name)
  | (.name name, .data value) => do
      let tree ← unfold name value
      pure (name, tree)

/-- Unfold what is in a container. Items are reported under the name that the list has. -/
def unfoldContainer (unfold : String → Host.Value → Except Cause Value) (key : String) :
    Container → Except Cause Value
  | .array items => do
      let trees ← items.mapM (unfold key)
      pure (.array trees)
  | .object (.named cls) _ => .error (.invalidValue key cls (some plainObjectNote))
  | .object .plain props => do
      let fields ← props.entries.mapM (unfoldProperty unfold)
      pure (.object fields)

/-- Unfold a value that stands inside the containers `above`, when `room` more may be nested
at its place. -/
def unfoldValue (heap : Heap) (room : Nat) (above : List ContainerId) (key : String) :
    Host.Value → Except Cause Value
  | .null => .ok .null
  | .bool value => .ok (.bool value)
  | .number value => .ok (.number value)
  | .string value => .ok (.string value)
  | .undefined => .error (.invalidValue key "undefined" none)
  | .bigint _ => .error (.invalidValue key "bigint" none)
  | .symbol _ => .error (.invalidValue key "symbol" none)
  | .function _ => .error (.invalidValue key "function" none)
  | .ref id =>
      if id ∈ above then .error .cyclicReference
      else match room with
        | 0 => .error (.nestingTooDeep key maxNestingDepth)
        | room + 1 =>
            match heap.inspect? id with
            | none => .error (.uninspectable key)
            | some container =>
                unfoldContainer (unfoldValue heap room (id :: above)) key container

/-- Check the arguments of a caller and unfold each of them. -/
def unfold (heap : Heap) (arguments : Host.Value) : Except Cause (List (String × Value)) := do
  let (id, props) ← argumentProperties heap arguments
  props.mapM (unfoldProperty (unfoldValue heap maxNestingDepth [id]))

/-- The checks at an occurrence of a container, in order. -/
theorem unfoldValue_ref (heap : Heap) (room : Nat) (above : List ContainerId) (key : String)
    (id : ContainerId) :
    unfoldValue heap room above key (.ref id) =
      if id ∈ above then .error .cyclicReference
      else match room with
        | 0 => .error (.nestingTooDeep key maxNestingDepth)
        | room + 1 =>
            match heap.inspect? id with
            | none => .error (.uninspectable key)
            | some container =>
                unfoldContainer (unfoldValue heap room (id :: above)) key container := by
  cases room <;> rw [unfoldValue]

/-- An open container is unfolded like what is in it, with itself around it. -/
theorem unfoldValue_ref_of_inspect? {heap : Heap} {id : ContainerId} {container : Container}
    (opened : heap.inspect? id = some container) {above : List ContainerId}
    (outside : id ∉ above) (room : Nat) (key : String) :
    unfoldValue heap (room + 1) above key (.ref id) =
      unfoldContainer (unfoldValue heap room (id :: above)) key container := by
  rw [unfoldValue_ref, if_neg outside, opened]

end HtmlTemplate.Arguments
