/-
# Describing host values

Diagnostics show a value of the caller as text. Any graph can be shown: a container that is
being shown already is marked as circular, a container inside too many others is elided,
and one that somebody holds is marked as such.
-/

import HtmlTemplate.Host.Heap
import HtmlTemplate.Decimal.Layout
import HtmlTemplate.Text.Quoted

namespace HtmlTemplate.Host

open Text

/-- The deepest nesting of containers that is shown or accepted. -/
def maxNestingDepth : Nat := 128

/-- What stands before the braces of an object: the name of its class, if it has one. -/
def ObjectClass.label : ObjectClass → String
  | .plain => ""
  | .named name => name ++ " "

/-- The text of an object whose properties have the given texts. -/
def objectText (cls : ObjectClass) (props : List String) : String :=
  if props.isEmpty then cls.label ++ "\x7b\x7d"
  else cls.label ++ "\x7b " ++ ", ".intercalate props ++ " \x7d"

/-- The text of a property, given how values are shown. -/
def propertyText (shown : Value → String) (key : PropertyKey) (property : Property) : String :=
  key.display ++ ": " ++
    match property with
    | .data value => shown value
    | .accessor => "[Getter/Setter]"

/-- The text of a container that is being shown, given how values are shown. -/
def containerText (shown : Value → String) : Container → String
  | .array items => "[" ++ ", ".intercalate (items.map shown) ++ "]"
  | .object cls props =>
      objectText cls (props.entries.map fun prop => propertyText shown prop.1 prop.2)

/-- The text of a value below the containers `above`, when `room` more may be opened. -/
def describeBelow (heap : Heap) (room : Nat) (above : List ContainerId) : Value → String
  | .undefined => "undefined"
  | .null => "null"
  | .bool value => if value then "true" else "false"
  | .number value => Decimal.formatNumber value
  | .string value => Quoted.quote value
  | .bigint value => s!"{value}n"
  | .symbol description => s!"Symbol({description})"
  | .function name => s!"[Function: {name}]"
  | .ref id =>
      if id ∈ above then "[Circular]"
      else match room with
        | 0 => if heap.isArray id then "[...]" else "\x7b...\x7d"
        | room + 1 =>
            match heap.inspect? id with
            | none => "<uninspectable>"
            | some container => containerText (describeBelow heap room (id :: above)) container

/-- The text of a value. -/
def describe (heap : Heap) (value : Value) : String :=
  describeBelow heap maxNestingDepth [] value

/-- The text of a container with its kind written around it. -/
def describeLabelled (heap : Heap) (id : ContainerId) : String :=
  (if heap.isArray id then "HostArray(" else "HostObject(") ++ describe heap (.ref id) ++ ")"

end HtmlTemplate.Host
