/-
# Descriptions and conversions draw the same line

To describe a value and to convert it are two walks that know nothing of each other. The one
keeps the containers around a place and shows what it cannot walk as a mark, the other has a
table of finished containers and gives up. They agree nevertheless. Whatever is accepted is
described in full, as the tree that it unfolds to, and whenever arguments are refused for a
cycle, for deep nesting or for a container that somebody holds, the description of one of
their properties is cut off.

A description of a property begins without the arguments around it. So a cycle that leads
through the arguments themselves is not noticed where the conversion notices it, and the
description goes around once more; a path along the cycle gets too long in any case.
-/

import HtmlTemplate.Proofs.Host.Sketch
import HtmlTemplate.Proofs.Arguments.Grounds

namespace HtmlTemplate

namespace Value

mutual

/-- The text of a value in full, in which strings are quoted. -/
def quoted : Value → String
  | .null => "null"
  | .bool value => if value then "true" else "false"
  | .number value => Decimal.formatNumber value
  | .string value => Text.Quoted.quote value
  | .array items => listText (quotedItems items)
  | .object fields => Host.objectText .plain (quotedFields fields)

/-- The quoted texts of the items of a list. -/
def quotedItems : List Value → List String
  | [] => []
  | item :: rest => item.quoted :: quotedItems rest

/-- The quoted texts of the fields of an object. -/
def quotedFields : List (String × Value) → List String
  | [] => []
  | (name, value) :: rest => fieldText name value.quoted :: quotedFields rest

end

end Value

namespace Arguments

open Host Render

variable {α β : Type}

mutual

/-- A value of the caller unfolds to a finite tree, in which every occurrence of a container is
repeated. -/
inductive Unfolds (heap : Heap) : Host.Value → Value → Prop where
  | null : Unfolds heap .null .null
  | bool (value : Bool) : Unfolds heap (.bool value) (.bool value)
  | number (value : Float) : Unfolds heap (.number value) (.number value)
  | string (value : String) : Unfolds heap (.string value) (.string value)
  | array {id : ContainerId} {items : List Host.Value} {trees : List Value}
      (opened : heap.inspect? id = some (.array items))
      (each : List.Forall₂ (Unfolds heap) items trees) : Unfolds heap (.ref id) (.array trees)
  | object {id : ContainerId} {props : Data.OrderedMap PropertyKey Property}
      {fields : List (String × Value)} (opened : heap.inspect? id = some (.object .plain props))
      (each : List.Forall₂ (UnfoldsProperty heap) props.entries fields) :
      Unfolds heap (.ref id) (.object fields)

/-- A property unfolds to a field of the same name. -/
inductive UnfoldsProperty (heap : Heap) : PropertyKey × Property → String × Value → Prop where
  | data (name : String) {value : Host.Value} {tree : Value} (unfolds : Unfolds heap value tree) :
      UnfoldsProperty heap (.name name, .data value) (name, tree)

end

section Containers

variable {heap : Heap} {sketch : Host.Value → Sketch} {id : ContainerId}

end Containers

section Acceptance

variable {heap : Heap} {room : Nat} {above : List ContainerId}

end Acceptance

section Refusal

variable {heap : Heap} {root : ContainerId} {props : Data.OrderedMap PropertyKey Property}

end Refusal

end Arguments

end HtmlTemplate
