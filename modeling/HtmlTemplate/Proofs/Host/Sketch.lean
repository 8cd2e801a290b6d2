/-
# What a description shows and what it leaves out

The text of a description does not tell where it was cut off, for a symbol may be called
whatever the marks look like. So a description is taken apart into a sketch and the text of
the sketch. The sketch is the tree of all that is shown, with a mark at every place where the
walk goes no further, and describing a value is to write down its sketch.

Every child of a container that is shown is sketched, so a walk that is cut off in one place
goes on in the others. Hence a path that cannot be walked to its end, for being too long or
for leading to a container that somebody holds, always leaves a mark.
-/

import HtmlTemplate.Proofs.Host.Places
import HtmlTemplate.Host.Describe

namespace HtmlTemplate.Host

/-- Why a description goes no further. -/
inductive Mark where
  /-- The container is being shown already. -/
  | circular
  /-- The container, a list or an object, is nested too deep. -/
  | elided (isArray : Bool)
  /-- Somebody holds the container. -/
  | uninspectable
  /-- The property has no stored value. -/
  | accessor
  deriving DecidableEq

/-- A mark as it is written. -/
def Mark.text : Mark → String
  | .circular => "[Circular]"
  | .elided isArray => if isArray then "[...]" else "\x7b...\x7d"
  | .uninspectable => "<uninspectable>"
  | .accessor => "[Getter/Setter]"

/-- All that a description shows. The leaves are values that are no containers. -/
inductive Sketch where
  | leaf (value : Value)
  | mark (mark : Mark)
  | array (items : List Sketch)
  | object (cls : ObjectClass) (props : List (PropertyKey × Sketch))

namespace Sketch

mutual

/-- The text of a sketch. No heap has a part in the text of a leaf. -/
def text : Sketch → String
  | .leaf value => describe .empty value
  | .mark reason => reason.text
  | .array items => "[" ++ ", ".intercalate (itemTexts items) ++ "]"
  | .object cls props => objectText cls (propertyTexts props)

/-- The texts of the items of a list. -/
def itemTexts : List Sketch → List String
  | [] => []
  | item :: rest => item.text :: itemTexts rest

/-- The texts of the properties of an object. -/
def propertyTexts : List (PropertyKey × Sketch) → List String
  | [] => []
  | (key, sketch) :: rest => (key.display ++ ": " ++ sketch.text) :: propertyTexts rest

end

/-- The mark stands somewhere in a sketch. -/
inductive Shows (mark : Mark) : Sketch → Prop where
  | here : Shows mark (.mark mark)
  | item {items : List Sketch} {sketch : Sketch} (stored : sketch ∈ items)
      (shows : Shows mark sketch) : Shows mark (.array items)
  | property {cls : ObjectClass} {props : List (PropertyKey × Sketch)} {key : PropertyKey}
      {sketch : Sketch} (stored : (key, sketch) ∈ props) (shows : Shows mark sketch) :
      Shows mark (.object cls props)

/-- Something that is stored is left out, for one reason or another. A property that stores no
value leaves nothing out. -/
def IsCutOff (sketch : Sketch) : Prop := ∃ mark, mark ≠ .accessor ∧ sketch.Shows mark

end Sketch

/-- The sketch of a property, given how values are sketched. -/
def sketchProperty (sketch : Value → Sketch) : PropertyKey × Property → PropertyKey × Sketch
  | (key, .data value) => (key, sketch value)
  | (key, .accessor) => (key, .mark .accessor)

/-- The sketch of a container that is shown, given how values are sketched. -/
def sketchContainer (sketch : Value → Sketch) : Container → Sketch
  | .array items => .array (items.map sketch)
  | .object cls props => .object cls (props.entries.map (sketchProperty sketch))

/-- The sketch of a value below the containers `above`, when `room` more may be opened. -/
def sketchBelow (heap : Heap) (room : Nat) (above : List ContainerId) : Value → Sketch
  | .ref id =>
      if id ∈ above then .mark .circular
      else match room with
        | 0 => .mark (.elided (heap.isArray id))
        | room + 1 =>
            match heap.inspect? id with
            | none => .mark .uninspectable
            | some container => sketchContainer (sketchBelow heap room (id :: above)) container
  | value => .leaf value

/-- The sketch of a value. -/
def sketch (heap : Heap) (value : Value) : Sketch := sketchBelow heap maxNestingDepth [] value

section Text

variable {shown : Value → String} {sketch : Value → Sketch}

end Text

/-- A container of which a child is cut off is cut off. -/
theorem Sketch.IsCutOff.container {sketch : Value → Sketch} {container : Container} {child : Value}
    (cutOff : (sketch child).IsCutOff) (stored : child ∈ container.children) :
    (sketchContainer sketch container).IsCutOff := by
  obtain ⟨mark, stops, shows⟩ := cutOff
  refine ⟨mark, stops, ?_⟩
  cases container with
  | array items => exact .item (List.mem_map_of_mem stored) shows
  | object cls props =>
      obtain ⟨key, stored⟩ := mem_storedValues_iff.mp stored
      exact .property (List.mem_map_of_mem stored) shows

end HtmlTemplate.Host
