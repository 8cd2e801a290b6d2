/-
# How deep JSON is nested

A way down into a JSON value passes through lists and objects, each held by the one before.
The height of a value is the length of the longest such way. It is computed along the
value, one container at a time, and this is the form in which limits on it are checked.
-/

import HtmlTemplate.Json.Value
import HtmlTemplate.Value.Basic

namespace HtmlTemplate.Json.JsonValue

/-- One value stands directly in another. -/
inductive Holds : JsonValue → JsonValue → Prop where
  | item {items : List JsonValue} {value : JsonValue} (stored : value ∈ items) :
      Holds (.array items) value
  | field {fields : List (String × JsonValue)} {name : String} {value : JsonValue}
      (stored : (name, value) ∈ fields) : Holds (.object fields) value

/-- Whether the value is a list or an object. -/
def isContainer : JsonValue → Bool
  | .array _ | .object _ => true
  | _ => false

/-- The containers that a way down from the value passes through, the value itself first. -/
inductive IsPath : JsonValue → List JsonValue → Prop where
  | enter {outer : JsonValue} (opens : outer.isContainer = true) : IsPath outer [outer]
  | down {outer inner : JsonValue} {path : List JsonValue} (holds : outer.Holds inner)
      (further : IsPath inner path) : IsPath outer (outer :: path)

mutual

/-- How many containers are nested in the value at most, itself included. -/
def height : JsonValue → Nat
  | .array items => itemsHeight items + 1
  | .object fields => fieldsHeight fields + 1
  | _ => 0

/-- The height of the highest item. -/
def itemsHeight : List JsonValue → Nat
  | [] => 0
  | item :: rest => max item.height (itemsHeight rest)

/-- The height of the highest field. -/
def fieldsHeight : List (String × JsonValue) → Nat
  | [] => 0
  | (_, value) :: rest => max value.height (fieldsHeight rest)

end

mutual

/-- The names of the fields are distinct in every object of the value. -/
def HasDistinctNames : JsonValue → Prop
  | .array items => ItemsHaveDistinctNames items
  | .object fields => (fields.map Prod.fst).Nodup ∧ FieldsHaveDistinctNames fields
  | _ => True

/-- The names are distinct in every object of the items. -/
def ItemsHaveDistinctNames : List JsonValue → Prop
  | [] => True
  | item :: rest => item.HasDistinctNames ∧ ItemsHaveDistinctNames rest

/-- The names are distinct in every object of the fields. -/
def FieldsHaveDistinctNames : List (String × JsonValue) → Prop
  | [] => True
  | (_, value) :: rest => value.HasDistinctNames ∧ FieldsHaveDistinctNames rest

end

mutual

/-- The value of the same structure that templates show, with numbers as doubles. -/
def image : JsonValue → Value
  | .null => .null
  | .bool value => .bool value
  | .number (.unsigned value) => .number value.toFloat
  | .number (.negative value) => .number (-(-value).toUInt64.toFloat)
  | .number (.double value) => .number value
  | .string value => .string value
  | .array items => .array (itemImages items)
  | .object fields => .object (fieldImages fields)

/-- The images of the items, in order. -/
def itemImages : List JsonValue → List Value
  | [] => []
  | item :: rest => item.image :: itemImages rest

/-- The images of the fields, in order and under the same names. -/
def fieldImages : List (String × JsonValue) → List (String × Value)
  | [] => []
  | (name, value) :: rest => (name, value.image) :: fieldImages rest

end

/-- An item is no higher than the highest. -/
theorem height_le_itemsHeight {items : List JsonValue} {value : JsonValue}
    (stored : value ∈ items) : value.height ≤ itemsHeight items := by
  induction items with
  | nil => cases stored
  | cons item rest ih =>
      rw [itemsHeight]
      rcases List.mem_cons.mp stored with rfl | later
      · exact Nat.le_max_left _ _
      · exact Nat.le_trans (ih later) (Nat.le_max_right _ _)

/-- A field is no higher than the highest. -/
theorem height_le_fieldsHeight {fields : List (String × JsonValue)} {name : String}
    {value : JsonValue} (stored : (name, value) ∈ fields) :
    value.height ≤ fieldsHeight fields := by
  induction fields with
  | nil => cases stored
  | cons field rest ih =>
      obtain ⟨other, first⟩ := field
      rw [fieldsHeight]
      rcases List.mem_cons.mp stored with same | later
      · obtain ⟨rfl, rfl⟩ := Prod.mk.inj same
        exact Nat.le_max_left _ _
      · exact Nat.le_trans (ih later) (Nat.le_max_right _ _)

/-- A container is higher than what it holds. -/
theorem Holds.height_lt {outer inner : JsonValue} (holds : outer.Holds inner) :
    inner.height < outer.height := by
  cases holds with
  | item stored =>
      rw [height.eq_def (.array _)]
      exact Nat.lt_succ_of_le (height_le_itemsHeight stored)
  | field stored =>
      rw [height.eq_def (.object _)]
      exact Nat.lt_succ_of_le (height_le_fieldsHeight stored)

/-- No way down is longer than the value is high. -/
theorem IsPath.length_le {value : JsonValue} {path : List JsonValue} (isPath : value.IsPath path) :
    path.length ≤ value.height := by
  induction isPath with
  | @enter outer opens =>
      cases outer with
      | array items => exact Nat.succ_pos _
      | object fields => exact Nat.succ_pos _
      | _ => cases opens
  | down holds _ ih => exact Nat.lt_of_le_of_lt ih holds.height_lt

/-- What holds a way down of every length up to a positive height has one that is one longer. -/
theorem exists_isPath_of_holds {outer : JsonValue} (opens : outer.isContainer = true) {below : Nat}
    (deepest : below ≠ 0 →
      ∃ inner, outer.Holds inner ∧ ∃ path, inner.IsPath path ∧ path.length = below) :
    ∃ path, outer.IsPath path ∧ path.length = below + 1 := by
  by_cases flat : below = 0
  · exact ⟨[outer], .enter opens, by rw [flat]; rfl⟩
  · obtain ⟨inner, holds, path, isPath, length⟩ := deepest flat
    exact ⟨outer :: path, .down holds isPath, congrArg Nat.succ length⟩

mutual

/-- Some way down is as long as the value is high. -/
theorem exists_isPath : ∀ value : JsonValue, value.height ≠ 0 →
    ∃ path, value.IsPath path ∧ path.length = value.height
  | .null, high | .bool _, high | .number _, high | .string _, high => absurd rfl high
  | .array items, _ => exists_isPath_of_holds rfl fun filled => by
      obtain ⟨value, stored, deepest⟩ := exists_item_isPath items filled
      exact ⟨value, .item stored, deepest⟩
  | .object fields, _ => exists_isPath_of_holds rfl fun filled => by
      obtain ⟨name, value, stored, deepest⟩ := exists_field_isPath fields filled
      exact ⟨value, .field stored, deepest⟩

theorem exists_item_isPath : ∀ items : List JsonValue, itemsHeight items ≠ 0 →
    ∃ value ∈ items, ∃ path, value.IsPath path ∧ path.length = itemsHeight items
  | [], filled => absurd rfl filled
  | item :: rest, filled => by
      rw [itemsHeight] at filled ⊢
      rcases Nat.le_total (itemsHeight rest) item.height with first | later
      · rw [Nat.max_eq_left first] at filled ⊢
        exact ⟨item, List.mem_cons_self, exists_isPath item filled⟩
      · rw [Nat.max_eq_right later] at filled ⊢
        obtain ⟨value, stored, deepest⟩ := exists_item_isPath rest filled
        exact ⟨value, List.mem_cons_of_mem item stored, deepest⟩

theorem exists_field_isPath : ∀ fields : List (String × JsonValue), fieldsHeight fields ≠ 0 →
    ∃ name value, (name, value) ∈ fields ∧
      ∃ path, value.IsPath path ∧ path.length = fieldsHeight fields
  | [], filled => absurd rfl filled
  | (name, value) :: rest, filled => by
      rw [fieldsHeight] at filled ⊢
      rcases Nat.le_total (fieldsHeight rest) value.height with first | later
      · rw [Nat.max_eq_left first] at filled ⊢
        exact ⟨name, value, List.mem_cons_self, exists_isPath value filled⟩
      · rw [Nat.max_eq_right later] at filled ⊢
        obtain ⟨other, deep, stored, deepest⟩ := exists_field_isPath rest filled
        exact ⟨other, deep, List.mem_cons_of_mem _ stored, deepest⟩

end

/-- No way down below the fields of an object passes through more containers than the limit. -/
def ShallowBelow (limit : Nat) (fields : List (String × JsonValue)) : Prop :=
  ∀ name value, (name, value) ∈ fields → ∀ path, value.IsPath path → path.length ≤ limit

/-- The height of the fields says how long the ways down below them are. -/
theorem shallowBelow_iff {limit : Nat} {fields : List (String × JsonValue)} :
    ShallowBelow limit fields ↔ fieldsHeight fields ≤ limit := by
  constructor
  · intro shallow
    by_cases flat : fieldsHeight fields = 0
    · exact flat ▸ Nat.zero_le limit
    · obtain ⟨name, value, stored, path, isPath, length⟩ := exists_field_isPath fields flat
      exact length ▸ shallow name value stored path isPath
  · intro low name value stored path isPath
    exact Nat.le_trans isPath.length_le (Nat.le_trans (height_le_fieldsHeight stored) low)

end HtmlTemplate.Json.JsonValue
