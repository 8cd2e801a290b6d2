/-
# Values

The data that a template can show: null, booleans, numbers, strings, lists, and objects
with named fields in order. Values are finite trees. A value is shown by its text, in which
the strings inside lists and objects carry no quotes.
-/

import HtmlTemplate.Decimal.Layout

namespace HtmlTemplate

/-- A value that can be shown. The fields of an object have distinct names. -/
inductive Value where
  | null
  | bool (value : Bool)
  | number (value : Float)
  | string (value : String)
  | array (items : List Value)
  | object (fields : List (String × Value))
  deriving Inhabited

namespace Value

/-- The name of a value's type. -/
def typeName : Value → String
  | .null => "null"
  | .bool _ => "boolean"
  | .number _ => "number"
  | .string _ => "string"
  | .array _ => "array"
  | .object _ => "object"

/-- Whether the value is null. -/
def isNull : Value → Bool
  | .null => true
  | _ => false

/-- Whether the value is made of other values. -/
def isComposite : Value → Bool
  | .array _ | .object _ => true
  | _ => false

/-- The boolean, if the value is one. -/
def bool? : Value → Option Bool
  | .bool value => some value
  | _ => none

/-- The number, if the value is one. -/
def number? : Value → Option Float
  | .number value => some value
  | _ => none

/-- The string, if the value is one. -/
def string? : Value → Option String
  | .string value => some value
  | _ => none

/-- The items, if the value is a list. -/
def items? : Value → Option (List Value)
  | .array items => some items
  | _ => none

/-- The fields, if the value is an object. -/
def fields? : Value → Option (List (String × Value))
  | .object fields => some fields
  | _ => none

/-- The text of a list whose items have the given texts. -/
def listText (items : List String) : String :=
  "[" ++ ", ".intercalate items ++ "]"

/-- The text of an object whose fields have the given texts. -/
def objectText (fields : List String) : String :=
  "\x7b " ++ ", ".intercalate fields ++ " \x7d"

/-- The text of a field. -/
def fieldText (name value : String) : String := name ++ ": " ++ value

mutual

/-- The text of a value. -/
def display : Value → String
  | .null => "null"
  | .bool value => if value then "true" else "false"
  | .number value => Decimal.formatNumber value
  | .string value => value
  | .array items => listText (displayItems items)
  | .object fields => objectText (displayFields fields)

/-- The texts of the items of a list. -/
def displayItems : List Value → List String
  | [] => []
  | item :: rest => item.display :: displayItems rest

/-- The texts of the fields of an object. -/
def displayFields : List (String × Value) → List String
  | [] => []
  | (name, value) :: rest => fieldText name value.display :: displayFields rest

end

mutual

/-- Equality of values. Numbers are compared as numbers, so the zeros are equal and what is
not a number equals nothing; objects are compared without regard to the order of fields. -/
def equal : Value → Value → Bool
  | .null, .null => true
  | .bool a, .bool b => a == b
  | .number a, .number b => a == b
  | .string a, .string b => a == b
  | .array as, .array bs => equalItems as bs
  | .object as, .object bs => as.length == bs.length && fieldsFound as bs
  | _, _ => false

/-- Equality of lists, item by item. -/
def equalItems : List Value → List Value → Bool
  | [], [] => true
  | a :: as, b :: bs => a.equal b && equalItems as bs
  | _, _ => false

/-- Whether each field on the left has an equal field of the same name on the right. -/
def fieldsFound : List (String × Value) → List (String × Value) → Bool
  | [], _ => true
  | (name, a) :: as, bs =>
      match bs.lookup name with
      | some b => a.equal b && fieldsFound as bs
      | none => false

end

end Value

end HtmlTemplate
