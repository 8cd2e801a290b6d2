/-
# Errors of rendering

Rendering fails when the arguments are not plain finite data, or when a variable of the
template has no argument. An error says which, names the template, and where it can the
argument that is to blame.
-/

namespace HtmlTemplate.Render

/-- Why rendering failed. -/
inductive Cause where
  /-- The arguments as a whole are not a plain object. -/
  | invalidArguments (payload : String)
  | invalidArgument (key message : String)
  /-- A property is named by something other than a string. -/
  | invalidKey (key : String)
  /-- A value is of a type that cannot be shown. -/
  | invalidValue (key typeName : String) (note : Option String)
  | uninspectable (key : String)
  | cyclicReference
  | nestingTooDeep (key : String) (limit : Nat)
  | missingArgument (name : String)
  deriving DecidableEq, Repr

/-- A failure to render the template of the given file. -/
structure Error where
  file : String
  cause : Cause
  deriving DecidableEq, Repr

namespace Cause

/-- A property that would run code when it is read. -/
def accessorProperty (key : String) : Cause :=
  .invalidArgument key
    ("Usage of getters/setters detected, which is not allowed. Only plain, stable " ++
      "data without dynamic properties may be used.")

/-- Whether the arguments are to blame, and not the lack of one. -/
def isArgumentError : Cause → Bool
  | .missingArgument _ => false
  | _ => true

/-- Attach a note. Only the report of an invalid value has room for one. -/
def withNote (cause : Cause) (note : String) : Cause :=
  match cause with
  | .invalidValue key typeName _ => .invalidValue key typeName (some note)
  | other => other

/-- The sentence most reports of an argument begin with; `shown` is the argument's name. -/
def foundInvalid (file shown : String) : String :=
  s!"Found invalid argument {shown} passed to render for template '{file}'\n\n"

/-- The cause in words, for the template of the given file. -/
def message (file : String) : Cause → String
  | .invalidArguments payload =>
      s!"Invalid arguments passed to render for template '{file}': {payload}\n\n" ++
        "Expected a plain object mapping variable names to values.\n\n" ++
        "Note: Only the following datatypes are allowed for values: null, boolean, " ++
        "number, string, array, or object."
  | .invalidArgument key message => foundInvalid file s!"'{key}'" ++ message
  | .invalidKey key =>
      foundInvalid file key ++
        "Invalid argument type: property keys must be strings. Each key is a variable name."
  | .invalidValue key typeName note =>
      foundInvalid file s!"'{key}'" ++
        s!"Value is of an invalid type '{typeName}'. Value must be one of the following " ++
        "valid datatypes: null, boolean, number, string, array, or object." ++
        match note with
        | some note => "\n\nNote: " ++ note
        | none => ""
  | .uninspectable key =>
      s!"Invalid argument '{key}' passed to render for template '{file}'\n\n" ++
        "The property could not be safely inspected, most likely because it was being " ++
        "mutated during render. Only plain, stable data is supported."
  | .cyclicReference =>
      "A cyclic reference was detected while processing arguments passed to render " ++
        s!"for template '{file}'"
  | .nestingTooDeep key limit =>
      foundInvalid file s!"'{key}'" ++
        s!"Arrays and objects may be nested at most {limit} levels deep."
  | .missingArgument name => s!"Missing required arg '{name}' to render template '{file}'."

end Cause

namespace Error

/-- The failure in words. -/
def message (error : Error) : String := error.cause.message error.file

/-- Whether the arguments are to blame, and not the lack of one. -/
def isArgumentError (error : Error) : Bool := error.cause.isArgumentError

end Error

end HtmlTemplate.Render
