/-
# Options of an engine

An engine needs a directory to find its templates in. It is named once, and a later setting
replaces an earlier one.
-/

import HtmlTemplate.File.Path

namespace HtmlTemplate.Engine

open File

/-- Why options are refused. -/
inductive OptionsError where
  | missingOption (key : String)
  | badOption (key value reason : String)
  deriving DecidableEq, Repr

namespace OptionsError

/-- The refusal in words. -/
def message : OptionsError → String
  | .missingOption key => s!"Missing required option '{key}'."
  | .badOption key value reason => s!"Invalid value for option '{key}': '{value}'\n\n{reason}"

end OptionsError

/-- Checked options: the directory as it was given, which is absolute. -/
structure Options where
  rootDir : String
  isAbsolute_rootDir : isAbsolute rootDir = true

namespace Options

/-- The name of the option for the directory. -/
def rootKey : String := "root_dir"

/-- Check a directory. -/
def ofRoot (root : String) : Except OptionsError Options :=
  if root = "" then .error (.badOption rootKey root s!"'{rootKey}' must not be empty.")
  else if h : isAbsolute root = true then .ok ⟨root, h⟩
  else .error (.badOption rootKey root s!"'{rootKey}' must be an absolute path!")

/-- Check the settings of the directory in the order in which they were made. -/
def ofSettings (roots : List String) : Except OptionsError Options :=
  match roots.getLast? with
  | none => .error (.missingOption rootKey)
  | some root => ofRoot root

end Options

end HtmlTemplate.Engine
