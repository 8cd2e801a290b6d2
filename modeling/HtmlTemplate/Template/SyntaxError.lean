/-
# Syntax errors

A source is refused at the first place where it cannot be read. The error says where that
is, what is wrong, and which text was found there.
-/

import HtmlTemplate.Template.Location
import HtmlTemplate.Text.Quoted

namespace HtmlTemplate.Template

open Text

/-- What is wrong with a source. -/
inductive SyntaxFault where
  /-- The introducing sign is followed by neither a name nor a second sign. -/
  | invalidEscape (got : String)
  | other (detail : String)
  deriving DecidableEq, Repr

namespace SyntaxFault

/-- The fault in words, without its place. -/
def detail : SyntaxFault → String
  | .invalidEscape got =>
      s!"Invalid html escape sequence: Expected identifier after '@', got '{Quoted.bare got}'." ++
        "\n\nHint: To display a literal '@' in html, use '@@'."
  | .other detail => detail

end SyntaxFault

/-- A fault at a place in a source. -/
structure SyntaxError where
  fault : SyntaxFault
  location : Location
  found : Option String
  deriving DecidableEq, Repr

namespace SyntaxError

/-- The introducing sign stands at `location` and `found` is the grapheme after it. -/
def invalidEscape (found : String) (location : Location) : SyntaxError :=
  ⟨.invalidEscape found, location, some found⟩

/-- An error in words of its own, with nothing quoted from the source. -/
def withDetail (detail : String) (location : Location) : SyntaxError :=
  ⟨.other detail, location, none⟩

/-- The same error, quoting the given text from the source. -/
def withFound (error : SyntaxError) (found : String) : SyntaxError :=
  { error with found := some found }

/-- The fault in words. -/
def detail (error : SyntaxError) : String := error.fault.detail

/-- Place and fault, as they are reported. -/
def message (error : SyntaxError) : String :=
  s!"{error.location.display}\n\nSyntaxError: {error.detail}"

end SyntaxError

end HtmlTemplate.Template
