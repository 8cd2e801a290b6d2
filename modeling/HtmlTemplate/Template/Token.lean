/-
# Tokens

A template source is a sequence of literal markup and variable references. The text of a
literal is what it contributes to the output, and the text of a reference is the bare name.
-/

import HtmlTemplate.Template.Location
import HtmlTemplate.Text.Quoted

namespace HtmlTemplate.Template

open Text

/-- What a token stands for. -/
inductive TokenKind where
  | html
  | var
  deriving DecidableEq, Repr

namespace TokenKind

/-- The word for a kind of token in listings. -/
def name : TokenKind → String
  | .html => "html"
  | .var => "var"

end TokenKind

/-- A token and the place where its source text begins. -/
structure Token where
  kind : TokenKind
  text : String
  location : Location
  deriving DecidableEq, Repr

namespace Token

/-- Literal markup. -/
def html (text : String) (location : Location) : Token := ⟨.html, text, location⟩

/-- A reference to the variable of the given name. -/
def var (name : String) (location : Location) : Token := ⟨.var, name, location⟩

/-- The token as a source would spell it, but for doubled signs in literals. -/
def sourceText (token : Token) : String :=
  match token.kind with
  | .html => token.text
  | .var => "@" ++ token.text

/-- Place, kind and quoted text on one line. -/
def display (token : Token) : String :=
  s!"{token.location.display} {token.kind.name} {Quoted.quote token.text}"

end Token

end HtmlTemplate.Template
