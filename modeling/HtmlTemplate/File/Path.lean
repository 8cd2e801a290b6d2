/-
# Paths

An absolute path is the list of the names on the way down from the top. A path text is read
segment by segment: empty segments and single dots change nothing, two dots go up and stay
at the top, and every other segment goes down. Nothing is looked up on the way, so two
texts that lead to the same names are the same path.
-/

namespace HtmlTemplate.File

/-- Cut a text at every slash. There is one segment more than there are slashes. -/
def splitSlash : List Char → List (List Char)
  | [] => [[]]
  | c :: rest =>
      if c = '/' then [] :: splitSlash rest
      else match splitSlash rest with
        | [] => [[c]]
        | segment :: others => (c :: segment) :: others

/-- The segments of a path text. -/
def segments (text : String) : List String :=
  (splitSlash text.toList).map String.ofList

/-- Whether a path text starts from the top. -/
def isAbsolute (text : String) : Bool := text.toList.head? = some '/'

/-- An absolute path without detours. -/
structure Path where
  names : List String
  deriving DecidableEq, Hashable, Repr

namespace Path

/-- The top of the file system. -/
def top : Path := ⟨[]⟩

/-- Follow one segment. -/
def step (path : Path) (segment : String) : Path :=
  if segment = "" ∨ segment = "." then path
  else if segment = ".." then ⟨path.names.dropLast⟩
  else ⟨path.names ++ [segment]⟩

/-- Follow a path text. An absolute one starts over from the top. -/
def follow (path : Path) (text : String) : Path :=
  (segments text).foldl step (if isAbsolute text then top else path)

/-- The path that an absolute text leads to. -/
def ofText (text : String) : Path := top.follow text

/-- The path as text. -/
def text (path : Path) : String := "/" ++ "/".intercalate path.names

/-- Whether the path is the given directory or lies below it. -/
def isWithin (path directory : Path) : Bool := directory.names.isPrefixOf path.names

end Path

end HtmlTemplate.File
