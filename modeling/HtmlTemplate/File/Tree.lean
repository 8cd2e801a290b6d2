/-
# Files in memory

A tree of directories that answers like a file system without links. Unlike the reading of
a path text alone, a look-up goes through every directory that the text names, even if the
next segment leads back out of it.
-/

import HtmlTemplate.File.Path
import HtmlTemplate.File.Disk
import HtmlTemplate.Data.OrderedMap

namespace HtmlTemplate.File

/-- A file, or a directory with its entries. -/
inductive Tree where
  | file (content : ByteArray)
  | directory (entries : List (String × Tree))
  deriving Inhabited

namespace Tree

/-- A directory without entries. -/
def empty : Tree := .directory []

/-- The longest name that a directory can hold, in bytes. -/
def maxNameSize : Nat := 255

/-- The least size in bytes of a path text that is refused. -/
def pathSizeLimit : Nat := 4096

/-- What the tree shows of itself. -/
def entry : Tree → Entry
  | .file content => .file content
  | .directory _ => .directory

/-- Go on from `here` along segments; `above` are the directories around it, the innermost
first. Whatever the next segment is, only a directory can be gone on from. -/
def walk (above : List Tree) (here : Tree) : List String → Except AccessError Tree
  | [] => .ok here
  | segment :: rest =>
      match here with
      | .file _ => .error .notADirectory
      | .directory entries =>
          if segment = "" ∨ segment = "." then walk above here rest
          else if segment = ".." then
            match above with
            | [] => walk [] here rest
            | parent :: others => walk others parent rest
          else if maxNameSize < segment.utf8ByteSize then .error .nameTooLong
          else match entries.lookup segment with
            | none => .error .notFound
            | some child => walk (here :: above) child rest

/-- What there is at a path. A relative one is taken from the given directory. -/
def disk (tree : Tree) (workingDirectory : String) : Disk := fun path =>
  if path.toList.contains '\x00' then .error .nulInName
  else if path = "" then .error .notFound
  else if pathSizeLimit ≤ path.utf8ByteSize then .error .nameTooLong
  else
    let full := if isAbsolute path then path else workingDirectory ++ "/" ++ path
    (walk [] tree (segments full)).map entry

/-- What a place holds after a file or a directory was put there. What is of the other kind
stays as it is. -/
def overwrite (content : Option ByteArray) : Option Tree → Tree
  | some (.directory entries) => .directory entries
  | some (.file old) => .file (content.getD old)
  | none =>
      match content with
      | some bytes => .file bytes
      | none => empty

/-- What a place holds after a file or a directory was put below it, with the directories on
the way. Nothing can be put below a file. -/
def putBelow (content : Option ByteArray) : List String → Option Tree → Tree
  | [], old => overwrite content old
  | _ :: _, some (.file bytes) => .file bytes
  | name :: rest, some (.directory entries) =>
      .directory (Data.setEntry name (putBelow content rest (entries.lookup name)) entries)
  | name :: rest, none => .directory [(name, putBelow content rest none)]

/-- Put a file or a directory at a place. -/
def put (tree : Tree) (content : Option ByteArray) (names : List String) : Tree :=
  putBelow content names (some tree)

/-- Take away what is at a place. -/
def remove : List String → Tree → Tree
  | [], tree => tree
  | _, .file bytes => .file bytes
  | [name], .directory entries => .directory (entries.filter (·.1 ≠ name))
  | name :: rest, .directory entries =>
      match entries.lookup name with
      | some child => .directory (Data.setEntry name (remove rest child) entries)
      | none => .directory entries

end Tree

end HtmlTemplate.File
