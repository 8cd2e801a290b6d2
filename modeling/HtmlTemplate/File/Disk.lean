/-
# Looking at files

What a program sees of the file system is the answer to one question: what is at this path?
A disk is anything that answers it. A file that is there need not be readable; looking it up
and reading it can fail separately. Reading a text asks for a file and for valid UTF-8.
-/

namespace HtmlTemplate.File

/-- Why there is no answer, or no text. -/
inductive AccessError where
  | notFound
  | notADirectory
  | isADirectory
  | nameTooLong
  | nulInName
  | invalidText
  | other (words : String)
  deriving DecidableEq, Repr

namespace AccessError

/-- The operating system's words for an error. -/
def message : AccessError → String
  | .notFound => "No such file or directory (os error 2)"
  | .notADirectory => "Not a directory (os error 20)"
  | .isADirectory => "Is a directory (os error 21)"
  | .nameTooLong => "File name too long (os error 36)"
  | .nulInName => "file name contained an unexpected NUL byte"
  | .invalidText => "stream did not contain valid UTF-8"
  | .other words => words

end AccessError

/-- What there is at a path. -/
inductive Entry where
  | file (content : ByteArray)
  /-- A file that is there, but cannot be opened or read. -/
  | sealed (error : AccessError)
  | directory

/-- What there is at the path of the given text. -/
abbrev Disk := String → Except AccessError Entry

namespace Disk

/-- The text of the file at a path. -/
def readText (disk : Disk) (path : String) : Except AccessError String :=
  match disk path with
  | .error error => .error error
  | .ok .directory => .error .isADirectory
  | .ok (.sealed error) => .error error
  | .ok (.file content) =>
      match String.fromUTF8? content with
      | some text => .ok text
      | none => .error .invalidText

end Disk

end HtmlTemplate.File
