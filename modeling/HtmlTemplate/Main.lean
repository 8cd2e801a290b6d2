/-
# The program

The thin layer around reading a command line and computing what its command prints: it
looks at the files that the command may need, prints the result, and ends with a failure if
there is none.
-/

import HtmlTemplate.Command.Line
import HtmlTemplate.Command.Output

namespace HtmlTemplate.Main

open File

/-- The variable of the environment that names the directory of the templates. -/
def rootVariable : String := "HTL_ROOT_DIR"

/-- The kind of a failed look at a file. -/
def accessError : IO.Error → AccessError
  | .noFileOrDirectory .. => .notFound
  | .inappropriateType _ 21 _ => .isADirectory
  | .inappropriateType _ 20 _ => .notADirectory
  | error => .other (toString error)

/-- Whether a path can be looked up, without opening what is there. -/
def isThere (path : String) : IO Bool := do
  try
    discard (IO.FS.realPath path)
    return true
  catch _ => return false

/-- Look at a path. -/
def lookAt (path : String) : IO (Except AccessError Entry) := do
  if path.toList.contains '\x00' then return .error .nulInName
  try
    return .ok (.file (← IO.FS.readBinFile path))
  catch error =>
    match accessError error with
    | .isADirectory => return .ok .directory
    | error =>
        if ← isThere path then return .ok (.sealed error)
        else return .error error

/-- The disk as far as the given paths go. -/
def diskOf (paths : List String) : IO Disk := do
  let seen ← paths.mapM fun path => return (path, ← lookAt path)
  return fun path => (seen.lookup path).getD (.error .notFound)

/-- Print a message for the user, and fail. -/
def fail (message : String) (code : UInt32) : IO UInt32 := do
  IO.eprintln message
  return code

/-- Do what a command line asks for. -/
def run (words : List String) : IO UInt32 := do
  match Command.Invocation.ofWords (← IO.getEnv rootVariable) words with
  | .error error =>
      if error.isQuestion then
        IO.println error.message
        return 0
      else fail error.message 2
  | .ok invocation =>
      let workingDirectory := (← IO.currentDir).toString
      let disk ← diskOf (invocation.paths workingDirectory)
      match invocation.output disk workingDirectory with
      | .error error => fail error.message 1
      | .ok text =>
          IO.print text
          return 0

end HtmlTemplate.Main

/-- Run the program on the words of its command line. -/
def main (words : List String) : IO UInt32 := HtmlTemplate.Main.run words
