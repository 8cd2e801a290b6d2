/-
# Reading a command line

The words of a line are read from left to right: first the options of the whole program up
to the command, then the options and the file of that command. The value of an option may
be attached to it or follow as the next word; then it is looked at only when the next
option or file arrives or the line ends, so an earlier fault of the line may go unreported
in favour of a later one. After two dashes every word is plain.
-/

import HtmlTemplate.Command.Invocation

namespace HtmlTemplate.Command

/-- A word of a line by its form. -/
inductive Word where
  /-- Two dashes and nothing else. -/
  | dashes
  /-- Two dashes and a name, and a value after an equals sign. -/
  | long (name : String) (value : Option String)
  /-- One dash and letters. The last of them may be the value of an option. -/
  | letters (letters : List Char)
  | plain
  deriving DecidableEq, Repr

namespace Word

/-- A name and what follows the first equals sign. -/
def splitEquals (text : List Char) : String × Option String :=
  let name := text.takeWhile (· ≠ '=')
  (String.ofList name,
    match text.drop name.length with
    | [] => none
    | _ :: value => some (String.ofList value))

/-- The form of a word. A single dash is plain. -/
def ofText (text : String) : Word :=
  match text.toList with
  | ['-', '-'] => .dashes
  | '-' :: '-' :: rest =>
      let (name, value) := splitEquals rest
      .long name value
  | '-' :: c :: rest => .letters (c :: rest)
  | _ => .plain

end Word

/-- Options that take a value. -/
inductive Setting where
  | root
  | args
  | argsFile
  deriving DecidableEq, Repr

namespace Setting

/-- Whether the empty text is a value. It is no path. -/
def allowsEmpty : Setting → Bool
  | .args => true
  | .root | .argsFile => false

end Setting

/-- Options that take no value. -/
inductive Switch where
  | verbose
  | help
  | version
  deriving DecidableEq, Repr

/-- An option of either kind. -/
inductive CommandOption where
  | setting (setting : Setting)
  | switch (switch : Switch)
  deriving DecidableEq, Repr

/-- The part of a line that is being read: the whole program's, or that of a command. -/
inductive Scope where
  | program
  | task (task : Task)
  deriving DecidableEq, Repr

namespace Scope

/-- The option of a long name. -/
def long? : Scope → String → Option CommandOption
  | .program, "root" => some (.setting .root)
  | .program, "verbose" => some (.switch .verbose)
  | .program, "version" => some (.switch .version)
  | .task .render, "args" => some (.setting .args)
  | .task .render, "args-file" => some (.setting .argsFile)
  | _, "help" => some (.switch .help)
  | _, _ => none

/-- The option of a letter. -/
def letter? : Scope → Char → Option CommandOption
  | .program, 'r' => some (.setting .root)
  | .program, 'v' => some (.switch .verbose)
  | .program, 'V' => some (.switch .version)
  | _, 'h' => some (.switch .help)
  | _, _ => none

end Scope

/-- What the options of one scope have come to. The option that takes the next plain word,
or took the last one, is open: nothing has been checked about it. -/
structure Progress where
  scope : Scope
  verbose : Bool
  settings : List (Setting × String)
  opened : Option (Setting × Option String)
  deriving DecidableEq, Repr

namespace Progress

/-- Nothing read. -/
def start (scope : Scope) : Progress := ⟨scope, false, [], none⟩

/-- The value of a checked option. -/
def value? (progress : Progress) (setting : Setting) : Option String :=
  progress.settings.lookup setting

/-- Check an option and its value. -/
def settle (progress : Progress) (setting : Setting) :
    Option String → Except UsageError Progress
  | none => .error .badValue
  | some value =>
      if (progress.value? setting).isSome then .error .conflict
      else if value = "" ∧ setting.allowsEmpty = false then .error .badValue
      else .ok { progress with settings := (setting, value) :: progress.settings }

/-- Check the open option. -/
def close (progress : Progress) : Except UsageError Progress :=
  match progress.opened with
  | none => .ok progress
  | some (setting, value) => { progress with opened := none }.settle setting value

/-- Take a plain word as the value of the open option, if it waits for one. -/
def fill? (progress : Progress) (value : String) : Option Progress :=
  match progress.opened with
  | some (setting, none) => some { progress with opened := some (setting, some value) }
  | _ => none

/-- Read an option that takes a value, which may be attached to it. -/
def readSetting (progress : Progress) (setting : Setting) (attached : Option String) :
    Except UsageError Progress := do
  let progress ← progress.close
  match attached with
  | some value => progress.settle setting value
  | none => return { progress with opened := some (setting, none) }

/-- Read an option that takes no value. -/
def readSwitch (progress : Progress) (switch : Switch) : Except UsageError Progress := do
  let progress ← progress.close
  match switch with
  | .help => throw .helpWanted
  | .version => throw .versionWanted
  | .verbose =>
      if progress.verbose then throw .conflict
      return { progress with verbose := true }

/-- Read an option by its long name. -/
def readLong (progress : Progress) (name : String) (value : Option String) :
    Except UsageError Progress :=
  match progress.scope.long? name, value with
  | none, _ => .error .unknownArgument
  | some (.setting setting), value => progress.readSetting setting value
  | some (.switch _), some _ => .error .valueNotTaken
  | some (.switch switch), none => progress.readSwitch switch

/-- The value that is attached to the letter of an option. An equals sign may stand
before it. -/
def attachedValue : List Char → Option String
  | [] => none
  | '=' :: rest => some (String.ofList rest)
  | rest => some (String.ofList rest)

/-- Read options by their letters. -/
def readLetters (progress : Progress) : List Char → Except UsageError Progress
  | [] => .ok progress
  | c :: rest =>
      match progress.scope.letter? c with
      | none => .error .unknownArgument
      | some (.setting setting) => progress.readSetting setting (attachedValue rest)
      | some (.switch switch) =>
          match progress.readSwitch switch with
          | .error error => .error error
          | .ok progress => progress.readLetters rest

end Progress

/-! ### The part after the command -/

/-- The file of a command: there is at most one. -/
def readFile (progress : Progress) (file : Option String) (word : String) :
    Except UsageError (Progress × Option String) :=
  match file with
  | some _ => .error .unknownArgument
  | none => progress.close.map fun progress => (progress, some word)

/-- Read plain words. -/
def readPlain (progress : Progress) (file : Option String) :
    List String → Except UsageError (Progress × Option String)
  | [] => .ok (progress, file)
  | word :: rest => do
      let (progress, file) ← readFile progress file word
      readPlain progress file rest

/-- Read the words after a command. -/
def readWords (progress : Progress) (file : Option String) :
    List String → Except UsageError (Progress × Option String)
  | [] => .ok (progress, file)
  | word :: rest =>
      match Word.ofText word with
      | .dashes => readPlain progress file rest
      | .long name value => do readWords (← progress.readLong name value) file rest
      | .letters letters => do readWords (← progress.readLetters letters) file rest
      | .plain =>
          match progress.fill? word with
          | some progress => readWords progress file rest
          | none => do
              let (progress, file) ← readFile progress file word
              readWords progress file rest

/-- Where the arguments come from. One way excludes the other. -/
def argumentSource (progress : Progress) : Except UsageError ArgumentSource :=
  match progress.value? .args, progress.value? .argsFile with
  | none, none => .ok .nowhere
  | some json, none => .ok (.inline json)
  | none, some path => .ok (.file path)
  | some _, some _ => .error .conflict

/-- Read the part of a line after a command. -/
def readRequest (task : Task) (words : List String) : Except UsageError Request := do
  let (progress, file) ← readWords (.start (.task task)) none words
  let arguments ← argumentSource (← progress.close)
  let some file := file | throw .missingFile
  match task with
  | .render => return .render file arguments
  | .tokens => return .tokens file
  | .bytecode => return .bytecode file

/-! ### The whole line -/

/-- The word that asks for help as a command does. -/
def helpWord : String := "help"

/-- Whether a word stands in the place of a command. -/
def isCommandWord (word : String) : Bool := word = helpWord || (Task.ofWord? word).isSome

/-- What asking for help about something comes to: commands have no commands of their own. -/
def helpAbout : List String → UsageError
  | [] => .helpWanted
  | [topic] => if isCommandWord topic then .helpWanted else .unknownCommand
  | _ => .unknownCommand

/-- The directory of the templates: the line's own, or else the environment's. -/
def rootOf (progress : Progress) (inherited : Option String) :
    Except UsageError (Option String) :=
  match progress.value? .root, inherited with
  | some root, _ => .ok (some root)
  | none, some "" => .error .badValue
  | none, inherited => .ok inherited

/-- The end of a line without a command. -/
def withoutCommand (inherited : Option String) (progress : Progress) : UsageError :=
  match (do rootOf (← progress.close) inherited) with
  | .error error => error
  | .ok none => if progress.verbose then .missingCommand else .nothingGiven
  | .ok (some _) => .missingCommand

/-- The end of a line after a command. -/
def withCommand (inherited : Option String) (progress : Progress) (task : Task)
    (words : List String) : Except UsageError Invocation := do
  let request ← readRequest task words
  let root ← rootOf (← progress.close) inherited
  return ⟨root, request⟩

/-- What is wrong with a line whose first part has two dashes, given the words after them. -/
def afterDashes (inherited : Option String) (progress : Progress) : List String → UsageError
  | [] => withoutCommand inherited progress
  | word :: _ => if isCommandWord word then .unknownArgument else .unknownCommand

/-- Read the words of a line. -/
def readLine (inherited : Option String) (progress : Progress) :
    List String → Except UsageError Invocation
  | [] => .error (withoutCommand inherited progress)
  | word :: rest =>
      match Word.ofText word with
      | .dashes => .error (afterDashes inherited progress rest)
      | .long name value => do readLine inherited (← progress.readLong name value) rest
      | .letters letters => do readLine inherited (← progress.readLetters letters) rest
      | .plain =>
          match progress.fill? word with
          | some progress => readLine inherited progress rest
          | none =>
              if word = helpWord then .error (helpAbout rest)
              else match Task.ofWord? word with
                | some task => withCommand inherited progress task rest
                | none => .error .unknownCommand

namespace Invocation

/-- Read the words of a command line, given the directory that the environment names. -/
def ofWords (inherited : Option String) (words : List String) : Except UsageError Invocation :=
  readLine inherited (.start .program) words

end Invocation

end HtmlTemplate.Command
