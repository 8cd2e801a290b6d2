/-
# Where templates come from

A provider turns the identifier of a file into the text of a template. The one for files
stays below its root directory, whatever the identifier says, and remembers every text that
it has read: a path that was read once is never read again. Failures are not remembered.
-/

import HtmlTemplate.Engine.Options
import HtmlTemplate.File.Disk
import HtmlTemplate.Data.OrderedMap
import Std.Data.HashMap

namespace HtmlTemplate.Engine

open File

/-- Why there is no template text. -/
inductive SourceError where
  | outsideRoot (path : Path)
  | inaccessible (path : Path)
  | notAFile (path : Path)
  | unreadable (path : Path)
  | notFound (file : String)
  deriving DecidableEq, Repr

namespace SourceError

/-- The failure in words. -/
def message : SourceError → String
  | .outsideRoot path =>
      s!"Access denied: File '{path.text}' is outside the configured root directory. " ++
        "The sandboxing security policy forbids this."
  | .inaccessible path =>
      s!"Failed to access path '{path.text}'. Please ensure the file exists and the app has " ++
        "permission to access it."
  | .notAFile path => s!"Path '{path.text}' is not a file."
  | .unreadable path => s!"Unable to read file '{path.text}'."
  | .notFound file => s!"Template '{file}' not found."

end SourceError

/-- Something that supplies texts by the identifier of a file, and may remember things. -/
structure Provider (σ : Type) where
  getText : String → σ → Except SourceError String × σ

namespace Provider

/-- The same provider, which also counts how often it is asked. -/
def counted {σ : Type} (provider : Provider σ) : Provider (σ × Nat) where
  getText file state :=
    let (answer, next) := provider.getText file state.1
    (answer, (next, state.2 + 1))

end Provider

/-- Texts kept in memory by the identifiers of their files. -/
abbrev MemorySource := List (String × String)

namespace MemorySource

/-- Supply the text of a file, or replace it. -/
def put (texts : MemorySource) (file text : String) : MemorySource :=
  Data.setEntry file text texts

/-- The provider of texts in memory. -/
def provider : Provider MemorySource where
  getText file texts :=
    match texts.lookup file with
    | some text => (.ok text, texts)
    | none => (.error (.notFound file), texts)

end MemorySource

/-- A text that was read. The serial number tells one reading from another. -/
structure LoadedText where
  serial : Nat
  text : String
  deriving DecidableEq, Repr

/-- Templates below a directory, and the texts that were read so far. -/
structure FileSource where
  root : Path
  texts : Std.HashMap Path LoadedText

namespace FileSource

/-- Templates below the directory of the given options. -/
def ofOptions (options : Options) : FileSource := ⟨.ofText options.rootDir, ∅⟩

/-- The path that an identifier leads to, if it does not leave the root. -/
def resolve (source : FileSource) (file : String) : Except SourceError Path :=
  let path := source.root.follow file
  if path.isWithin source.root then .ok path else .error (.outsideRoot path)

/-- Read the file at a path as a text. What cannot be looked up is inaccessible, and a file that
gives no text is unreadable, whatever the reason. -/
def readText (disk : Disk) (path : Path) : Except SourceError String :=
  match disk path.text with
  | .error _ => .error (.inaccessible path)
  | .ok .directory => .error (.notAFile path)
  | .ok (.sealed _) => .error (.unreadable path)
  | .ok (.file content) =>
      match String.fromUTF8? content with
      | some text => .ok text
      | none => .error (.unreadable path)

/-- Remember the text of a path. -/
def remember (source : FileSource) (path : Path) (text : String) : LoadedText × FileSource :=
  let loaded : LoadedText := ⟨source.texts.size, text⟩
  (loaded, { source with texts := source.texts.insert path loaded })

/-- The text of a file: the remembered one, or what the disk holds now. -/
def getText (disk : Disk) (file : String) (source : FileSource) :
    Except SourceError LoadedText × FileSource :=
  match source.resolve file with
  | .error error => (.error error, source)
  | .ok path =>
      match source.texts[path]? with
      | some loaded => (.ok loaded, source)
      | none =>
          match readText disk path with
          | .error error => (.error error, source)
          | .ok text =>
              let (loaded, source) := source.remember path text
              (.ok loaded, source)

/-- The provider of the texts of files, as the disk is now. -/
def provider (disk : Disk) : Provider FileSource where
  getText file source :=
    let (answer, source) := source.getText disk file
    (answer.map LoadedText.text, source)

end FileSource

end HtmlTemplate.Engine
