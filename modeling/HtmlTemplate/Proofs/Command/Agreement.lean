/-
# The commands agree about a template

Listing the tokens of a template asks the source and the reader of templates directly. The
other two commands go through an engine, which keeps what it compiled and reports failures
as its own. All three come down to one reading of the template: it has tokens, or a fault,
and a command only shows the tokens in its own way, or the fault.

What a command shows is a text, so the agreement is one of texts: the `i`-th line of printed
tokens and the `i`-th line of a listing are each read back, and say the same kind and the same
text.

A command writes piece by piece, so it could fail with half of its text written. That it
never does is a matter of order: whatever can fail comes before the first piece.
-/

import HtmlTemplate.Command.Line
import HtmlTemplate.Command.Output
import HtmlTemplate.Proofs.Engine.History
import HtmlTemplate.Proofs.Render.Run
import HtmlTemplate.Proofs.Template.NormalForm
import HtmlTemplate.Proofs.Template.TokenLines

namespace HtmlTemplate.Command

open File Template

/-- Why a template cannot be used: it has no text, or its text cannot be read. -/
inductive TemplateFault where
  | missing (error : Engine.SourceError)
  | malformed (error : SyntaxError)

namespace TemplateFault

/-- The fault as it is reported by a command that looks at the template itself. -/
def direct : TemplateFault → Error
  | .missing error => .source error
  | .malformed error => .template error

/-- The fault as it is reported by a command that uses an engine. -/
def throughEngine : TemplateFault → Error
  | .missing error => .engine (.source error)
  | .malformed error => .engine (.compile error)

end TemplateFault

/-- The tokens of a template, or what is wrong with it. -/
def readTemplate (disk : Disk) (templates : Engine.FileSource) (file : String) :
    Except TemplateFault (List Token) := do
  let loaded ← (templates.getText disk file).1.mapError .missing
  (tokenize file loaded.text).mapError .malformed

/-- The listing of tokens, one on a line. -/
def tokenLines (tokens : List Token) : String :=
  String.join (tokens.map fun token => token.display ++ "\n")

/-- What the printed tokens of a file and the printed listing of its bytecode say, line by line, if
the template has the given tokens. -/
structure SayAlike (file text listing : String) (tokens : List Token) : Prop where
  /-- The tokens are printed on closed lines, one for each, -/
  tokensClosed : text = closeLines (markedLines (fileMark file) text)
  tokensCount : (markedLines (fileMark file) text).length = tokens.length
  /-- and so are the instructions, behind a header. -/
  listingClosed : listing = header file ++ closeLines (bodyLines file listing)
  listingCount : (bodyLines file listing).length = tokens.length
  /-- The `i`-th line for a token says the `i`-th token, and the `i`-th line for an instruction says
  the number `i` and an instruction of the same kind with the same text. -/
  line : ∀ (i : Nat) (tokenLine codeLine : String),
    (markedLines (fileMark file) text)[i]? = some tokenLine →
    (bodyLines file listing)[i]? = some codeLine →
    ∃ token instruction, readToken? file tokenLine = some token ∧ tokens[i]? = some token ∧
      readLine? codeLine = some (i, instruction) ∧ instruction.content = (token.kind, token.text)

/-- What a token puts into the rendered template. -/
def tokenText (vars : Render.Variables) (token : Token) : String :=
  match token.kind with
  | .html => token.text
  | .var => ((vars.lookup token.text).map fun value => (Markup.escape value.display).text).getD ""

/-- Every variable of a template has a value. -/
def Binds (vars : Render.Variables) (tokens : List Token) : Prop :=
  ∀ token ∈ tokens, token.kind = .var → (vars.lookup token.text).isSome

/-- Reporting a failure as another one does not touch what succeeds. -/
theorem mapError_eq_ok_iff {α ε other : Type} {attempt : Except ε α} {report : ε → other}
    {result : α} : attempt.mapError report = .ok result ↔ attempt = .ok result := by
  cases attempt with
  | error error => exact iff_of_false nofun nofun
  | ok value =>
      show Except.ok value = Except.ok result ↔ _
      rw [Except.ok.injEq, Except.ok.injEq]

section PrintedLines

variable {file source : String} {tokens : List Token}

/-- Printed tokens are closed lines. -/
theorem tokenLines_eq (tokens : List Token) :
    tokenLines tokens = closeLines (tokens.map Token.display) := by
  rw [← String.toList_inj, toList_closeLines, tokenLines, String.toList_join]
  simp [List.flatMap_map]

/-- The lines of printed tokens are found again, if the tokens are those of a source. -/
theorem markedLines_tokenLines (read : tokenize file source = .ok tokens) :
    markedLines (fileMark file) (tokenLines tokens) = tokens.map Token.display := by
  rw [tokenLines_eq]
  apply markedLines_closeLines
  intro line printed
  obtain ⟨token, stored, rfl⟩ := List.mem_map.mp printed
  rw [← file_of_tokenize read token stored]
  exact token.exists_unbroken_display

/-- The lines of a listing made from the tokens of a source are found again. -/
theorem bodyLines_ofTokens (read : tokenize file source = .ok tokens) :
    bodyLines file (Bytecode.ofTokens file tokens).listing =
      (Bytecode.ofTokens file tokens).instructions.mapIdx instructionLine := by
  have compiled : compile file source = .ok (.ofTokens file tokens) := by
    rw [compile, read]
    rfl
  have unbroken : ∀ name, .appendVariable name ∈ (Bytecode.ofTokens file tokens).instructions →
      '\n' ∉ name.toList := fun name used => lineFeed_notMem_of_compile compiled used
  have stands : (Bytecode.ofTokens file tokens).file = file := rfl
  have body := bodyLines_listing unbroken
  rwa [stands] at body

/-- What is printed of the tokens of a source and of its bytecode says the same. -/
theorem sayAlike_of_tokenize (read : tokenize file source = .ok tokens) :
    SayAlike file (tokenLines tokens) (Bytecode.ofTokens file tokens).listing tokens where
  tokensClosed := by rw [markedLines_tokenLines read, tokenLines_eq]
  tokensCount := by rw [markedLines_tokenLines read, List.length_map]
  listingClosed := by
    rw [bodyLines_ofTokens read]
    exact listing_eq (.ofTokens file tokens)
  listingCount := by
    rw [bodyLines_ofTokens read, List.length_mapIdx, Bytecode.ofTokens, List.length_map]
  line := by
    intro i tokenLine codeLine tokenFound codeFound
    rw [markedLines_tokenLines read, List.getElem?_map, Option.map_eq_some_iff] at tokenFound
    obtain ⟨token, found, rfl⟩ := tokenFound
    rw [bodyLines_ofTokens read, List.getElem?_mapIdx, Bytecode.ofTokens, List.getElem?_map,
      found] at codeFound
    obtain rfl := Option.some.inj codeFound
    have stands := file_of_tokenize read token (List.mem_of_getElem? found)
    refine ⟨token, .ofToken token, ?_, found, readLine?_instructionLine i _,
      Instruction.content_ofToken token⟩
    rw [← stands]
    exact readToken?_display token

/-- So it is with the tokens of a template. -/
theorem sayAlike_of_readTemplate {disk : Disk} {templates : Engine.FileSource}
    (read : readTemplate disk templates file = .ok tokens) :
    SayAlike file (tokenLines tokens) (Bytecode.ofTokens file tokens).listing tokens := by
  rw [readTemplate] at read
  cases loads : (templates.getText disk file).1 with
  | error error =>
      rw [loads] at read
      cases read
  | ok loaded =>
      rw [loads] at read
      exact sayAlike_of_tokenize (mapError_eq_ok_iff.mp read)

end PrintedLines

section Requests

variable (disk : Disk) (templates : Engine.FileSource) (file : String)

/-- Listing tokens shows what is read. -/
theorem output_tokens :
    (Request.tokens file).output disk templates =
      ((readTemplate disk templates file).mapError TemplateFault.direct).map tokenLines := by
  rw [Request.output, readTemplate]
  cases (templates.getText disk file).1 with
  | error error => rfl
  | ok loaded =>
      show (tokenize file loaded.text).mapError Error.template >>= _ =
        (((tokenize file loaded.text).mapError _).mapError _).map _
      cases tokenize file loaded.text with
      | error error => rfl
      | ok tokens => rfl

/-- An engine that has compiled nothing compiles what is read. -/
theorem compile_ofSource :
    ((Engine.ofSource templates).compile (Engine.FileSource.provider disk) file).1.mapError
        Error.engine =
      ((readTemplate disk templates file).mapError TemplateFault.throughEngine).map fun tokens =>
        ⟨0, .ofTokens file tokens⟩ := by
  have fresh : (Engine.ofSource templates).cache[file]? = none := by simp [Engine.ofSource]
  have asked : (Engine.FileSource.provider disk).getText file (Engine.ofSource templates).source =
      ((templates.getText disk file).1.map Engine.LoadedText.text,
        (templates.getText disk file).2) := rfl
  rw [Engine.compile, fresh, asked, readTemplate]
  cases (templates.getText disk file).1 with
  | error error => rfl
  | ok loaded =>
      show _ = (((tokenize file loaded.text).mapError _).mapError _).map _
      dsimp only [Except.map]
      rw [Template.compile]
      cases tokenize file loaded.text with
      | error error => rfl
      | ok tokens => rfl

/-- Listing bytecode shows the bytecode of what is read. -/
theorem output_bytecode :
    (Request.bytecode file).output disk templates =
      ((readTemplate disk templates file).mapError TemplateFault.throughEngine).map fun tokens =>
        (Bytecode.ofTokens file tokens).listing := by
  show ((Engine.ofSource templates).compile _ file).1.mapError Error.engine >>= _ = _
  rw [compile_ofSource]
  cases readTemplate disk templates file with
  | error fault => rfl
  | ok tokens => rfl

/-- Rendering runs the bytecode of what is read, once there are arguments. -/
theorem output_render {source : ArgumentSource} {arguments : Host.Value} {heap : Host.Heap}
    (given : source.value disk = .ok (arguments, heap)) :
    (Request.render file source).output disk templates =
      ((readTemplate disk templates file).mapError TemplateFault.throughEngine) >>= fun tokens =>
        (Render.render heap (.ofTokens file tokens) arguments).mapError (.engine ∘ .render) := by
  have compiles := compile_ofSource disk templates file
  rw [Request.output, given]
  show ((Engine.ofSource templates).render _ heap arguments file).1.mapError Error.engine = _
  rw [Engine.render_fst]
  cases compiled :
      ((Engine.ofSource templates).compile (Engine.FileSource.provider disk) file).1 with
  | error error =>
      rw [compiled] at compiles
      cases read : readTemplate disk templates file with
      | error fault =>
          rw [read] at compiles
          exact congrArg Except.error (Except.error.inj compiles)
      | ok tokens =>
          rw [read] at compiles
          cases compiles
  | ok result =>
      rw [compiled] at compiles
      cases read : readTemplate disk templates file with
      | error fault =>
          rw [read] at compiles
          cases compiles
      | ok tokens =>
          rw [read] at compiles
          obtain rfl := Except.ok.inj compiles
          show ((Render.render heap _ arguments).mapError _).mapError _ =
            (Render.render heap _ arguments).mapError _
          cases Render.render heap (.ofTokens file tokens) arguments with
          | error error => rfl
          | ok out => rfl

end Requests

section Rendering

variable (vars : Render.Variables) (tokens : List Token)

/-- A token is written by its instruction. -/
theorem contribution_ofToken (token : Token) :
    Render.contribution vars (.ofToken token) = (tokenText vars token).toList := by
  obtain ⟨kind, text, location⟩ := token
  cases kind with
  | html => rfl
  | var =>
      show Render.contribution vars (.appendVariable text) = String.toList (Option.getD _ _)
      rw [Render.contribution]
      cases vars.lookup text with
      | none => rfl
      | some value => exact (Markup.toList_escape value.display).symm

/-- The instruction of a token lacks a variable exactly if the token does. -/
theorem unbound?_ofToken_eq_none_iff (token : Token) :
    Render.unbound? vars (.ofToken token) = none ↔
      (token.kind = .var → (vars.lookup token.text).isSome) := by
  obtain ⟨kind, text, location⟩ := token
  cases kind with
  | html =>
      show none = none ↔ _
      simp
  | var =>
      show (if (vars.lookup text).isNone then some text else none) = none ↔ _
      cases vars.lookup text with
      | none => simp
      | some value => simp

/-- Bytecode made from tokens runs exactly if every variable has a value, and writes the texts of
the tokens one after the other. -/
theorem run_ofTokens_eq_ok_iff (file out : String) :
    Render.run (.ofTokens file tokens) vars = .ok out ↔
      Binds vars tokens ∧ out = String.join (tokens.map (tokenText vars)) := by
  have bound : (tokens.map Instruction.ofToken).findSome? (Render.unbound? vars) = none ↔
      Binds vars tokens := by
    rw [List.findSome?_eq_none_iff, List.forall_mem_map]
    exact forall₂_congr fun token _ => unbound?_ofToken_eq_none_iff vars token
  have written : Render.written vars (tokens.map Instruction.ofToken) =
      (String.join (tokens.map (tokenText vars))).toList := by
    rw [Render.written, String.toList_join, List.flatMap_map, List.flatMap_map]
    exact List.flatMap_congr fun token _ => contribution_ofToken vars token
  rw [Render.run_eq, Bytecode.ofTokens, written, String.ofList_toList, ← bound]
  cases (tokens.map Instruction.ofToken).findSome? (Render.unbound? vars) with
  | some name => simp
  | none => simp [eq_comm]

/-- Rendering succeeds exactly if the arguments convert and give every variable a value. -/
theorem render_ofTokens_eq_ok_iff (heap : Host.Heap) (arguments : Host.Value) (file out : String) :
    Render.render heap (.ofTokens file tokens) arguments = .ok out ↔
      ∃ graph, Arguments.convert heap arguments = .ok graph ∧ Binds graph.toVariables tokens ∧
        out = String.join (tokens.map (tokenText graph.toVariables)) := by
  rw [Render.render, Render.accept]
  cases Arguments.convert heap arguments with
  | error cause =>
      constructor
      · intro succeeds
        cases succeeds
      · rintro ⟨graph, converts, _⟩
        cases converts
  | ok graph =>
      show Render.run (.ofTokens file tokens) graph.toVariables = .ok out ↔ _
      rw [run_ofTokens_eq_ok_iff]
      constructor
      · intro writes
        exact ⟨graph, rfl, writes⟩
      · rintro ⟨other, same, writes⟩
        obtain rfl := Except.ok.inj same
        exact writes

end Rendering

/-! ### Writing piece by piece -/

/-- A command under way. It may fail, and what it has written by then stays written. -/
abbrev Writing := ExceptT Error (StateM String)

/-- Write a text behind what is written. -/
def write (text : String) : Writing Unit := modify (· ++ text)

/-- Write lines one after the other. -/
def writeLines (lines : List String) : Writing Unit :=
  lines.forM fun line => write (line ++ "\n")

/-- Do what a request asks for. -/
def Request.perform (disk : Disk) (templates : Engine.FileSource) : Request → Writing Unit
  | .render file source => do
      let (arguments, heap) ← MonadExcept.ofExcept (source.value disk)
      let engine := Engine.ofSource templates
      let html ← MonadExcept.ofExcept
        ((engine.render (Engine.FileSource.provider disk) heap arguments file).1.mapError .engine)
      write html
  | .tokens file => do
      let loaded ← MonadExcept.ofExcept ((templates.getText disk file).1.mapError .source)
      let tokens ← MonadExcept.ofExcept ((tokenize file loaded.text).mapError .template)
      writeLines (tokens.map Token.display)
  | .bytecode file => do
      let engine := Engine.ofSource templates
      let compiled ← MonadExcept.ofExcept
        ((engine.compile (Engine.FileSource.provider disk) file).1.mapError .engine)
      writeLines compiled.code.lines

/-- Do what a command line asks for, once it is read. -/
def Invocation.perform (disk : Disk) (workingDirectory : String) (invocation : Invocation) :
    Writing Unit := do
  let templates ← MonadExcept.ofExcept (invocation.templates workingDirectory)
  invocation.request.perform disk templates

/-- All lines are written, each closed. -/
theorem run_writeLines (lines : List String) (before : String) :
    (writeLines lines).run.run before = (.ok (), before ++ closeLines lines) := by
  induction lines generalizing before with
  | nil =>
      show (_, before) = (_, before ++ "")
      rw [String.append_empty]
  | cons line rest ih =>
      have later : before ++ (line ++ "\n") ++ closeLines rest =
          before ++ closeLines (line :: rest) := by
        rw [← String.toList_inj]
        simp [toList_closeLines]
      rw [← later]
      exact ih (before ++ (line ++ "\n"))

/-- What is left behind on an output: what is printed stands behind what was there before, and
after a failure there is nothing new. -/
def leaves {ε : Type} (before : String) : Except ε String → Except ε Unit × String
  | .ok text => (.ok (), before ++ text)
  | .error error => (.error error, before)

/-- A step that writes nothing comes first. -/
theorem run_ofExcept_bind {α : Type} (attempt : Except Error α) {next : α → Writing Unit}
    {printed : α → Except Error String} {before : String}
    (continues : ∀ result, (next result).run.run before = leaves before (printed result)) :
    (MonadExcept.ofExcept attempt >>= next).run.run before =
      leaves before (attempt >>= printed) := by
  cases attempt with
  | error error => rfl
  | ok result => exact continues result

/-- Performing a request writes exactly what it prints. -/
theorem Request.run_perform (disk : Disk) (templates : Engine.FileSource) (request : Request)
    (before : String) :
    (request.perform disk templates).run.run before =
      leaves before (request.output disk templates) := by
  cases request with
  | render file source =>
      apply run_ofExcept_bind
      rintro ⟨arguments, heap⟩
      dsimp only
      cases ((Engine.ofSource templates).render (Engine.FileSource.provider disk) heap arguments
        file).1.mapError Error.engine with
      | error error => rfl
      | ok html => rfl
  | tokens file =>
      apply run_ofExcept_bind
      intro loaded
      apply run_ofExcept_bind
      intro tokens
      rw [run_writeLines, ← tokenLines_eq]
      rfl
  | bytecode file =>
      apply run_ofExcept_bind
      intro compiled
      exact run_writeLines compiled.code.lines before

/-- Doing what a line asks for writes exactly what it prints. -/
theorem Invocation.run_perform (disk : Disk) (workingDirectory : String) (invocation : Invocation)
    (before : String) :
    (invocation.perform disk workingDirectory).run.run before =
      leaves before (invocation.output disk workingDirectory) := by
  apply run_ofExcept_bind
  intro templates
  exact invocation.request.run_perform disk templates before

/-! ### Command lines -/

/-- Why a command line comes to nothing. -/
inductive Failure where
  | usage (error : UsageError)
  | command (error : Error)

section Lines

variable (disk : Disk) (workingDirectory : String) (inherited : Option String)

/-- What the words of a command line print. -/
def printed (words : List String) : Except Failure String := do
  let invocation ← (Invocation.ofWords inherited words).mapError .usage
  (invocation.output disk workingDirectory).mapError .command

/-- What the words of a command line come to, and what is written by then. -/
def performed (words : List String) : Except Failure Unit × String :=
  match Invocation.ofWords inherited words with
  | .error error => (.error (.usage error), "")
  | .ok invocation =>
      let (result, written) := (invocation.perform disk workingDirectory).run.run ""
      (result.mapError .command, written)

/-- A line writes what it prints, and nothing if it fails. -/
theorem performed_eq (words : List String) :
    performed disk workingDirectory inherited words =
      leaves "" (printed disk workingDirectory inherited words) := by
  rw [performed, printed]
  cases Invocation.ofWords inherited words with
  | error error => rfl
  | ok invocation =>
      dsimp only
      rw [Invocation.run_perform]
      show _ = leaves "" ((invocation.output disk workingDirectory).mapError Failure.command)
      cases invocation.output disk workingDirectory with
      | error error => rfl
      | ok text => rfl

/-- A line about a template below an absolute root prints what its request does. -/
theorem printed_eq {root : String} (absolute : isAbsolute root = true) {words : List String}
    {request : Request} (reads : Invocation.ofWords inherited words = .ok ⟨some root, request⟩) :
    printed disk workingDirectory inherited words =
      (request.output disk (.ofOptions ⟨root, absolute⟩)).mapError Failure.command := by
  have kept : Invocation.absoluteRoot workingDirectory root = root := if_pos absolute
  have named : root ≠ "" := by
    rintro rfl
    cases absolute
  have found : (Invocation.mk (some root) request).templates workingDirectory =
      .ok (.ofOptions ⟨root, absolute⟩) := by
    show Except.map _ (Except.mapError _ (Engine.Options.ofRoot
      (Invocation.absoluteRoot workingDirectory root))) = _
    rw [kept, Engine.Options.ofRoot, if_neg named, dif_pos absolute]
    rfl
  rw [printed, reads]
  show (Invocation.output disk workingDirectory ⟨some root, request⟩).mapError _ = _
  rw [Invocation.output, found]
  rfl

/-- What the three command lines about one template have to do with each other, when rendering is
given the JSON value `given`. -/
structure LinesAgree (templates : Engine.FileSource) (file : String) (given : Json.JsonValue)
    (tokensLine bytecodeLine renderLine : List String) : Prop where
  /-- What is wrong with the template is found by all three. -/
  refused : ∀ failure, printed disk workingDirectory inherited tokensLine = .error failure →
    ∃ fault, readTemplate disk templates file = .error fault ∧ failure = .command fault.direct ∧
      printed disk workingDirectory inherited bytecodeLine =
        .error (.command fault.throughEngine) ∧
      printed disk workingDirectory inherited renderLine = .error (.command fault.throughEngine)
  /-- All three show the same tokens: as they are, as instructions, and with the arguments in the
  places of the variables. What the first two print is read back line by line. -/
  accepted : ∀ text, printed disk workingDirectory inherited tokensLine = .ok text →
    ∃ tokens listing, readTemplate disk templates file = .ok tokens ∧
      printed disk workingDirectory inherited bytecodeLine = .ok listing ∧
      SayAlike file text listing tokens ∧
      ∀ out, printed disk workingDirectory inherited renderLine = .ok out ↔
        ∃ graph, Arguments.convert (Host.Heap.empty.ofJson given).2
            (Host.Heap.empty.ofJson given).1 = .ok graph ∧
          Binds graph.toVariables tokens ∧
          out = String.join (tokens.map (tokenText graph.toVariables))
  /-- Nothing is written before a failure. -/
  silent : ∀ words failure, printed disk workingDirectory inherited words = .error failure →
    performed disk workingDirectory inherited words = (.error failure, "")
  /-- What is printed is what is written in the end. -/
  complete : ∀ words text, printed disk workingDirectory inherited words = .ok text →
    performed disk workingDirectory inherited words = (.ok (), text)

variable {disk workingDirectory inherited} in
/-- The three commands agree about every template below an absolute root, whatever is on the disk
and whatever JSON the arguments are. -/
theorem lines_agree {root file json : String} {given : Json.JsonValue}
    {tokensLine bytecodeLine renderLine : List String} (absolute : isAbsolute root = true)
    (readsTokens : Invocation.ofWords inherited tokensLine = .ok ⟨some root, .tokens file⟩)
    (readsBytecode : Invocation.ofWords inherited bytecodeLine = .ok ⟨some root, .bytecode file⟩)
    (readsRender : Invocation.ofWords inherited renderLine =
      .ok ⟨some root, .render file (.inline json)⟩)
    (readsJson : Json.read? json = some given) :
    LinesAgree disk workingDirectory inherited (.ofOptions ⟨root, absolute⟩) file given
      tokensLine bytecodeLine renderLine := by
  have inline : (ArgumentSource.inline json).value disk = .ok (Host.Heap.empty.ofJson given) := by
    rw [ArgumentSource.value, ArgumentSource.text]
    dsimp only [bind, Except.bind]
    rw [readsJson]
    rfl
  have tokensPrinted := printed_eq disk workingDirectory inherited absolute readsTokens
  have bytecodePrinted := printed_eq disk workingDirectory inherited absolute readsBytecode
  have renderPrinted := printed_eq disk workingDirectory inherited absolute readsRender
  rw [output_tokens] at tokensPrinted
  rw [output_bytecode] at bytecodePrinted
  rw [output_render disk _ file inline] at renderPrinted
  constructor
  case refused =>
    intro failure fails
    rw [tokensPrinted] at fails
    cases read : readTemplate disk (.ofOptions ⟨root, absolute⟩) file with
    | error fault =>
        rw [read] at fails bytecodePrinted renderPrinted
        exact ⟨fault, rfl, (Except.error.inj fails).symm, bytecodePrinted, renderPrinted⟩
    | ok tokens =>
        rw [read] at fails
        cases fails
  case accepted =>
    intro text succeeds
    rw [tokensPrinted] at succeeds
    cases read : readTemplate disk (.ofOptions ⟨root, absolute⟩) file with
    | error fault =>
        rw [read] at succeeds
        cases succeeds
    | ok tokens =>
        rw [read] at succeeds bytecodePrinted renderPrinted
        have text_eq : text = tokenLines tokens := (Except.ok.inj succeeds).symm
        refine ⟨tokens, _, rfl, bytecodePrinted, text_eq ▸ sayAlike_of_readTemplate read, ?_⟩
        intro out
        rw [renderPrinted, ← render_ofTokens_eq_ok_iff tokens _ _ file out]
        show ((Render.render _ _ _).mapError _).mapError Failure.command = _ ↔ _
        rw [mapError_eq_ok_iff, mapError_eq_ok_iff]
  case silent =>
    intro words failure fails
    rw [performed_eq, fails, leaves]
  case complete =>
    intro words text succeeds
    rw [performed_eq, succeeds, leaves, String.empty_append]

end Lines

/-- One template below `/site`. -/
def greetingDisk : Disk := fun path =>
  if path = "/site/page" then .ok (.file "<b>@name</b> @@".toUTF8) else .error .notFound

/-- The commands about a template with a variable. -/
theorem lines_agree_greeting :
    isAbsolute "/site" = true ∧
      Invocation.ofWords none ["-r", "/site", "tokens", "page"] =
        .ok ⟨some "/site", .tokens "page"⟩ ∧
      Invocation.ofWords none ["-r", "/site", "bytecode", "page"] =
        .ok ⟨some "/site", .bytecode "page"⟩ ∧
      Invocation.ofWords none
          ["-r", "/site", "render", "page", "--args", "\x7b\"name\": \"<\"\x7d"] =
        .ok ⟨some "/site", .render "page" (.inline "\x7b\"name\": \"<\"\x7d")⟩ ∧
      Json.read? "\x7b\"name\": \"<\"\x7d" = some (.object [("name", .string "<")]) ∧
      LinesAgree greetingDisk "/work" none (.ofOptions ⟨"/site", by decide⟩) "page"
        (.object [("name", .string "<")]) ["-r", "/site", "tokens", "page"]
        ["-r", "/site", "bytecode", "page"]
        ["-r", "/site", "render", "page", "--args", "\x7b\"name\": \"<\"\x7d"] := by
  have absolute : isAbsolute "/site" = true := by decide
  have readsTokens : Invocation.ofWords none ["-r", "/site", "tokens", "page"] =
      .ok ⟨some "/site", .tokens "page"⟩ := by decide
  have readsBytecode : Invocation.ofWords none ["-r", "/site", "bytecode", "page"] =
      .ok ⟨some "/site", .bytecode "page"⟩ := by decide
  have readsRender : Invocation.ofWords none
      ["-r", "/site", "render", "page", "--args", "\x7b\"name\": \"<\"\x7d"] =
        .ok ⟨some "/site", .render "page" (.inline "\x7b\"name\": \"<\"\x7d")⟩ := by decide
  have readsJson : Json.read? "\x7b\"name\": \"<\"\x7d" =
      some (.object [("name", .string "<")]) := rfl
  exact ⟨absolute, readsTokens, readsBytecode, readsRender, readsJson,
    lines_agree absolute readsTokens readsBytecode readsRender readsJson⟩

end HtmlTemplate.Command
