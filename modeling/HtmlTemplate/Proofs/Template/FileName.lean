/-
# The name of a file is only carried along

Reading a source never looks at the name of its file. The name stands in every location and
in the bytecode, so that reports can show it, and giving the file another name changes
exactly that: the same source gives the same instructions, or the same fault at the same
line and column.
-/

import HtmlTemplate.Proofs.Template.Bytecode

namespace HtmlTemplate.Template

open Text

/-- The same place in a file of another name. -/
def Location.inFile (location : Location) (file : String) : Location := { location with file }

/-- The same error in a file of another name. -/
def SyntaxError.inFile (error : SyntaxError) (file : String) : SyntaxError :=
  { error with location := error.location.inFile file }

/-- The same token in a file of another name. -/
def Token.inFile (token : Token) (file : String) : Token :=
  { token with location := token.location.inFile file }

/-- The same literal in a file of another name. -/
def Literal.inFile (literal : Literal) (file : String) : Literal :=
  { literal with start := literal.start.inFile file }

namespace Location

variable (location : Location) (file : String)

@[simp] theorem after_inFile (g : Grapheme) :
    (location.inFile file).after g = (location.after g).inFile file := by
  unfold after
  split
  · rfl
  · rfl

@[simp] theorem afterAll_inFile (gs : List Grapheme) :
    (location.inFile file).afterAll gs = (location.afterAll gs).inFile file := by
  induction gs generalizing location with
  | nil => rfl
  | cons g rest ih =>
      show ((location.inFile file).after g).afterAll rest = _
      rw [after_inFile, ih]
      rfl

end Location

/-- The tokens of a literal are where the literal is. -/
theorem tokens_inFile (literal : Literal) (file : String) :
    (literal.inFile file).tokens = literal.tokens.map fun token => token.inFile file := by
  have text : (literal.inFile file).text = literal.text := rfl
  unfold Literal.tokens
  rw [text]
  split
  · rfl
  · rfl

/-- An outcome of reading in a file of another name. -/
def readInFile (file : String) (result : Except SyntaxError (List Token)) :
    Except SyntaxError (List Token) :=
  (result.map fun tokens => tokens.map fun token => token.inFile file).mapError
    fun error => error.inFile file

theorem readInFile_ok (file : String) (tokens : List Token) :
    readInFile file (.ok tokens) = .ok (tokens.map fun token => token.inFile file) := rfl

/-- Reading the rest of a source carries the name of the file along. -/
theorem tokensFrom_inFile (here : Location) (literal : Literal) (gs : List Grapheme)
    (file : String) :
    tokensFrom (here.inFile file) (literal.inFile file) gs =
      readInFile file (tokensFrom here literal gs) := by
  have pushed (literal : Literal) (g : Grapheme) :
      (literal.inFile file).push g = (literal.push g).inFile file := rfl
  have starting (location : Location) :
      Literal.startingAt (location.inFile file) = (Literal.startingAt location).inFile file := rfl
  fun_induction tokensFrom here literal gs with
  | case1 here literal =>
      rw [tokensFrom, tokens_inFile]
      rfl
  | case2 here literal =>
      rw [tokensFrom, if_pos rfl, pushed, tokens_inFile]
      rfl
  | case3 here literal others ih =>
      rw [tokensFrom, if_pos rfl, if_pos rfl, pushed, Location.after_inFile,
        Location.after_inFile, ih]
  | case4 here literal next others single starts name tokens behind read ih =>
      rw [read] at ih
      dsimp only [behind, name] at ih
      rw [tokensFrom, if_pos rfl, if_neg single, if_pos starts]
      simp only [Location.after_inFile, Location.afterAll_inFile]
      rw [starting, ih, tokens_inFile, readInFile_ok, readInFile_ok, List.map_append,
        List.map_cons]
      rfl
  | case5 here literal next others single starts name error behind read ih =>
      rw [read] at ih
      dsimp only [behind, name] at ih
      rw [tokensFrom, if_pos rfl, if_neg single, if_pos starts]
      simp only [Location.after_inFile, Location.afterAll_inFile]
      rw [starting, ih]
      rfl
  | case6 here literal next others single malformed =>
      rw [tokensFrom, if_pos rfl, if_neg single, if_neg malformed]
      rfl
  | case7 here literal g rest ordinary ih =>
      rw [tokensFrom.eq_def]
      dsimp only
      rw [if_neg ordinary, pushed, Location.after_inFile, ih]

/-- What a text compiles to apart from the name of its file: the instructions, or the fault with
its line and column. -/
def verdict (text : String) : Except SyntaxError (List Instruction) :=
  (compile "" text).map Bytecode.instructions

/-- Under whatever name a text is compiled, it comes to the same apart from the name. -/
theorem compile_eq_verdict (file text : String) :
    ((compile file text).map Bytecode.instructions).mapError (fun error => error.inFile "") =
      verdict text := by
  have start : Location.start "" = (Location.start file).inFile "" := rfl
  have literal : Literal.startingAt ((Location.start file).inFile "") =
      (Literal.startingAt (.start file)).inFile "" := rfl
  rw [verdict, compile, compile, tokenize, tokenize, start, literal, tokensFrom_inFile]
  cases tokensFrom (.start file) (.startingAt (.start file)) (graphemes text) with
  | error error => rfl
  | ok tokens =>
      have renamed (token : Token) :
          Instruction.ofToken (token.inFile "") = Instruction.ofToken token := rfl
      have same : (tokens.map fun token => token.inFile "").map Instruction.ofToken =
          tokens.map Instruction.ofToken := by
        rw [List.map_map]
        exact List.map_congr_left fun token _ => renamed token
      rw [readInFile_ok]
      exact congrArg Except.ok same.symm

/-- Bytecode is that of the file that was compiled. -/
theorem file_of_compile {file source : String} {code : Bytecode}
    (compiles : compile file source = .ok code) : code.file = file := by
  obtain ⟨tokens, _, rfl⟩ := exists_tokens_of_compile compiles
  rfl

/-- The reading of a source begins in its file, so to give the file its name again changes
nothing. -/
theorem tokenize_inFile (file source : String) :
    tokenize file source = readInFile file (tokenize file source) :=
  tokensFrom_inFile (.start file) (.startingAt (.start file)) (graphemes source) file

/-- The tokens of a source are located in its file. -/
theorem file_of_tokenize {file source : String} {tokens : List Token}
    (read : tokenize file source = .ok tokens) :
    ∀ token ∈ tokens, token.location.file = file := by
  have again := tokenize_inFile file source
  rw [read, readInFile_ok] at again
  rw [Except.ok.inj again]
  intro token stored
  obtain ⟨other, _, rfl⟩ := List.mem_map.mp stored
  rfl

/-- A fault is located in the file that was compiled. -/
theorem file_of_compile_error {file source : String} {error : SyntaxError}
    (refused : compile file source = .error error) : error.location.file = file := by
  have again := tokenize_inFile file source
  rw [compile] at refused
  cases read : tokenize file source with
  | ok tokens =>
      rw [read] at refused
      cases refused
  | error found =>
      rw [read] at refused again
      obtain rfl := Except.error.inj refused
      have renamed : found = found.inFile file := Except.error.inj again
      rw [renamed]
      rfl

end HtmlTemplate.Template
