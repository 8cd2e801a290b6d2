/-
# Listings lose nothing

A listing is read back from its text. The header has a length that is known from the name of
the file, whatever characters that name has, and every line behind it belongs to one
instruction, for neither a quoted literal nor the name of a variable holds a line feed. In a
line the number and the opcode end at the first spaces; the rest of the line is the operand.
A literal is quoted there, so it may look like anything, even like more lines of a listing. A
name stands as it is, and this is sound because of what names can be in a source.
-/

import HtmlTemplate.Proofs.Template.NormalForm
import HtmlTemplate.Proofs.Template.FileName
import HtmlTemplate.Proofs.Text.LineEnds
import HtmlTemplate.Proofs.Text.Quoted

namespace HtmlTemplate.Template

open Text

/-- The first line of a listing. -/
def header (file : String) : String := "; " ++ file ++ "\n"

/-- Lines put one below the other. Every line is closed. -/
def closeLines (lines : List String) : String :=
  lines.foldl (fun text line => text ++ line ++ "\n") ""

/-- The lines of a text in which every line is closed. -/
def closedLines (chars : List Char) : List String :=
  (chars.splitOn '\n').dropLast.map String.ofList

/-- The lines of a listing that stand behind the header. -/
def bodyLines (file listing : String) : List String :=
  closedLines (listing.toList.drop (header file).toList.length)

/-- What stands before the first separator, and what behind it. -/
def cutAt (separator : Char) (chars : List Char) : List Char × List Char :=
  (chars.takeWhile (· ≠ separator), (chars.dropWhile (· ≠ separator)).tail)

/-- The instruction that an operand and an opcode stand for. -/
def readOperand? (operand opcode : List Char) : Option Instruction :=
  if opcode = "APPEND_LITERAL".toList then
    match Quoted.unquote? operand with
    | some (text, []) => some (.appendLiteral (String.ofList text))
    | _ => none
  else if opcode = "APPEND_VAR".toList then some (.appendVariable (String.ofList operand))
  else none

/-- The number and the instruction that a line says. -/
def readLine? (line : String) : Option (Nat × Instruction) :=
  let words := cutAt ' ' line.toList
  let instruction := cutAt ' ' words.2
  (readOperand? instruction.2 instruction.1).map fun read =>
    (Nat.ofDigitChars 10 words.1 0, read)

/-- The instructions that a listing for a file says, line by line. -/
def readListing (file listing : String) : List Instruction :=
  (bodyLines file listing).filterMap fun line => (readLine? line).map Prod.snd

section Lines

/-- Closed lines are the characters of each line with a line feed behind them. -/
theorem toList_closeLines (lines : List String) :
    (closeLines lines).toList = lines.flatMap fun line => line.toList ++ ['\n'] := by
  have behind (text : String) :
      (lines.foldl (fun text line => text ++ line ++ "\n") text).toList =
        text.toList ++ lines.flatMap fun line => line.toList ++ ['\n'] := by
    induction lines generalizing text with
    | nil => simp
    | cons line rest ih => simp [ih]
  exact behind ""

/-- Lines without line feeds are found again. -/
theorem closedLines_closeLines {lines : List String}
    (single : ∀ line ∈ lines, '\n' ∉ line.toList) :
    closedLines (closeLines lines).toList = lines := by
  rw [toList_closeLines, closedLines]
  induction lines with
  | nil => rfl
  | cons line rest ih =>
      obtain ⟨first, others⟩ := List.forall_mem_cons.mp single
      rw [List.flatMap_cons, List.append_assoc, List.singleton_append,
        List.splitOn_append_cons_self_of_not_mem first,
        List.dropLast_cons_of_ne_nil (List.splitOn_ne_nil _ _), List.map_cons,
        String.ofList_toList, ih others]

/-- A word without separators is cut off at the separator behind it. -/
theorem cutAt_append {separator : Char} {word : List Char} (single : separator ∉ word)
    (rest : List Char) : cutAt separator (word ++ separator :: rest) = (word, rest) := by
  have inside : ∀ c ∈ word, decide (c ≠ separator) = true := by
    intro c stored
    exact decide_eq_true fun same => single (same ▸ stored)
  rw [cutAt, List.takeWhile_append_of_pos inside, List.dropWhile_append_of_pos inside]
  simp

end Lines

section Instructions

/-- A literal is listed in quotes. -/
theorem Instruction.display_appendLiteral (text : String) :
    (appendLiteral text).display = "APPEND_LITERAL " ++ Quoted.quote text := rfl

/-- A name is listed as it is. -/
theorem Instruction.display_appendVariable (name : String) :
    (appendVariable name).display = "APPEND_VAR " ++ name := rfl

/-- A number is written without signs and without white space. -/
theorem notMem_toDigits_ten {c : Char} (other : c.isDigit = false) (n : Nat) :
    c ∉ Nat.toDigits 10 n := by
  intro written
  have digit := Nat.isDigit_of_mem_toDigits (by decide) (by decide) written
  rw [other] at digit
  cases digit

/-- The number of a line has digits only, and is read as the number. -/
theorem toList_lineNumber (n : Nat) :
    ' ' ∉ (Bytecode.lineNumber n).toList ∧ '\n' ∉ (Bytecode.lineNumber n).toList ∧
      Nat.ofDigitChars 10 (Bytecode.lineNumber n).toList 0 = n := by
  have digits {c : Char} (other : c.isDigit = false) : c ∉ (Bytecode.lineNumber n).toList := by
    rw [Bytecode.lineNumber, String.toList_ofList]
    intro written
    rcases List.mem_append.mp written with zero | digit
    · rw [List.eq_of_mem_replicate zero] at other
      cases other
    · exact notMem_toDigits_ten other n digit
  refine ⟨digits (by decide), digits (by decide), ?_⟩
  rw [Bytecode.lineNumber, String.toList_ofList, Nat.ofDigitChars_append,
    Nat.ofDigitChars_replicate_zero, Nat.mul_zero, Nat.ofDigitChars_ten_toDigits]

/-- The line for an instruction with a number. -/
def instructionLine (n : Nat) (instruction : Instruction) : String :=
  Bytecode.lineNumber n ++ " " ++ instruction.display

/-- What a line says is read back, whatever instruction it is for. -/
theorem readLine?_instructionLine (n : Nat) (instruction : Instruction) :
    readLine? (instructionLine n instruction) = some (n, instruction) := by
  obtain ⟨numberWord, _, number⟩ := toList_lineNumber n
  have cut : (instructionLine n instruction).toList =
      (Bytecode.lineNumber n).toList ++ ' ' :: instruction.display.toList := by
    simp [instructionLine]
  rw [readLine?, cut, cutAt_append numberWord]
  dsimp only
  rw [number]
  cases instruction with
  | appendLiteral text =>
      have words : (Instruction.appendLiteral text).display.toList =
          "APPEND_LITERAL".toList ++ ' ' :: (Quoted.quote text).toList := by
        simp [Instruction.display_appendLiteral]
      have whole : Quoted.unquote? (Quoted.quote text).toList = some (text.toList, []) := by
        simpa using Quoted.unquote?_quote text []
      rw [words, cutAt_append (by decide)]
      simp [readOperand?, whole]
  | appendVariable name =>
      have words : (Instruction.appendVariable name).display.toList =
          "APPEND_VAR".toList ++ ' ' :: name.toList := by
        simp [Instruction.display_appendVariable]
      rw [words, cutAt_append (by decide)]
      simp [readOperand?]

/-- The lines for instructions are numbered in order. -/
theorem instructionLines_eq (first : Nat) (instructions : List Instruction) :
    Bytecode.instructionLines first instructions =
      instructions.mapIdx fun i => instructionLine (first + i) := by
  induction instructions generalizing first with
  | nil => rfl
  | cons instruction rest ih =>
      have shifted : (fun i => instructionLine (first + 1 + i)) =
          fun i => instructionLine (first + (i + 1)) := by
        funext i
        rw [Nat.add_assoc, Nat.add_comm 1]
      rw [Bytecode.instructionLines, ih, List.mapIdx_cons, shifted]
      rfl

/-- A line is not broken by what an instruction holds, unless a name breaks it. -/
theorem lineFeed_notMem_instructionLine (n : Nat) {instruction : Instruction}
    (unbroken : ∀ name, instruction = .appendVariable name → '\n' ∉ name.toList) :
    '\n' ∉ (instructionLine n instruction).toList := by
  have number := (toList_lineNumber n).2.1
  cases instruction with
  | appendLiteral text =>
      have literal := Quoted.lineFeed_notMem_quote text
      simp [instructionLine, Instruction.display_appendLiteral, number, literal]
  | appendVariable name =>
      have raw := unbroken name rfl
      simp [instructionLine, Instruction.display_appendVariable, number, raw]

end Instructions

/-- A listing consists of its header and the closed lines of the instructions. -/
theorem listing_eq (code : Bytecode) :
    code.listing = header code.file ++
      closeLines (code.instructions.mapIdx instructionLine) := by
  have numbered : Bytecode.instructionLines 0 code.instructions =
      code.instructions.mapIdx instructionLine := by
    rw [instructionLines_eq]
    simp
  rw [← numbered, ← String.toList_inj, String.toList_append, toList_closeLines]
  have whole : code.listing = closeLines code.lines := rfl
  rw [whole, toList_closeLines, Bytecode.lines, List.flatMap_cons]
  simp [header]

/-- Behind the header of a listing stand the lines of the instructions, if no name breaks them. -/
theorem bodyLines_listing {code : Bytecode}
    (unbroken : ∀ name, .appendVariable name ∈ code.instructions → '\n' ∉ name.toList) :
    bodyLines code.file code.listing = code.instructions.mapIdx instructionLine := by
  have single : ∀ line ∈ code.instructions.mapIdx instructionLine, '\n' ∉ line.toList := by
    intro line stored
    obtain ⟨i, inside, rfl⟩ := List.mem_mapIdx.mp stored
    apply lineFeed_notMem_instructionLine
    intro name isName
    exact unbroken name (isName ▸ List.getElem_mem inside)
  rw [bodyLines, listing_eq, String.toList_append, List.drop_left, closedLines_closeLines single]

/-- The names of variables in compiled code hold no line feed. -/
theorem lineFeed_notMem_of_compile {file source name : String} {code : Bytecode}
    (compiled : compile file source = .ok code)
    (used : .appendVariable name ∈ code.instructions) : '\n' ∉ name.toList := by
  obtain ⟨tokens, read, rfl⟩ := exists_tokens_of_compile compiled
  have listed := List.mem_map_of_mem (f := Instruction.content) used
  rw [map_content_ofTokens] at listed
  obtain ⟨name, before, behind, isName, cut, rfl⟩ := exists_isName_of_tokenize read listed
  intro feed
  rw [joinText_eq, String.toList_ofList] at feed
  obtain ⟨g, inName, inGrapheme⟩ := List.mem_flatMap.mp feed
  have inSource : g ∈ Text.graphemes source := by
    rw [cut]
    exact List.mem_append_right before (List.mem_append_left behind inName)
  exact lineFeed_notMem_of_isIdentifierPart inSource (isName.goesOn g inName) inGrapheme

/-- What can be read back from the listing of bytecode. -/
structure ListsAll (code : Bytecode) : Prop where
  /-- The listing is the header, and lines behind it that are closed, -/
  closed : code.listing = header code.file ++ closeLines (bodyLines code.file code.listing)
  /-- as many as there are instructions. -/
  count : (bodyLines code.file code.listing).length = code.instructions.length
  /-- Each line says the number of its instruction, and which instruction it is. -/
  line : ∀ (i : Nat) (instruction : Instruction), code.instructions[i]? = some instruction →
    ∃ line, (bodyLines code.file code.listing)[i]? = some line ∧ '\n' ∉ line.toList ∧
      readLine? line = some (i, instruction)

/-- A listing in which no name breaks a line lists everything. -/
theorem listsAll_of_unbroken {code : Bytecode}
    (unbroken : ∀ name, .appendVariable name ∈ code.instructions → '\n' ∉ name.toList) :
    ListsAll code where
  closed := by rw [bodyLines_listing unbroken, ← listing_eq]
  count := by rw [bodyLines_listing unbroken, List.length_mapIdx]
  line := by
    intro i instruction found
    refine ⟨instructionLine i instruction, ?_, ?_, readLine?_instructionLine i instruction⟩
    · rw [bodyLines_listing unbroken, List.getElem?_mapIdx, found]
      rfl
    · apply lineFeed_notMem_instructionLine
      rintro name rfl
      exact unbroken name (List.mem_of_getElem? found)

/-- Reading the lines of such a listing gives the instructions. -/
theorem readListing_listing {code : Bytecode}
    (unbroken : ∀ name, .appendVariable name ∈ code.instructions → '\n' ∉ name.toList) :
    readListing code.file code.listing = code.instructions := by
  rw [readListing, bodyLines_listing unbroken, List.mapIdx_eq_zipIdx_map, List.filterMap_map]
  simp [readLine?_instructionLine]

/-- The listing of compiled code loses nothing. Each instruction has one line, from which its
number, its kind and its operand are read back, so sources that are listed alike under the name
of one file compile to the same bytecode. -/
theorem listing_lossless (file : String) :
    (∀ source code, compile file source = .ok code → ListsAll code) ∧
      ∀ first second code other, compile file first = .ok code →
        compile file second = .ok other → code.listing = other.listing → code = other := by
  constructor
  · intro source code compiled
    apply listsAll_of_unbroken
    exact fun name used => lineFeed_notMem_of_compile compiled used
  · intro first second code other compiled otherCompiled same
    have file_eq : code.file = other.file :=
      (file_of_compile compiled).trans (file_of_compile otherCompiled).symm
    have instructions : code.instructions = other.instructions := by
      rw [← readListing_listing fun name used => lineFeed_notMem_of_compile compiled used,
        ← readListing_listing fun name used => lineFeed_notMem_of_compile otherCompiled used,
        file_eq, same]
    cases code
    cases other
    congr

/-- A literal that looks like the end of its line and another line stays on its own. -/
example : (Bytecode.mk "page" [.appendLiteral "a\"\n0001 APPEND_VAR x"]).listing =
    "; page\n0000 APPEND_LITERAL \"a\\\"\\n0001 APPEND_VAR x\"\n" := by
  decide +kernel

end HtmlTemplate.Template
