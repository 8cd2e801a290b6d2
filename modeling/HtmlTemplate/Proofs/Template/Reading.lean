/-
# What reading consumes

The tokens of the unread graphemes are found stretch by stretch. A literal that is spelled
with its signs doubled goes into the open literal, whatever follows it; a sign and a name
finish the open literal and leave a variable, unless the name goes on behind them.
-/

import HtmlTemplate.Template.Tokenize
import HtmlTemplate.Proofs.Template.Places

namespace HtmlTemplate.Template

open Text

/-- The text of several graphemes is that of their characters. -/
theorem joinText_eq (gs : List Grapheme) :
    joinText gs = String.ofList (gs.flatMap Grapheme.chars) := by
  have joined (text : String) : gs.foldl (fun text g => text ++ g.text) text =
      text ++ String.ofList (gs.flatMap Grapheme.chars) := by
    induction gs generalizing text with
    | nil => simp
    | cons g rest ih =>
        rw [List.foldl_cons, ih, List.flatMap_cons, String.ofList_append, String.append_assoc]
        rfl
  rw [joinText, joined, String.empty_append]

@[simp] theorem joinText_nil : joinText [] = "" := rfl

@[simp] theorem joinText_cons (g : Grapheme) (rest : List Grapheme) :
    joinText (g :: rest) = g.text ++ joinText rest := by
  simp [joinText_eq, Grapheme.text]

@[simp] theorem joinText_append (first second : List Grapheme) :
    joinText (first ++ second) = joinText first ++ joinText second := by
  simp [joinText_eq]

/-- Literal graphemes as a source spells them, with every sign doubled. -/
def escaped (gs : List Grapheme) : List Grapheme :=
  gs.flatMap fun g => if g = .atSign then [.atSign, .atSign] else [g]

@[simp] theorem escaped_nil : escaped [] = [] := rfl

@[simp] theorem escaped_cons (g : Grapheme) (rest : List Grapheme) :
    escaped (g :: rest) = (if g = .atSign then [.atSign, .atSign] else [g]) ++ escaped rest :=
  List.flatMap_cons

/-- A literal is spelled with its own graphemes. -/
theorem mem_escaped_iff {g : Grapheme} {gs : List Grapheme} : g ∈ escaped gs ↔ g ∈ gs := by
  induction gs with
  | nil => rfl
  | cons first rest ih =>
      by_cases sign : first = .atSign
      · simp [sign, ih]
      · simp [sign, ih]

/-- The literal with several more graphemes. -/
def Literal.pushAll (literal : Literal) (gs : List Grapheme) : Literal :=
  { literal with text := literal.text ++ joinText gs }

@[simp] theorem Literal.pushAll_nil (literal : Literal) : literal.pushAll [] = literal := by
  simp [pushAll]

@[simp] theorem Literal.pushAll_cons (literal : Literal) (g : Grapheme) (rest : List Grapheme) :
    literal.pushAll (g :: rest) = (literal.push g).pushAll rest := by
  simp [pushAll, push, String.append_assoc]

/-- A run of graphemes of one kind is cut off where a grapheme of another kind follows. -/
theorem cut_append {p : Grapheme → Bool} {run rest : List Grapheme}
    (inside : ∀ g ∈ run, p g = true) (boundary : ∀ next ∈ rest.head?, p next = false) :
    (run ++ rest).takeWhile p = run ∧ (run ++ rest).dropWhile p = rest := by
  have stops : rest.takeWhile p = [] ∧ rest.dropWhile p = rest := by
    cases rest with
    | nil => exact ⟨rfl, rfl⟩
    | cons next others => simp [boundary next rfl]
  rw [List.takeWhile_append_of_pos inside, List.dropWhile_append_of_pos inside, stops.1, stops.2,
    List.append_nil]
  exact ⟨rfl, rfl⟩

/-- A name: it begins as a name may and goes on as names do. -/
structure IsName (name : List Grapheme) : Prop where
  begins : ∃ first others, name = first :: others ∧ first.isIdentifierStart = true
  goesOn : ∀ g ∈ name, g.isIdentifierPart = true

/-- No name goes on into the given graphemes. -/
def EndsName (rest : List Grapheme) : Prop :=
  ∀ next ∈ rest.head?, next.isIdentifierPart = false

/-- The sign is no part of a name. -/
theorem isIdentifierPart_atSign : Grapheme.atSign.isIdentifierPart = false := by
  decide +kernel

/-- What a name may hold is not the sign. -/
theorem ne_atSign_of_isIdentifierPart {g : Grapheme} (part : g.isIdentifierPart = true) :
    g ≠ .atSign := by
  rintro rfl
  rw [isIdentifierPart_atSign] at part
  cases part

/-- There is no sign in the longest run of identifier graphemes. -/
theorem ne_atSign_of_mem_nameRun {gs : List Grapheme} {g : Grapheme} (mem : g ∈ nameRun gs) :
    g ≠ .atSign :=
  ne_atSign_of_isIdentifierPart (List.all_eq_true.mp List.all_takeWhile g mem)

/-- The longest run of identifier graphemes and what follows it are everything. -/
theorem nameRun_append_afterName (gs : List Grapheme) : nameRun gs ++ afterName gs = gs :=
  List.takeWhile_append_dropWhile

/-- A sign ends every name. -/
theorem endsName_atSign (rest : List Grapheme) : EndsName (.atSign :: rest) := by
  simp [EndsName, isIdentifierPart_atSign]

/-- A name may go on as it begins. -/
theorem isIdentifierPart_of_isIdentifierStart {g : Grapheme}
    (starts : g.isIdentifierStart = true) : g.isIdentifierPart = true := by
  simp [Grapheme.isIdentifierPart, starts]

variable (here : Location) (literal : Literal)

/-- The end of the source finishes the open literal. -/
theorem tokensFrom_nil : tokensFrom here literal [] = .ok literal.tokens := by
  rw [tokensFrom]

/-- Every other grapheme than the sign goes into the open literal. -/
theorem tokensFrom_cons {g : Grapheme} (ordinary : g ≠ .atSign) (rest : List Grapheme) :
    tokensFrom here literal (g :: rest) =
      tokensFrom (here.after g) (literal.push g) rest := by
  rw [tokensFrom.eq_def]
  simp [ordinary]

/-- A pair of signs puts one of them into the open literal. -/
theorem tokensFrom_pair (rest : List Grapheme) :
    tokensFrom here literal (.atSign :: .atSign :: rest) =
      tokensFrom ((here.after .atSign).after .atSign) (literal.push .atSign) rest := by
  rw [tokensFrom, if_pos rfl, if_pos rfl]

/-- A sign and a name finish the open literal and leave a variable. -/
theorem tokensFrom_variable {name rest : List Grapheme} (isName : IsName name)
    (ends : EndsName rest) :
    let behind := here.afterAll (.atSign :: name)
    tokensFrom here literal (.atSign :: (name ++ rest)) =
      (tokensFrom behind (.startingAt behind) rest).map
        fun tokens => literal.tokens ++ .var (joinText name) here :: tokens := by
  obtain ⟨first, others, rfl, starts⟩ := isName.begins
  have single : first ≠ .atSign :=
    ne_atSign_of_isIdentifierPart (isName.goesOn first List.mem_cons_self)
  have cut : nameRun (first :: (others ++ rest)) = first :: others ∧
      afterName (first :: (others ++ rest)) = rest := cut_append isName.goesOn ends
  rw [List.cons_append, tokensFrom, if_pos rfl, if_neg single, if_pos starts, cut.1, cut.2]
  dsimp only [Location.afterAll_cons]
  split
  · rename_i tokens read
    rw [read]
    rfl
  · rename_i error read
    rw [read]
    rfl

/-- A literal that is spelled with its signs doubled goes into the open literal, whatever
follows it. -/
theorem tokensFrom_escaped_append (gs rest : List Grapheme) :
    tokensFrom here literal (escaped gs ++ rest) =
      tokensFrom (here.afterAll (escaped gs)) (literal.pushAll gs) rest := by
  induction gs generalizing here literal with
  | nil => simp
  | cons g others ih =>
      by_cases sign : g = .atSign
      · simp [sign, tokensFrom_pair, ih]
      · simp [sign, tokensFrom_cons, ih]

end HtmlTemplate.Template
