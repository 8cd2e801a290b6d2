/-
# Where the markup of an output comes from

Bytecode decides alone which tags and attribute values an output has: whatever the
variables are, the signs in the output are those of the literals, in the same order. A
variable may write ampersands, but only as the first characters of entities, and it writes
these in full itself.
-/

import HtmlTemplate.Proofs.Render.Run

namespace HtmlTemplate.Render

open Template Markup

/-- The markup that the author of a template wrote. -/
def literalText (instructions : List Instruction) : List Char :=
  instructions.flatMap fun
    | .appendLiteral text => text.toList
    | .appendVariable _ => []

/-- The character between `before` and `after` is written by the given instruction, which
writes `lead` before it and `tail` behind it. -/
structure WritesAt (vars : Variables) (instructions : List Instruction) (before after : List Char)
    (c : Char) (instruction : Instruction) (lead tail : List Char) : Prop where
  contributes : contribution vars instruction = lead ++ c :: tail
  placed : ∃ earlier later, instructions = earlier ++ instruction :: later ∧
    before = written vars earlier ++ lead ∧ after = tail ++ written vars later

/-- Every ampersand in the output is written by a literal, or begins an entity that the same
variable writes in full. -/
def SafeAmpersands (vars : Variables) (instructions : List Instruction) (output : List Char) :
    Prop :=
  ∀ before after, output = before ++ '&' :: after →
    ∃ instruction lead tail, WritesAt vars instructions before after '&' instruction lead tail ∧
      ((∃ text, instruction = .appendLiteral text) ∨
        ∃ name entity, instruction = .appendVariable name ∧ entity ∈ entities ∧
          entity.toList <+: '&' :: tail)

/-- What follows earlier instructions is placed behind what they write. -/
theorem WritesAt.cons {vars : Variables} {instructions : List Instruction}
    {before after lead tail : List Char} {c : Char} {instruction : Instruction}
    (writes : WritesAt vars instructions before after c instruction lead tail)
    (first : Instruction) :
    WritesAt vars (first :: instructions) (contribution vars first ++ before) after c instruction
      lead tail := by
  obtain ⟨earlier, later, split, ahead, behind⟩ := writes.placed
  refine ⟨writes.contributes, first :: earlier, later, ?_, ?_, behind⟩
  · rw [split, List.cons_append]
  · rw [ahead, written_cons, List.append_assoc]

/-- Each character that a run writes is written by one of its instructions. -/
theorem exists_writesAt {vars : Variables} {instructions : List Instruction} {c : Char}
    {before after : List Char} (cut : written vars instructions = before ++ c :: after) :
    ∃ instruction lead tail,
      WritesAt vars instructions before after c instruction lead tail := by
  induction instructions generalizing before with
  | nil => exact absurd cut.symm (by simp)
  | cons first rest ih =>
      rw [written_cons] at cut
      obtain ⟨between, rfl, later⟩ | ⟨between, inside, later⟩ := List.append_eq_append_iff.mp cut
      · obtain ⟨instruction, lead, tail, writes⟩ := ih later
        exact ⟨instruction, lead, tail, writes.cons first⟩
      · cases between with
        | nil =>
            have atStart : written vars rest = [] ++ c :: after := later.symm
            rw [List.append_nil] at inside
            obtain ⟨instruction, lead, tail, writes⟩ := ih atStart
            refine ⟨instruction, lead, tail, ?_⟩
            simpa [inside] using writes.cons first
        | cons head between =>
            obtain ⟨rfl, rfl⟩ := List.cons.inj later
            exact ⟨first, before, between, inside, [], rest, rfl, rfl, rfl⟩

/-- Escaped text has no signs. -/
theorem filter_isSign_escapeChars (chars : List Char) :
    (escapeChars chars).filter isSign = [] := by
  rw [List.filter_eq_nil_iff]
  intro c stored sign
  rw [isSign_eq_false_of_mem stored] at sign
  cases sign

/-- The signs that a run writes are those of the literals. -/
theorem filter_isSign_written (vars : Variables) (instructions : List Instruction) :
    (written vars instructions).filter isSign = (literalText instructions).filter isSign := by
  induction instructions with
  | nil => rfl
  | cons instruction rest ih =>
      rw [written_cons, literalText, List.flatMap_cons, List.filter_append, List.filter_append, ih]
      congr 1
      cases instruction with
      | appendLiteral text => rfl
      | appendVariable name =>
          rw [contribution]
          cases vars.lookup name with
          | none => rfl
          | some value => exact filter_isSign_escapeChars value.display.toList

/-- What a variable contributes has an ampersand only where an entity begins. -/
theorem opensEntities_contribution (vars : Variables) (name : String) :
    OpensEntities (contribution vars (.appendVariable name)) := by
  rw [contribution]
  cases vars.lookup name with
  | none => exact fun before after cut => absurd cut.symm (by simp)
  | some value => exact opensEntities_escapeChars value.display.toList

/-- The ampersands that a run writes are safe. -/
theorem safeAmpersands_written (vars : Variables) (instructions : List Instruction) :
    SafeAmpersands vars instructions (written vars instructions) := by
  intro before after cut
  obtain ⟨instruction, lead, tail, writes⟩ := exists_writesAt cut
  refine ⟨instruction, lead, tail, writes, ?_⟩
  cases instruction with
  | appendLiteral text => exact Or.inl ⟨text, rfl⟩
  | appendVariable name =>
      obtain ⟨entity, listed, whole⟩ :=
        opensEntities_contribution vars name lead tail writes.contributes
      exact Or.inr ⟨name, entity, rfl, listed, whole⟩

/-- Variables cannot change the markup: two runs that succeed write the signs of the literals
and no others, and every ampersand of a variable begins an entity of its own. -/
theorem run_markup_eq {code : Bytecode} {first second : Variables} {firstOut secondOut : String}
    (firstRun : run code first = .ok firstOut) (secondRun : run code second = .ok secondOut) :
    firstOut.toList.filter isSign = secondOut.toList.filter isSign ∧
      firstOut.toList.filter isSign = (literalText code.instructions).filter isSign ∧
      SafeAmpersands first code.instructions firstOut.toList ∧
      SafeAmpersands second code.instructions secondOut.toList := by
  rw [toList_of_run_eq_ok firstRun, toList_of_run_eq_ok secondRun, filter_isSign_written,
    filter_isSign_written]
  exact ⟨rfl, rfl, safeAmpersands_written first code.instructions,
    safeAmpersands_written second code.instructions⟩

/-- A paragraph keeps its one tag whether its variable is a text that looks like a tag or an
object with a quote for a field name. -/
theorem run_markup_eq_paragraph :
    let code : Bytecode := ⟨"page", [.appendLiteral "<p>&", .appendVariable "x"]⟩
    let text : Variables := [("x", .string "<b>")]
    let nested : Variables := [("x", .object [("'", .array [.bool true])])]
    (run code text = .ok "<p>&&lt;b&gt;" ∧ run code nested = .ok "<p>&\x7b &#39;: [true] \x7d") ∧
      "<p>&&lt;b&gt;".toList.filter isSign =
        "<p>&\x7b &#39;: [true] \x7d".toList.filter isSign ∧
      "<p>&&lt;b&gt;".toList.filter isSign = (literalText code.instructions).filter isSign ∧
      SafeAmpersands text code.instructions "<p>&&lt;b&gt;".toList ∧
      SafeAmpersands nested code.instructions "<p>&\x7b &#39;: [true] \x7d".toList := by
  intro code text nested
  have textRun : run code text = .ok "<p>&&lt;b&gt;" := by
    rw [run_eq]
    rfl
  have nestedRun : run code nested = .ok "<p>&\x7b &#39;: [true] \x7d" := by
    rw [run_eq]
    rfl
  exact ⟨⟨textRun, nestedRun⟩, run_markup_eq textRun nestedRun⟩

end HtmlTemplate.Render
