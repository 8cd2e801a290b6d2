/-
# Bytecode and its variables

Bytecode is made from the tokens of a source, one instruction for each.

It announces the variables that it looks up. Each name is listed once, however often it is
used, and the names listed are those of the instructions, in the order of their first uses.
So whatever one asks about the names in order, the list of all uses gives the same answer
as the list without repetitions.
-/

import HtmlTemplate.Template.Bytecode
import Mathlib.Data.List.Basic
import Mathlib.Data.List.Induction

namespace HtmlTemplate.Template

/-- Bytecode comes from the tokens of its source. -/
theorem exists_tokens_of_compile {file source : String} {code : Bytecode}
    (compiled : compile file source = .ok code) :
    ∃ tokens, tokenize file source = .ok tokens ∧ code = .ofTokens file tokens := by
  cases read : tokenize file source with
  | error error =>
      rw [compile, read] at compiled
      cases compiled
  | ok tokens =>
      rw [compile, read] at compiled
      cases compiled
      exact ⟨tokens, rfl, rfl⟩

/-- Adding names one after the other lists them behind those that were seen. -/
theorem mem_foldl_addName_iff {seen names : List String} {name : String} :
    name ∈ names.foldl Bytecode.addName seen ↔ name ∈ seen ∨ name ∈ names := by
  induction names generalizing seen with
  | nil => simp
  | cons first rest ih =>
      rw [List.foldl_cons, ih, Bytecode.addName]
      split
      · rename_i known
        constructor
        · rintro (old | new)
          · exact Or.inl old
          · exact Or.inr (List.mem_cons_of_mem first new)
        · rintro (old | new)
          · exact Or.inl old
          · rcases List.mem_cons.mp new with rfl | later
            · exact Or.inl known
            · exact Or.inr later
      · simp [or_assoc]

/-- The names that bytecode announces are those that its instructions look up. -/
theorem mem_variableNames_iff {code : Bytecode} {name : String} :
    name ∈ code.variableNames ↔ .appendVariable name ∈ code.instructions := by
  rw [Bytecode.variableNames, mem_foldl_addName_iff, List.mem_filterMap]
  constructor
  · rintro (none | ⟨instruction, mem, announced⟩)
    · cases none
    · cases instruction with
      | appendLiteral text => cases announced
      | appendVariable other =>
          cases announced
          exact mem
  · intro mem
    exact Or.inr ⟨.appendVariable name, mem, rfl⟩

/-- The first name that qualifies is found among those that were seen, or else it is the first
of the new ones. -/
theorem find?_foldl_addName (qualifies : String → Bool) (seen names : List String) :
    (names.foldl Bytecode.addName seen).find? qualifies =
      (seen.find? qualifies).or (names.find? qualifies) := by
  induction names generalizing seen with
  | nil => simp
  | cons first rest ih =>
      rw [List.foldl_cons, ih, Bytecode.addName]
      by_cases known : first ∈ seen
      · rw [if_pos known]
        cases found : seen.find? qualifies with
        | some name => rfl
        | none =>
            have fails : qualifies first = false := by
              simpa using List.find?_eq_none.mp found first known
            rw [List.find?_cons, fails]
      · rw [if_neg known, List.find?_append, List.find?_singleton, Option.or_assoc]
        congr 1
        rw [List.find?_cons]
        cases qualifies first with
        | true => rfl
        | false => rfl

/-- The place of the instruction that uses a variable first. -/
def Bytecode.firstUse (code : Bytecode) (name : String) : Nat :=
  code.instructions.idxOf (.appendVariable name)

section FirstUse

variable {file name : String} {before after : List Instruction}

/-- More instructions at the end do not change where a variable is used first. -/
theorem firstUse_append_of_mem (used : name ∈ (Bytecode.mk file before).variableNames) :
    (Bytecode.mk file (before ++ after)).firstUse name = (Bytecode.mk file before).firstUse name :=
  List.idxOf_append_of_mem (mem_variableNames_iff.mp used)

/-- A variable that is announced is used somewhere. -/
theorem firstUse_lt_length (used : name ∈ (Bytecode.mk file before).variableNames) :
    (Bytecode.mk file before).firstUse name < before.length :=
  List.idxOf_lt_length_of_mem (mem_variableNames_iff.mp used)

/-- A variable that was not used before is used first by the instruction for it. -/
theorem firstUse_append_self (fresh : name ∉ (Bytecode.mk file before).variableNames) :
    (Bytecode.mk file (before ++ [.appendVariable name])).firstUse name = before.length := by
  have unused : Instruction.appendVariable name ∉ before := fun mem =>
    fresh (mem_variableNames_iff.mpr mem)
  rw [Bytecode.firstUse, List.idxOf_append_of_notMem unused, List.idxOf_cons_self, Nat.add_zero]

/-- One more instruction announces at most one more name, behind the others. -/
theorem variableNames_concat (file : String) (before : List Instruction)
    (last : Instruction) :
    (Bytecode.mk file (before ++ [last])).variableNames =
      last.variableName?.toList.foldl Bytecode.addName (Bytecode.mk file before).variableNames := by
  rw [Bytecode.variableNames, Bytecode.variableNames, List.filterMap_append, List.foldl_append]
  cases last with
  | appendLiteral text => rfl
  | appendVariable name => rfl

end FirstUse

/-- The names are announced in the order in which they are used first. -/
theorem pairwise_variableNames (code : Bytecode) :
    code.variableNames.Pairwise fun earlier later =>
      code.firstUse earlier < code.firstUse later := by
  obtain ⟨file, instructions⟩ := code
  induction instructions using List.reverseRecOn with
  | nil => exact List.Pairwise.nil
  | append_singleton before last ih =>
      have kept : (Bytecode.mk file before).variableNames.Pairwise fun earlier later =>
          (Bytecode.mk file (before ++ [last])).firstUse earlier <
            (Bytecode.mk file (before ++ [last])).firstUse later := by
        apply ih.imp_of_mem
        intro earlier later used usedToo order
        rwa [firstUse_append_of_mem used, firstUse_append_of_mem usedToo]
      rw [variableNames_concat]
      cases last with
      | appendLiteral text => exact kept
      | appendVariable name =>
          show (Bytecode.addName _ name).Pairwise _
          rw [Bytecode.addName]
          by_cases known : name ∈ (Bytecode.mk file before).variableNames
          · rw [if_pos known]
            exact kept
          · rw [if_neg known]
            apply List.pairwise_append.mpr
            refine ⟨kept, List.pairwise_singleton _ name, ?_⟩
            intro earlier used new isName
            obtain rfl := List.mem_singleton.mp isName
            rw [firstUse_append_of_mem used, firstUse_append_self known]
            exact firstUse_lt_length used

/-- No name is announced twice, for names that are used first at different places differ. -/
theorem nodup_variableNames (code : Bytecode) : code.variableNames.Nodup := by
  apply (pairwise_variableNames code).imp
  intro earlier later order same
  exact Nat.ne_of_lt order (congrArg code.firstUse same)

end HtmlTemplate.Template
