/-
# The names of variables

A grapheme is taken for a letter when any of its characters is a letter. Most letters are bases,
and then the grapheme is a letter with its marks. As long as that is so for every grapheme of a
name, the name is an identifier: no decimal digit comes first, and of the characters of markup
there are letters, digits and underscores only. So a sign before a digit or before markup is an
error.

Some letters are marks themselves, though, and cling to a base of any kind. A grapheme that is a
letter on their account only is taken into a name whatever its base is.
-/

import HtmlTemplate.Proofs.Text.Attachment
import HtmlTemplate.Proofs.Template.SignRuns
import HtmlTemplate.Proofs.Template.Pieces

namespace HtmlTemplate.Template

open Text

/-- No decimal digit comes first, and all characters of markup are letters, digits and
underscores. -/
structure IsIdentifier (name : String) : Prop where
  first : ∀ c ∈ name.toList.head?, Property.decimalDigit.contains c = false
  ascii : ∀ c ∈ name.toList, c.toNat < 128 → c.isAlphanum = true ∨ c = '_'

/-- What is read as a name is an identifier, unless a grapheme of it is a letter by its marks
only. -/
theorem isIdentifier_joinText {text : String} {gs : List Grapheme} (isName : IsName gs)
    (cut : ∀ g ∈ gs, g ∈ graphemes text) (plain : ∀ g ∈ gs, ¬ g.IsLetterByMark) :
    IsIdentifier (joinText gs) := by
  constructor
  · intro c first
    obtain ⟨g, others, rfl, starts⟩ := isName.begins
    have inSource := cut g List.mem_cons_self
    have inFirst : c ∈ g.chars := by
      rw [joinText_eq, String.toList_ofList, List.flatMap_cons,
        List.head?_append_of_ne_nil _ (chars_ne_nil_of_mem_graphemes inSource)] at first
      exact List.mem_of_mem_head? first
    exact Grapheme.decimalDigit_notMem_of_isIdentifierStart inSource starts
      (plain g List.mem_cons_self) inFirst
  · intro c mem ascii
    rw [joinText_eq, String.toList_ofList] at mem
    obtain ⟨g, part, inside⟩ := List.mem_flatMap.mp mem
    exact Grapheme.isAlphanum_of_isIdentifierPart (cut g part) (isName.goesOn g part)
      (plain g part) inside ascii

/-- The grapheme begins with a decimal digit, or with a character of markup that is neither a
letter nor an underscore. -/
def BeginsOutsideNames (g : Grapheme) : Prop :=
  ∃ c ∈ g.chars.head?, Property.decimalDigit.contains c = true ∨
    c.toNat < 128 ∧ c.isAlphanum = false ∧ c ≠ '_'

/-- No name starts with such a grapheme, unless it is a letter by its marks only. -/
theorem isIdentifierStart_eq_false {text : String} {g : Grapheme} (cut : g ∈ graphemes text)
    (outside : BeginsOutsideNames g) (plain : ¬ g.IsLetterByMark) :
    g.isIdentifierStart = false := by
  obtain ⟨c, first, kind⟩ := outside
  have mem : c ∈ g.chars := List.mem_of_mem_head? first
  rw [Bool.eq_false_iff]
  intro starts
  rcases kind with digit | ⟨ascii, sign, notUnderscore⟩
  · rw [Grapheme.decimalDigit_notMem_of_isIdentifierStart cut starts plain mem] at digit
    cases digit
  · rcases Grapheme.isAlphanum_of_isIdentifierPart cut
      (isIdentifierPart_of_isIdentifierStart starts) plain mem ascii with word | underscore
    · rw [sign] at word
      cases word
    · exact notUnderscore underscore

/-- The names of a source are identifiers, and a sign that is left over before a digit or markup
is an error; each unless the graphemes there are letters by their marks only. -/
theorem tokenize_names (file source : String) :
    (∀ tokens name location, tokenize file source = .ok tokens → .var name location ∈ tokens →
        (∀ g ∈ graphemes name, ¬ g.IsLetterByMark) → IsIdentifier name) ∧
      ∀ (run : SignRun) (next : Grapheme), run.IsMaximalIn (graphemes source) →
        run.length % 2 = 1 → run.after.head? = some next → BeginsOutsideNames next →
        ¬ next.IsLetterByMark → ∃ error, tokenize file source = .error error := by
  constructor
  · intro tokens name location read used plain
    have content : (.var, name) ∈ tokens.map Token.content :=
      List.mem_map_of_mem (f := Token.content) used
    obtain ⟨gs, before, behind, isName, cut, rfl⟩ := exists_isName_of_tokenize read content
    have again : graphemes (joinText gs) = gs := by
      rw [joinText_eq]
      exact graphemes_of_append cut
    rw [again] at plain
    have inSource : ∀ g ∈ gs, g ∈ graphemes source := by
      intro g mem
      rw [cut]
      exact List.mem_append_right before (List.mem_append_left behind mem)
    exact isIdentifier_joinText isName inSource plain
  · intro run next maximal odd first outside plain
    have judges : Judges file (signRuns (graphemes source)) (tokenize file source) :=
      judges_tokensFrom file [] 0 rfl (.start file) (.startingAt (.start file)) _ rfl
    have cut : next ∈ graphemes source := by
      rw [maximal.spelled]
      exact List.mem_append_right _ (List.mem_append_right _ (List.mem_of_mem_head? first))
    have offends : run.Offends := ⟨odd, next, first, isIdentifierStart_eq_false cut outside plain⟩
    cases read : tokenize file source with
    | error error => exact ⟨error, rfl⟩
    | ok tokens =>
        rw [read] at judges
        exact absurd offends (judges.1 run (mem_signRuns_iff.mpr maximal))

/-- A consonant stays a letter with a vowel that is a letter too, and an accent does not make a
letter of a bracket. -/
theorem tokenize_names_marks :
    (tokenize "page" "<@t\u0e33_>" =
        .ok [.html "<" (.clamped "page" 1 1), .var "t\u0e33_" (.clamped "page" 1 2),
          .html ">" (.clamped "page" 1 5)] ∧
      (∀ g ∈ graphemes "t\u0e33_", ¬ g.IsLetterByMark) ∧ IsIdentifier "t\u0e33_") ∧
    SignRun.IsMaximalIn ⟨[⟨['a']⟩], 1, [⟨['<', '\u0301']⟩]⟩ (graphemes "a@<\u0301") ∧
      BeginsOutsideNames ⟨['<', '\u0301']⟩ ∧ ¬ Grapheme.IsLetterByMark ⟨['<', '\u0301']⟩ ∧
      ∃ error, tokenize "page" "a@<\u0301" = .error error := by
  have read : tokenize "page" "<@t\u0e33_>" =
      .ok [.html "<" (.clamped "page" 1 1), .var "t\u0e33_" (.clamped "page" 1 2),
        .html ">" (.clamped "page" 1 5)] := by
    decide +kernel
  have cut : graphemes "t\u0e33_" = [⟨['t', '\u0e33']⟩, .underscore] := by decide +kernel
  have plain : ∀ g ∈ graphemes "t\u0e33_", ¬ g.IsLetterByMark := by
    have letter : Property.letter.contains 't' = true := by decide +kernel
    have first : ¬ Grapheme.IsLetterByMark ⟨['t', '\u0e33']⟩ := by
      rintro ⟨-, marks⟩
      have clings := marks 't' List.mem_cons_self letter
      rw [BreakClass.clings_of_isBase (isBase_of_ascii (by decide))] at clings
      cases clings
    have second : ¬ Grapheme.underscore.IsLetterByMark := by
      rintro ⟨isLetter, -⟩
      revert isLetter
      decide +kernel
    rw [cut]
    exact List.forall_mem_cons.mpr ⟨first, List.forall_mem_singleton.mpr second⟩
  have maximal : SignRun.IsMaximalIn ⟨[⟨['a']⟩], 1, [⟨['<', '\u0301']⟩]⟩
      (graphemes "a@<\u0301") :=
    ⟨by decide +kernel, by decide, by decide, by decide⟩
  have outside : BeginsOutsideNames ⟨['<', '\u0301']⟩ := ⟨'<', rfl, Or.inr (by decide)⟩
  have none : ¬ Grapheme.IsLetterByMark ⟨['<', '\u0301']⟩ := by decide +kernel
  have isIdentifier : IsIdentifier "t\u0e33_" :=
    (tokenize_names "page" _).1 _ _ _ read (List.mem_cons_of_mem _ List.mem_cons_self) plain
  have refused := (tokenize_names "page" _).2 _ _ maximal rfl rfl outside none
  exact ⟨⟨read, plain, isIdentifier⟩, maximal, outside, none, refused⟩

/-- A vowel that is a mark, and a letter too, takes a bracket or a digit into a name. -/
theorem not_isIdentifier_marked_bracket :
    ¬ ∀ source tokens name location, tokenize "page" source = .ok tokens →
      .var name location ∈ tokens → IsIdentifier name := by
  intro identifiers
  have read : tokenize "page" "@<\u0e33" = .ok [.var "<\u0e33" (.clamped "page" 1 1)] := by
    decide +kernel
  have isIdentifier := identifiers _ _ _ _ read List.mem_cons_self
  rcases isIdentifier.ascii '<' List.mem_cons_self (by decide) with word | underscore
  · exact absurd word (by decide)
  · exact absurd underscore (by decide)

end HtmlTemplate.Template
