/-
# Quoted text can be read back

A quoted text may hold quotes, backslashes and what looks like escapes, and it may be followed
by anything. It is unambiguous all the same: a reader that takes one character after another
knows at each point whether it stands between two characters or inside an escape, and the
quote that it meets between two characters is the closing one. Nothing that is quoted breaks
a line, either.
-/

import HtmlTemplate.Text.Quoted

namespace HtmlTemplate.Text

namespace Quoted

/-- The value of a hexadecimal digit. -/
def hexValue (c : Char) : Nat := if c.isDigit then c.toNat - 48 else c.toNat - 87

/-- What an escape with one letter stands for. -/
def escaped? : Char → Option Char
  | '0' => some '\x00'
  | 't' => some '\t'
  | 'r' => some '\r'
  | 'n' => some '\n'
  | '\\' => some '\\'
  | '"' => some '"'
  | '\'' => some '\''
  | _ => none

/-- Where the reader of a quoted text stands. -/
inductive ReaderState where
  | between
  /-- Behind a backslash. -/
  | escape
  /-- Before the opening brace of a number. -/
  | number
  /-- Inside the braces, when the digits so far spell this number. -/
  | digits (n : Nat)

/-- One character more that was read, before those that are read later. -/
def prepend (c : Char) (read : List Char × List Char) : List Char × List Char :=
  (c :: read.1, read.2)

/-- Read up to the closing quote. What is read comes first, and what follows the quote second. -/
def readFrom : ReaderState → List Char → Option (List Char × List Char)
  | _, [] => none
  | .between, c :: rest =>
      if c = '"' then some ([], rest)
      else if c = '\\' then readFrom .escape rest
      else (readFrom .between rest).map (prepend c)
  | .escape, c :: rest =>
      if c = 'u' then readFrom .number rest
      else match escaped? c with
        | some meant => (readFrom .between rest).map (prepend meant)
        | none => none
  | .number, c :: rest => if c = '\x7b' then readFrom (.digits 0) rest else none
  | .digits n, c :: rest =>
      if c = '\x7d' then (readFrom .between rest).map (prepend (Char.ofNat n))
      else readFrom (.digits (16 * n + hexValue c)) rest

/-- Read a quoted text. -/
def unquote? : List Char → Option (List Char × List Char)
  | '"' :: rest => readFrom .between rest
  | _ => none

section Numbers

/-- A number is written with digits. -/
theorem exists_digitChar_of_mem_toDigits {base n : Nat} (large : 1 < base) {c : Char}
    (written : c ∈ Nat.toDigits base n) : ∃ d, d < base ∧ c = d.digitChar := by
  induction n using Nat.strongRecOn with
  | ind n ih =>
      rw [Nat.toDigits_eq_if large] at written
      split at written
      · rename_i small
        exact ⟨n, small, List.mem_singleton.mp written⟩
      · rename_i several
        rcases List.mem_append.mp written with front | last
        · exact ih (n / base) (Nat.div_lt_self (by omega) large) front
        · exact ⟨n % base, Nat.mod_lt n (by omega), List.mem_singleton.mp last⟩

theorem hexValue_digitChar : ∀ d, d < 16 → hexValue d.digitChar = d := by decide

theorem digitChar_ne_brace : ∀ d, d < 16 → d.digitChar ≠ '\x7d' := by decide

theorem digitChar_ne_lineFeed : ∀ d, d < 16 → d.digitChar ≠ '\n' := by decide

/-- The digits of a number are read as the number. -/
theorem readFrom_toDigits (n : Nat) (rest : List Char) :
    readFrom (.digits 0) (Nat.toDigits 16 n ++ rest) = readFrom (.digits n) rest := by
  have digit (before d : Nat) (small : d < 16) (behind : List Char) :
      readFrom (.digits before) (d.digitChar :: behind) =
        readFrom (.digits (16 * before + d)) behind := by
    rw [readFrom, if_neg (digitChar_ne_brace d small), hexValue_digitChar d small]
  induction n using Nat.strongRecOn generalizing rest with
  | ind n ih =>
      rw [Nat.toDigits_eq_if (by decide)]
      split
      · rename_i small
        rw [List.singleton_append, digit 0 n small, Nat.mul_zero, Nat.zero_add]
      · rename_i several
        rw [List.append_assoc, ih (n / 16) (by omega), List.singleton_append,
          digit _ _ (Nat.mod_lt n (by decide)), Nat.div_add_mod]

/-- A character that is spelled by its number is read as the character. -/
theorem readFrom_numbered (c : Char) (rest : List Char) :
    readFrom .between (numbered c ++ rest) = (readFrom .between rest).map (prepend c) := by
  have opened : readFrom .between (numbered c ++ rest) =
      readFrom (.digits 0) (Nat.toDigits 16 c.toNat ++ '\x7d' :: rest) := by
    rw [numbered, List.append_assoc, List.append_assoc]
    rfl
  rw [opened, readFrom_toDigits, readFrom, if_pos rfl, Char.ofNat_toNat]

end Numbers

/-- How a quoted character may be spelled. -/
inductive Spells (c : Char) : List Char → Prop where
  | letter {letter : Char} (meant : escaped? letter = some c) : Spells c ['\\', letter]
  | number : Spells c (numbered c)
  | plain (noQuote : c ≠ '"') (noBackslash : c ≠ '\\') (noFeed : c ≠ '\n') : Spells c [c]

/-- Every character is spelled in one of these ways. -/
theorem spells_escapeChar (c : Char) : Spells c (escapeChar insideQuotes c) := by
  unfold escapeChar
  split
  · rename_i same
    exact .letter (by rw [same]; rfl)
  split
  · rename_i same
    exact .letter (by rw [same]; rfl)
  split
  · rename_i same
    exact .letter (by rw [same]; rfl)
  split
  · rename_i same
    exact .letter (by rw [same]; rfl)
  rename_i noFeed
  split
  · rename_i same
    exact .letter (by rw [same]; rfl)
  rename_i noBackslash
  split
  · rename_i same
    have isQuote : c = '"' := of_decide_eq_true (Bool.and_eq_true_iff.mp same).1
    exact .letter (by rw [isQuote]; rfl)
  rename_i quote
  split
  · rename_i single
    exact absurd (Bool.and_eq_true_iff.mp single).2 Bool.false_ne_true
  split
  · exact .number
  split
  · exact .number
  · have noQuote : c ≠ '"' := by simpa [insideQuotes] using quote
    exact .plain noQuote noBackslash noFeed

/-- The spelling of a character is read as the character, whatever follows. -/
theorem Spells.readFrom_append {c : Char} {spelled : List Char} (spells : Spells c spelled)
    (rest : List Char) :
    readFrom .between (spelled ++ rest) = (readFrom .between rest).map (prepend c) := by
  cases spells with
  | @letter letter meant =>
      have other : letter ≠ 'u' := by
        rintro rfl
        cases meant
      show readFrom .escape (letter :: rest) = _
      rw [readFrom, if_neg other, meant]
  | number => exact readFrom_numbered c rest
  | plain noQuote noBackslash _ =>
      rw [List.singleton_append, readFrom, if_neg noQuote, if_neg noBackslash]

/-- Reading stops at the closing quote. -/
theorem readFrom_body (chars rest : List Char) :
    readFrom .between (body chars ++ '"' :: rest) = some (chars, rest) := by
  induction chars with
  | nil => rfl
  | cons c others ih =>
      rw [body, List.flatMap_cons, List.append_assoc, (spells_escapeChar c).readFrom_append]
      rw [body] at ih
      rw [ih]
      rfl

/-- A quoted text is read back, whatever follows it. -/
theorem unquote?_quote (text : String) (rest : List Char) :
    unquote? ((quote text).toList ++ rest) = some (text.toList, rest) := by
  rw [quote, String.toList_ofList, List.cons_append, List.cons_append, List.append_assoc,
    List.singleton_append, unquote?, readFrom_body]

/-- The spelling of a character stays on one line. -/
theorem Spells.lineFeed_notMem {c : Char} {spelled : List Char} (spells : Spells c spelled) :
    '\n' ∉ spelled := by
  cases spells with
  | @letter letter meant =>
      have other : letter ≠ '\n' := by
        rintro rfl
        cases meant
      simp [Ne.symm other]
  | number =>
      have digits : '\n' ∉ Nat.toDigits 16 c.toNat := by
        intro written
        obtain ⟨d, small, same⟩ := exists_digitChar_of_mem_toDigits (by decide) written
        exact digitChar_ne_lineFeed d small same.symm
      simp [numbered, digits]
  | plain _ _ noFeed => simpa using Ne.symm noFeed

/-- Quoted text stays on one line. -/
theorem lineFeed_notMem_quote (text : String) : '\n' ∉ (quote text).toList := by
  have inside : '\n' ∉ body text.toList := by
    intro written
    obtain ⟨c, _, spelled⟩ := List.mem_flatMap.mp written
    exact (spells_escapeChar c).lineFeed_notMem spelled
  simp [quote, inside]

end Quoted

end HtmlTemplate.Text
