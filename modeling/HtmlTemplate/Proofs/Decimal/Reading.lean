/-
# Reading decimals

What a decimal text denotes is told without rounding: digits before and behind the point, and an
exponent that moves the point. Read in this way, the text that is laid out for a decimal number
denotes it, whichever layout is chosen.
-/

import HtmlTemplate.Proofs.Decimal.Shortest

namespace HtmlTemplate.Decimal

/-- Some digits, and nothing else. -/
def IsDigits (chars : List Char) : Prop := chars ≠ [] ∧ ∀ c ∈ chars, c.isDigit = true

instance (chars : List Char) : Decidable (IsDigits chars) :=
  inferInstanceAs (Decidable (chars ≠ [] ∧ ∀ c ∈ chars, c.isDigit = true))

/-- The whole number that digits denote. -/
def naturalValue? (chars : List Char) : Option Nat :=
  if IsDigits chars then some (Nat.ofDigitChars 10 chars 0) else none

/-- What stands before a mark and what stands behind it, if there is one. -/
def cutAt (mark : Char) : List Char → List Char × Option (List Char)
  | [] => ([], none)
  | c :: rest =>
      if c = mark then ([], some rest) else ((cutAt mark rest).map (c :: ·) id)

/-- The number that digits denote, with or without a point among them. -/
def mantissaValue? (chars : List Char) : Option ℚ :=
  match cutAt '.' chars with
  | (whole, none) => do return (← naturalValue? whole)
  | (whole, some fraction) => do
      return (← naturalValue? whole) + (← naturalValue? fraction) / 10 ^ fraction.length

/-- The whole number that digits behind a sign denote. -/
def exponentValue? : List Char → Option Int
  | '+' :: digits => do return (← naturalValue? digits)
  | '-' :: digits => do return -(← naturalValue? digits)
  | digits => do return (← naturalValue? digits)

/-- The number that a text without a sign denotes. -/
def unsignedValue? (chars : List Char) : Option ℚ :=
  match cutAt 'e' chars with
  | (mantissa, none) => mantissaValue? mantissa
  | (mantissa, some exponent) => do
      return (← mantissaValue? mantissa) * 10 ^ (← exponentValue? exponent)

/-- The number that a text denotes. -/
def decimalValue? : List Char → Option ℚ
  | '-' :: rest => do return -(← unsignedValue? rest)
  | chars => unsignedValue? chars

/-- Digits, perhaps with a point among them. -/
def IsPositional (chars : List Char) : Prop :=
  IsDigits chars ∨ ∃ whole fraction, IsDigits whole ∧ IsDigits fraction ∧
    chars = whole ++ '.' :: fraction

/-! ## Cutting -/

theorem cutAt_of_notMem {mark : Char} {chars : List Char} (absent : mark ∉ chars) :
    cutAt mark chars = (chars, none) := by
  induction chars with
  | nil => rfl
  | cons c rest ih =>
      have other : c ≠ mark := fun same => absent (same ▸ List.mem_cons_self)
      rw [cutAt, if_neg other, ih fun mem => absent (List.mem_cons_of_mem c mem)]
      rfl

theorem cutAt_append {mark : Char} {before : List Char} (absent : mark ∉ before)
    (behind : List Char) : cutAt mark (before ++ mark :: behind) = (before, some behind) := by
  induction before with
  | nil => rw [List.nil_append, cutAt, if_pos rfl]
  | cons c rest ih =>
      have other : c ≠ mark := fun same => absent (same ▸ List.mem_cons_self)
      rw [List.cons_append, cutAt, if_neg other, ih fun mem => absent (List.mem_cons_of_mem c mem)]
      rfl

theorem IsDigits.notMem {chars : List Char} (digits : IsDigits chars) {mark : Char}
    (sign : mark.isDigit = false) : mark ∉ chars := by
  intro mem
  rw [digits.2 mark mem] at sign
  cases sign

/-- A positional text has digits and points only. -/
theorem IsPositional.notMem {chars : List Char} (positional : IsPositional chars) {mark : Char}
    (sign : mark.isDigit = false) (other : mark ≠ '.') : mark ∉ chars := by
  rcases positional with digits | ⟨whole, fraction, first, second, rfl⟩
  · exact digits.notMem sign
  · intro mem
    rcases List.mem_append.mp mem with before | behind
    · exact first.notMem sign before
    · rcases List.mem_cons.mp behind with same | later
      · exact other same
      · exact second.notMem sign later

/-! ## What is read -/

theorem naturalValue?_of_isDigits {chars : List Char} (digits : IsDigits chars) :
    naturalValue? chars = some (Nat.ofDigitChars 10 chars 0) := by
  rw [naturalValue?, if_pos digits]

theorem mantissaValue?_of_isDigits {chars : List Char} (digits : IsDigits chars) :
    mantissaValue? chars = some (Nat.ofDigitChars 10 chars 0 : ℚ) := by
  rw [mantissaValue?, cutAt_of_notMem (digits.notMem (by decide))]
  simp [naturalValue?_of_isDigits digits]

/-- Digits around a point denote a whole number of units of the last place. -/
theorem mantissaValue?_of_point {whole fraction : List Char} (first : IsDigits whole)
    (second : IsDigits fraction) :
    mantissaValue? (whole ++ '.' :: fraction) =
      some ((Nat.ofDigitChars 10 (whole ++ fraction) 0 : ℚ) / 10 ^ fraction.length) := by
  have power : (10 : ℚ) ^ fraction.length ≠ 0 := by positivity
  rw [mantissaValue?, cutAt_append (first.notMem (by decide)), Nat.ofDigitChars_append,
    Nat.ofDigitChars_eq_ofDigitChars_zero (l := fraction)]
  simp only [naturalValue?_of_isDigits first, naturalValue?_of_isDigits second, bind_pure_comp,
    Option.map_eq_map, Option.map_some, Option.bind_eq_bind, Option.bind_some]
  push_cast
  rw [add_div, mul_div_cancel_left₀ _ power]

/-- A positional text has no exponent. -/
theorem IsPositional.unsignedValue?_eq {chars : List Char} (positional : IsPositional chars) :
    unsignedValue? chars = mantissaValue? chars := by
  rw [unsignedValue?, cutAt_of_notMem (positional.notMem (by decide) (by decide))]

/-- An exponent moves the point. -/
theorem unsignedValue?_of_exponent {mantissa digits : List Char} {value : ℚ}
    (positional : IsPositional mantissa) (read : mantissaValue? mantissa = some value)
    (natural : IsDigits digits) (negative : Bool) :
    unsignedValue? (mantissa ++ 'e' :: (if negative then '-' else '+') :: digits) =
      some (value * 10 ^ (if negative then -(Nat.ofDigitChars 10 digits 0 : ℤ)
        else Nat.ofDigitChars 10 digits 0)) := by
  rw [unsignedValue?, cutAt_append (positional.notMem (by decide) (by decide))]
  cases negative with
  | false => simp [read, exponentValue?, naturalValue?_of_isDigits natural]
  | true => simp [read, exponentValue?, naturalValue?_of_isDigits natural]

/-! ## The digits of a decimal number -/

theorem isDigits_toDigits (n : Nat) : IsDigits (Nat.toDigits 10 n) := by
  constructor
  · exact List.ne_nil_of_length_pos Nat.length_toDigits_pos
  · intro c mem
    exact Nat.isDigit_of_mem_toDigits (by decide) (by decide) mem

theorem isDigits_zero : IsDigits ['0'] := isDigits_toDigits 0

/-- Parts of digits are digits, unless they are empty. -/
theorem IsDigits.of_subset {chars part : List Char} (digits : IsDigits chars)
    (within : ∀ c ∈ part, c ∈ chars) (filled : part ≠ []) : IsDigits part :=
  ⟨filled, fun c mem => digits.2 c (within c mem)⟩

theorem isDigit_of_mem_zeros {count : Nat} {c : Char} (zero : c ∈ List.replicate count '0') :
    c.isDigit = true := by
  rw [List.eq_of_mem_replicate zero]
  decide

/-- Zeros may stand before digits, -/
theorem IsDigits.zeros_append {chars : List Char} (digits : IsDigits chars) (count : Nat) :
    IsDigits (List.replicate count '0' ++ chars) := by
  apply And.intro (by simp [digits.1])
  intro c mem
  exact (List.mem_append.mp mem).elim isDigit_of_mem_zeros (digits.2 c)

/-- and behind them. -/
theorem IsDigits.append_zeros {chars : List Char} (digits : IsDigits chars) (count : Nat) :
    IsDigits (chars ++ List.replicate count '0') := by
  apply And.intro (by simp [digits.1])
  intro c mem
  exact (List.mem_append.mp mem).elim (digits.2 c) isDigit_of_mem_zeros

namespace Scientific

variable {x : Scientific}

theorem isDigits_digitChars : IsDigits x.digitChars := isDigits_toDigits x.digits

theorem ofDigitChars_digitChars : Nat.ofDigitChars 10 x.digitChars 0 = x.digits :=
  Nat.ofDigitChars_ten_toDigits

theorem value_of_nonneg (whole : 0 ≤ x.exponent) :
    x.value = (10 ^ x.exponent.toNat * x.digits : ℕ) := by
  rw [value]
  conv_lhs => rw [← Int.toNat_of_nonneg whole, zpow_natCast]
  push_cast
  ring

theorem value_of_neg (fraction : x.exponent < 0) :
    x.value = x.digits / 10 ^ (-x.exponent).toNat := by
  have split : x.exponent = -((-x.exponent).toNat : ℤ) := by omega
  rw [value]
  conv_lhs => rw [split, zpow_neg, zpow_natCast]
  rw [div_eq_mul_inv]

/-- A text around a point denotes the number when it has its digits, as many of them behind the
point as the exponent says. -/
theorem point_spec {whole fraction : List Char} (first : IsDigits whole)
    (second : IsDigits fraction) (negative : x.exponent < 0)
    (same : Nat.ofDigitChars 10 (whole ++ fraction) 0 = x.digits)
    (places : fraction.length = (-x.exponent).toNat) :
    IsPositional (whole ++ '.' :: fraction) ∧
      unsignedValue? (whole ++ '.' :: fraction) = some x.value := by
  have positional : IsPositional (whole ++ '.' :: fraction) :=
    Or.inr ⟨whole, fraction, first, second, rfl⟩
  apply And.intro positional
  rw [positional.unsignedValue?_eq, mantissaValue?_of_point first second, same, places,
    value_of_neg negative]

/-- The positional form has digits, perhaps with a point among them, and denotes the number. -/
theorem positional_spec :
    IsPositional x.positional ∧ unsignedValue? x.positional = some x.value := by
  rw [positional]
  split
  · rename_i whole
    have digits : IsDigits (x.digitChars ++ List.replicate x.exponent.toNat '0') :=
      isDigits_digitChars.append_zeros _
    apply And.intro (Or.inl digits)
    rw [IsPositional.unsignedValue?_eq (Or.inl digits), mantissaValue?_of_isDigits digits,
      Nat.ofDigitChars_append, ofDigitChars_digitChars, Nat.ofDigitChars_replicate_zero,
      value_of_nonneg whole]
  · rename_i fraction
    simp only
    split
    · rename_i inside
      apply point_spec
      · apply isDigits_digitChars.of_subset fun c mem => List.mem_of_mem_take mem
        apply List.ne_nil_of_length_pos
        rw [List.length_take]
        omega
      · apply isDigits_digitChars.of_subset fun c mem => List.mem_of_mem_drop mem
        apply List.ne_nil_of_length_pos
        rw [List.length_drop]
        omega
      · omega
      · rw [List.take_append_drop, ofDigitChars_digitChars]
      · rw [List.length_drop]
        omega
    · rename_i outside
      have text (filled : List Char) : ['0', '.'] ++ filled ++ x.digitChars =
          ['0'] ++ '.' :: (filled ++ x.digitChars) := rfl
      rw [text]
      apply point_spec isDigits_zero (isDigits_digitChars.zeros_append _) (by omega)
      · rw [List.singleton_append, Nat.ofDigitChars_cons, Nat.ofDigitChars_append]
        simp [ofDigitChars_digitChars]
      · rw [List.length_append, List.length_replicate]
        omega

/-- The exponential form is the leading digit, the others behind a point, and an exponent with a
sign. -/
theorem exponential_eq {first : Char} {others : List Char}
    (digits : x.digitChars = first :: others) :
    x.exponential = (first :: if others = [] then [] else '.' :: others) ++
      'e' :: (if x.leadingExponent < 0 then '-' else '+') ::
        Nat.toDigits 10 x.leadingExponent.natAbs := by
  rw [exponential, digits]
  cases others with
  | nil => rfl
  | cons second rest => rfl

/-- What stands before the exponent denotes the number with the point behind the leading digit. -/
theorem mantissa_spec {first : Char} {others : List Char}
    (digits : x.digitChars = first :: others) :
    IsPositional (first :: if others = [] then [] else '.' :: others) ∧
      mantissaValue? (first :: if others = [] then [] else '.' :: others) =
        some ((x.digits : ℚ) / 10 ^ others.length) := by
  have isDigits : IsDigits (first :: others) := digits ▸ isDigits_digitChars
  have same : Nat.ofDigitChars 10 (first :: others) 0 = x.digits :=
    digits ▸ ofDigitChars_digitChars
  split
  · rename_i single
    subst single
    apply And.intro (Or.inl isDigits)
    rw [mantissaValue?_of_isDigits isDigits, same, List.length_nil, pow_zero, div_one]
  · rename_i several
    have leading : IsDigits [first] :=
      isDigits.of_subset (fun c mem => List.mem_singleton.mp mem ▸ List.mem_cons_self) (by simp)
    have rest : IsDigits others :=
      isDigits.of_subset (fun c mem => List.mem_cons_of_mem first mem) several
    have read := mantissaValue?_of_point leading rest
    rw [List.singleton_append, List.singleton_append, same] at read
    exact ⟨Or.inr ⟨[first], others, leading, rest, rfl⟩, read⟩

/-- The exponential form denotes the number. -/
theorem unsignedValue?_exponential : unsignedValue? x.exponential = some x.value := by
  obtain ⟨first, others, digits⟩ := List.exists_cons_of_ne_nil x.isDigits_digitChars.1
  obtain ⟨positional, read⟩ := mantissa_spec digits
  have length : x.digitChars.length - 1 = others.length := by rw [digits]; rfl
  have text := unsignedValue?_of_exponent positional read
    (isDigits_toDigits x.leadingExponent.natAbs) (decide (x.leadingExponent < 0))
  simp only [decide_eq_true_eq, Nat.ofDigitChars_ten_toDigits] at text
  rw [exponential_eq digits, text]
  have signed : (if x.leadingExponent < 0 then -(x.leadingExponent.natAbs : ℤ)
      else x.leadingExponent.natAbs) = x.leadingExponent := by
    split <;> omega
  rw [signed, leadingExponent, length, zpow_add₀ (by norm_num), zpow_natCast, value]
  field_simp

end Scientific

end HtmlTemplate.Decimal
