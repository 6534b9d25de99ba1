import GuessingGame.Text.Digits
import Mathlib.Algebra.Group.Nat.Defs

/-!
# Runs of characters

Numbers and names are read as far as their characters reach: a run of them that nothing continues
is taken exactly (`takeWhile_exact`), and what is left is what stands behind it. The digits of a
number are such a run, and give the number back, in base ten as in base sixteen.
-/

namespace GuessingGame.Text

/-- A run of characters with a property, up to one without it, is taken whole. -/
theorem takeWhile_exact {p : Char → Bool} {word rest : List Char}
    (inside : ∀ c ∈ word, p c = true) (stop : ∀ c ∈ rest.head?, p c = false) :
    (word ++ rest).takeWhile p = word := by
  have behind : rest.takeWhile p = [] := by
    cases rest with
    | nil => rfl
    | cons c rest => simp [stop c rfl]
  rw [List.takeWhile_append_of_pos inside, behind, List.append_nil]

/-- What stands behind such a run is left. -/
theorem dropWhile_exact {p : Char → Bool} {word rest : List Char}
    (inside : ∀ c ∈ word, p c = true) (stop : ∀ c ∈ rest.head?, p c = false) :
    (word ++ rest).dropWhile p = rest := by
  rw [List.dropWhile_append_of_pos inside]
  cases rest with
  | nil => rfl
  | cons c rest => rw [List.dropWhile_cons_of_neg (by simp [stop c rfl])]

/-- What is taken is such a run, and what follows does not continue it. -/
theorem takeWhile_split (p : Char → Bool) (text : List Char) :
    ∃ rest, text = text.takeWhile p ++ rest ∧ (∀ c ∈ text.takeWhile p, p c = true) ∧
      ∀ c ∈ rest.head?, p c = false := by
  refine ⟨text.dropWhile p, List.takeWhile_append_dropWhile.symm, ?_, ?_⟩
  · intro c member
    exact List.all_eq_true.mp List.all_takeWhile c member
  · intro c head
    have := List.head?_dropWhile_not p text
    rw [Option.mem_def.mp head] at this
    simpa using this

/-- A number is written without leading zeros, and zero as one. -/
theorem head?_decimal_ne {n : Nat} (pos : n ≠ 0) : (Nat.toDigits 10 n).head? ≠ some '0' := by
  induction n using Nat.strongRecOn with
  | ind n ih =>
      by_cases small : n < 10
      · have digits : ∀ digit < 10, digit ≠ 0 → digit.digitChar ≠ '0' := by decide
        simpa [Nat.toDigits_of_lt_base small] using digits n small pos
      · have more := ih (n / 10) (by omega) (by omega)
        rw [Nat.toDigits_of_base_le (by decide) (Nat.le_of_not_lt small), List.head?_append]
        cases digits : Nat.toDigits 10 (n / 10) with
        | nil => exact absurd digits Nat.toDigits_ne_nil
        | cons first behind =>
            rw [digits] at more
            exact more

/-- A word is read back from its decimal digits. -/
theorem word?_decimal (value : UInt64) : word? (Nat.toDigits 10 value.toNat) = some value := by
  have digits : (Nat.toDigits 10 value.toNat).all Char.isDigit = true :=
    List.all_eq_true.mpr fun c member =>
      Nat.isDigit_of_mem_toDigits (by decide) (by decide) member
  have read : Nat.ofDigitChars 10 (Nat.toDigits 10 value.toNat) 0 = value.toNat :=
    Nat.ofDigitChars_toDigits (by decide) (by decide)
  simp only [word?, read]
  rw [if_pos ⟨Nat.toDigits_ne_nil, digits, value.toNat_lt_size⟩, UInt64.ofNat_toNat]

theorem hexValue?_append_singleton (digits : List Char) (digit : Char) :
    hexValue? (digits ++ [digit]) =
      (hexValue? digits).bind fun value => (hexDigit? digit).map (value * 16 + ·) :=
  List.foldl_append

theorem length_hexDigits (digit : Nat → Char) (count value : Nat) :
    (hexDigits digit count value).length = count := by
  induction count generalizing value with
  | zero => rfl
  | succ count ih => rw [hexDigits, List.length_append, ih, List.length_singleton]

/-- A number is read back from its last hexadecimal digits as far as they tell it. -/
theorem hexValue?_hexDigits (count value : Nat) :
    hexValue? (hexDigits hexDigit count value) = some (value % 16 ^ count) := by
  have digits : ∀ digit < 16, hexDigit? (hexDigit digit) = some digit := by decide
  induction count generalizing value with
  | zero => simp [hexDigits, hexValue?, Nat.mod_one]
  | succ count ih =>
      rw [hexDigits, hexValue?_append_singleton, ih, Option.bind_some,
        digits _ (Nat.mod_lt _ (by decide)), Option.map_some, Nat.pow_succ', Nat.mod_mul,
        Nat.mul_comm, Nat.add_comm]

end GuessingGame.Text
