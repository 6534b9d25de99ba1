import GuessingGame.Proofs.Text.Folding
import GuessingGame.Theme.Color

/-!
# How colours are spelt

A colour is written as a number sign and three pairs of hexadecimal digits, or as one of the
names, in any letter case: `Color.Written`. What is read is a little more (`Color.Taken`). A plus
sign is taken for a leading zero in each pair, and the Kelvin sign for a `k` in the names that
have one, because it becomes one in lower case. There is nothing else: a text is written as a
colour just when it is read as one and has neither of these characters (`written_iff`).
-/

namespace GuessingGame

open GuessingGame.Text

namespace Text

theorem hexDigit?_of_le {c : Char} (large : 128 ≤ c.toNat) : hexDigit? c = none := by
  have digit : c.isDigit = false := by
    rw [Bool.eq_false_iff]
    intro digit
    have bound := (Char.isDigit_iff_toNat.mp digit).2
    have nine : '9'.toNat = 57 := rfl
    omega
  have beyond : ∀ last : Char, last.toNat < 128 → ¬c ≤ last := by
    intro last small within
    have bound : c.toNat ≤ last.toNat := UInt32.le_iff_toNat_le.mp within
    omega
  simp [hexDigit?, digit, beyond 'f' (by decide), beyond 'F' (by decide)]

/-- A hexadecimal digit of some value is the digit that is written for it, in either case. -/
theorem hexDigit?_eq_some_iff {c : Char} {value : Nat} :
    hexDigit? c = some value ↔ value < 16 ∧ c.toLower = hexDigit value := by
  have ascii : ∀ n < 128, (∀ value < 16, hexDigit? (Char.ofNat n) = some value ↔
      (Char.ofNat n).toLower = hexDigit value) ∧
      ∀ value ∈ hexDigit? (Char.ofNat n), value < 16 := by decide +kernel
  have written : ∀ value < 16, (hexDigit value).toNat < 128 := by decide
  by_cases small : c.toNat < 128
  · obtain ⟨alike, bound⟩ := ascii c.toNat small
    rw [Char.ofNat_toNat] at alike bound
    constructor
    · intro read
      exact ⟨bound value read, (alike value (bound value read)).mp read⟩
    · rintro ⟨bound, same⟩
      exact (alike value bound).mpr same
  · have large : 128 ≤ c.toNat := Nat.le_of_not_lt small
    rw [hexDigit?_of_le large, toLower_of_le large]
    constructor
    · nofun
    · rintro ⟨bound, rfl⟩
      exact absurd (written value bound) small

theorem isAlphanum_of_isLower {c : Char} (lower : c.isLower = true) : c.isAlphanum = true := by
  show (c.isUpper || c.isLower || c.isDigit) = true
  rw [lower, Bool.or_true, Bool.true_or]

theorem isAlphanum_of_toLower {c letter : Char} (same : c.toLower = letter)
    (plain : letter.isAlphanum = true) : c.isAlphanum = true := by
  have alike : c.toLower.isAlphanum = c.isAlphanum :=
    apply_recased (.inr (.inl rfl)) (by decide +kernel)
  rw [← alike, same, plain]

theorem toNat_lt_of_isAlphanum {c : Char} (plain : c.isAlphanum = true) : c.toNat < 128 := by
  have kinds : (c.isUpper || c.isLower || c.isDigit) = true := plain
  rw [Bool.or_eq_true, Bool.or_eq_true] at kinds
  rcases kinds with (capital | letter) | digit
  · have bound : c.toNat ≤ 90 :=
      UInt32.le_iff_toNat_le.mp (of_decide_eq_true capital).2
    omega
  · have bound := (isLower_iff.mp letter).2
    omega
  · have bound := (Char.isDigit_iff_toNat.mp digit).2
    have nine : '9'.toNat = 57 := rfl
    omega

theorem isBlank_of_isAlphanum {c : Char} (plain : c.isAlphanum = true) : isBlank c = false := by
  have ascii : ∀ n < 128, (Char.ofNat n).isAlphanum = true → isBlank (Char.ofNat n) = false := by
    decide +kernel
  have blank := ascii c.toNat (toNat_lt_of_isAlphanum plain)
  rw [Char.ofNat_toNat] at blank
  exact blank plain

end Text

namespace Color

/-- The two hexadecimal digits of a number below 256, in either case. -/
def Pair (value : UInt8) (pair : List Char) : Prop :=
  pair.map Char.toLower = hexDigits hexDigit 2 value.toNat

/-- What is taken for such a pair: it may begin with a plus sign where it would with a zero. -/
def TakenPair (value : UInt8) (pair : List Char) : Prop :=
  Pair value pair ∨ ∃ digit, pair = ['+', digit] ∧ Pair value ['0', digit]

theorem hexDigits_two (digit : Nat → Char) (value : Nat) :
    hexDigits digit 2 value = [digit (value / 16 % 16), digit (value % 16)] := rfl

theorem pair_iff {value : UInt8} {high low : Char} :
    Pair value [high, low] ↔ hexDigit? high = some (value.toNat / 16) ∧
      hexDigit? low = some (value.toNat % 16) := by
  have bound : value.toNat < 256 := value.toNat_lt_size
  have high_lt : value.toNat / 16 < 16 := by omega
  have low_lt : value.toNat % 16 < 16 := by omega
  rw [Pair, hexDigits_two, Nat.mod_eq_of_lt high_lt, hexDigit?_eq_some_iff, hexDigit?_eq_some_iff,
    and_iff_right high_lt, and_iff_right low_lt]
  simp

theorem exists_of_pair {value : UInt8} {pair : List Char} (h : Pair value pair) :
    ∃ high low, pair = [high, low] := by
  have size := congrArg List.length h
  rw [List.length_map] at size
  exact List.length_eq_two.mp size

theorem exists_of_takenPair {value : UInt8} {pair : List Char} (h : TakenPair value pair) :
    ∃ high low, pair = [high, low] := by
  rcases h with h | ⟨digit, rfl, -⟩
  · exact exists_of_pair h
  · exact ⟨_, _, rfl⟩

/-- Two digits make the number that they are the digits of. -/
theorem ofNat_eq_iff_pair {high low : Char} {first second : Nat}
    (hfirst : hexDigit? high = some first) (hsecond : hexDigit? low = some second)
    (value : UInt8) : UInt8.ofNat (first * 16 + second) = value ↔ Pair value [high, low] := by
  have first_lt := (hexDigit?_eq_some_iff.mp hfirst).1
  have second_lt := (hexDigit?_eq_some_iff.mp hsecond).1
  have small : first * 16 + second < UInt8.size := by
    have size : UInt8.size = 256 := rfl
    omega
  rw [pair_iff, hfirst, hsecond, ← UInt8.toNat_inj, UInt8.toNat_ofNat_of_lt' small,
    Option.some.injEq, Option.some.injEq]
  omega

/-- In front of a plus sign nothing else is looked at; it stands for a zero. -/
theorem takenPair_plus_iff {value : UInt8} {low : Char} :
    TakenPair value ['+', low] ↔ Pair value ['0', low] := by
  have sign : hexDigit? '+' = none := by decide
  simp [TakenPair, pair_iff, sign]

theorem takenPair_iff_of_ne {value : UInt8} {high low : Char} (other : high ≠ '+') :
    TakenPair value [high, low] ↔ Pair value [high, low] := by
  simp [TakenPair, other]

theorem pair?_eq_some_iff {value : UInt8} {high low : Char} :
    pair? high low = some value ↔ TakenPair value [high, low] := by
  by_cases plus : high = '+'
  · have zero : hexDigit? '0' = some 0 := by decide
    rw [plus, takenPair_plus_iff]
    cases second : hexDigit? low with
    | none => simp [pair?, pair_iff, second]
    | some units => simp [pair?, second, ← ofNat_eq_iff_pair zero second]
  · rw [takenPair_iff_of_ne plus]
    cases second : hexDigit? low with
    | none => simp [pair?, pair_iff, second]
    | some units =>
        cases first : hexDigit? high with
        | none => simp [pair?, pair_iff, first, second, plus]
        | some digit => simp [pair?, first, second, plus, ← ofNat_eq_iff_pair first second]

inductive Written : List Char → Color → Prop
  | mixed {r g b : UInt8} {first second third : List Char} : Pair r first → Pair g second →
      Pair b third → Written ('#' :: (first ++ second ++ third)) (mixed r g b)
  | named {name : String} {color : Color} {word : List Char} : (name, color) ∈ spellings →
      word.map Char.toLower = name.toList → Written word color

/-- What is taken for a colour: a pair of digits may begin with a plus sign, and a Kelvin sign
may stand for a `k`. -/
inductive Taken : List Char → Color → Prop
  | mixed {r g b : UInt8} {first second third : List Char} : TakenPair r first →
      TakenPair g second → TakenPair b third →
      Taken ('#' :: (first ++ second ++ third)) (mixed r g b)
  | named {name : String} {color : Color} {word : List Char} : (name, color) ∈ spellings →
      List.Forall₂ BecomesLetter word name.toList → Taken word color

/-- The digits of a pair, in capitals. -/
theorem pair_pairOf (value : UInt8) : Pair value (pairOf value) := by
  have capitals : ∀ digit < 16, (Text.capitalHexDigit digit).toLower = hexDigit digit := by decide
  have first : value.toNat / 16 % 16 < 16 := Nat.mod_lt _ (by decide)
  have second : value.toNat % 16 < 16 := Nat.mod_lt _ (by decide)
  show [_, _] = [_, _]
  rw [capitals _ first, capitals _ second]

/-- A mixed colour is written by its name. -/
theorem written_name (r g b : UInt8) : Written (mixed r g b).name.toList (mixed r g b) := by
  rw [name, String.toList_ofList]
  exact .mixed (pair_pairOf r) (pair_pairOf g) (pair_pairOf b)

theorem Written.taken {word : List Char} {color : Color} (h : Written word color) :
    Taken word color := by
  cases h with
  | mixed first second third => exact .mixed (.inl first) (.inl second) (.inl third)
  | named listed same =>
      refine .named listed ?_
      rw [← same, List.forall₂_map_right_iff, List.forall₂_same]
      intro c _
      exact .inl rfl

theorem TakenPair.pair {value : UInt8} {pair : List Char} (h : TakenPair value pair)
    (unsigned : '+' ∉ pair) : Pair value pair := by
  rcases h with h | ⟨digit, rfl, -⟩
  · exact h
  · exact absurd List.mem_cons_self unsigned

theorem Taken.written {word : List Char} {color : Color} (h : Taken word color)
    (unsigned : '+' ∉ word) (ordinary : kelvin ∉ word) : Written word color := by
  cases h with
  | mixed first second third =>
      simp only [List.mem_cons, List.mem_append, not_or] at unsigned
      obtain ⟨-, ⟨hfirst, hsecond⟩, hthird⟩ := unsigned
      exact .mixed (first.pair hfirst) (second.pair hsecond) (third.pair hthird)
  | @named name _ _ listed becomes =>
      refine .named listed ?_
      rw [← List.forall₂_eq_eq_eq, List.forall₂_map_left_iff]
      have kept := (List.forall₂_and_left _ _).mpr
        ⟨fun c among => ne_of_mem_of_not_mem among ordinary, becomes⟩
      refine kept.imp fun c letter ⟨other, becomes⟩ => ?_
      rcases becomes with same | ⟨sign, -⟩
      · exact same
      · exact absurd sign other

theorem mixed?_eq_some_iff {digits : List Char} {color : Color} :
    mixed? digits = some color ↔ ∃ r g b first second third, TakenPair r first ∧
      TakenPair g second ∧ TakenPair b third ∧ digits = first ++ second ++ third ∧
      color = mixed r g b := by
  constructor
  · intro read
    unfold mixed? at read
    split at read
    · rename_i r r' g g' b b'
      cases hr : pair? r r' with
      | none => simp [hr] at read
      | some red =>
          cases hg : pair? g g' with
          | none => simp [hr, hg] at read
          | some green =>
              cases hb : pair? b b' with
              | none => simp [hr, hg, hb] at read
              | some blue =>
                  simp only [hr, hg, hb] at read
                  cases read
                  exact ⟨red, green, blue, [r, r'], [g, g'], [b, b'], pair?_eq_some_iff.mp hr,
                    pair?_eq_some_iff.mp hg, pair?_eq_some_iff.mp hb, rfl, rfl⟩
    · cases read
  · rintro ⟨r, g, b, first, second, third, hr, hg, hb, rfl, rfl⟩
    obtain ⟨c₁, d₁, rfl⟩ := exists_of_takenPair hr
    obtain ⟨c₂, d₂, rfl⟩ := exists_of_takenPair hg
    obtain ⟨c₃, d₃, rfl⟩ := exists_of_takenPair hb
    simp [mixed?, pair?_eq_some_iff.mpr hr, pair?_eq_some_iff.mpr hg, pair?_eq_some_iff.mpr hb]

/-- The names are words of the letters `a` to `z`. -/
theorem isLower_of_mem_spellings {name : String} {color : Color}
    (listed : (name, color) ∈ spellings) : ∀ d ∈ name.toList, d.isLower = true := by
  have all : ∀ entry ∈ spellings, entry.1.toList.all Char.isLower = true := by decide +kernel
  exact List.all_eq_true.mp (all (name, color) listed)

theorem lookup_spellings_iff {word : List Char} {color : Color} :
    spellings.lookup (String.ofList word) = some color ↔
      ∃ name, (name, color) ∈ spellings ∧ word = name.toList := by
  have first : ∀ entry ∈ spellings, spellings.lookup entry.1 = some entry.2 := by decide +kernel
  constructor
  · intro found
    obtain ⟨before, after, split, -⟩ := List.lookup_eq_some_iff.mp found
    refine ⟨String.ofList word, ?_, (String.toList_ofList).symm⟩
    rw [split]
    exact List.mem_append_right _ List.mem_cons_self
  · rintro ⟨name, listed, rfl⟩
    rw [String.ofList_toList]
    exact first (name, color) listed

/-- What begins with a number sign is no name. -/
theorem not_becomesLetter_sign {digits : List Char} {name : String} {color : Color}
    (listed : (name, color) ∈ spellings) :
    ¬List.Forall₂ BecomesLetter ('#' :: digits) name.toList := by
  intro becomes
  have lower := isLower_of_mem_spellings listed
  generalize name.toList = letters at becomes lower
  cases becomes with
  | cons first _ =>
      rcases first with rfl | ⟨sign, -⟩
      · exact absurd (lower _ List.mem_cons_self) (by decide)
      · exact absurd sign (by decide)

/-- A text is read as a colour just when it is taken for one. -/
theorem parse?_eq_some_iff {text : String} {color : Color} :
    parse? text = some color ↔ Taken (trim text.toList) color := by
  unfold parse?
  split
  · rename_i digits spelt
    rw [spelt, mixed?_eq_some_iff]
    constructor
    · rintro ⟨r, g, b, first, second, third, hr, hg, hb, rfl, rfl⟩
      exact .mixed hr hg hb
    · intro taken
      cases taken with
      | mixed hr hg hb => exact ⟨_, _, _, _, _, _, hr, hg, hb, rfl, rfl⟩
      | named listed becomes => exact absurd becomes (not_becomesLetter_sign listed)
  · rename_i unsigned
    rw [lookup_spellings_iff]
    constructor
    · rintro ⟨name, listed, lowered⟩
      exact .named listed ((lower_eq_word_iff (isLower_of_mem_spellings listed) _).mp lowered)
    · intro taken
      generalize trim text.toList = word at taken unsigned
      cases taken with
      | mixed => exact absurd rfl (unsigned _)
      | named listed becomes =>
          exact ⟨_, listed, (lower_eq_word_iff (isLower_of_mem_spellings listed) _).mpr becomes⟩

theorem isAlphanum_of_pair {value : UInt8} {pair : List Char} (h : Pair value pair) :
    ∀ c ∈ pair, c.isAlphanum = true := by
  have digits : ∀ digit < 16, (hexDigit digit).isAlphanum = true := by decide
  intro c among
  have lower : c.toLower ∈ pair.map Char.toLower := List.mem_map_of_mem among
  rw [h, hexDigits_two, List.mem_pair] at lower
  rcases lower with lower | lower
  · exact isAlphanum_of_toLower lower (digits _ (Nat.mod_lt _ (by decide)))
  · exact isAlphanum_of_toLower lower (digits _ (Nat.mod_lt _ (by decide)))

/-- A colour is written with digits and the letters `a` to `z` only, after the number sign. -/
theorem Written.sign_or_isAlphanum {word : List Char} {color : Color} (h : Written word color) :
    ∀ c ∈ word, c = '#' ∨ c.isAlphanum = true := by
  intro c among
  cases h with
  | mixed first second third =>
      simp only [List.mem_cons, List.mem_append] at among
      rcases among with sign | (among | among) | among
      · exact .inl sign
      · exact .inr (isAlphanum_of_pair first c among)
      · exact .inr (isAlphanum_of_pair second c among)
      · exact .inr (isAlphanum_of_pair third c among)
  | named listed same =>
      have lower : c.toLower ∈ word.map Char.toLower := List.mem_map_of_mem among
      rw [same] at lower
      have letter := isLower_of_mem_spellings listed _ lower
      exact .inr (isAlphanum_of_toLower rfl (isAlphanum_of_isLower letter))

/-- What is read as a colour is written as one, unless it has one of the two characters, which no
colour is written with. -/
theorem written_iff {word : List Char} {color : Color} :
    Written word color ↔ Taken word color ∧ '+' ∉ word ∧ kelvin ∉ word := by
  constructor
  · intro written
    refine ⟨written.taken, fun among => ?_, fun among => ?_⟩
    · exact absurd (written.sign_or_isAlphanum _ among) (by decide)
    · exact absurd (written.sign_or_isAlphanum _ among) (by decide)
  · rintro ⟨taken, unsigned, ordinary⟩
    exact taken.written unsigned ordinary

/-- A text is read as what is written in it just when it is no colour or has neither of the two
characters. -/
theorem parse?_written_iff {text : String} :
    (∀ color, parse? text = some color ↔ Written (trim text.toList) color) ↔
      parse? text = none ∨ '+' ∉ trim text.toList ∧ kelvin ∉ trim text.toList := by
  simp only [parse?_eq_some_iff, written_iff]
  constructor
  · intro faithful
    cases read : parse? text with
    | none => exact .inl rfl
    | some color => exact .inr ((faithful color).mp (parse?_eq_some_iff.mp read)).2
  · rintro (none | plain) color
    · rw [← parse?_eq_some_iff, none]
      simp
    · rw [and_iff_left plain]

/-- A colour is read back from the way it is written. -/
theorem Written.parse?_eq {word : List Char} {color : Color} (h : Written word color) :
    parse? (String.ofList word) = some color := by
  have solid : ∀ c ∈ word, isBlank c = false := by
    intro c among
    rcases h.sign_or_isAlphanum c among with rfl | plain
    · decide
    · exact isBlank_of_isAlphanum plain
  rw [parse?_eq_some_iff, String.toList_ofList, trim_of_isBlank solid]
  exact h.taken

end Color

end GuessingGame
