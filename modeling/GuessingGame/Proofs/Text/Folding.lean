import Mathlib.Data.List.Forall2
import GuessingGame.Text.Blank
import GuessingGame.Text.LowerCase

/-!
# What a comparison of texts passes over

Texts are compared without the blanks around them and in lower case. Two things follow, and both
have to be said of whole texts, since the form of a sigma depends on its neighbours.

The case of the letters `A` to `Z` makes no difference: a letter and its counterpart look alike to
every rule that lower case is made of, so that a text in which some of them are exchanged has the
same lower-case form (`lower_recased`).

Lower case makes a word of the letters `a` to `z` of no other text than such a word in any case,
except that the Kelvin sign becomes a `k`: `lower_eq_word_iff`.
-/

namespace GuessingGame.Text

theorem trim_append_of_blank (cs : List Char) {blanks : List Char}
    (blank : ∀ c ∈ blanks, isBlank c = true) : trim (cs ++ blanks) = trim cs := by
  have backward : ∀ c ∈ blanks.reverse, isBlank c = true := by simpa using blank
  unfold trim
  rw [List.dropWhile_append]
  split
  · rename_i none
    rw [List.isEmpty_iff] at none
    have dropped : (blanks ++ []).dropWhile isBlank = [] :=
      List.dropWhile_append_of_pos blank
    rw [List.append_nil] at dropped
    rw [none, dropped]
  · rw [List.reverse_append, List.dropWhile_append_of_pos backward]

theorem trim_blank_append {blanks : List Char} (blank : ∀ c ∈ blanks, isBlank c = true)
    (cs : List Char) : trim (blanks ++ cs) = trim cs := by
  unfold trim
  rw [List.dropWhile_append_of_pos blank]

theorem trim_of_isBlank {cs : List Char} (solid : ∀ c ∈ cs, isBlank c = false) :
    trim cs = cs := by
  have kept : ∀ {cs : List Char}, (∀ c ∈ cs, isBlank c = false) → cs.dropWhile isBlank = cs := by
    intro cs solid
    cases cs with
    | nil => rfl
    | cons c cs => rw [List.dropWhile_cons, solid c List.mem_cons_self, if_neg Bool.false_ne_true]
  unfold trim
  rw [kept solid, kept (by simpa using solid), List.reverse_reverse]

/-- A character and one that differs from it at most in the case of a letter `a` to `z`. -/
def Recased (c c' : Char) : Prop := c' = c ∨ c' = c.toLower ∨ c' = c.toUpper

theorem toLower_of_le {c : Char} (large : 128 ≤ c.toNat) : c.toLower = c := by
  unfold Char.toLower
  rw [dif_neg]
  intro ⟨_, high⟩
  have bound : c.toNat ≤ 90 := UInt32.le_iff_toNat_le.mp high
  omega

theorem toUpper_of_le {c : Char} (large : 128 ≤ c.toNat) : c.toUpper = c := by
  unfold Char.toUpper
  rw [dif_neg]
  intro ⟨_, high⟩
  have bound : c.toNat ≤ 122 := UInt32.le_iff_toNat_le.mp high
  omega

/-- What is the same for both cases of each letter is the same for characters that differ in the
case of a letter. All such letters are among the first 128 characters. -/
theorem apply_recased {α : Type} {f : Char → α} {c c' : Char} (h : Recased c c')
    (letters : ∀ n < 128, f (Char.ofNat n).toLower = f (Char.ofNat n) ∧
      f (Char.ofNat n).toUpper = f (Char.ofNat n)) : f c' = f c := by
  by_cases small : c.toNat < 128
  · have alike := letters c.toNat small
    rw [Char.ofNat_toNat] at alike
    rcases h with rfl | rfl | rfl
    · rfl
    · exact alike.1
    · exact alike.2
  · have large : 128 ≤ c.toNat := Nat.le_of_not_lt small
    rw [Recased, toLower_of_le large, toUpper_of_le large, or_self, or_self] at h
    rw [h]

theorem isBlank_recased {c c' : Char} (h : Recased c c') : isBlank c' = isBlank c :=
  apply_recased h (by decide +kernel)

theorem isCased_recased {c c' : Char} (h : Recased c c') : isCased c' = isCased c :=
  apply_recased h (by decide +kernel)

theorem isCaseIgnorable_recased {c c' : Char} (h : Recased c c') :
    isCaseIgnorable c' = isCaseIgnorable c :=
  apply_recased h (by decide +kernel)

theorem lowerChar_recased {c c' : Char} (h : Recased c c') : lowerChar c' = lowerChar c :=
  apply_recased h (by decide +kernel)

theorem eq_sigma_recased {c c' : Char} (h : Recased c c') : c' = 'Σ' ↔ c = 'Σ' := by
  have alike : decide (c' = 'Σ') = decide (c = 'Σ') :=
    apply_recased (f := fun c => decide (c = 'Σ')) h (by decide +kernel)
  simpa using alike

theorem dropWhile_recased {p : Char → Bool} (alike : ∀ {c c'}, Recased c c' → p c' = p c)
    {cs cs' : List Char} (h : List.Forall₂ Recased cs cs') :
    List.Forall₂ Recased (cs.dropWhile p) (cs'.dropWhile p) := by
  induction h with
  | nil => exact .nil
  | @cons c c' cs cs' first rest ih =>
      rw [List.dropWhile_cons, List.dropWhile_cons, alike first]
      split
      · exact ih
      · exact .cons first rest

theorem trim_recased {cs cs' : List Char} (h : List.Forall₂ Recased cs cs') :
    List.Forall₂ Recased (trim cs) (trim cs') := by
  have front := dropWhile_recased isBlank_recased h
  have back := dropWhile_recased isBlank_recased (List.rel_reverse front)
  exact List.rel_reverse back

theorem startsCased_recased {cs cs' : List Char} (h : List.Forall₂ Recased cs cs') :
    startsCased cs' = startsCased cs := by
  have behind := dropWhile_recased isCaseIgnorable_recased h
  unfold startsCased
  generalize cs.dropWhile isCaseIgnorable = rest, cs'.dropWhile isCaseIgnorable = rest' at behind
  cases behind with
  | nil => rfl
  | cons first _ => exact isCased_recased first

/-- A sigma ends a word whatever the case of the letters around it. -/
theorem endsWord_recased {before before' after after' : List Char}
    (hbefore : List.Forall₂ Recased before before') (hafter : List.Forall₂ Recased after after') :
    endsWord before' after' = endsWord before after := by
  rw [endsWord, endsWord, startsCased_recased hbefore, startsCased_recased hafter]

theorem lowerAfter_recased {before before' cs cs' : List Char}
    (hbefore : List.Forall₂ Recased before before') (h : List.Forall₂ Recased cs cs') :
    lowerAfter before' cs' = lowerAfter before cs := by
  induction h generalizing before before' with
  | nil => rfl
  | @cons c c' cs cs' first rest ih =>
      rw [lowerAfter, lowerAfter, ih (.cons first hbefore), endsWord_recased hbefore rest,
        lowerChar_recased first]
      simp only [eq_sigma_recased first]

/-- The case of single letters is lost in lower case. -/
theorem lower_recased {cs cs' : List Char} (h : List.Forall₂ Recased cs cs') :
    lower cs' = lower cs :=
  lowerAfter_recased .nil h

/-- The Kelvin sign, whose lower-case form is an ordinary `k`. -/
def kelvin : Char := '\u212a'

def BecomesLetter (c letter : Char) : Prop := c.toLower = letter ∨ (c = kelvin ∧ letter = 'k')

theorem isLower_iff {c : Char} : c.isLower = true ↔ 97 ≤ c.toNat ∧ c.toNat ≤ 122 := by
  show (decide ('a'.val ≤ c.val) && decide (c.val ≤ 'z'.val)) = true ↔ _
  rw [Bool.and_eq_true, decide_eq_true_eq, decide_eq_true_eq, UInt32.le_iff_toNat_le,
    UInt32.le_iff_toNat_le]
  rfl

/-- A number beyond the first 128 is not that of a letter `a` to `z`, nor does it stand for one
if it is that of no character. -/
theorem isLower_ofNat_of_le {n : Nat} (large : 128 ≤ n) : (Char.ofNat n).isLower = false := by
  by_cases valid : n.isValidChar
  · have bound : ¬n ≤ 122 := by omega
    rw [Char.ofNat, dif_pos valid, Bool.eq_false_iff]
    intro lower
    exact bound (isLower_iff.mp lower).2
  · rw [Char.ofNat, dif_neg valid]
    rfl

/-- Only the Kelvin sign lies in a run of capitals whose forms are among the first 128 characters. -/
theorem le_of_lower? {run : CaseRun} (listed : run ∈ caseRuns) {n m : Nat}
    (found : run.lower? n = some m) : 128 ≤ m ∨ n = 0x212a := by
  have targets : ∀ run ∈ caseRuns, 128 ≤ run.target ∨ run.first = 0x212a ∧ run.last = 0x212a := by
    decide +kernel
  unfold CaseRun.lower? at found
  split at found
  · rename_i inside
    cases found
    have := targets run listed
    omega
  · cases found

/-- What is not among the first 128 characters has no form of letters `a` to `z` only, the Kelvin
sign apart. -/
theorem exists_mem_lowerChar {c : Char} (large : 128 ≤ c.toNat) (other : c ≠ kelvin) :
    ∃ d ∈ lowerChar c, d.isLower = false := by
  unfold lowerChar
  rw [if_neg (by omega)]
  split
  · exact ⟨'\u0307', by simp, by decide⟩
  · split
    · rename_i n found
      obtain ⟨run, listed, found⟩ := List.exists_of_findSome?_eq_some found
      have far : 128 ≤ n := by
        rcases le_of_lower? listed found with far | sign
        · exact far
        · have same : c = kelvin := by rw [← Char.ofNat_toNat c, sign]; rfl
          exact absurd same other
      exact ⟨_, List.mem_singleton_self _, isLower_ofNat_of_le far⟩
    · refine ⟨c, List.mem_singleton_self _, ?_⟩
      rw [← Char.ofNat_toNat c]
      exact isLower_ofNat_of_le large

theorem toLower_ne_of_le {c letter : Char} (large : 128 ≤ c.toNat)
    (lower : letter.isLower = true) : c.toLower ≠ letter := by
  rw [toLower_of_le large]
  rintro rfl
  have bound := (isLower_iff.mp lower).2
  omega

theorem exists_mem_lowerAfter_cons {c : Char} (large : 128 ≤ c.toNat) (other : c ≠ kelvin)
    (before cs : List Char) : ∃ d ∈ lowerAfter before (c :: cs), d.isLower = false := by
  rw [lowerAfter]
  split
  · refine ⟨_, List.mem_append_left _ (List.mem_singleton_self _), ?_⟩
    split <;> decide
  · obtain ⟨d, among, none⟩ := exists_mem_lowerChar large other
    exact ⟨d, List.mem_append_left _ among, none⟩

/-- The first character of a text becomes one character, and so it becomes no other letter, or it
becomes something that is no letter, and then it becomes none. -/
theorem lowerAfter_cons_cases (c : Char) (before cs : List Char) :
    (∃ d, lowerAfter before (c :: cs) = d :: lowerAfter (c :: before) cs ∧
      ∀ letter, letter.isLower = true → (BecomesLetter c letter ↔ d = letter)) ∨
    (∃ d ∈ lowerAfter before (c :: cs), d.isLower = false) ∧
      ∀ letter, letter.isLower = true → ¬BecomesLetter c letter := by
  by_cases small : c.toNat < 128
  · have sigma : c ≠ 'Σ' := by
      rintro rfl
      exact absurd small (by decide)
    have sign : c ≠ kelvin := by
      rintro rfl
      exact absurd small (by decide)
    refine .inl ⟨c.toLower, ?_, fun letter _ => by simp [BecomesLetter, sign]⟩
    rw [lowerAfter, if_neg sigma, lowerChar_of_ascii small, List.singleton_append]
  · have large : 128 ≤ c.toNat := Nat.le_of_not_lt small
    by_cases sign : c = kelvin
    · have form : lowerChar kelvin = ['k'] := by decide +kernel
      refine .inl ⟨'k', ?_, fun letter lower => ?_⟩
      · rw [sign, lowerAfter, if_neg (by decide), form, List.singleton_append]
      · rw [BecomesLetter, or_iff_right (toLower_ne_of_le large lower), and_iff_right sign, eq_comm]
    · refine .inr ⟨exists_mem_lowerAfter_cons large sign before cs, fun letter lower => ?_⟩
      simp [BecomesLetter, toLower_ne_of_le large lower, sign]

theorem lowerAfter_eq_word_iff {word : List Char} (letters : ∀ d ∈ word, d.isLower = true)
    (before cs : List Char) :
    lowerAfter before cs = word ↔ List.Forall₂ BecomesLetter cs word := by
  induction cs generalizing before word with
  | nil =>
      rw [lowerAfter, List.forall₂_nil_left_iff]
      exact eq_comm
  | cons c cs ih =>
      rcases lowerAfter_cons_cases c before cs with ⟨d, form, meant⟩ | ⟨⟨d, among, none⟩, never⟩
      · rw [form]
        cases word with
        | nil => simp
        | cons letter word =>
            rw [List.forall_mem_cons] at letters
            rw [List.cons.injEq, List.forall₂_cons, meant letter letters.1, ih letters.2]
      · constructor
        · rintro rfl
          rw [letters d among] at none
          cases none
        · intro h
          cases h with
          | cons first _ => exact absurd first (never _ (letters _ List.mem_cons_self))

/-- In lower case a text is a word of the letters `a` to `z` just when each of its characters
becomes the letter in its place. -/
theorem lower_eq_word_iff {word : List Char} (letters : ∀ d ∈ word, d.isLower = true)
    (cs : List Char) : lower cs = word ↔ List.Forall₂ BecomesLetter cs word :=
  lowerAfter_eq_word_iff letters [] cs

end GuessingGame.Text
