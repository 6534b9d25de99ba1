import GuessingGame.Proofs.Script.Reads

/-!
# Where no token stands

A lexical fault has a lexeme of its own: a character that starts no lexeme, a whole word
that is no keyword, or a whole number that is too large. `Cause.Spelt` says so without
reading anything, as `Lexeme.Spelt` does for the lexemes of a script.

The main fact is that a fault is found exactly behind a gap, at the first character of
such a lexeme.
-/

namespace GuessingGame.Script

open GuessingGame.Text

/-- How the lexeme of a lexical fault is written where `rest` follows it. -/
def Cause.Spelt : Cause → List Char → List Char → Prop
  | illegalCharacter c, word, rest =>
    word = [c] ∧ isBlank c = false ∧ (c = '/' → rest.head? ≠ some '/') ∧
      isAlphabetic c = false ∧ c ≠ '"' ∧ c.isDigit = false ∧ c ≠ ';'
  | unknownKeyword text, word, rest =>
    word = text.toList ∧ (∃ c ∈ word.head?, isAlphabetic c = true) ∧
      (∀ c ∈ word, isWordChar c = true) ∧ (∀ c ∈ rest.head?, isWordChar c = false) ∧
      ∀ k : Keyword, k.word ≠ text
  | invalidInteger digits, word, rest =>
    word = digits.toList ∧ word ≠ [] ∧ (∀ c ∈ word, c.isDigit = true) ∧
      (∀ c ∈ rest.head?, c.isDigit = false) ∧ UInt64.size ≤ Nat.ofDigitChars 10 word 0
  | _, _, _ => False

theorem Cause.Spelt.isLexical {cause : Cause} {word rest : List Char}
    (h : cause.Spelt word rest) : cause.isLexical = true := by
  cases cause with
  | unexpected | interrupted => exact h.elim
  | _ => rfl

/-- No lexeme of a fault is empty. -/
theorem Cause.Spelt.ne_nil {cause : Cause} {word rest : List Char} (h : cause.Spelt word rest) :
    word ≠ [] := by
  cases cause with
  | illegalCharacter c => simp [h.1]
  | unknownKeyword text =>
      obtain ⟨-, ⟨c, head, -⟩, -⟩ := h
      rintro rfl
      cases head
  | invalidInteger digits => exact h.2.1
  | unexpected | interrupted => exact h.elim

/-- Where nothing is passed over, neither a blank nor a comment stands. -/
theorem not_gap_of_trivia {c : Char} {rest : List Char} (stop : trivia false (c :: rest) = []) :
    isBlank c = false ∧ (c = '/' → rest.head? ≠ some '/') := by
  by_cases blank : isBlank c = true
  · rw [trivia_blank blank] at stop
    cases stop
  · refine ⟨by simpa using blank, ?_⟩
    rintro rfl comment
    obtain ⟨tail, rfl⟩ := List.head?_eq_some_iff.mp comment
    rw [trivia_slashes] at stop
    cases stop

theorem Keyword.word_ne_of_ofWord? {text : String} (h : Keyword.ofWord? text = none)
    (k : Keyword) : k.word ≠ text := by
  rintro rfl
  simp at h

theorem size_le_of_number? {digits : List Char} (h : number? digits = none) :
    UInt64.size ≤ Nat.ofDigitChars 10 digits 0 := by
  by_contra small
  simp [number?, Nat.lt_of_not_le small] at h

/-- Where a fault is found and no gap stands, there stands its lexeme. -/
theorem spelt_of_lexemeAt_error {text taken : List Char} {cause : Cause}
    (stop : trivia false text = []) (found : lexemeAt text = (.error cause, taken)) :
    ∃ word rest, text = word ++ rest ∧ cause.Spelt word rest := by
  cases text with
  | nil => cases found
  | cons c tail =>
      by_cases alphabetic : isAlphabetic c
      · obtain ⟨rest, split, inside, ends⟩ := takeWhile_split isWordChar (c :: tail)
        simp only [lexemeAt, alphabetic, if_true] at found
        cases known : Keyword.ofWord? (String.ofList ((c :: tail).takeWhile isWordChar)) with
        | some k =>
            rw [known] at found
            cases found
        | none =>
            rw [known] at found
            cases found
            have first : isWordChar c = true := by
              simp [isWordChar, isAlphanumeric_of_isAlphabetic alphabetic]
            refine ⟨_, rest, split, ?_, ⟨c, ?_, alphabetic⟩, inside, ends,
              Keyword.word_ne_of_ofWord? known⟩
            · rw [String.toList_ofList]
            · simp [first]
      · by_cases quote : c = '"'
        · subst quote
          rw [lexemeAt_quote] at found
          cases found
        · by_cases digit : c.isDigit
          · obtain ⟨rest, split, digits, ends⟩ := takeWhile_split Char.isDigit (c :: tail)
            simp only [lexemeAt, alphabetic, quote, digit, Bool.false_eq_true, if_true,
              if_false] at found
            cases known : number? ((c :: tail).takeWhile Char.isDigit) with
            | some value =>
                rw [known] at found
                cases found
            | none =>
                rw [known] at found
                cases found
                refine ⟨_, rest, split, ?_, ?_, digits, ends, size_le_of_number? known⟩
                · rw [String.toList_ofList]
                · simp [digit]
          · by_cases semicolon : c = ';'
            · subst semicolon
              simp [lexemeAt, alphabetic, digit] at found
            · simp only [lexemeAt, alphabetic, quote, digit, semicolon, Bool.false_eq_true,
                if_false] at found
              cases found
              obtain ⟨blank, comment⟩ := not_gap_of_trivia stop
              exact ⟨[c], tail, rfl, rfl, blank, comment, by simpa using alphabetic, quote,
                by simpa using digit, semicolon⟩

/-- Whatever fault is found, the text begins with a gap and then the lexeme of the fault,
which is the place of the fault. -/
theorem Cursor.fault_cases {cursor following : Cursor} {fault : Fault}
    (found : cursor.next = (.error fault, following)) :
    ∃ gap word rest, cursor.rest = gap ++ (word ++ rest) ∧ Gap gap ∧
      fault.cause.Spelt word rest ∧ fault.place = cursor.place.afterAll gap := by
  obtain ⟨text, place⟩ := cursor
  rcases gap_split text with final | ⟨gap, rest, rfl, hgap, stop⟩
  · rw [next_finalGap final] at found
    cases found
  · cases taken : lexemeAt rest with
    | mk result word =>
        simp only [next, skipTrivia_gap hgap stop, taken] at found
        cases result with
        | ok lexeme => cases found
        | error cause =>
            cases found
            obtain ⟨word, rest, rfl, spelt⟩ := spelt_of_lexemeAt_error stop taken
            exact ⟨gap, word, rest, rfl, hgap, spelt, rfl⟩

end GuessingGame.Script
