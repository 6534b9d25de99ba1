import GuessingGame.Proofs.Text.Runs
import GuessingGame.Script.Cursor

/-!
# How lexemes are spelt

A script is spelt as lexemes with gaps between them. A gap is any run of blanks
and comments; a comment runs through its newline, and only the last gap of a
script may hold a comment that the end of the text cuts off. Every lexeme stands
in its own spelling and has to end where it ends: a keyword is not followed by a
character that continues a word, nor a number by a digit.

The relations below say so without reading anything. The main facts of this
module are that `trivia` takes exactly the gaps and that `lexemeAt` takes exactly
the spelt lexemes, and besides these only a text whose quote is never closed.
-/

namespace GuessingGame.Script

open GuessingGame.Text

/-- Blanks and comments in front of a lexeme. Every comment has its newline. -/
inductive Gap : List Char → Prop
  | nil : Gap []
  | blank {c : Char} {rest : List Char} : isBlank c → Gap rest → Gap (c :: rest)
  | comment {body rest : List Char} : '\n' ∉ body → Gap rest →
      Gap ('/' :: '/' :: (body ++ '\n' :: rest))

/-- Blanks and comments behind the last lexeme, where the text may end inside a comment. -/
inductive FinalGap : List Char → Prop
  | gap {text : List Char} : Gap text → FinalGap text
  | comment {text body : List Char} : Gap text → '\n' ∉ body →
      FinalGap (text ++ '/' :: '/' :: body)

theorem FinalGap.blank {c : Char} {rest : List Char} (blank : isBlank c)
    (h : FinalGap rest) : FinalGap (c :: rest) := by
  cases h with
  | gap h => exact .gap (.blank blank h)
  | comment h unclosed => exact .comment (.blank blank h) unclosed

theorem FinalGap.behindComment {body rest : List Char} (closed : '\n' ∉ body)
    (h : FinalGap rest) : FinalGap ('/' :: '/' :: (body ++ '\n' :: rest)) := by
  cases h with
  | gap h => exact .gap (.comment closed h)
  | @comment text last h unclosed =>
      have gap : Gap ('/' :: '/' :: (body ++ '\n' :: text)) := .comment closed h
      simpa using FinalGap.comment gap unclosed

/-- Inside a comment everything up to the newline is passed over. -/
theorem trivia_comment {body rest : List Char} (closed : '\n' ∉ body) :
    trivia true (body ++ '\n' :: rest) = body ++ '\n' :: trivia false rest := by
  induction body with
  | nil => rfl
  | cons c body ih =>
      simp only [List.mem_cons, not_or] at closed
      have inside : (c != '\n') = true := by simpa using Ne.symm closed.1
      rw [List.cons_append, trivia, if_pos rfl, inside, ih closed.2]
      rfl

/-- A comment without a newline takes the whole text. -/
theorem trivia_openComment {body : List Char} (unclosed : '\n' ∉ body) :
    trivia true body = body := by
  induction body with
  | nil => rfl
  | cons c body ih =>
      simp only [List.mem_cons, not_or] at unclosed
      have inside : (c != '\n') = true := by simpa using Ne.symm unclosed.1
      rw [trivia, if_pos rfl, inside, ih unclosed.2]

theorem trivia_blank {c : Char} {rest : List Char} (blank : isBlank c) :
    trivia false (c :: rest) = c :: trivia false rest := by
  simp [trivia, blank]

theorem trivia_slashes (rest : List Char) :
    trivia false ('/' :: '/' :: rest) = '/' :: '/' :: trivia true rest := by
  have first : isBlank '/' = false := by decide
  simp [trivia, first]

theorem trivia_of_gap {gap : List Char} (h : Gap gap) (rest : List Char) :
    trivia false (gap ++ rest) = gap ++ trivia false rest := by
  induction h with
  | nil => rfl
  | blank blank _ ih => rw [List.cons_append, trivia_blank blank, ih, List.cons_append]
  | @comment body inner closed _ ih =>
      simp only [List.cons_append, List.append_assoc]
      rw [trivia_slashes, trivia_comment closed, ih]

theorem trivia_of_finalGap {gap : List Char} (h : FinalGap gap) : trivia false gap = gap := by
  cases h with
  | gap h => simpa [trivia] using trivia_of_gap h []
  | comment h unclosed => rw [trivia_of_gap h, trivia_slashes, trivia_openComment unclosed]

/-- A text either lacks a character or is split at the first place where it stands. -/
theorem split_at (c : Char) (text : List Char) :
    c ∉ text ∨ ∃ body rest, c ∉ body ∧ text = body ++ c :: rest := by
  by_cases h : c ∈ text
  · obtain ⟨body, rest, split, first⟩ := List.eq_append_cons_of_mem h
    exact .inr ⟨body, rest, first, split⟩
  · exact .inl h

/-- What is passed over at the head of a text is a gap, unless the text ends
there; then it is the last gap. -/
theorem gap_trivia (text : List Char) :
    Gap (trivia false text) ∨ trivia false text = text ∧ FinalGap text := by
  induction h : text.length using Nat.strongRecOn generalizing text with
  | _ n ih =>
      cases text with
      | nil => exact .inl .nil
      | cons c rest =>
          subst h
          by_cases blank : isBlank c
          · rw [trivia_blank blank]
            rcases ih rest.length (by simp) rest rfl with gap | ⟨all, final⟩
            · exact .inl (.blank blank gap)
            · exact .inr ⟨by rw [all], final.blank blank⟩
          · by_cases comment : c = '/' ∧ rest.head? = some '/'
            · obtain ⟨rfl, head⟩ := comment
              obtain ⟨inner, rfl⟩ := List.head?_eq_some_iff.mp head
              rw [trivia_slashes]
              rcases split_at '\n' inner with unclosed | ⟨body, rest, closed, rfl⟩
              · rw [trivia_openComment unclosed]
                exact .inr ⟨rfl, .comment .nil unclosed⟩
              · rw [trivia_comment closed]
                rcases ih rest.length (by simp; omega) rest rfl with gap | ⟨all, final⟩
                · exact .inl (.comment closed gap)
                · exact .inr ⟨by rw [all], final.behindComment closed⟩
            · have none : trivia false (c :: rest) = [] := by
                rw [trivia, if_neg (by simp), if_neg blank, if_neg comment]
              rw [none]
              exact .inl .nil

/-- A text is a last gap, or a gap in front of something that does not continue it. -/
theorem gap_split (text : List Char) :
    FinalGap text ∨ ∃ gap rest, text = gap ++ rest ∧ Gap gap ∧ trivia false rest = [] := by
  rcases gap_trivia text with gap | ⟨-, final⟩
  · obtain ⟨rest, split⟩ := trivia_isPrefix false text
    have passed := trivia_of_gap gap rest
    rw [split] at passed
    exact .inr ⟨_, rest, split.symm, gap, List.append_right_eq_self.mp passed.symm⟩
  · exact .inl final

namespace Lexeme

/-- How a lexeme is written. The end of a script is not written at all. -/
def Spelt : Lexeme → List Char → Prop
  | keyword k, word => word = k.word.toList
  | string text, word => '"' ∉ text.toList ∧ word = '"' :: (text.toList ++ ['"'])
  | integer value, word =>
    word ≠ [] ∧ (∀ c ∈ word, c.isDigit = true) ∧ Nat.ofDigitChars 10 word 0 = value.toNat
  | semicolon, word => word = [';']
  | endOfInput, _ => False

/-- Whether a lexeme ends where `rest` follows it. -/
def EndsBefore : Lexeme → List Char → Prop
  | keyword _, rest => ∀ c ∈ rest.head?, isWordChar c = false
  | integer _, rest => ∀ c ∈ rest.head?, c.isDigit = false
  | _, _ => True

end Lexeme

/-- `Spells lexemes text rest` says that `text` is a gap and a lexeme, again and
again, when `rest` follows it. There is no gap behind the last lexeme. -/
inductive Spells : List Lexeme → List Char → List Char → Prop
  | nil {rest : List Char} : Spells [] [] rest
  | cons {lexeme : Lexeme} {lexemes : List Lexeme} {gap word text rest : List Char} :
      Gap gap → lexeme.Spelt word → lexeme.EndsBefore (text ++ rest) →
      Spells lexemes text rest → Spells (lexeme :: lexemes) (gap ++ (word ++ text)) rest

/-- Where a lexeme ends depends on the next character alone. -/
theorem Lexeme.EndsBefore.of_head {lexeme : Lexeme} {rest rest' : List Char}
    (h : lexeme.EndsBefore rest) (same : rest'.head? = rest.head?) :
    lexeme.EndsBefore rest' := by
  cases lexeme <;> simp only [EndsBefore] at h ⊢ <;> rwa [same]

/-- A whole text spells a list of lexemes. -/
def Renders (lexemes : List Lexeme) (text : List Char) : Prop :=
  ∃ body final, text = body ++ final ∧ Spells lexemes body final ∧ FinalGap final

/-- The characters of a keyword continue a word, and the first one starts it. -/
theorem Keyword.word_cons (k : Keyword) :
    ∃ c rest, k.word.toList = c :: rest ∧ isAlphabetic c = true ∧ isBlank c = false ∧
      c ≠ '/' ∧ ∀ d ∈ c :: rest, isWordChar d = true := by
  cases k <;>
    exact ⟨_, _, rfl, by decide, by decide, by decide, List.all_eq_true.mp (by decide)⟩

theorem isDigit_bounds {c : Char} (h : c.isDigit = true) : 48 ≤ c.toNat ∧ c.toNat ≤ 57 := by
  simp only [Char.isDigit, Bool.and_eq_true, decide_eq_true_eq, ge_iff_le] at h
  exact ⟨UInt32.le_iff_toNat_le.mp h.1, UInt32.le_iff_toNat_le.mp h.2⟩

/-- A digit starts no gap, no word and no quoted text. -/
theorem not_special_of_isDigit {c : Char} (h : c.isDigit = true) :
    isBlank c = false ∧ c ≠ '/' ∧ isAlphabetic c = false ∧ c ≠ '"' := by
  obtain ⟨low, high⟩ := isDigit_bounds h
  have digit {n : Nat} (value : c.toNat = n) : c = Char.ofNat n := by
    rw [← value, Char.ofNat_toNat]
  have values : c.toNat = 48 ∨ c.toNat = 49 ∨ c.toNat = 50 ∨ c.toNat = 51 ∨ c.toNat = 52 ∨
      c.toNat = 53 ∨ c.toNat = 54 ∨ c.toNat = 55 ∨ c.toNat = 56 ∨ c.toNat = 57 := by omega
  rcases values with h | h | h | h | h | h | h | h | h | h <;> rw [digit h] <;> decide

/-- No lexeme begins like a gap. -/
theorem Lexeme.Spelt.head {lexeme : Lexeme} {word : List Char} (h : lexeme.Spelt word) :
    ∃ c rest, word = c :: rest ∧ isBlank c = false ∧ c ≠ '/' := by
  cases lexeme with
  | keyword k =>
      obtain ⟨c, rest, spelling, -, blank, slash, -⟩ := k.word_cons
      exact ⟨c, rest, h.trans spelling, blank, slash⟩
  | string text => exact ⟨_, _, h.2, by decide, by decide⟩
  | integer value =>
      obtain ⟨ne, digits, -⟩ := h
      obtain ⟨c, rest, rfl⟩ := List.exists_cons_of_ne_nil ne
      have special := not_special_of_isDigit (digits c List.mem_cons_self)
      exact ⟨c, rest, rfl, special.1, special.2.1⟩
  | semicolon => exact ⟨_, _, h, by decide, by decide⟩
  | endOfInput => exact h.elim

/-- A text that spells a lexeme has a first character. -/
theorem Spells.ne_nil {lexeme : Lexeme} {lexemes : List Lexeme} {text rest : List Char}
    (h : Spells (lexeme :: lexemes) text rest) : text ≠ [] := by
  cases h with
  | @cons _ _ gap word text _ _ spelt _ _ =>
      obtain ⟨c, tail, rfl, -⟩ := spelt.head
      simp

/-- A gap ends where a lexeme begins. -/
theorem trivia_of_spelt {lexeme : Lexeme} {word : List Char} (h : lexeme.Spelt word)
    (rest : List Char) : trivia false (word ++ rest) = [] := by
  obtain ⟨c, tail, rfl, blank, slash⟩ := h.head
  simp [trivia, blank, slash]

theorem number?_eq_some_iff {digits : List Char} {value : UInt64} :
    number? digits = some value ↔ Nat.ofDigitChars 10 digits 0 = value.toNat := by
  unfold number?
  constructor
  · intro h
    dsimp only at h
    split at h
    · rename_i fits
      cases h
      exact (UInt64.toNat_ofNat_of_lt' fits).symm
    · cases h
  · intro h
    have fits : value.toNat < UInt64.size := value.toNat_lt
    simp [h, fits]

theorem lexemeAt_quote (tail : List Char) :
    lexemeAt ('"' :: tail) = (.ok (.string (String.ofList (tail.takeWhile (· ≠ '"')))),
      '"' :: tail.take ((tail.takeWhile (· ≠ '"')).length + 1)) := by
  have alphabetic : isAlphabetic '"' = false := by decide
  simp only [lexemeAt, alphabetic, Bool.false_eq_true, if_false, if_true]

theorem lexemeAt_closedQuote {body : List Char} (closed : '"' ∉ body) (rest : List Char) :
    lexemeAt ('"' :: (body ++ '"' :: rest)) =
      (.ok (.string (String.ofList body)), '"' :: (body ++ ['"'])) := by
  have inside : ∀ c ∈ body, decide (c ≠ '"') = true := by
    intro c member
    simpa using ne_of_mem_of_not_mem member closed
  have taken : (body ++ '"' :: rest).takeWhile (· ≠ '"') = body :=
    takeWhile_exact inside (by simp)
  have split : body ++ '"' :: rest = (body ++ ['"']) ++ rest := by simp
  rw [lexemeAt_quote, taken, split, List.take_left' (by simp)]

/-- The lexeme of a quote that is never closed goes to the end of the text. -/
theorem lexemeAt_openQuote {body : List Char} (unclosed : '"' ∉ body) :
    lexemeAt ('"' :: body) = (.ok (.string (String.ofList body)), '"' :: body) := by
  have inside : ∀ c ∈ body, decide (c ≠ '"') = true := by
    intro c member
    simpa using ne_of_mem_of_not_mem member unclosed
  have taken : (body ++ []).takeWhile (· ≠ '"') = body := takeWhile_exact inside (by simp)
  rw [List.append_nil] at taken
  rw [lexemeAt_quote, taken, List.take_of_length_le (Nat.le_succ _)]

/-- A spelt lexeme that ends where it stands is what is found there. -/
theorem lexemeAt_of_spelt {lexeme : Lexeme} {word rest : List Char} (h : lexeme.Spelt word)
    (stop : lexeme.EndsBefore rest) : lexemeAt (word ++ rest) = (.ok lexeme, word) := by
  cases lexeme with
  | keyword k =>
      obtain ⟨c, tail, spelling, alphabetic, -, -, inside⟩ := k.word_cons
      have taken : (c :: tail ++ rest).takeWhile isWordChar = c :: tail :=
        takeWhile_exact inside stop
      rw [List.cons_append] at taken
      have word_eq : word = c :: tail := h.trans spelling
      subst word_eq
      have found : Keyword.ofWord? (String.ofList (c :: tail)) = some k := by
        rw [← spelling, String.ofList_toList, Keyword.ofWord?_word]
      simp only [List.cons_append, lexemeAt, alphabetic, if_true, taken, found]
  | string text =>
      obtain ⟨closed, rfl⟩ := h
      simpa using lexemeAt_closedQuote closed rest
  | integer value =>
      obtain ⟨ne, digits, value_eq⟩ := h
      obtain ⟨c, tail, rfl⟩ := List.exists_cons_of_ne_nil ne
      have digit := digits c List.mem_cons_self
      obtain ⟨-, -, alphabetic, quote⟩ := not_special_of_isDigit digit
      have taken : (c :: tail ++ rest).takeWhile Char.isDigit = c :: tail :=
        takeWhile_exact digits stop
      rw [List.cons_append] at taken
      have found : number? (c :: tail) = some value := number?_eq_some_iff.mpr value_eq
      simp only [List.cons_append, lexemeAt, alphabetic, quote, digit, Bool.false_eq_true, if_true,
        if_false, taken, found]
  | semicolon =>
      cases h
      have alphabetic : isAlphabetic ';' = false := by decide
      have digit : ';'.isDigit = false := by decide
      simp [lexemeAt, alphabetic, digit]
  | endOfInput => exact h.elim

/-- Whatever is found is the end of the text or a spelt lexeme that ends there. The
one exception is a quote that is never closed; it takes the rest of the text. -/
theorem spelt_of_lexemeAt {text word : List Char} {lexeme : Lexeme}
    (found : lexemeAt text = (.ok lexeme, word)) :
    (text = [] ∧ lexeme = .endOfInput) ∨
      (∃ rest, text = word ++ rest ∧ lexeme.Spelt word ∧ lexeme.EndsBefore rest) ∨
      ∃ body, '"' ∉ body ∧ text = '"' :: body ∧ word = text ∧
        lexeme = .string (String.ofList body) := by
  cases text with
  | nil =>
      cases found
      exact .inl ⟨rfl, rfl⟩
  | cons c tail =>
      by_cases alphabetic : isAlphabetic c
      · obtain ⟨rest, split, -, stop⟩ := takeWhile_split isWordChar (c :: tail)
        simp only [lexemeAt, alphabetic, if_true] at found
        cases known : Keyword.ofWord? (String.ofList ((c :: tail).takeWhile isWordChar)) with
        | none =>
            rw [known] at found
            cases found
        | some k =>
            rw [known] at found
            cases found
            have spelling := Keyword.word_of_ofWord? known
            refine .inr (.inl ⟨rest, split, ?_, stop⟩)
            rw [Lexeme.Spelt, spelling, String.toList_ofList]
      · by_cases quote : c = '"'
        · subst quote
          rcases split_at '"' tail with unclosed | ⟨body, rest, closed, rfl⟩
          · rw [lexemeAt_openQuote unclosed] at found
            cases found
            exact .inr (.inr ⟨tail, unclosed, rfl, rfl, rfl⟩)
          · rw [lexemeAt_closedQuote closed] at found
            cases found
            refine .inr (.inl ⟨rest, by simp, ⟨?_, ?_⟩, trivial⟩)
            · rwa [String.toList_ofList]
            · rw [String.toList_ofList]
        · by_cases digit : c.isDigit
          · obtain ⟨rest, split, digits, stop⟩ := takeWhile_split Char.isDigit (c :: tail)
            simp only [lexemeAt, alphabetic, quote, digit, Bool.false_eq_true, if_true,
              if_false] at found
            cases known : number? ((c :: tail).takeWhile Char.isDigit) with
            | none =>
                rw [known] at found
                cases found
            | some value =>
                rw [known] at found
                cases found
                refine .inr (.inl ⟨rest, split, ⟨?_, digits, number?_eq_some_iff.mp known⟩, stop⟩)
                simp [digit]
          · by_cases semicolon : c = ';'
            · subst semicolon
              simp only [lexemeAt, alphabetic, digit, Bool.false_eq_true, if_false,
                if_true] at found
              cases found
              exact .inr (.inl ⟨tail, rfl, rfl, trivial⟩)
            · simp only [lexemeAt, alphabetic, quote, digit, semicolon, Bool.false_eq_true,
                if_false] at found
              cases found

/-- A lexeme is written as `word` where `rest` follows it. Either it ends there, or it is a
quote that is never closed, and nothing follows. -/
inductive Lexeme.StandsBefore : Lexeme → List Char → List Char → Prop
  | spelt {lexeme : Lexeme} {word rest : List Char} (spelt : lexeme.Spelt word)
      (ends : lexeme.EndsBefore rest) : StandsBefore lexeme word rest
  | openQuote {body : List Char} (unclosed : '"' ∉ body) :
      StandsBefore (.string (String.ofList body)) ('"' :: body) []

namespace Lexeme.StandsBefore

variable {lexeme : Lexeme} {word rest : List Char}

theorem ne_endOfInput (h : lexeme.StandsBefore word rest) : lexeme ≠ .endOfInput := by
  rintro rfl
  cases h with
  | spelt spelt => exact spelt

/-- A gap ends where a lexeme stands. -/
theorem trivia_eq_nil (h : lexeme.StandsBefore word rest) : trivia false (word ++ rest) = [] := by
  cases h with
  | spelt spelt => exact trivia_of_spelt spelt rest
  | openQuote => simp [trivia, isBlank]

/-- The lexeme that stands somewhere is what is found there. -/
theorem lexemeAt_eq (h : lexeme.StandsBefore word rest) :
    lexemeAt (word ++ rest) = (.ok lexeme, word) := by
  cases h with
  | spelt spelt ends => exact lexemeAt_of_spelt spelt ends
  | openQuote unclosed => rw [List.append_nil, lexemeAt_openQuote unclosed]

end Lexeme.StandsBefore

end GuessingGame.Script
