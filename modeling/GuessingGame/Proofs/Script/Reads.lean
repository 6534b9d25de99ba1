import Mathlib.Data.List.Basic
import GuessingGame.Proofs.Script.Spelling
import GuessingGame.Script.Reader

/-!
# Reading a spelt text

`Cursor.Reads` is what happens when tokens are taken one after another. Taking
them from a text finds exactly the lexemes that the text spells, each at the
place behind the gap in front of it, and leaves the text behind the last one. In
the other direction, what was taken spells the lexemes that were found, unless the
last of them is a quoted text that the end of the script cuts off.
-/

namespace GuessingGame.Script

namespace Cursor

/-- The lookahead that a cursor gives, unless its next token is at fault. -/
def ahead (cursor : Cursor) : Except Fault Lookahead :=
  match cursor.next with
  | (.ok token, following) => .ok ⟨token, following⟩
  | (.error fault, _) => .error fault

/-- Taking tokens one by one, none of them the end, and the cursor behind them. -/
inductive Reads : Cursor → List Token → Cursor → Prop
  | nil {cursor : Cursor} : Reads cursor [] cursor
  | cons {cursor middle behind : Cursor} {token : Token} {tokens : List Token} :
      cursor.next = (.ok token, middle) → token.lexeme ≠ .endOfInput →
      Reads middle tokens behind → Reads cursor (token :: tokens) behind

theorem Reads.append {cursor middle behind : Cursor} {first second : List Token}
    (h : Reads cursor first middle) (k : Reads middle second behind) :
    Reads cursor (first ++ second) behind := by
  induction h with
  | nil => exact k
  | cons found ne _ ih => exact .cons found ne (ih k)

/-- Of two readings from one place the longer goes on where the shorter ends. -/
theorem Reads.split {cursor middle behind : Cursor} {first second : List Token}
    (h : Reads cursor first middle) (k : Reads cursor second behind)
    (le : first.length ≤ second.length) :
    ∃ rest, second = first ++ rest ∧ Reads middle rest behind := by
  induction h generalizing second with
  | nil => exact ⟨second, rfl, k⟩
  | cons found _ _ ih =>
      cases k with
      | nil => simp at le
      | cons found' _ k =>
          rw [found] at found'
          cases found'
          obtain ⟨rest, rfl, reads⟩ := ih k (by simpa using le)
          exact ⟨rest, rfl, reads⟩

theorem skipTrivia_gap {gap : List Char} (h : Gap gap) {rest : List Char}
    (stop : trivia false rest = []) (place : Place) :
    skipTrivia ⟨gap ++ rest, place⟩ = ⟨rest, place.afterAll gap⟩ := by
  have taken : trivia false (gap ++ rest) = gap := by
    rw [trivia_of_gap h, stop, List.append_nil]
  simp [skipTrivia, behind, taken]

/-- The token behind a gap is the lexeme that stands there. -/
theorem next_of_stands {gap word rest : List Char} {lexeme : Lexeme} (hgap : Gap gap)
    (stands : lexeme.StandsBefore word rest) (place : Place) :
    next ⟨gap ++ (word ++ rest), place⟩ =
      (.ok ⟨lexeme, place.afterAll gap⟩, ⟨rest, place.afterAll (gap ++ word)⟩) := by
  simp only [next, skipTrivia_gap hgap stands.trivia_eq_nil, stands.lexemeAt_eq, behind,
    List.drop_left, Place.afterAll_append]

theorem next_spelt {gap word rest : List Char} {lexeme : Lexeme} (hgap : Gap gap)
    (hword : lexeme.Spelt word) (stop : lexeme.EndsBefore rest) (place : Place) :
    next ⟨gap ++ (word ++ rest), place⟩ =
      (.ok ⟨lexeme, place.afterAll gap⟩, ⟨rest, place.afterAll (gap ++ word)⟩) :=
  next_of_stands hgap (.spelt hword stop) place

theorem next_finalGap {gap : List Char} (h : FinalGap gap) (place : Place) :
    next ⟨gap, place⟩ = (.ok ⟨.endOfInput, place.afterAll gap⟩, ⟨[], place.afterAll gap⟩) := by
  simp [next, skipTrivia, behind, trivia_of_finalGap h, lexemeAt]

theorem next_openQuote {gap body : List Char} (hgap : Gap gap) (unclosed : '"' ∉ body)
    (place : Place) :
    next ⟨gap ++ '"' :: body, place⟩ =
      (.ok ⟨.string (String.ofList body), place.afterAll gap⟩,
        ⟨[], place.afterAll (gap ++ '"' :: body)⟩) := by
  have found := next_of_stands hgap (.openQuote unclosed) place
  rwa [List.append_nil] at found

/-- Whatever token is taken, the text begins with a gap and then the spelling of
that token, or it is over, or a quote opens that nothing closes. -/
theorem next_cases {cursor following : Cursor} {token : Token}
    (found : cursor.next = (.ok token, following)) :
    (token.lexeme = .endOfInput ∧ FinalGap cursor.rest) ∨
      (∃ gap word, cursor.rest = gap ++ (word ++ following.rest) ∧ Gap gap ∧
        token.lexeme.Spelt word ∧ token.lexeme.EndsBefore following.rest ∧
        following.place = cursor.place.afterAll (gap ++ word)) ∨
      ∃ gap body, cursor.rest = gap ++ '"' :: body ∧ Gap gap ∧ '"' ∉ body ∧
        token.lexeme = .string (String.ofList body) ∧ following.rest = [] := by
  obtain ⟨text, place⟩ := cursor
  rcases gap_split text with final | ⟨gap, rest, rfl, hgap, stop⟩
  · rw [next_finalGap final] at found
    cases found
    exact .inl ⟨rfl, final⟩
  · cases taken : lexemeAt rest with
    | mk result word =>
        simp only [next, skipTrivia_gap hgap stop, taken] at found
        cases result with
        | error cause => cases found
        | ok lexeme =>
            cases found
            rcases spelt_of_lexemeAt taken with
              ⟨rfl, rfl⟩ | ⟨behind, rfl, spelt, ends⟩ | ⟨body, unclosed, rfl, rfl, rfl⟩
            · exact .inl ⟨rfl, by simpa using FinalGap.gap hgap⟩
            · refine .inr (.inl ⟨gap, word, ?_, hgap, spelt, ?_, ?_⟩)
              · simp [Cursor.behind]
              · simpa [Cursor.behind] using ends
              · simp [Cursor.behind, Place.afterAll_append]
            · refine .inr (.inr ⟨gap, body, rfl, hgap, unclosed, rfl, ?_⟩)
              simp [Cursor.behind]

/-- The end of a script is found where nothing but a gap is left. -/
theorem next_of_nil (place : Place) : next ⟨[], place⟩ = (.ok ⟨.endOfInput, place⟩, ⟨[], place⟩) :=
  next_finalGap (.gap .nil) place

theorem tokens_of_end {cursor following : Cursor} {last : Token}
    (found : cursor.next = (.ok last, following)) (ended : last.lexeme = .endOfInput) :
    cursor.tokens = .ok [last] := by
  rw [Cursor.tokens]
  split
  · rename_i result
    rw [found] at result
    cases result
  · rename_i result
    rw [found] at result
    cases result
    exact if_pos ended

theorem tokens_of_error {cursor following : Cursor} {fault : Fault}
    (found : cursor.next = (.error fault, following)) : cursor.tokens = .error fault := by
  rw [Cursor.tokens]
  split
  · rename_i result
    rw [found] at result
    cases result
    rfl
  · rename_i result
    rw [found] at result
    cases result

theorem tokens_of_next {cursor following : Cursor} {token : Token}
    (found : cursor.next = (.ok token, following)) (ne : token.lexeme ≠ .endOfInput) :
    cursor.tokens = following.tokens.map (token :: ·) := by
  rw [Cursor.tokens]
  split
  · rename_i result
    rw [found] at result
    cases result
  · rename_i result
    rw [found] at result
    cases result
    exact if_neg ne

/-- The lexemes that a text spells are read from it. -/
theorem reads_of_spells {lexemes : List Lexeme} {text rest : List Char}
    (h : Spells lexemes text rest) (place : Place) :
    ∃ tokens, Reads ⟨text ++ rest, place⟩ tokens ⟨rest, place.afterAll text⟩ ∧
      tokens.map Token.lexeme = lexemes := by
  induction h generalizing place with
  | nil => exact ⟨[], .nil, rfl⟩
  | @cons lexeme lexemes gap word text rest hgap hword ends _ ih =>
      obtain ⟨tokens, reads, rfl⟩ := ih (place.afterAll (gap ++ word))
      have found := next_spelt hgap hword ends place
      have ne : lexeme ≠ .endOfInput := by
        rintro rfl
        exact hword
      have text_eq : gap ++ (word ++ text) ++ rest = gap ++ (word ++ (text ++ rest)) := by simp
      have place_eq : place.afterAll (gap ++ (word ++ text)) =
          (place.afterAll (gap ++ word)).afterAll text := by
        simp [Place.afterAll_append]
      rw [text_eq, place_eq]
      exact ⟨⟨lexeme, place.afterAll gap⟩ :: tokens, .cons found ne reads, rfl⟩

/-- Nothing is read where nothing is left. -/
theorem Reads.of_nil {place : Place} {tokens : List Token} {behind : Cursor}
    (h : Reads ⟨[], place⟩ tokens behind) : tokens = [] := by
  cases h with
  | nil => rfl
  | cons found ne _ =>
      rw [next_of_nil] at found
      cases found
      exact absurd rfl ne

/-- What was read spells the lexemes that were found, or the last of them is a quoted
text that the end of the script cuts off. -/
theorem spells_or_openQuote {cursor behind : Cursor} {tokens : List Token}
    (h : Reads cursor tokens behind) :
    (∃ text, cursor.rest = text ++ behind.rest ∧
        Spells (tokens.map Token.lexeme) text behind.rest ∧
        behind.place = cursor.place.afterAll text) ∨
      behind.rest = [] ∧ ∃ token ∈ tokens.getLast?, ∃ text, token.lexeme = .string text := by
  induction h with
  | nil => exact .inl ⟨[], rfl, .nil, rfl⟩
  | @cons cursor middle behind token tokens found ne reads ih =>
      rcases next_cases found with
        ⟨ended, -⟩ | ⟨gap, word, split, hgap, spelt, ends, place⟩ |
          ⟨gap, body, -, -, -, string, left⟩
      · exact absurd ended ne
      · rcases ih with ⟨text, text_eq, spells, place'⟩ | ⟨left, last, member, string⟩
        · rw [text_eq] at split ends
          refine .inl ⟨gap ++ (word ++ text), by simp [split], .cons hgap spelt ends spells, ?_⟩
          rw [place', place]
          simp [Place.afterAll_append]
        · exact .inr ⟨left, last, List.mem_getLast?_cons member, string⟩
      · obtain ⟨rest, place⟩ := middle
        cases left
        cases reads.of_nil
        cases reads
        exact .inr ⟨rfl, token, rfl, _, string⟩

/-- What was read spells the lexemes that were found, if the last of them is no
quoted text. Only that one can be cut off by the end of the script. -/
theorem spells_of_reads {cursor behind : Cursor} {tokens : List Token}
    (h : Reads cursor tokens behind)
    (last : ∀ token ∈ tokens.getLast?, ∀ text, token.lexeme ≠ .string text) :
    ∃ text, cursor.rest = text ++ behind.rest ∧
      Spells (tokens.map Token.lexeme) text behind.rest ∧
      behind.place = cursor.place.afterAll text := by
  rcases spells_or_openQuote h with spells | ⟨-, token, member, text, string⟩
  · exact spells
  · exact absurd string (last token member text)

/-- What was read spells the lexemes that were found, if something is left behind them. -/
theorem spells_of_reads_of_ne_nil {cursor behind : Cursor} {tokens : List Token}
    (h : Reads cursor tokens behind) (left : behind.rest ≠ []) :
    ∃ text, cursor.rest = text ++ behind.rest ∧
      Spells (tokens.map Token.lexeme) text behind.rest ∧
      behind.place = cursor.place.afterAll text := by
  rcases spells_or_openQuote h with spells | ⟨none, -⟩
  · exact spells
  · exact absurd none left

/-- What follows a semicolon plays no part in what is read up to it. -/
theorem Reads.swap {cursor behind : Cursor} {tokens : List Token}
    (h : Reads cursor tokens behind)
    (last : ∀ token ∈ tokens.getLast?, token.lexeme = .semicolon) {text : List Char}
    (split : cursor.rest = text ++ behind.rest) (rest : List Char) :
    Reads ⟨text ++ rest, cursor.place⟩ tokens ⟨rest, behind.place⟩ := by
  induction h generalizing text with
  | nil =>
      obtain rfl : text = [] := by simpa using split
      exact .nil
  | @cons cursor middle behind token tokens found ne reads ih =>
      have last' : ∀ other ∈ tokens.getLast?, other.lexeme = .semicolon :=
        fun other member => last other (List.mem_getLast?_cons member)
      rcases next_cases found with
        ⟨ended, -⟩ | ⟨gap, word, front, hgap, spelt, ends, place⟩ |
          ⟨gap, body, -, -, -, string, left⟩
      · exact absurd ended ne
      · obtain ⟨tail, tail_eq, spells, -⟩ := spells_of_reads reads (by
          intro other member text string
          rw [last' other member] at string
          cases string)
        have text_eq : text = gap ++ (word ++ tail) := by
          apply (List.append_left_inj behind.rest).mp
          rw [← split, front, tail_eq]
          simp
        have ends' : token.lexeme.EndsBefore (tail ++ rest) := by
          cases tokens with
          | nil =>
              rw [last token rfl]
              trivial
          | cons _ _ =>
              obtain ⟨c, tail', rfl⟩ := List.exists_cons_of_ne_nil spells.ne_nil
              exact ends.of_head (by rw [tail_eq]; rfl)
        -- The same gap and the same word stand there, so it is the same token.
        have before := next_spelt hgap spelt ends cursor.place
        rw [← front] at before
        change cursor.next = _ at before
        rw [found] at before
        have token_eq := Except.ok.inj (Prod.mk.inj before).1
        have after := next_spelt hgap spelt ends' cursor.place
        rw [← token_eq, ← place] at after
        rw [text_eq]
        simpa using Reads.cons after ne (ih last' tail_eq)
      · obtain ⟨rest', place⟩ := middle
        cases left
        cases reads.of_nil
        rw [last token rfl] at string
        cases string

end Cursor

end GuessingGame.Script
