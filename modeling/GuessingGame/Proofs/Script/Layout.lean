import GuessingGame.Proofs.Script.Reads

/-!
# The layout of a script

A layout is a text taken apart: lexemes as they are written, each with the gap in front of
it, and a last gap. Nothing of the text is left out, and nothing stands in two parts. A
quote that is never closed may be the last lexeme; then the last gap is empty, since all
that stands behind the quote belongs to it.

A text has one layout or none, and it is split into tokens exactly when it has one. The
tokens are then the lexemes of the layout, each at the place behind all that stands in
front of it. That place can be had by counting, without reading anything:
`Place.counted`.
-/

namespace GuessingGame.Script

open GuessingGame.Text

/-- The place behind a text: as many lines as it has newlines, and as many columns as it
has characters behind the last of them. -/
def Place.counted (before : List Char) : Place where
  line := 1 + before.count '\n'
  column := 1 + (before.reverse.takeWhile (· ≠ '\n')).length

theorem Place.after_counted (before : List Char) (c : Char) :
    (counted before).after c = counted (before ++ [c]) := by
  unfold after counted
  by_cases newline : c = '\n'
  · simp [newline, Nat.add_assoc]
  · simp [newline, Nat.add_assoc, Nat.add_comm 1]

/-- To move over a text character by character is to count. -/
theorem Place.afterAll_counted (before text : List Char) :
    (counted before).afterAll text = counted (before ++ text) := by
  induction text generalizing before with
  | nil => rw [afterAll_nil, List.append_nil]
  | cons c text ih => rw [afterAll_cons, after_counted, ih, List.append_assoc, List.singleton_append]

theorem Place.afterAll_start (text : List Char) : start.afterAll text = counted text :=
  afterAll_counted [] text

/-- A lexeme as it is written, and the gap in front of it. -/
@[ext] structure Piece where
  gap : List Char
  lexeme : Lexeme
  word : List Char

def Piece.chars (piece : Piece) : List Char := piece.gap ++ piece.word

/-- A text taken apart: its pieces and the gap behind the last. -/
structure Layout where
  pieces : List Piece
  final : List Char

namespace Layout

def chars (layout : Layout) : List Char := layout.pieces.flatMap Piece.chars ++ layout.final

/-- The tokens of a layout, each behind all that stands in front of its lexeme, and then
the end. -/
def tokens (layout : Layout) : List Token :=
  layout.pieces.mapIdx (fun i piece =>
    ⟨piece.lexeme, .counted ((layout.pieces.take i).flatMap Piece.chars ++ piece.gap)⟩) ++
  [⟨.endOfInput, .counted layout.chars⟩]

/-- Every gap is one, and every lexeme ends where the next gap begins: no two of them
merge. -/
inductive Valid : Layout → Prop
  | last {final : List Char} (gap : FinalGap final) : Valid ⟨[], final⟩
  | cons {piece : Piece} {pieces : List Piece} {final : List Char} (gap : Gap piece.gap)
      (stands : piece.lexeme.StandsBefore piece.word (chars ⟨pieces, final⟩))
      (others : Valid ⟨pieces, final⟩) : Valid ⟨piece :: pieces, final⟩

theorem chars_cons (piece : Piece) (pieces : List Piece) (final : List Char) :
    chars ⟨piece :: pieces, final⟩ = piece.gap ++ (piece.word ++ chars ⟨pieces, final⟩) := by
  simp [chars, Piece.chars]

end Layout

namespace Lexeme.StandsBefore

variable {lexeme : Lexeme} {word rest : List Char}

theorem trivia_eq (h : lexeme.StandsBefore word rest) {gap : List Char} (hgap : Gap gap) :
    trivia false (gap ++ (word ++ rest)) = gap := by
  rw [trivia_of_gap hgap, h.trivia_eq_nil, List.append_nil]

/-- No lexeme stands in the last gap. -/
theorem not_finalGap (h : lexeme.StandsBefore word rest) {gap : List Char} (hgap : Gap gap) :
    ¬FinalGap (gap ++ (word ++ rest)) := by
  intro final
  have ended := Cursor.next_finalGap final .start
  rw [Cursor.next_of_stands hgap h .start] at ended
  have token := Except.ok.inj (Prod.mk.inj ended).1
  exact h.ne_endOfInput (congrArg Token.lexeme token)

end Lexeme.StandsBefore

/-- The text that a token carries, by how it is written: what stands between the quotes, or
the word itself. -/
def TokenKind.textIn? (kind : TokenKind) (word : List Char) : Option String :=
  match kind with
  | string => some (String.ofList (word.tail.takeWhile (· ≠ '"')))
  | keyword _ | semicolon => some (String.ofList word)
  | integer | endOfInput => none

def TokenKind.numberIn? (kind : TokenKind) (word : List Char) : Option Nat :=
  if kind = integer then some (Nat.ofDigitChars 10 word 0) else none

theorem takeWhile_quoted {body : List Char} (unquoted : '"' ∉ body) {rest : List Char}
    (stop : ∀ c ∈ rest.head?, c = '"') : (body ++ rest).takeWhile (· ≠ '"') = body := by
  apply takeWhile_exact
  · intro c member
    simpa using ne_of_mem_of_not_mem member unquoted
  · intro c head
    simp [stop c head]

/-- A token carries what is written, unchanged. -/
theorem Lexeme.StandsBefore.carries {lexeme : Lexeme} {word rest : List Char}
    (h : lexeme.StandsBefore word rest) : lexeme.text? = lexeme.kind.textIn? word ∧
      lexeme.value?.map UInt64.toNat = lexeme.kind.numberIn? word := by
  cases h with
  | @openQuote body unclosed =>
      have inside := @takeWhile_quoted body unclosed [] (by simp)
      rw [List.append_nil] at inside
      refine ⟨?_, rfl⟩
      rw [text?, kind, TokenKind.textIn?, List.tail_cons, inside]
  | spelt spelt ends =>
      cases lexeme with
      | keyword k =>
          cases spelt
          exact ⟨congrArg some String.ofList_toList.symm, rfl⟩
      | string text =>
          obtain ⟨closed, rfl⟩ := spelt
          refine ⟨?_, rfl⟩
          rw [text?, kind, TokenKind.textIn?, List.tail_cons, takeWhile_quoted closed (by simp),
            String.ofList_toList]
      | integer value => exact ⟨rfl, congrArg some spelt.2.2.symm⟩
      | semicolon =>
          cases spelt
          exact ⟨rfl, rfl⟩
      | endOfInput => exact spelt.elim

namespace Layout

/-- The tokens of a valid layout are read wherever it stands. -/
theorem Valid.tokens_eq {layout : Layout} (h : layout.Valid) (before : List Char) :
    Cursor.tokens ⟨layout.chars, .counted before⟩ =
      .ok (layout.pieces.mapIdx (fun i piece =>
          ⟨piece.lexeme, .counted (before ++
            ((layout.pieces.take i).flatMap Piece.chars ++ piece.gap))⟩) ++
        [⟨.endOfInput, .counted (before ++ layout.chars)⟩]) := by
  induction h generalizing before with
  | last gap =>
      have ended := Cursor.next_finalGap gap (.counted before)
      rw [Place.afterAll_counted] at ended
      exact Cursor.tokens_of_end ended rfl
  | @cons piece pieces final gap stands _ ih =>
      have found := Cursor.next_of_stands gap stands (.counted before)
      rw [Place.afterAll_counted, Place.afterAll_counted] at found
      rw [chars_cons, Cursor.tokens_of_next found stands.ne_endOfInput, ih]
      simp [Except.map, List.mapIdx_cons, Piece.chars]

theorem tokenize_of_valid {layout : Layout} (h : layout.Valid) :
    tokenize (String.ofList layout.chars) = .ok layout.tokens := by
  rw [tokenize, Cursor.ofText, String.toList_ofList]
  exact h.tokens_eq []

/-- A token is the end, with a last gap in front of it, or a lexeme behind a gap. -/
theorem piece_of_next {cursor following : Cursor} {token : Token}
    (found : cursor.next = (.ok token, following)) :
    (token.lexeme = .endOfInput ∧ FinalGap cursor.rest) ∨
      ∃ gap word, cursor.rest = gap ++ (word ++ following.rest) ∧ Gap gap ∧
        token.lexeme.StandsBefore word following.rest := by
  rcases Cursor.next_cases found with
    ended | ⟨gap, word, split, hgap, spelt, ends, -⟩ |
      ⟨gap, body, split, hgap, unclosed, string, left⟩
  · exact .inl ended
  · exact .inr ⟨gap, word, split, hgap, .spelt spelt ends⟩
  · refine .inr ⟨gap, '"' :: body, ?_, hgap, ?_⟩
    · rw [left, List.append_nil, split]
    · rw [left, string]
      exact .openQuote unclosed

/-- Where tokens are found to the end, there is a layout. -/
theorem exists_valid_of_tokens {cursor : Cursor} {tokens : List Token}
    (h : cursor.tokens = .ok tokens) :
    ∃ layout : Layout, layout.Valid ∧ layout.chars = cursor.rest := by
  induction length : cursor.rest.length using Nat.strongRecOn generalizing cursor tokens with
  | ind _ ih =>
      subst length
      rcases found : cursor.next with ⟨fault | token, following⟩
      · rw [Cursor.tokens_of_error found] at h
        cases h
      · rcases piece_of_next found with ⟨-, final⟩ | ⟨gap, word, split, hgap, stands⟩
        · exact ⟨⟨[], cursor.rest⟩, .last final, rfl⟩
        · have more := stands.ne_endOfInput
          have shorter := Cursor.length_next_lt found more
          rw [Cursor.tokens_of_next found more] at h
          cases rest : following.tokens with
          | error fault =>
              rw [rest] at h
              cases h
          | ok others =>
              obtain ⟨⟨pieces, final⟩, valid, chars⟩ := ih _ shorter rest rfl
              rw [← chars] at stands split
              refine ⟨⟨⟨gap, token.lexeme, word⟩ :: pieces, final⟩, .cons hgap stands valid, ?_⟩
              rw [chars_cons, split]

/-- A text has one layout: what stands at its head says where the first gap ends, and then
where the first lexeme does. -/
theorem Valid.unique {layout other : Layout} (h : layout.Valid) (k : other.Valid)
    (same : other.chars = layout.chars) : other = layout := by
  induction h generalizing other with
  | last final =>
      cases k with
      | last => exact congrArg (Layout.mk []) same
      | cons gap stands =>
          rw [chars_cons] at same
          exact absurd (same ▸ final) (stands.not_finalGap gap)
  | @cons piece pieces final gap stands _ ih =>
      cases k with
      | last final =>
          rw [chars_cons] at same
          exact absurd (same ▸ final) (stands.not_finalGap gap)
      | @cons other pieces' final' gap' stands' others =>
          rw [chars_cons, chars_cons] at same
          have gap_eq : other.gap = piece.gap := by
            rw [← stands'.trivia_eq gap', same, stands.trivia_eq gap]
          rw [gap_eq, List.append_cancel_left_eq] at same
          have found := stands'.lexemeAt_eq
          rw [same, stands.lexemeAt_eq] at found
          obtain ⟨lexeme_eq, word_eq⟩ := Prod.mk.inj found
          rw [← word_eq, List.append_cancel_left_eq] at same
          obtain ⟨rfl, rfl⟩ := Layout.mk.inj (ih others same)
          rw [Piece.ext gap_eq (Except.ok.inj lexeme_eq).symm word_eq.symm]

theorem Valid.carries {layout : Layout} (h : layout.Valid) : ∀ piece ∈ layout.pieces,
    piece.lexeme ≠ .endOfInput ∧ piece.lexeme.text? = piece.lexeme.kind.textIn? piece.word ∧
      piece.lexeme.value?.map UInt64.toNat = piece.lexeme.kind.numberIn? piece.word := by
  induction h with
  | last => simp
  | cons gap stands _ ih =>
      exact List.forall_mem_cons.mpr ⟨⟨stands.ne_endOfInput, stands.carries⟩, ih⟩

@[simp] theorem map_lexeme_tokens (layout : Layout) :
    layout.tokens.map Token.lexeme = layout.pieces.map Piece.lexeme ++ [.endOfInput] := by
  rw [tokens, List.map_append]
  congr 1
  apply List.ext_getElem
  · simp
  · simp

/-- A text is split into tokens exactly as it is laid out. It has no second layout, every
token carries what is written, and other gaps leave all but the places as they are. -/
theorem tokens_of_layout (text : String) :
    (∀ tokens, tokenize text = .ok tokens ↔
      ∃ layout : Layout, layout.Valid ∧ layout.chars = text.toList ∧ tokens = layout.tokens) ∧
    ∀ layout : Layout, layout.Valid → layout.chars = text.toList →
      (∀ other : Layout, other.Valid → other.chars = text.toList → other = layout) ∧
      (∀ piece ∈ layout.pieces, piece.lexeme ≠ .endOfInput ∧
        piece.lexeme.text? = piece.lexeme.kind.textIn? piece.word ∧
        piece.lexeme.value?.map UInt64.toNat = piece.lexeme.kind.numberIn? piece.word) ∧
      ∀ other : Layout, other.Valid →
        other.pieces.map Piece.lexeme = layout.pieces.map Piece.lexeme →
        ∃ tokens others, tokenize text = .ok tokens ∧
          tokenize (String.ofList other.chars) = .ok others ∧
          others.map Token.lexeme = tokens.map Token.lexeme := by
  have split {layout : Layout} (valid : layout.Valid) (chars : layout.chars = text.toList) :
      tokenize text = .ok layout.tokens := by
    have tokens := tokenize_of_valid valid
    rwa [chars, String.ofList_toList] at tokens
  refine ⟨?_, ?_⟩
  · intro tokens
    constructor
    · intro found
      obtain ⟨layout, valid, chars⟩ := exists_valid_of_tokens found
      have same := split valid chars
      rw [found] at same
      exact ⟨layout, valid, chars, Except.ok.inj same⟩
    · rintro ⟨layout, valid, chars, rfl⟩
      exact split valid chars
  · intro layout valid chars
    refine ⟨?_, valid.carries, ?_⟩
    · intro other valid' chars'
      exact valid.unique valid' (chars'.trans chars.symm)
    · intro other valid' lexemes
      refine ⟨_, _, split valid chars, tokenize_of_valid valid', ?_⟩
      rw [map_lexeme_tokens, map_lexeme_tokens, lexemes]

example : tokenize "LEVEL 7;// last\n\"a" =
    .ok [⟨.keyword .level, ⟨1, 1⟩⟩, ⟨.integer 7, ⟨1, 7⟩⟩, ⟨.semicolon, ⟨1, 8⟩⟩,
      ⟨.string "a", ⟨2, 1⟩⟩, ⟨.endOfInput, ⟨2, 3⟩⟩] := by cbv

end Layout

end GuessingGame.Script
