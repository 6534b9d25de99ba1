import Mathlib.Logic.Function.Iterate
import GuessingGame.Proofs.Script.Layout
import GuessingGame.Proofs.Script.Misspelling

/-!
# Reading on after faults

Tokens can be asked for again and again, whatever was found before. Each time the gap in
front is passed over, and then there are three cases. The script is over. Or a character
stands there that begins no lexeme; it stays where it is. Or something begins there, which
is taken whole, be it a lexeme, a wrong word or a number that is too large. `Scans` says so
in terms of what was read before and what is left.

The first two cases come back for ever, and the third makes the script shorter. So the
answers change at most as often as the script has characters.
-/

namespace GuessingGame.Script

open GuessingGame.Text

/-- `Scans before rest answer before' rest'` says what it comes to to ask for a token where
`before` was read and `rest` is left: the answer, and what was read and what is left then. -/
inductive Scans (before : List Char) :
    List Char → Except Fault Token → List Char → List Char → Prop
  /-- Nothing but a gap is left. -/
  | ended {gap : List Char} : FinalGap gap →
      Scans before gap (.ok ⟨.endOfInput, .counted (before ++ gap)⟩) (before ++ gap) []
  /-- Behind a gap stands a character that begins no lexeme. It is not taken. -/
  | stuck {gap rest : List Char} {c : Char} : Gap gap →
      Cause.Spelt (.illegalCharacter c) [c] rest →
      Scans before (gap ++ c :: rest) (.error ⟨.illegalCharacter c, .counted (before ++ gap)⟩)
        (before ++ gap) (c :: rest)
  /-- Behind a gap stands a lexeme. -/
  | token {gap word rest : List Char} {lexeme : Lexeme} : Gap gap →
      lexeme.StandsBefore word rest →
      Scans before (gap ++ (word ++ rest)) (.ok ⟨lexeme, .counted (before ++ gap)⟩)
        (before ++ (gap ++ word)) rest
  /-- Behind a gap stands a word that is no keyword. -/
  | unknown {gap word rest : List Char} : Gap gap →
      Cause.Spelt (.unknownKeyword (String.ofList word)) word rest →
      Scans before (gap ++ (word ++ rest))
        (.error ⟨.unknownKeyword (String.ofList word), .counted (before ++ gap)⟩)
        (before ++ (gap ++ word)) rest
  /-- Behind a gap stands a number that is too large. -/
  | oversized {gap digits rest : List Char} : Gap gap →
      Cause.Spelt (.invalidInteger (String.ofList digits)) digits rest →
      Scans before (gap ++ (digits ++ rest))
        (.error ⟨.invalidInteger (String.ofList digits), .counted (before ++ gap)⟩)
        (before ++ (gap ++ digits)) rest

/-- An answer that is given again for ever: the script is over, or it goes on with a
character that begins no lexeme. -/
def Lasts : Except Fault Token → Prop
  | .ok token => token.lexeme = .endOfInput
  | .error fault => ∃ c, fault.cause = .illegalCharacter c

/-- Every lexeme has a first character. -/
theorem Lexeme.StandsBefore.ne_nil {lexeme : Lexeme} {word rest : List Char}
    (h : lexeme.StandsBefore word rest) : word ≠ [] := by
  cases h with
  | openQuote => exact List.cons_ne_nil _ _
  | spelt spelt =>
      obtain ⟨c, tail, rfl, -⟩ := spelt.head
      exact List.cons_ne_nil _ _

namespace Scans

variable {before rest before' rest' : List Char} {answer : Except Fault Token}

/-- What is read is taken from what is left, so nothing is lost and nothing is read twice. -/
theorem append_eq (h : Scans before rest answer before' rest') :
    before' ++ rest' = before ++ rest := by
  cases h <;> simp

theorem isPrefix (h : Scans before rest answer before' rest') : before <+: before' := by
  cases h <;> exact List.prefix_append _ _

/-- An answer that does not last is about a lexeme of at least one character, which is taken. -/
theorem length_lt (h : Scans before rest answer before' rest') (passing : ¬Lasts answer) :
    before.length < before'.length := by
  cases h with
  | ended => exact absurd rfl passing
  | stuck => exact absurd ⟨_, rfl⟩ passing
  | token _ stands =>
      have some := List.length_pos_iff.mpr stands.ne_nil
      simp only [List.length_append]
      omega
  | unknown _ spelt | oversized _ spelt =>
      have some := List.length_pos_iff.mpr spelt.ne_nil
      simp only [List.length_append]
      omega

/-- Where nothing is left, the script is over. -/
theorem lasts_of_nil (h : Scans before [] answer before' rest') : Lasts answer := by
  by_contra passing
  have longer := h.length_lt passing
  have same := congrArg List.length h.append_eq
  simp only [List.length_append, List.length_nil] at same
  omega

end Scans

/-- What is taken where a fault is found: nothing at a character that begins no lexeme, and
otherwise what the fault shows. -/
theorem taken_of_lexemeAt_error {text taken : List Char} {cause : Cause}
    (found : lexemeAt text = (.error cause, taken)) :
    (∃ c, cause = .illegalCharacter c ∧ taken = []) ∨
      cause = .unknownKeyword (String.ofList taken) ∨
      cause = .invalidInteger (String.ofList taken) := by
  cases text with
  | nil => cases found
  | cons c tail =>
      rw [lexemeAt] at found
      split at found
      · dsimp only at found
        split at found <;> cases found
        exact .inr (.inl rfl)
      · split at found
        · cases found
        · split at found
          · dsimp only at found
            split at found <;> cases found
            exact .inr (.inr rfl)
          · split at found <;> cases found
            exact .inl ⟨c, rfl, rfl⟩

/-- What is taken where a lexeme is found is the lexeme as it stands. -/
theorem stands_of_lexemeAt {text word : List Char} {lexeme : Lexeme}
    (found : lexemeAt text = (.ok lexeme, word)) :
    text = [] ∨ ∃ rest, text = word ++ rest ∧ lexeme.StandsBefore word rest := by
  rcases spelt_of_lexemeAt found with
    ⟨ended, -⟩ | ⟨rest, split, spelt, ends⟩ | ⟨body, unclosed, rfl, rfl, rfl⟩
  · exact .inl ended
  · exact .inr ⟨rest, split, .spelt spelt ends⟩
  · exact .inr ⟨[], (List.append_nil _).symm, .openQuote unclosed⟩

namespace Cursor

/-- The cursor in a text of which `before` was read and `rest` is left. -/
def between (before rest : List Char) : Cursor := ⟨rest, .counted before⟩

theorem skipTrivia_between {gap rest : List Char} (hgap : Gap gap)
    (stop : trivia false rest = []) (before : List Char) :
    (between before (gap ++ rest)).skipTrivia = between (before ++ gap) rest := by
  rw [between, skipTrivia_gap hgap stop, Place.afterAll_counted, between]

/-- Where nothing but a gap is left, the script is over. -/
theorem next_between_of_finalGap {gap : List Char} (final : FinalGap gap) (before : List Char) :
    (between before gap).next =
      (.ok ⟨.endOfInput, .counted (before ++ gap)⟩, between (before ++ gap) []) := by
  rw [between, next_finalGap final, Place.afterAll_counted, between]

/-- Where a lexeme stands behind a gap, both are taken. -/
theorem next_between_of_stands {gap word rest : List Char} {lexeme : Lexeme} (hgap : Gap gap)
    (stands : lexeme.StandsBefore word rest) (before : List Char) :
    (between before (gap ++ (word ++ rest))).next =
      (.ok ⟨lexeme, .counted (before ++ gap)⟩, between (before ++ (gap ++ word)) rest) := by
  rw [between, next_of_stands hgap stands, Place.afterAll_counted, Place.afterAll_counted, between]

/-- Where a character behind a gap begins no lexeme, only the gap is taken. -/
theorem next_between_of_stuck {gap rest : List Char} {c : Char} (hgap : Gap gap)
    (spelt : Cause.Spelt (.illegalCharacter c) [c] rest) (before : List Char) :
    (between before (gap ++ c :: rest)).next =
      (.error ⟨.illegalCharacter c, .counted (before ++ gap)⟩,
        between (before ++ gap) (c :: rest)) := by
  obtain ⟨-, blank, comment, alphabetic, quote, digit, semicolon⟩ := spelt
  have stop : trivia false (c :: rest) = [] := by
    rw [trivia, if_neg (by simp), if_neg (by simp [blank]), if_neg (fun h => comment h.1 h.2)]
  have found : lexemeAt (c :: rest) = (.error (.illegalCharacter c), []) := by
    simp [lexemeAt, alphabetic, quote, digit, semicolon]
  simp only [next, skipTrivia_between hgap stop]
  simp only [between, found]
  rfl

/-- Whatever is found at a cursor is found behind a gap, and it is taken or it lasts. -/
theorem scans_next (before rest : List Char) :
    ∃ before' rest', (between before rest).next.2 = between before' rest' ∧
      Scans before rest (between before rest).next.1 before' rest' := by
  rcases gap_split rest with final | ⟨gap, rest, rfl, hgap, stop⟩
  · rw [next_between_of_finalGap final]
    exact ⟨_, _, rfl, .ended final⟩
  · rcases taken : lexemeAt rest with ⟨cause | lexeme, word⟩
    · obtain ⟨written, behind, rfl, spelt⟩ := spelt_of_lexemeAt_error stop taken
      have next : (between before (gap ++ (written ++ behind))).next =
          (.error ⟨cause, .counted (before ++ gap)⟩,
            (between (before ++ gap) (written ++ behind)).behind word) := by
        simp only [Cursor.next, skipTrivia_between hgap stop]
        simp only [between, taken]
      rw [next, between, Cursor.behind, Place.afterAll_counted]
      rcases taken_of_lexemeAt_error taken with ⟨c, rfl, rfl⟩ | rfl | rfl
      · obtain rfl : written = [c] := spelt.1
        rw [List.append_nil]
        exact ⟨_, _, rfl, .stuck hgap spelt⟩
      · obtain rfl : written = word := spelt.1.trans String.toList_ofList
        rw [List.drop_left, List.append_assoc]
        exact ⟨_, _, rfl, .unknown hgap spelt⟩
      · obtain rfl : written = word := spelt.1.trans String.toList_ofList
        rw [List.drop_left, List.append_assoc]
        exact ⟨_, _, rfl, .oversized hgap spelt⟩
    · rcases stands_of_lexemeAt taken with rfl | ⟨behind, rfl, stands⟩
      · have final : FinalGap (gap ++ []) := by
          rw [List.append_nil]
          exact .gap hgap
        rw [next_between_of_finalGap final]
        exact ⟨_, _, rfl, .ended final⟩
      · rw [next_between_of_stands hgap stands]
        exact ⟨_, _, rfl, .token hgap stands⟩

/-- An answer that lasts is found again behind it. -/
theorem next_next_of_lasts {before rest : List Char}
    (lasts : Lasts (between before rest).next.1) :
    (between before rest).next.2.next = (between before rest).next := by
  obtain ⟨before', rest', behind, scans⟩ := scans_next before rest
  rw [behind]
  generalize answered : (between before rest).next.1 = answer at lasts scans
  cases scans with
  | ended final =>
      have again := next_between_of_finalGap (.gap .nil) (before ++ rest)
      rw [next_between_of_finalGap final, again, List.append_nil]
  | token _ stands => exact absurd lasts stands.ne_endOfInput
  | unknown | oversized =>
      obtain ⟨c, same⟩ := lasts
      cases same
  | @stuck gap rest c hgap spelt =>
      have again := next_between_of_stuck .nil spelt (before ++ gap)
      rw [List.nil_append, List.append_nil] at again
      rw [next_between_of_stuck hgap spelt, again]

/-- The cursor behind some calls for a token, whatever they found. -/
def onward (cursor : Cursor) (calls : Nat) : Cursor := (fun here => here.next.2)^[calls] cursor

def answer (cursor : Cursor) (calls : Nat) : Except Fault Token := (cursor.onward calls).next.1

theorem onward_succ (cursor : Cursor) (calls : Nat) :
    cursor.onward (calls + 1) = (cursor.onward calls).next.2 :=
  Function.iterate_succ_apply' _ _ _

theorem onward_add (cursor : Cursor) (calls more : Nat) :
    cursor.onward (calls + more) = (cursor.onward calls).onward more := by
  rw [Nat.add_comm]
  exact Function.iterate_add_apply _ _ _ _

theorem answer_add (cursor : Cursor) (calls more : Nat) :
    cursor.answer (calls + more) = (cursor.onward calls).answer more := by
  rw [answer, onward_add, answer]

/-- The first results are the answers to the first calls. -/
theorem results_eq_map_answer (cursor : Cursor) (count : Nat) :
    cursor.results count = (List.range count).map cursor.answer := by
  induction count generalizing cursor with
  | zero => rfl
  | succ count ih =>
      rw [results, ih, List.range_succ_eq_map, List.map_cons, List.map_map]
      rfl

/-- However often a token was asked for, the cursor is between two parts of the text. -/
theorem exists_onward_eq_between (before rest : List Char) (calls : Nat) :
    ∃ before' rest', (between before rest).onward calls = between before' rest' ∧
      before' ++ rest' = before ++ rest := by
  induction calls with
  | zero => exact ⟨before, rest, rfl, rfl⟩
  | succ calls ih =>
      obtain ⟨middle, left, here, split⟩ := ih
      obtain ⟨before', rest', behind, scans⟩ := scans_next middle left
      rw [onward_succ, here]
      exact ⟨before', rest', behind, scans.append_eq.trans split⟩

/-- An answer that lasts is given to every later call. -/
theorem answer_of_lasts {before rest : List Char} (lasts : Lasts ((between before rest).answer 0))
    (calls : Nat) : (between before rest).answer calls = (between before rest).answer 0 := by
  have again : ∀ calls, ((between before rest).onward calls).next = (between before rest).next := by
    intro calls
    induction calls with
    | zero => rfl
    | succ calls ih => rw [onward_succ, ih, next_next_of_lasts lasts]
  exact congrArg Prod.fst (again calls)

/-- Behind as many calls as there are characters left, the answer lasts. -/
theorem lasts_of_length_le {before rest : List Char} {calls : Nat} (le : rest.length ≤ calls) :
    Lasts ((between before rest).answer calls) := by
  induction calls generalizing before rest with
  | zero =>
      obtain rfl : rest = [] := List.length_eq_zero_iff.mp (Nat.le_zero.mp le)
      obtain ⟨before', rest', -, scans⟩ := scans_next before []
      exact scans.lasts_of_nil
  | succ calls ih =>
      by_cases lasts : Lasts ((between before rest).answer 0)
      · rwa [answer_of_lasts lasts]
      · obtain ⟨before', rest', behind, scans⟩ := scans_next before rest
        have longer := scans.length_lt lasts
        have same := congrArg List.length scans.append_eq
        simp only [List.length_append] at same
        have later : (between before rest).answer (calls + 1) =
            (between before rest).next.2.answer calls := rfl
        rw [later, behind]
        exact ih (by omega)

/-- The tokens of a text are the answers up to the first that is a fault or the end. There
are no more of them than there are characters left. -/
theorem exists_tokens_eq (cursor : Cursor) :
    ∃ tokens : List Token, tokens.length ≤ cursor.rest.length ∧
      cursor.results tokens.length = tokens.map .ok ∧
      (∀ token ∈ tokens, token.lexeme ≠ .endOfInput) ∧
      (∀ last, cursor.answer tokens.length = .ok last → last.lexeme = .endOfInput) ∧
      cursor.tokens = (cursor.answer tokens.length).map fun last => tokens ++ [last] := by
  induction length : cursor.rest.length using Nat.strongRecOn generalizing cursor with
  | ind _ ih =>
      subst length
      have first : cursor.answer 0 = cursor.next.1 := rfl
      rcases found : cursor.next with ⟨fault | token, following⟩
      · refine ⟨[], Nat.zero_le _, rfl, nofun, ?_, ?_⟩
        · rw [List.length_nil, first, found]
          nofun
        · rw [tokens_of_error found, List.length_nil, first, found]
          rfl
      · by_cases last : token.lexeme = .endOfInput
        · refine ⟨[], Nat.zero_le _, rfl, nofun, ?_, ?_⟩
          · rw [List.length_nil, first, found]
            rintro _ ⟨⟩
            exact last
          · rw [tokens_of_end found last, List.length_nil, first, found]
            rfl
        · have shorter := length_next_lt found last
          obtain ⟨tokens, few, results, going, ended, all⟩ := ih _ shorter following rfl
          have later : cursor.answer (tokens.length + 1) = following.answer tokens.length := by
            rw [Nat.add_comm, answer_add, onward_succ]
            exact congrArg (fun run => run.2.answer tokens.length) found
          refine ⟨token :: tokens, by rw [List.length_cons]; omega, ?_, ?_, ?_, ?_⟩
          · rw [List.length_cons, Cursor.results, found]
            exact congrArg (List.cons _) results
          · exact List.forall_mem_cons.mpr ⟨last, going⟩
          · rwa [List.length_cons, later]
          · rw [tokens_of_next found last, all, List.length_cons, later]
            cases following.answer tokens.length <;> rfl

end Cursor

/-- All that can be said of the answers to calls for a token, which go on whatever was found.
The cursor moves through the text and never back. Each answer is about what stands behind a
gap, at the place of its first character; either it takes that, or it lasts for ever. The
latter comes to pass behind as many calls as the text has characters, at the latest, and so
the splitting of a text into tokens ends. -/
theorem answers_of_calls (text : String) :
    let begun := Cursor.ofText text
    (∀ calls, ∃ before rest before' rest',
      before ++ rest = text.toList ∧ begun.onward calls = .between before rest ∧
      before' ++ rest' = text.toList ∧ begun.onward (calls + 1) = .between before' rest' ∧
      Scans before rest (begun.answer calls) before' rest' ∧ before <+: before' ∧
      (¬Lasts (begun.answer calls) → before.length < before'.length)) ∧
    (∀ calls, Lasts (begun.answer calls) →
      ∀ later, calls ≤ later → begun.answer later = begun.answer calls) ∧
    (∀ calls, text.length ≤ calls →
      Lasts (begun.answer calls) ∧ begun.answer calls = begun.answer text.length) ∧
    (∀ count, begun.results count = (List.range count).map begun.answer) ∧
    ∃ tokens : List Token, tokens.length ≤ text.length ∧
      begun.results tokens.length = tokens.map .ok ∧
      (∀ token ∈ tokens, token.lexeme ≠ .endOfInput) ∧
      (∀ last, begun.answer tokens.length = .ok last → last.lexeme = .endOfInput) ∧
      tokenize text = (begun.answer tokens.length).map fun last => tokens ++ [last] := by
  intro begun
  have here (calls : Nat) : ∃ before rest, begun.onward calls = .between before rest ∧
      before ++ rest = text.toList := Cursor.exists_onward_eq_between [] text.toList calls
  have same (calls : Nat) (lasts : Lasts (begun.answer calls)) (later : Nat)
      (le : calls ≤ later) : begun.answer later = begun.answer calls := by
    obtain ⟨more, rfl⟩ := Nat.exists_eq_add_of_le le
    obtain ⟨before, rest, moment, -⟩ := here calls
    rw [Cursor.answer_add, moment]
    rw [← Nat.add_zero calls, Cursor.answer_add, moment] at lasts
    rw [Cursor.answer_of_lasts lasts, ← moment]
    rfl
  have long {calls : Nat} (le : text.length ≤ calls) : Lasts (begun.answer calls) := by
    refine @Cursor.lasts_of_length_le [] text.toList calls ?_
    rwa [String.length_toList]
  refine ⟨?_, same, ?_, begun.results_eq_map_answer, ?_⟩
  · intro calls
    obtain ⟨before, rest, moment, split⟩ := here calls
    obtain ⟨before', rest', behind, scans⟩ := Cursor.scans_next before rest
    refine ⟨before, rest, before', rest', split, moment, scans.append_eq.trans split, ?_, ?_,
      scans.isPrefix, ?_⟩
    · rw [Cursor.onward_succ, moment, behind]
    · rwa [Cursor.answer, moment]
    · rw [Cursor.answer, moment]
      exact scans.length_lt
  · intro calls le
    exact ⟨long le, same _ (long (Nat.le_refl _)) calls le⟩
  · obtain ⟨tokens, few, rest⟩ := begun.exists_tokens_eq
    refine ⟨tokens, ?_, rest⟩
    rwa [← String.length_toList]

/-- A wrong word is passed over, and a character that begins no lexeme is not. -/
example : (Cursor.ofText "GAMES # 1").results 3 =
    [.error ⟨.unknownKeyword "GAMES", ⟨1, 1⟩⟩, .error ⟨.illegalCharacter '#', ⟨1, 7⟩⟩,
      .error ⟨.illegalCharacter '#', ⟨1, 7⟩⟩] := by
  decide +kernel

end GuessingGame.Script
