import GuessingGame.Proofs.Console.Walk
import GuessingGame.Proofs.Play.Winning

/-!
# How a challenge comes out

A host that writes as it likes can only be kept from a verdict by the input. So whatever a
challenge asks, the lines of the input decide how it comes out, and what is left unread: the
lines behind the one that hits, behind the last life, or behind the one that is no text. Each
way out has its own form of the input, and these forms exclude one another, because a challenge
is tried in one way only.

What counts of a line is its text, blank or not, with the blanks around it cut off and in lower
case. The newline behind it is one of these blanks.
-/

namespace GuessingGame.Console

open Script (Challenge Verdict)
open GuessingGame.Text

/-- A line ends with its only newline, unless it is the last one. -/
theorem newline_of_lines {input line : List UInt8} {front back : List (List UInt8)}
    (h : lines input = front ++ line :: back) :
    ∃ body, 10 ∉ body ∧ (line = body ++ [10] ∨ back = [] ∧ body ≠ [] ∧ line = body) := by
  induction input generalizing front line with
  | nil => simp [lines] at h
  | cons byte rest ih =>
      rw [lines] at h
      split at h
      · rename_i newline
        cases front with
        | nil =>
            rw [List.nil_append, List.cons.injEq] at h
            exact ⟨[], List.not_mem_nil, .inl (by rw [← h.1, newline]; rfl)⟩
        | cons first front => exact ih (List.cons.inj h).2
      · rename_i other
        split at h
        · -- the only byte of the only line
          obtain ⟨rfl, same⟩ := List.append_eq_cons_iff.mp h.symm |>.resolve_right (by simp)
          obtain ⟨rfl, rfl⟩ := List.cons.inj same
          exact ⟨[byte], by simpa using Ne.symm other, .inr ⟨rfl, List.cons_ne_nil _ _, rfl⟩⟩
        · rename_i first others behind
          cases front with
          | nil =>
              obtain ⟨rfl, rfl⟩ := List.cons.inj h
              obtain ⟨body, single, ends⟩ := @ih first [] behind
              refine ⟨byte :: body, by simpa [single] using Ne.symm other, ?_⟩
              rcases ends with rfl | ⟨last, -, rfl⟩
              · exact .inl rfl
              · exact .inr ⟨last, List.cons_ne_nil _ _, rfl⟩
          | cons _ front =>
              apply @ih line (first :: front)
              rw [behind, (List.cons.inj h).2]
              rfl

section

variable {target text : String} {line : List UInt8}

/-- What is typed in a line decides, with or without the end of the line. -/
theorem hits_iff_of_decode? (decoded : Utf8.decode? line = some text) :
    Hits target line ↔ Answer.hits text target = true := by
  rw [Hits, lineText, decoded]
  simp [hits_dropLineEnd]

theorem hits_iff_lower (decoded : Utf8.decode? line = some text) :
    Hits target line ↔ lower (trim text.toList) = lower (trim target.toList) :=
  (hits_iff_of_decode? decoded).trans (Answer.hits_iff text target)

/-- A line that is a text hits or misses. -/
theorem misses_iff_not_hits (decoded : Utf8.decode? line = some text) :
    Misses target line ↔ ¬Hits target line := by
  rw [hits_iff_of_decode? decoded, Misses, lineText, decoded]
  simp [hits_dropLineEnd]

/-- A blank line is a guess, too. It hits where the answer is blank, and misses elsewhere. -/
theorem blank_line_counts (decoded : Utf8.decode? line = some text)
    (blank : Answer.isBlank text = true) :
    if Answer.isBlank target then Hits target line else Misses target line := by
  rw [misses_iff_not_hits decoded, hits_iff_of_decode? decoded, Answer.hits_of_isBlank blank]
  split <;> assumption

end

theorem mapError_message_injective {first second : Except Failure Verdict}
    (h : first.mapError Failure.message = second.mapError Failure.message) : first = second := by
  cases first <;> cases second <;> simp_all [Except.mapError]
  exact Failure.message_injective h

/-- A challenge comes out with an answer, at a console that takes all output, and leaves some
of the input unread. -/
def ComesOut (challenge : Challenge) (input written : List UInt8)
    (answer : Except String Verdict) (unread : List UInt8) : Prop :=
  let run := host.solve challenge (ample input written)
  run.1 = answer ∧ run.2.input = unread

section

variable {challenge : Challenge} {input written unread : List UInt8}

/-- A challenge comes out as it is tried on the lines of the input, and leaves what that does. -/
theorem comesOut_iff (result : Except Failure Verdict) :
    ComesOut challenge input written (result.mapError Failure.message) unread ↔
      ∃ rest, Tries challenge.target challenge.lives.toNat (lines input) result rest ∧
        rest.flatten = unread := by
  obtain ⟨came, left, shown, tries, solved⟩ := solve_ample challenge input written
  rw [ComesOut, solved]
  constructor
  · rintro ⟨same, rfl⟩
    rw [← mapError_message_injective same]
    exact ⟨lines left, tries, flatten_lines left⟩
  · rintro ⟨rest, tries', rfl⟩
    obtain ⟨rfl, rfl⟩ := tries.unique tries'
    exact ⟨rfl, (flatten_lines left).symm⟩

theorem comesOut_proceed_iff :
    ComesOut challenge input written (.ok .proceed) unread ↔
      ∃ misses hit rest, lines input = misses ++ hit :: rest ∧
        misses.length < challenge.lives.toNat ∧ (∀ line ∈ misses, Misses challenge.target line) ∧
        Hits challenge.target hit ∧ rest.flatten = unread := by
  refine (comesOut_iff (.ok .proceed)).trans ⟨?_, ?_⟩
  · rintro ⟨rest, tries, same⟩
    generalize lines input = ahead at tries ⊢
    cases tries with
    | won few missed hit => exact ⟨_, _, rest, rfl, few, missed, hit, same⟩
  · rintro ⟨misses, hit, rest, split, few, missed, hits, same⟩
    exact ⟨rest, split ▸ .won few missed hits, same⟩

theorem comesOut_halt_iff :
    ComesOut challenge input written (.ok .halt) unread ↔
      ∃ misses rest, lines input = misses ++ rest ∧ misses.length = challenge.lives.toNat ∧
        (∀ line ∈ misses, Misses challenge.target line) ∧ rest.flatten = unread := by
  refine (comesOut_iff (.ok .halt)).trans ⟨?_, ?_⟩
  · rintro ⟨rest, tries, same⟩
    generalize lines input = ahead at tries ⊢
    cases tries with
    | lost spent missed => exact ⟨_, rest, rfl, spent, missed, same⟩
  · rintro ⟨misses, rest, split, spent, missed, same⟩
    exact ⟨rest, split ▸ .lost spent missed, same⟩

theorem comesOut_closed_iff :
    ComesOut challenge input written (.error "input closed") unread ↔
      (lines input).length < challenge.lives.toNat ∧
        (∀ line ∈ lines input, Misses challenge.target line) ∧ unread = [] := by
  refine (comesOut_iff (.error .inputClosed)).trans ⟨?_, ?_⟩
  · rintro ⟨rest, tries, rfl⟩
    generalize lines input = ahead at tries ⊢
    cases tries with
    | closed few missed => exact ⟨few, missed, rfl⟩
  · rintro ⟨few, missed, rfl⟩
    exact ⟨[], .closed few missed, rfl⟩

theorem comesOut_garbled_iff :
    ComesOut challenge input written (.error "stream did not contain valid UTF-8") unread ↔
      ∃ misses line rest, lines input = misses ++ line :: rest ∧
        misses.length < challenge.lives.toNat ∧ (∀ line ∈ misses, Misses challenge.target line) ∧
        Utf8.decode? line = none ∧ rest.flatten = unread := by
  refine (comesOut_iff (.error .notText)).trans ⟨?_, ?_⟩
  · rintro ⟨rest, tries, same⟩
    generalize lines input = ahead at tries ⊢
    cases tries with
    | garbled few missed bad => exact ⟨_, _, rest, rfl, few, missed, bad, same⟩
  · rintro ⟨misses, line, rest, split, few, missed, bad, same⟩
    exact ⟨rest, split ▸ .garbled few missed bad, same⟩

/-- Without a life the challenge is lost, and nothing is read. -/
theorem comesOut_of_no_lives (none : challenge.lives = 0) :
    ComesOut challenge input written (.ok .halt) input := by
  refine comesOut_halt_iff.mpr ⟨[], lines input, rfl, ?_, nofun, flatten_lines input⟩
  rw [none]
  rfl

/-- There is no other way out. -/
theorem exists_comesOut (challenge : Challenge) (input written : List UInt8) :
    ∃ unread, ComesOut challenge input written (.ok .proceed) unread ∨
      ComesOut challenge input written (.ok .halt) unread ∨
      ComesOut challenge input written (.error "input closed") unread ∨
      ComesOut challenge input written (.error "stream did not contain valid UTF-8") unread := by
  obtain ⟨result, left, shown, tries, solved⟩ := solve_ample challenge input written
  refine ⟨left, ?_⟩
  simp only [ComesOut, solved]
  generalize lines input = ahead at tries
  generalize lines left = rest at tries
  cases tries with
  | won => exact .inl ⟨rfl, rfl⟩
  | lost => exact .inr (.inl ⟨rfl, rfl⟩)
  | closed => exact .inr (.inr (.inl ⟨rfl, rfl⟩))
  | garbled => exact .inr (.inr (.inr ⟨rfl, rfl⟩))

end

/-- How a challenge comes out at a console that takes all output, on any input. The lines of
the input, each through its newline, are guesses, blank or not. Without a life nothing is read.
Otherwise the challenge is won by a hit among as many lines as there are lives, and lost if so
many are there and miss; it fails if the lines end before that, or at a line that is no text.
Each time exactly the lines up to the one that decides are read. -/
theorem solve_of_lines (challenge : Challenge) (input written : List UInt8) :
    let target := challenge.target
    let lives := challenge.lives.toNat
    let ahead := lines input
    let Out := ComesOut challenge input written
    (challenge.lives = 0 → Out (.ok .halt) input) ∧
      (∀ unread, Out (.ok .proceed) unread ↔
        ∃ misses hit rest, ahead = misses ++ hit :: rest ∧ misses.length < lives ∧
          (∀ line ∈ misses, Misses target line) ∧ Hits target hit ∧ rest.flatten = unread) ∧
      (∀ unread, Out (.ok .halt) unread ↔
        ∃ misses rest, ahead = misses ++ rest ∧ misses.length = lives ∧
          (∀ line ∈ misses, Misses target line) ∧ rest.flatten = unread) ∧
      (∀ unread, Out (.error "input closed") unread ↔
        ahead.length < lives ∧ (∀ line ∈ ahead, Misses target line) ∧ unread = []) ∧
      (∀ unread, Out (.error "stream did not contain valid UTF-8") unread ↔
        ∃ misses line rest, ahead = misses ++ line :: rest ∧ misses.length < lives ∧
          (∀ line ∈ misses, Misses target line) ∧ Utf8.decode? line = none ∧
          rest.flatten = unread) ∧
      (∃ unread, Out (.ok .proceed) unread ∨ Out (.ok .halt) unread ∨
        Out (.error "input closed") unread ∨
        Out (.error "stream did not contain valid UTF-8") unread) ∧
      (ahead.flatten = input ∧ ∀ front line back, ahead = front ++ line :: back →
        ∃ body, 10 ∉ body ∧ (line = body ++ [10] ∨ back = [] ∧ body ≠ [] ∧ line = body)) ∧
      ∀ line text, Utf8.decode? line = some text →
        (Hits target line ↔ lower (trim text.toList) = lower (trim target.toList)) ∧
        (Misses target line ↔ ¬Hits target line) ∧
        (Answer.isBlank text = true →
          if Answer.isBlank target then Hits target line else Misses target line) :=
  ⟨comesOut_of_no_lives, fun _ => comesOut_proceed_iff, fun _ => comesOut_halt_iff,
    fun _ => comesOut_closed_iff, fun _ => comesOut_garbled_iff,
    exists_comesOut challenge input written,
    ⟨flatten_lines input, fun _ _ _ => newline_of_lines⟩, fun _ _ decoded =>
      ⟨hits_iff_lower decoded, misses_iff_not_hits decoded, blank_line_counts decoded⟩⟩

end GuessingGame.Console
