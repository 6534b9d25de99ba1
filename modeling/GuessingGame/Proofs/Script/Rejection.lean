import Mathlib.Order.Bounds.Basic
import GuessingGame.Proofs.Script.Acceptance
import GuessingGame.Proofs.Script.Misspelling
import GuessingGame.Proofs.Script.Prefix

/-!
# The first fault of a script

A script that is rejected is rejected for its first token at fault: the first that
cannot be read, or that no script could have at its place. Faults of both sorts are
found in the order of the text, although the reading holds one token of lookahead,
because a token is looked at before the next one is read.

The reading has to be compared with the grammar at every place inside every statement.
What carries that is the shape of a stalled reading: complete statements, then the
beginning of one, then something that does not carry it on.
-/

namespace GuessingGame.Script

/-- `Continues kinds wanted` says that `wanted` lists the kinds that can follow `kinds` in
a script, the end of input aside: between statements all that start one, in the order in
which messages list them, and inside a statement the single kind that it needs. -/
structure Continues (kinds wanted : List TokenKind) : Prop where
  mem_iff (kind : TokenKind) : kind ∈ wanted ↔ kind ≠ .endOfInput ∧ Viable (kinds ++ [kind])
  between (statements : List Statement) :
    kinds = statementKinds statements → wanted = TokenKind.statementStarts
  inside : (∀ statements, kinds ≠ statementKinds statements) → ∃ kind, wanted = [kind]

theorem Continues.unique {kinds first second : List TokenKind} (h : Continues kinds first)
    (k : Continues kinds second) : first = second := by
  by_cases complete : ∃ statements, kinds = statementKinds statements
  · obtain ⟨statements, form⟩ := complete
    rw [h.between statements form, k.between statements form]
  · have open' : ∀ statements, kinds ≠ statementKinds statements :=
      fun statements form => complete ⟨statements, form⟩
    obtain ⟨kind, rfl⟩ := h.inside open'
    obtain ⟨kind', rfl⟩ := k.inside open'
    have member := (k.mem_iff kind).mpr ((h.mem_iff kind).mp (List.mem_singleton_self kind))
    rw [List.mem_singleton.mp member]

/-- Where a statement has begun, the awaited kinds are what can follow. -/
theorem continues_awaited (statements : List Statement) {begun : List TokenKind}
    (unfinished : awaited begun ≠ []) :
    Continues (statementKinds statements ++ begun) (awaited begun) where
  mem_iff kind := by
    rw [List.append_assoc, viable_append_statements, viable_awaited unfinished]
    constructor
    · intro member
      refine ⟨?_, .inl member⟩
      rintro rfl
      exact endOfInput_not_mem_awaited begun member
    · rintro ⟨going, member | ⟨-, ended⟩⟩
      · exact member
      · exact absurd ended going
  between whole form := by
    -- The script could end here, so no statement has begun.
    have ends := viable_finished whole
    rw [← form, List.append_assoc, viable_append_statements, viable_awaited unfinished] at ends
    rcases ends with member | ⟨rfl, -⟩
    · exact absurd member (endOfInput_not_mem_awaited begun)
    · rfl
  inside broken := by
    rcases awaited_cases unfinished with ⟨rfl, -⟩ | ⟨k, -, wanted⟩ | ⟨k, kind, -, -, wanted⟩
    · exact absurd (List.append_nil _) (broken statements)
    · exact ⟨_, wanted⟩
    · exact ⟨_, wanted⟩

namespace Cursor

/-- The token with index `i` is at fault: it cannot be read, or no script begins with
tokens of the kinds up to it. -/
def FaultyAt (cursor : Cursor) (i : Nat) : Prop :=
  (∃ fault, (cursor.results (i + 1)).getLast? = some (.error fault)) ∨
    ∃ tokens : List Token, cursor.results (i + 1) = tokens.map .ok ∧
      ¬Viable (tokens.map Token.kind)

@[simp] theorem length_results (cursor : Cursor) (count : Nat) :
    (cursor.results count).length = count := by
  induction count generalizing cursor with
  | zero => rfl
  | succ count ih => simp [results, ih]

theorem results_isPrefix (cursor : Cursor) {m n : Nat} (le : m ≤ n) :
    cursor.results m <+: cursor.results n := by
  induction m generalizing cursor n with
  | zero => exact List.nil_prefix
  | succ m ih =>
      cases n with
      | zero => omega
      | succ n => exact List.cons_prefix_cons.mpr ⟨rfl, ih _ (by omega)⟩

/-- The results up to the one behind some tokens. -/
theorem Reads.results {cursor behind : Cursor} {tokens : List Token}
    (h : cursor.Reads tokens behind) :
    cursor.results (tokens.length + 1) = tokens.map .ok ++ [behind.next.1] := by
  induction h with
  | nil => rfl
  | cons found _ _ ih =>
      rw [List.length_cons, Cursor.results, found]
      exact congrArg (List.cons _) ih

/-- What was read does not end the script. -/
theorem Reads.going {cursor behind : Cursor} {tokens : List Token}
    (h : cursor.Reads tokens behind) : ∀ token ∈ tokens, token.lexeme ≠ .endOfInput := by
  induction h with
  | nil => simp
  | cons _ ne _ ih =>
      intro token member
      rcases List.mem_cons.mp member with rfl | later
      · exact ne
      · exact ih token later

/-- Tokens are found again in their results. -/
theorem map_ok_injective :
    Function.Injective (List.map (Except.ok : Token → Except Fault Token)) :=
  List.map_injective_iff.mpr fun _ _ => Except.ok.inj

/-- Among viable tokens none is at fault. -/
theorem not_faultyAt {cursor : Cursor} {i : Nat} {tokens : List Token}
    (read : cursor.results (i + 1) <+: tokens.map .ok)
    (viable : Viable (tokens.map Token.kind)) : ¬cursor.FaultyAt i := by
  obtain ⟨front, begins, same⟩ := List.prefix_map_iff.mp read
  rintro (⟨fault, last⟩ | ⟨others, all, unviable⟩)
  · rw [same, List.getLast?_map] at last
    cases ending : front.getLast? <;> simp [ending] at last
  · rw [same] at all
    rw [← map_ok_injective all] at unviable
    exact unviable (viable.mono (begins.map _))

/-- The first token at fault is the one behind viable tokens that cannot follow them. -/
theorem isLeast_faultyAt {cursor behind : Cursor} {before : List Token}
    (reads : cursor.Reads before behind) (viable : Viable (before.map Token.kind))
    (unviable : ∀ token, behind.next.1 = .ok token →
      ¬Viable (before.map Token.kind ++ [token.kind])) :
    IsLeast {i | cursor.FaultyAt i} before.length := by
  have results := reads.results
  constructor
  · cases next : behind.next.1 with
    | error fault => exact .inl ⟨fault, by rw [results, next, List.getLast?_concat]⟩
    | ok token =>
        refine .inr ⟨before ++ [token], by rw [results, next, List.map_append]; rfl, ?_⟩
        rw [List.map_append]
        exact unviable token next
  · intro i faulty
    by_contra lt
    have front : cursor.results (i + 1) <+: before.map .ok := by
      have short := cursor.results_isPrefix (Nat.add_le_add_right (Nat.lt_of_not_le lt).le 1)
      rw [results] at short
      rcases List.prefix_concat_iff.mp short with whole | front
      · have lengths := congrArg List.length whole
        simp at lengths
        omega
      · exact front
    exact not_faultyAt front viable faulty

/-- Before the fault behind an outline stand complete statements and the beginning of
another one, which the text behind them does not carry on. -/
theorem stalls_of_fault {cursor : Cursor} {fault : Fault}
    (h : cursor.outline.fault? = some fault) :
    ∃ (statements : List Statement) (begun : List TokenKind) (before : List Token)
      (behind : Cursor), cursor.Reads before behind ∧
        before.map Token.kind = statementKinds statements ++ begun ∧ awaited begun ≠ [] ∧
        behind.Blocks (awaited begun) fault ∧
        ∀ token, behind.next.1 = .ok token →
          ¬Viable (before.map Token.kind ++ [token.kind]) := by
  have outlined := cursor.outlined
  generalize outline : cursor.outline = found at h outlined
  cases outlined with
  | finished _ _ _ => cases h
  | @late complete behind fault' passes failed =>
      cases h
      obtain ⟨before, reads, form⟩ := passes.reads
      refine ⟨complete.map Prod.snd, [], before, behind, reads, ?_, by decide, .inl failed, ?_⟩
      · rw [List.append_nil, ← map_kind_flatMap_lexemes, ← form, List.map_map]
        rfl
      · intro token next
        rw [next_of_ahead_error failed] at next
        cases next
  | @broken complete middle next fault' passes token breaks =>
      cases h
      obtain ⟨before, reads, form⟩ := passes.reads
      obtain ⟨begun, behind, more, unfinished, blocks⟩ := breaks
      have kinds : (before ++ begun).map Token.kind =
          statementKinds (complete.map Prod.snd) ++ begun.map Token.kind := by
        rw [List.map_append, ← map_kind_flatMap_lexemes, ← form, List.map_map]
        rfl
      refine ⟨complete.map Prod.snd, begun.map Token.kind, before ++ begun, behind,
        reads.append more, kinds, unfinished, blocks, ?_⟩
      intro last found
      rw [kinds, List.append_assoc, viable_append_statements, viable_awaited unfinished]
      rcases blocks with failed | ⟨ahead, found', unwanted, -⟩
      · rw [next_of_ahead_error failed] at found
        cases found
      · rw [next_of_ahead found'] at found
        cases found
        rintro (member | ⟨none, ended⟩)
        · exact unwanted member
        · -- The script would end behind complete statements, and nothing be at fault.
          cases List.map_eq_nil_iff.mp none
          cases more
          have last : ahead.current.lexeme = .endOfInput := by
            cases lexeme : ahead.current.lexeme <;>
              simp [Token.kind, Lexeme.kind, lexeme] at ended ⊢
          have whole := passes.outline found'
          rw [outline, Lookahead.outline_of_end last] at whole
          cases congrArg Outline.fault? whole

end Cursor

/-- A lexical fault in a text, behind some tokens: its place is the first character of its
lexeme, and only a gap stands between that and the last token. -/
def FaultBehind (text : List Char) (before : List Token) (fault : Fault) : Prop :=
  ∃ front gap word rest, text = front ++ (gap ++ (word ++ rest)) ∧
    Spells (before.map Token.lexeme) front (gap ++ (word ++ rest)) ∧ Gap gap ∧
    fault.cause.Spelt word rest ∧ fault.place = Place.start.afterAll (front ++ gap)

theorem faultBehind_of_reads {text : String} {before : List Token} {behind : Cursor}
    {fault : Fault} (reads : (Cursor.ofText text).Reads before behind)
    (failed : behind.next.1 = .error fault) : FaultBehind text.toList before fault := by
  obtain ⟨gap, word, rest, split, hgap, spelt, place⟩ := Cursor.fault_cases (Prod.ext failed rfl)
  obtain ⟨front, whole, spells, place'⟩ := Cursor.spells_of_reads_of_ne_nil reads (by
    rw [split]
    simp [spelt.ne_nil])
  rw [split] at whole spells
  refine ⟨front, gap, word, rest, whole, spells, hgap, spelt, ?_⟩
  rw [place, place', Place.afterAll_append]
  rfl

/-- What is reported where `result` is found behind the tokens `before`: a lexical fault as
it is, and a token with its kind and place and the kinds that could have stood there. -/
def Reported (text : List Char) (before : List Token) (fault : Fault) :
    Except Fault Token → Prop
  | .error found => fault = found ∧ FaultBehind text before fault
  | .ok token => ∃ wanted, Continues (before.map Token.kind) wanted ∧
      fault = ⟨.unexpected wanted token.kind, token.place⟩

theorem Reported.unique {text : List Char} {before : List Token} {first second : Fault}
    {result : Except Fault Token} (h : Reported text before first result)
    (k : Reported text before second result) : first = second := by
  cases result with
  | error found => exact h.1.trans k.1.symm
  | ok token =>
      obtain ⟨wanted, continues, rfl⟩ := h
      obtain ⟨wanted', continues', rfl⟩ := k
      rw [continues.unique continues']

/-- A rejected script is rejected for its first token at fault. -/
theorem reported_of_rejected {text : String} {fault : Fault}
    (rejected : readGame text = .error fault) :
    ∃ (before : List Token) (behind : Cursor), (Cursor.ofText text).Reads before behind ∧
      IsLeast {i | (Cursor.ofText text).FaultyAt i} before.length ∧
      Reported text.toList before fault behind.next.1 := by
  obtain ⟨statements, begun, before, behind, reads, kinds, unfinished, blocks, unviable⟩ :=
    Cursor.stalls_of_fault (readGame_eq_error_iff.mp rejected)
  have viable : Viable (before.map Token.kind) := by
    rw [kinds, viable_append_statements]
    exact viable_begun unfinished
  refine ⟨before, behind, reads, Cursor.isLeast_faultyAt reads viable unviable, ?_⟩
  rcases blocks with failed | ⟨ahead, found, -, rfl⟩
  · have result := congrArg Prod.fst (Cursor.next_of_ahead_error failed)
    rw [result]
    exact ⟨rfl, faultBehind_of_reads reads result⟩
  · rw [Cursor.next_of_ahead found]
    refine ⟨_, ?_, rfl⟩
    rw [kinds]
    exact continues_awaited statements unfinished

/-- The tokens of an accepted script are viable up to the end of input. -/
theorem reads_of_accepted {text : String} {game : Game} (accepted : readGame text = .ok game) :
    ∃ (tokens : List Token) (behind : Cursor) (last : Token),
      (Cursor.ofText text).Reads tokens behind ∧ behind.next.1 = .ok last ∧
      last.lexeme = .endOfInput ∧ Viable ((tokens ++ [last]).map Token.kind) := by
  rw [readGame_eq] at accepted
  have outlined := (Cursor.ofText text).outlined
  generalize (Cursor.ofText text).outline = outline at accepted outlined
  cases outlined with
  | @finished complete behind ahead passes found ended =>
      obtain ⟨tokens, reads, form⟩ := passes.reads
      refine ⟨tokens, behind, ahead.current, reads, by rw [Cursor.next_of_ahead found], ended, ?_⟩
      have kinds : (tokens ++ [ahead.current]).map Token.kind =
          statementKinds (complete.map Prod.snd) ++ [.endOfInput] := by
        rw [List.map_append, ← map_kind_flatMap_lexemes, ← form, List.map_map]
        simp [Token.kind, ended, Lexeme.kind, Function.comp_def]
      rw [kinds]
      exact viable_finished _
  | late _ _ => cases accepted
  | broken _ _ _ => cases accepted

/-- In an accepted script no token up to the end of input is at fault. -/
theorem not_faultyAt_of_accepted {text : String} {game : Game} {i : Nat} {before : List Token}
    {result : Except Fault Token} (accepted : readGame text = .ok game)
    (results : (Cursor.ofText text).results (i + 1) = before.map .ok ++ [result])
    (going : ∀ token ∈ before, token.lexeme ≠ .endOfInput) :
    ¬(Cursor.ofText text).FaultyAt i := by
  obtain ⟨tokens, behind, last, reads, found, ended, viable⟩ := reads_of_accepted accepted
  have all : (Cursor.ofText text).results (tokens.length + 1) = (tokens ++ [last]).map .ok := by
    rw [reads.results, found, List.map_append]
    rfl
  refine Cursor.not_faultyAt ?_ viable
  rw [← all]
  apply Cursor.results_isPrefix
  -- Otherwise the end of input would be among the tokens before.
  by_contra more
  have longer : (Cursor.ofText text).results (tokens.length + 1) <+: before.map .ok := by
    have short := (Cursor.ofText text).results_isPrefix (Nat.lt_of_not_le more).le
    rw [results] at short
    rcases List.prefix_concat_iff.mp short with whole | front
    · have counts := congrArg List.length whole
      rw [← results, Cursor.length_results, Cursor.length_results] at counts
      omega
    · exact front
  rw [all] at longer
  have inside := (List.prefix_map_iff_of_injective fun _ _ => Except.ok.inj).mp longer
  exact going last (inside.subset (by simp)) ended

/-- A script is rejected for its first token at fault, and only for that one. -/
theorem rejected_iff_first_fault (text : String) (fault : Fault) :
    readGame text = .error fault ↔
      ∃ (i : Nat) (before : List Token) (result : Except Fault Token),
        IsLeast {i | (Cursor.ofText text).FaultyAt i} i ∧
        (Cursor.ofText text).results (i + 1) = before.map .ok ++ [result] ∧
        (∀ token ∈ before, token.lexeme ≠ .endOfInput) ∧
        Reported text.toList before fault result := by
  constructor
  · intro rejected
    obtain ⟨before, behind, reads, least, reported⟩ := reported_of_rejected rejected
    exact ⟨_, before, _, least, reads.results, reads.going, reported⟩
  · rintro ⟨i, before, result, least, results, going, reported⟩
    cases read : readGame text with
    | ok game => exact absurd least.1 (not_faultyAt_of_accepted read results going)
    | error fault' =>
        obtain ⟨before', behind, reads, least', reported'⟩ := reported_of_rejected read
        obtain rfl := least.unique least'
        rw [reads.results] at results
        obtain ⟨same, rfl⟩ := List.append_singleton_inj.mp results
        obtain rfl := Cursor.map_ok_injective same
        rw [reported.unique reported']

example : readGame "GAME 3 #" = .error ⟨.unexpected [.string] .integer, ⟨1, 6⟩⟩ := by cbv

end GuessingGame.Script
