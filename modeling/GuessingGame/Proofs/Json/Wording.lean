import GuessingGame.Json.Printer
import GuessingGame.Proofs.Text.Runs
import Mathlib.Tactic.SplitIfs

/-!
# The words of a written text

What is written is read again word by word. A blank is passed over, a mark is the token that it
is, and a string ends at its own closing quote, because no quote within it stands bare: each
character is written as a piece that spells it alone (`Spells`). A number or a name is the only
word whose end is not its own, so something else must stand behind it (`Apart`).
-/

namespace GuessingGame.Json

open GuessingGame.Text

theorem tokens?_space {c : Char} (space : isSpace c = true) (rest : List Char) :
    tokens? (c :: rest) = tokens? rest := by
  rw [tokens?, if_pos space]

theorem tokens?_of_token {c : Char} {cs rest : List Char} {token : Token}
    (visible : isSpace c = false) (found : token? c cs = some (token, rest)) :
    tokens? (c :: cs) = (tokens? rest).map (token :: ·) := by
  rw [tokens?, if_neg (by simp [visible])]
  split
  · rename_i none
    rw [found] at none
    cases none
  · rename_i token' rest' found'
    rw [found] at found'
    cases found'
    rfl

/-- A mark is no blank, and neither a number nor a name goes on with it. -/
theorem not_space_of_mark {c : Char} {token : Token} (mark : mark? c = some token) :
    isSpace c = false ∧ isNumberChar c = false ∧ c.isLower = false := by
  unfold mark? at mark
  split_ifs at mark <;> subst c <;> decide

theorem tokens?_mark {c : Char} {token : Token} (mark : mark? c = some token) (rest : List Char) :
    tokens? (c :: rest) = (tokens? rest).map (token :: ·) :=
  tokens?_of_token (not_space_of_mark mark).1 (by simp only [token?, mark])

/-- What stands between an item and its line is passed over. -/
theorem tokens?_lineBreak (layout : Layout) (depth : Nat) (rest : List Char) :
    tokens? (layout.lineBreak depth ++ rest) = tokens? rest := by
  have columns (count : Nat) : tokens? (List.replicate count ' ' ++ rest) = tokens? rest := by
    induction count with
    | zero => rfl
    | succ count ih => rw [List.replicate_succ, List.cons_append, tokens?_space (by decide), ih]
  cases layout with
  | compact => rfl
  | indented => rw [Layout.lineBreak, List.cons_append, tokens?_space (by decide), columns]

theorem pieces?_quote (rest : List Char) : pieces? ('"' :: rest) = some ([], rest) := by
  rw [pieces?]
  rfl

theorem pieces?_of_piece {cs rest : List Char} {piece : Piece} (unclosed : cs.head? ≠ some '"')
    (found : piece? cs = some (piece, rest)) :
    pieces? cs = (pieces? rest).map fun (more, rest) => (piece :: more, rest) := by
  rw [pieces?, if_neg unclosed]
  split
  · rename_i none
    rw [found] at none
    cases none
  · rename_i piece' rest' found'
    rw [found] at found'
    cases found'
    rfl

/-- A text is read as a piece of a string that spells one character, and does not close it. -/
structure Spells (text : List Char) (c : Char) (piece : Piece) : Prop where
  unclosed (rest : List Char) : (text ++ rest).head? ≠ some '"'
  piece?_eq (rest : List Char) : piece? (text ++ rest) = some (piece, rest)
  spell?_cons (more : List Piece) : spell? (piece :: more) = (spell? more).map (c :: ·)

theorem spells_short {c e : Char} (short : shortEscape? e = some c) (other : e ≠ 'u') :
    Spells ['\\', e] c (.char c) where
  unclosed rest := by simp
  piece?_eq rest := by simp [piece?, short, other]
  spell?_cons more := rfl

/-- A character among the first is spelt by the unit of its number. -/
theorem spells_unit {c : Char} (low : c.toNat < 0xd800) :
    Spells ('\\' :: 'u' :: hexDigits hexDigit 4 c.toNat) c (.unit c.toNat) where
  unclosed rest := by simp
  piece?_eq rest := by
    have four : (hexDigits hexDigit 4 c.toNat).length = 4 := length_hexDigits _ _ _
    have value : hexValue? (hexDigits hexDigit 4 c.toNat) = some c.toNat := by
      rw [hexValue?_hexDigits, Nat.mod_eq_of_lt (by omega)]
    simp [piece?, four, List.take_left' four, List.drop_left' four, value]
  spell?_cons more := by
    conv => lhs; unfold spell?
    rw [if_pos (.inl low), Char.ofNat_toNat]

theorem spells_self {c : Char} (bare : ¬(c = '"' ∨ c = '\\')) (high : ¬c.toNat < 0x20) :
    Spells [c] c (.char c) where
  unclosed rest := by simpa using fun same => bare (.inl same)
  piece?_eq rest := by
    have other : c ≠ '\\' := fun same => bare (.inr same)
    simp [piece?, high, other]
  spell?_cons more := rfl

/-- Every character spells itself as it is written. -/
theorem exists_spells (c : Char) : ∃ piece, Spells (escaped c) c piece := by
  have known {n : Nat} (number : c.toNat = n) : c = Char.ofNat n := by
    rw [← number, Char.ofNat_toNat]
  unfold escaped
  split_ifs with own newline return_ tab backspace feed low
  · refine ⟨_, spells_short ?_ ?_⟩
    · rcases own with rfl | rfl <;> rfl
    · rcases own with rfl | rfl <;> decide
  · exact ⟨_, spells_short (by rw [newline]; rfl) (by decide)⟩
  · exact ⟨_, spells_short (by rw [return_]; rfl) (by decide)⟩
  · exact ⟨_, spells_short (by rw [tab]; rfl) (by decide)⟩
  · exact ⟨_, spells_short (by rw [known backspace]; rfl) (by decide)⟩
  · exact ⟨_, spells_short (by rw [known feed]; rfl) (by decide)⟩
  · exact ⟨_, spells_unit (by omega)⟩
  · exact ⟨_, spells_self own low⟩

/-- The body of a string ends at its closing quote, and spells what was written. -/
theorem exists_pieces (cs rest : List Char) : ∃ pieces,
    pieces? (cs.flatMap escaped ++ '"' :: rest) = some (pieces, rest) ∧ spell? pieces = some cs := by
  induction cs with
  | nil => exact ⟨[], pieces?_quote rest, rfl⟩
  | cons c cs ih =>
      obtain ⟨pieces, read, spelt⟩ := ih
      obtain ⟨piece, spells⟩ := exists_spells c
      refine ⟨piece :: pieces, ?_, by rw [spells.spell?_cons, spelt, Option.map_some]⟩
      rw [List.flatMap_cons, List.append_assoc,
        pieces?_of_piece (spells.unclosed _) (spells.piece?_eq _), read, Option.map_some]

/-- A string is read as it is, also one that has no text. -/
theorem tokens?_quoted (text : Option (List Char)) (rest : List Char) :
    tokens? (quoted text ++ rest) = (tokens? rest).map (.string text :: ·) := by
  obtain ⟨body, pieces, form, read, spelt⟩ : ∃ body pieces,
      quoted text ++ rest = '"' :: body ∧ pieces? body = some (pieces, rest) ∧
        spell? pieces = text := by
    cases text with
    | none =>
        have half : pieces? ("\\ud800".toList ++ '"' :: rest) = some ([.unit 0xd800], rest) := by
          have unit : piece? ("\\ud800".toList ++ '"' :: rest) =
              some (.unit 0xd800, '"' :: rest) := rfl
          rw [pieces?_of_piece (by simp) unit, pieces?_quote, Option.map_some]
        exact ⟨_, _, by simp [quoted], half, by decide⟩
    | some cs =>
        obtain ⟨pieces, read, spelt⟩ := exists_pieces cs rest
        exact ⟨_, _, by simp [quoted], read, spelt⟩
  rw [form]
  refine tokens?_of_token (by decide) ?_
  simp [token?, mark?, read, spelt]

/-- Neither a number nor a name goes on here. -/
def Apart (rest : List Char) : Prop :=
  ∀ c ∈ rest.head?, isNumberChar c = false ∧ c.isLower = false

theorem isNumberChar_of_isDigit {c : Char} (digit : c.isDigit = true) : isNumberChar c = true := by
  simp [isNumberChar, digit]

theorem forall_mem_of_tail {q : Char → Bool} {text : List Char} (first : ∀ c ∈ text.head?, q c = true)
    (behind : ∀ c ∈ text.tail, q c = true) : ∀ c ∈ text, q c = true := by
  cases text with
  | nil => nofun
  | cons c text => exact List.forall_mem_cons.mpr ⟨first c rfl, behind⟩

/-- Behind a run of digits nothing but characters of numbers may stand in a number. -/
theorem isNumberChar_of_dropWhile {text : List Char}
    (behind : ∀ c ∈ text.dropWhile Char.isDigit, isNumberChar c = true) :
    ∀ c ∈ text, isNumberChar c = true := by
  intro c member
  rw [← List.takeWhile_append_dropWhile (p := Char.isDigit) (l := text), List.mem_append] at member
  rcases member with digit | left
  · exact isNumberChar_of_isDigit (List.all_eq_true.mp List.all_takeWhile c digit)
  · exact behind c left

theorem isNumberChar_of_isExponent {text : List Char} (exponent : isExponent text = true) :
    ∀ c ∈ text, isNumberChar c = true := by
  cases text with
  | nil => nofun
  | cons e rest =>
      have parts : ((e = 'e' ∨ e = 'E') ∧
          (if rest.head? = some '+' ∨ rest.head? = some '-' then rest.tail else rest) ≠ []) ∧
          ∀ c ∈ (if rest.head? = some '+' ∨ rest.head? = some '-' then rest.tail else rest),
            c.isDigit = true := by
        simpa only [isExponent, Bool.and_eq_true, Bool.or_eq_true, beq_iff_eq,
          decide_eq_true_eq, List.all_eq_true] using exponent
      obtain ⟨⟨letter, -⟩, digits⟩ := parts
      have first : isNumberChar e = true := by rcases letter with rfl | rfl <;> decide
      refine List.forall_mem_cons.mpr ⟨first, ?_⟩
      split at digits
      · rename_i signed
        refine forall_mem_of_tail (fun c head => ?_) fun c member =>
          isNumberChar_of_isDigit (digits c member)
        rcases signed with sign | sign <;> cases Option.mem_unique head sign <;> decide
      · exact fun c member => isNumberChar_of_isDigit (digits c member)

/-- A number begins with digits, or with a minus sign and digits. -/
theorem isNumber_cases {text : List Char} (number : isNumber text = true) : ∃ unsigned,
    (text = unsigned ∨ text = '-' :: unsigned) ∧ unsigned.takeWhile Char.isDigit ≠ [] ∧
      ∀ c ∈ unsigned.dropWhile Char.isDigit, isNumberChar c = true := by
  refine ⟨if text.head? = some '-' then text.tail else text, ?_, ?_⟩
  · split
    · rename_i minus
      obtain ⟨more, rfl⟩ := List.head?_eq_some_iff.mp minus
      exact .inr rfl
    · exact .inl rfl
  · simp only [isNumber, Bool.and_eq_true, Bool.or_eq_true, decide_eq_true_eq] at number
    generalize (if text.head? = some '-' then text.tail else text) = unsigned at number ⊢
    obtain ⟨whole, behind⟩ := number
    refine ⟨?_, ?_⟩
    · rcases whole with zero | ⟨some_digit, -⟩
      · rw [zero]
        exact List.cons_ne_nil _ _
      · exact some_digit
    · split at behind
      · rename_i point
        rw [Bool.and_eq_true] at behind
        refine forall_mem_of_tail (fun c head => ?_) ?_
        · cases Option.mem_unique head point
          decide
        · exact isNumberChar_of_dropWhile (isNumberChar_of_isExponent behind.2)
      · exact isNumberChar_of_isExponent behind

theorem isNumberChar_of_isNumber {text : List Char} (number : isNumber text = true) :
    ∀ c ∈ text, isNumberChar c = true := by
  obtain ⟨unsigned, rfl | rfl, -, behind⟩ := isNumber_cases number
  · exact isNumberChar_of_dropWhile behind
  · exact List.forall_mem_cons.mpr ⟨by decide, isNumberChar_of_dropWhile behind⟩

theorem exists_cons_of_isNumber {text : List Char} (number : isNumber text = true) :
    ∃ c more, text = c :: more ∧ (c.isDigit = true ∨ c = '-') := by
  obtain ⟨unsigned, rfl | rfl, some_digit, -⟩ := isNumber_cases number
  · cases text with
    | nil => exact absurd rfl some_digit
    | cons c more =>
        refine ⟨c, more, rfl, .inl ?_⟩
        exact Decidable.byContradiction fun other =>
          some_digit (List.takeWhile_cons_of_neg other)
  · exact ⟨_, _, rfl, .inr rfl⟩

/-- The decimal digits of a number are one here as well, for none of them leads it as a zero. -/
theorem isNumber_decimal (n : Nat) : isNumber (Nat.toDigits 10 n) = true := by
  have digits : ∀ c ∈ Nat.toDigits 10 n, c.isDigit = true := fun c member =>
    Nat.isDigit_of_mem_toDigits (by decide) (by decide) member
  have unsigned : (Nat.toDigits 10 n).head? ≠ some '-' := fun minus => by
    have digit := digits '-' (List.mem_of_head? minus)
    cases digit
  have stop : ∀ c ∈ ([] : List Char).head?, c.isDigit = false := nofun
  have whole : (Nat.toDigits 10 n).takeWhile Char.isDigit = Nat.toDigits 10 n := by
    simpa using takeWhile_exact digits stop
  have rest : (Nat.toDigits 10 n).dropWhile Char.isDigit = [] := by
    simpa using dropWhile_exact digits stop
  simp only [isNumber, if_neg unsigned, whole, rest]
  by_cases zero : n = 0
  · subst zero
    decide
  · simp [Nat.toDigits_ne_nil, head?_decimal_ne zero, isExponent]

/-- What begins a number is nothing else. -/
theorem not_mark_of_start {c : Char} (start : c.isDigit = true ∨ c = '-') :
    isSpace c = false ∧ mark? c = none ∧ c ≠ '"' := by
  rcases start with digit | rfl
  · have other {mark : Char} (no_digit : mark.isDigit = false) : c ≠ mark := by
      rintro rfl
      rw [no_digit] at digit
      cases digit
    simp [isSpace, mark?, other]
  · decide

/-- A number ends where its characters do. -/
theorem tokens?_number {digits : List Char} (number : isNumber digits = true) {rest : List Char}
    (apart : Apart rest) : tokens? (digits ++ rest) = (tokens? rest).map (.number digits :: ·) := by
  have inside := isNumberChar_of_isNumber number
  obtain ⟨c, more, rfl, start⟩ := exists_cons_of_isNumber number
  have behind : ∀ c ∈ more, isNumberChar c = true := (List.forall_mem_cons.mp inside).2
  have stop : ∀ c ∈ rest.head?, isNumberChar c = false := fun c head => (apart c head).1
  obtain ⟨visible, no_mark, no_quote⟩ := not_mark_of_start start
  rw [List.cons_append]
  refine tokens?_of_token visible ?_
  simp only [token?, no_mark, no_quote, start, takeWhile_exact behind stop,
    dropWhile_exact behind stop, number, if_true, if_false]

/-- So does a name. -/
theorem tokens?_name {name : List Char} {token : Token} (known : name? name = some token)
    {rest : List Char} (apart : Apart rest) :
    tokens? (name ++ rest) = (tokens? rest).map (token :: ·) := by
  have names : name = "null".toList ∨ name = "true".toList ∨ name = "false".toList := by
    unfold name? at known
    split_ifs at known with null true_ false_
    · exact .inl null
    · exact .inr (.inl true_)
    · exact .inr (.inr false_)
  obtain ⟨c, more, rfl, start, inside⟩ : ∃ c more, name = c :: more ∧
      (isSpace c = false ∧ mark? c = none ∧ c ≠ '"' ∧ ¬(c.isDigit = true ∨ c = '-')) ∧
        ∀ c ∈ more, c.isLower = true := by
    rcases names with rfl | rfl | rfl <;>
      exact ⟨_, _, rfl, by decide, List.all_eq_true.mp (by decide)⟩
  obtain ⟨visible, no_mark, no_quote, no_number⟩ := start
  have stop : ∀ c ∈ rest.head?, c.isLower = false := fun c head => (apart c head).2
  rw [List.cons_append]
  refine tokens?_of_token visible ?_
  simp only [token?, no_mark, no_quote, no_number, takeWhile_exact inside stop,
    dropWhile_exact inside stop, known, if_false, Option.map_some]

end GuessingGame.Json
