import GuessingGame.Screen.Paragraph

/-!
# Lines that need no break

A line is wrapped glyph by glyph: blanks and words are kept back until it is known on which row
they stand, and a row ends when it is full before the line is at its end. A line that begins and
ends on one row is therefore left whole, `wrap_of_fits`. The width of the line is not all that
counts. A line of blanks alone is preceded by an empty row, and a glyph without width that stands
behind a full row opens another one.
-/

namespace GuessingGame.Screen

@[simp] theorem rowWidth_nil : rowWidth [] = 0 := rfl

@[simp] theorem rowWidth_cons (glyph : Glyph) (row : List Glyph) :
    rowWidth (glyph :: row) = glyph.width + rowWidth row := rfl

@[simp] theorem rowWidth_append (first second : List Glyph) :
    rowWidth (first ++ second) = rowWidth first + rowWidth second := by
  induction first with
  | nil => simp
  | cons glyph first ih => simp [ih, Nat.add_assoc]

theorem width_le_rowWidth {row : List Glyph} {glyph : Glyph} (there : glyph ∈ row) :
    glyph.width ≤ rowWidth row := by
  obtain ⟨before, behind, rfl⟩ := List.append_of_mem there
  simp only [rowWidth_append, rowWidth_cons]
  omega

/-- A line fits on a row: its last glyph begins and ends there, and it is not made of blanks
alone. -/
def Fits (limit : Nat) (line : List Glyph) : Prop :=
  line = [] ∨ (rowWidth line.dropLast < limit ∧ rowWidth line ≤ limit ∧
    ∃ glyph ∈ line, glyph.isBlank = false)

instance (limit : Nat) (line : List Glyph) : Decidable (Fits limit line) :=
  inferInstanceAs (Decidable (_ ∨ _))

namespace Wrapping

/-- A line that was wrapped so far without a break. -/
structure Unbroken (line : List Glyph) (state : Wrapping) : Prop where
  done_eq : state.done = []
  line_eq : state.row ++ state.blanks ++ state.word = line
  word_eq_nil : state.inWord = false → state.word = []
  of_written : (∃ glyph ∈ line, glyph.isBlank = false) → state.row ≠ [] ∨ state.word ≠ []

namespace Unbroken

variable {limit : Nat} {line : List Glyph} {state : Wrapping}

theorem nil : Unbroken [] {} := ⟨rfl, rfl, fun _ => rfl, by simp⟩

theorem settle (h : Unbroken line state) : Unbroken line state.settle where
  done_eq := h.done_eq
  line_eq := by
    rw [← h.line_eq]
    simp [Wrapping.settle]
  word_eq_nil _ := rfl
  of_written written := by
    left
    show state.row ++ state.blanks ++ state.word ≠ []
    rw [h.line_eq]
    obtain ⟨glyph, there, -⟩ := written
    exact List.ne_nil_of_mem there

/-- What is on the row and what is kept back take as many columns as the line. -/
theorem rowWidth_eq (h : Unbroken line state) :
    rowWidth state.row + rowWidth state.blanks + rowWidth state.word = rowWidth line := by
  rw [← h.line_eq, rowWidth_append, rowWidth_append]

/-- Where there is room for a glyph, it joins the word or the blanks, and a word that ends
goes on the row with the blanks before it. -/
theorem add_eq (h : Unbroken line state) {glyph : Glyph} (begins : rowWidth line < limit)
    (ends : rowWidth line + glyph.width ≤ limit) :
    state.add limit glyph =
      if glyph.isBlank = true then
        let settled := if state.inWord = true then state.settle else state
        { settled with blanks := settled.blanks ++ [glyph], inWord := false }
      else { state with word := state.word ++ [glyph], inWord := true } := by
  have columns := h.rowWidth_eq
  have settled := h.settle.rowWidth_eq
  have short : ¬limit < rowWidth state.word + rowWidth state.blanks + glyph.width := by omega
  have room : ¬limit ≤ rowWidth state.row := by omega
  have room' : ¬limit ≤ rowWidth state.row + rowWidth state.blanks + rowWidth state.word := by
    omega
  have left : ¬limit ≤ rowWidth state.settle.row := by omega
  have left' : ¬limit ≤
      rowWidth state.settle.row + rowWidth state.settle.blanks + rowWidth state.settle.word := by
    omega
  cases blank : glyph.isBlank <;> cases word : state.inWord <;>
    simp [Wrapping.add, blank, word, short, room, room', left, left']

/-- A glyph for which there is room brings no break. -/
theorem add (h : Unbroken line state) {glyph : Glyph} (begins : rowWidth line < limit)
    (ends : rowWidth line + glyph.width ≤ limit) :
    Unbroken (line ++ [glyph]) (state.add limit glyph) := by
  rw [h.add_eq begins ends]
  by_cases blank : glyph.isBlank = true
  · rw [if_pos blank]
    have written (more : ∃ other ∈ line ++ [glyph], other.isBlank = false) :
        ∃ other ∈ line, other.isBlank = false := by
      obtain ⟨other, there, visible⟩ := more
      rw [List.mem_append, List.mem_singleton] at there
      rcases there with there | rfl
      · exact ⟨other, there, visible⟩
      · rw [blank] at visible
        cases visible
    by_cases word : state.inWord = true
    · simp only [word, if_true]
      refine ⟨h.settle.done_eq, ?_, fun _ => rfl, fun more => h.settle.of_written (written more)⟩
      rw [← h.line_eq]
      simp [Wrapping.settle]
    · have absent := h.word_eq_nil (by simpa using word)
      simp only [word]
      refine ⟨h.done_eq, ?_, fun _ => absent, fun more => h.of_written (written more)⟩
      rw [← h.line_eq]
      simp [absent]
  · rw [if_neg blank]
    refine ⟨h.done_eq, ?_, (fun same => by cases same), fun _ => .inr (by simp)⟩
    rw [← h.line_eq]
    simp

/-- A line that begins and ends on the row is wrapped without a break. -/
theorem foldl (h : Unbroken line state) {rest : List Glyph}
    (begins : rest ≠ [] → rowWidth (line ++ rest.dropLast) < limit)
    (ends : rowWidth (line ++ rest) ≤ limit) :
    Unbroken (line ++ rest) (rest.foldl (Wrapping.add limit) state) := by
  induction rest generalizing line state with
  | nil => simpa using h
  | cons glyph rest ih =>
      have starts := begins (List.cons_ne_nil _ _)
      rw [rowWidth_append] at starts
      rw [rowWidth_append, rowWidth_cons] at ends
      rw [List.foldl_cons, ← List.singleton_append, ← List.append_assoc]
      refine ih (h.add (by omega) (by omega)) (fun more => ?_) ?_
      · rw [List.dropLast_cons_of_ne_nil more, rowWidth_cons] at starts
        simp only [rowWidth_append, rowWidth_cons, rowWidth_nil]
        omega
      · simp only [rowWidth_append, rowWidth_cons, rowWidth_nil]
        omega

/-- A line without a break is one row, unless it is made of blanks alone. -/
theorem finish (h : Unbroken line state)
    (written : line = [] ∨ ∃ glyph ∈ line, glyph.isBlank = false) : state.finish = [line] := by
  have noLead : ¬(state.row = [] ∧ state.word = [] ∧ state.blanks ≠ []) := by
    rintro ⟨row, word, blanks⟩
    rcases written with rfl | written
    · exact blanks (by simpa [row, word] using h.line_eq)
    · rcases h.of_written written with other | other
      · exact other row
      · exact other word
  rw [Wrapping.finish, h.line_eq, h.done_eq, if_neg noLead]
  by_cases empty : line = []
  · simp [empty]
  · simp [empty]

end Unbroken

theorem finish_ne_nil (state : Wrapping) : state.finish ≠ [] := by
  unfold finish
  extract_lets last lead rows
  split
  · exact List.cons_ne_nil _ _
  · assumption

end Wrapping

/-- Every line takes a row, be it an empty one. -/
theorem wrap_ne_nil (limit : Nat) (line : List Glyph) : wrap limit line ≠ [] :=
  Wrapping.finish_ne_nil _

/-- To wrap a line that fits on a row leaves it whole. -/
theorem wrap_of_fits {limit : Nat} {line : List Glyph} (fits : Fits limit line) :
    wrap limit line = [line] := by
  have ends : rowWidth line ≤ limit := by
    rcases fits with rfl | ⟨-, ends, -⟩
    · exact Nat.zero_le limit
    · exact ends
  have begins (some_glyph : line ≠ []) : rowWidth ([] ++ line.dropLast) < limit :=
    (fits.resolve_left some_glyph).1
  have all : line.filter (·.width ≤ limit) = line := by
    rw [List.filter_eq_self]
    intro glyph there
    exact decide_eq_true (Nat.le_trans (width_le_rowWidth there) ends)
  rw [wrap, all]
  exact (Wrapping.Unbroken.nil.foldl begins ends).finish (fits.imp_right fun fits => fits.2.2)

end GuessingGame.Screen
