import GuessingGame.App.Draw
import GuessingGame.Proofs.Screen.Region
import GuessingGame.Screen.Word

/-!
# Areas are computed within words

A part of an area is as wide as its share of the area, and stands in the middle. Computed in words
that is delicate, for a share is a product, a cut and a difference: but the length of an area times
a percentage is a long word, a share of at most a hundred percent is a word again, and no part is
larger than the whole. So every step has a result (`Word.exists_share?`, `Word.exists_middle?`),
and the areas of the screen are those that numbers of any size give.
-/

namespace GuessingGame.Screen

namespace Rect

/-- A part of an area stands in its middle: what is left over lies on both sides, and where it is
odd there is one cell more to the right or below. -/
structure Amid (part whole : Rect) : Prop extends part.Within whole where
  across : whole.x + whole.width - (part.x + part.width) = part.x - whole.x ∨
    whole.x + whole.width - (part.x + part.width) = part.x - whole.x + 1
  down : whole.y + whole.height - (part.y + part.height) = part.y - whole.y ∨
    whole.y + whole.height - (part.y + part.height) = part.y - whole.y + 1

theorem amid_middle {area : Rect} {width height : Nat} (hw : width ≤ area.width)
    (hh : height ≤ area.height) : (area.middle width height).Amid area where
  toWithin := within_middle hw hh
  across := by dsimp only [middle]; omega
  down := by dsimp only [middle]; omega

end Rect

namespace Word

theorem exists_sum? {a b : UInt16} (fits : a.toNat + b.toNat < UInt16.size) :
    ∃ c, sum? a b = some c ∧ c.toNat = a.toNat + b.toNat := by
  refine ⟨a + b, if_pos fits, ?_⟩
  rw [UInt16.toNat_add]
  exact Nat.mod_eq_of_lt fits

theorem exists_difference? {a b : UInt16} (le : b.toNat ≤ a.toNat) :
    ∃ c, difference? a b = some c ∧ c.toNat = a.toNat - b.toNat :=
  have le' : b ≤ a := UInt16.le_iff_toNat_le.mpr le
  ⟨a - b, if_pos le', UInt16.toNat_sub_of_le a b le'⟩

/-- The product of two words is a long word. -/
theorem exists_product? (a b : UInt16) :
    ∃ c, product? a.toUInt32 b.toUInt32 = some c ∧ c.toNat = a.toNat * b.toNat := by
  have fits : a.toUInt32.toNat * b.toUInt32.toNat < UInt32.size := by
    have most : a.toNat * b.toNat ≤ 65535 * 65535 :=
      Nat.mul_le_mul (Nat.le_of_lt_succ a.toNat_lt_size) (Nat.le_of_lt_succ b.toNat_lt_size)
    exact Nat.lt_of_le_of_lt most (by decide)
  refine ⟨a.toUInt32 * b.toUInt32, if_pos fits, ?_⟩
  rw [UInt32.toNat_mul]
  exact Nat.mod_eq_of_lt fits

theorem exists_narrowed? {a : UInt32} (fits : a.toNat < UInt16.size) :
    ∃ c, narrowed? a = some c ∧ c.toNat = a.toNat := by
  refine ⟨a.toUInt16, if_pos fits, ?_⟩
  rw [UInt32.toNat_toUInt16]
  exact Nat.mod_eq_of_lt fits

theorem exists_share? {percent : UInt16} (part : percent ≤ 100) (length least : UInt16) :
    ∃ share, share? length percent least = some share ∧
      share.toNat = Rect.share length.toNat percent.toNat least.toNat := by
  obtain ⟨product, multiplied, product_eq⟩ := exists_product? length percent
  have quotient_eq : (product / 100).toNat = length.toNat * percent.toNat / 100 := by
    rw [UInt32.toNat_div, product_eq]
    rfl
  have le : length.toNat * percent.toNat / 100 ≤ length.toNat :=
    calc length.toNat * percent.toNat / 100
        ≤ length.toNat * 100 / 100 :=
          Nat.div_le_div_right (Nat.mul_le_mul_left _ (UInt16.le_iff_toNat_le.mp part))
      _ = length.toNat := Nat.mul_div_cancel _ (by decide)
  have small : (product / 100).toNat < UInt16.size := by
    rw [quotient_eq]
    exact Nat.lt_of_le_of_lt le length.toNat_lt_size
  obtain ⟨quotient, narrowed, narrowed_eq⟩ := exists_narrowed? small
  rw [quotient_eq] at narrowed_eq
  have computed : share? length percent least =
      some (if length < if quotient < least then least else quotient then length
        else if quotient < least then least else quotient) := by
    simp only [share?, multiplied, narrowed, Option.bind_eq_bind, Option.bind_some, Option.pure_def]
  refine ⟨_, computed, ?_⟩
  simp only [Rect.share, UInt16.lt_iff_toNat_lt]
  split <;> split <;> omega

theorem exists_middle? {start length part : UInt16} (within : part.toNat ≤ length.toNat)
    (fits : start.toNat + length.toNat < UInt16.size) :
    ∃ place, middle? start length part = some place ∧
      place.toNat = start.toNat + (length.toNat - part.toNat) / 2 := by
  obtain ⟨rest, left, rest_eq⟩ := exists_difference? within
  have half : (rest / 2).toNat = (length.toNat - part.toNat) / 2 := by
    rw [UInt16.toNat_div, rest_eq]
    rfl
  obtain ⟨place, placed, place_eq⟩ : ∃ place, sum? start (rest / 2) = some place ∧
      place.toNat = start.toNat + (rest / 2).toNat := exists_sum? (by omega)
  refine ⟨place, ?_, by rw [place_eq, half]⟩
  rw [middle?, left]
  exact placed

end Word

namespace WordRect

/-- The right and the lower edge of a rectangle are words. -/
structure Fits (area : WordRect) : Prop where
  right : area.x.toNat + area.width.toNat < UInt16.size
  bottom : area.y.toNat + area.height.toNat < UInt16.size

theorem exists_words {rect : Rect} (right : rect.x + rect.width < UInt16.size)
    (bottom : rect.y + rect.height < UInt16.size) :
    ∃ area : WordRect, area.Fits ∧ area.toRect = rect := by
  obtain ⟨x, y, width, height⟩ := rect
  dsimp only at right bottom
  have word {n : Nat} (small : n < UInt16.size) : (UInt16.ofNat n).toNat = n :=
    UInt16.toNat_ofNat_of_lt' small
  refine ⟨⟨.ofNat x, .ofNat y, .ofNat width, .ofNat height⟩, ⟨?_, ?_⟩, ?_⟩
  · rwa [word (by omega), word (by omega)]
  · rwa [word (by omega), word (by omega)]
  · rw [toRect, word (by omega), word (by omega), word (by omega), word (by omega)]

/-- Nothing is cut off from a rectangle whose edges are words. -/
theorem ofCorner_eq {x y width height : UInt16} (right : x.toNat + width.toNat < UInt16.size)
    (bottom : y.toNat + height.toNat < UInt16.size) :
    ofCorner x y width height = ⟨x, y, width, height⟩ := by
  have room (n : UInt16) : (0xFFFF - n).toNat = 65535 - n.toNat :=
    UInt16.toNat_sub_of_le _ _ (UInt16.le_iff_toNat_le.mpr (Nat.le_of_lt_succ n.toNat_lt_size))
  have size : UInt16.size = 65536 := rfl
  rw [ofCorner, if_neg, if_neg] <;> rw [UInt16.lt_iff_toNat_lt, room] <;> omega

variable {area : WordRect}

theorem map_centered? (fits : area.Fits) {widthPercent heightPercent : UInt16}
    (wide : widthPercent ≤ 100) (high : heightPercent ≤ 100) (leastWidth leastHeight : UInt16) :
    (area.centered? widthPercent heightPercent leastWidth leastHeight).map toRect =
      some (area.toRect.centered widthPercent.toNat heightPercent.toNat leastWidth.toNat
        leastHeight.toNat) := by
  obtain ⟨width, width?, width_eq⟩ := Word.exists_share? wide area.width leastWidth
  obtain ⟨height, height?, height_eq⟩ := Word.exists_share? high area.height leastHeight
  have width_le : width.toNat ≤ area.width.toNat := width_eq ▸ Rect.share_le _ _ _
  have height_le : height.toNat ≤ area.height.toNat := height_eq ▸ Rect.share_le _ _ _
  obtain ⟨x, x?, x_eq⟩ := Word.exists_middle? width_le fits.right
  obtain ⟨y, y?, y_eq⟩ := Word.exists_middle? height_le fits.bottom
  have right := fits.right
  have bottom := fits.bottom
  simp only [centered?, width?, height?, x?, y?, Option.bind_eq_bind, Option.bind_some,
    Option.pure_def, Option.map_some, Option.some.injEq]
  rw [ofCorner_eq (by omega) (by omega), toRect, x_eq, y_eq, width_eq, height_eq]
  rfl

theorem map_columns? (fits : area.Fits) (most : UInt16) :
    (area.columns? most).map toRect =
      some (area.toRect.middle (min area.width.toNat most.toNat) area.height.toNat) := by
  obtain ⟨width, width_def⟩ : ∃ width, width = if most < area.width then most else area.width :=
    ⟨_, rfl⟩
  have width_eq : width.toNat = min area.width.toNat most.toNat := by
    simp only [width_def, UInt16.lt_iff_toNat_lt]
    split <;> omega
  obtain ⟨x, x?, x_eq⟩ := Word.exists_middle? (width_eq ▸ Nat.min_le_left _ _) fits.right
  have right := fits.right
  have bottom := fits.bottom
  simp only [columns?, ← width_def, x?, Option.bind_eq_bind, Option.bind_some, Option.pure_def,
    Option.map_some, Option.some.injEq]
  rw [ofCorner_eq (by omega) (by omega), toRect, x_eq, width_eq, Rect.middle]
  simp [toRect]

/-- The area of the card is in words on every screen. -/
theorem exists_card (width height : UInt16) :
    ∃ area : WordRect, area.Fits ∧ area.toRect = (App.areas width.toNat height.toNat).card := by
  have wide := width.toNat_lt_size
  have high := height.toNat_lt_size
  apply exists_words <;> simp only [App.areas] <;> omega

/-- In an area whose edges are words, a part of at most a hundred percent is computed without
leaving the range of words, and so is the card. The part lies in the middle of the area, as wide
and as high as its share or its minimum asks for, but no larger than the area; the card lies
within it, on every screen. -/
theorem areas_in_words (area : WordRect) (fits : area.Fits) :
    (∀ widthPercent heightPercent leastWidth leastHeight : UInt16,
      widthPercent ≤ 100 → heightPercent ≤ 100 →
      let part := area.toRect.centered widthPercent.toNat heightPercent.toNat leastWidth.toNat
        leastHeight.toNat
      (area.centered? widthPercent heightPercent leastWidth leastHeight).map toRect = some part ∧
        part.Amid area.toRect ∧
        part.width = min area.width.toNat
          (max leastWidth.toNat (area.width.toNat * widthPercent.toNat / 100)) ∧
        part.height = min area.height.toNat
          (max leastHeight.toNat (area.height.toNat * heightPercent.toNat / 100))) ∧
      (area.columns? 64).map toRect = some (App.cardArea area.toRect) ∧
      (App.cardArea area.toRect).Within area.toRect ∧
      ∀ width height : UInt16, ∃ card : WordRect, card.Fits ∧
        card.toRect = (App.areas width.toNat height.toNat).card ∧
        (card.columns? 64).map toRect = some (App.cardArea card.toRect) ∧
        (App.cardArea card.toRect).Within card.toRect := by
  have within (whole : Rect) : (App.cardArea whole).Within whole :=
    Rect.within_middle (Nat.min_le_left _ _) (Nat.le_refl _)
  refine ⟨fun widthPercent heightPercent leastWidth leastHeight wide high => ?_,
    map_columns? fits 64, within _, fun width height => ?_⟩
  · refine ⟨map_centered? fits wide high _ _, ?_, ?_, ?_⟩
    · exact Rect.amid_middle (Rect.share_le _ _ _) (Rect.share_le _ _ _)
    · rw [Nat.max_comm, Nat.min_comm]
      rfl
    · rw [Nat.max_comm, Nat.min_comm]
      rfl
  · obtain ⟨card, fits, eq⟩ := exists_card width height
    exact ⟨card, fits, eq, map_columns? fits 64, within _⟩

/-- An area that reaches as far as words do, and a part that takes in all of its width. -/
theorem areas_in_words_utmost : let area : WordRect := ⟨1, 0, 0xFFFE, 0xFFFF⟩
    area.Fits ∧ (100 : UInt16) ≤ 100 ∧ (70 : UInt16) ≤ 100 ∧
      (area.centered? 100 70 0 15).map toRect = some ⟨1, 9830, 65534, 45874⟩ ∧
      Rect.Amid ⟨1, 9830, 65534, 45874⟩ ⟨1, 0, 65534, 65535⟩ ∧
      (area.columns? 64).map toRect = some ⟨32736, 0, 64, 65535⟩ := by
  intro area
  have fits : area.Fits := ⟨by decide, by decide⟩
  obtain ⟨parts, card, -⟩ := areas_in_words area fits
  obtain ⟨part, amid, -⟩ := parts 100 70 0 15 (by decide) (by decide)
  have part_eq : area.toRect.centered (100 : UInt16).toNat (70 : UInt16).toNat (0 : UInt16).toNat
      (15 : UInt16).toNat = ⟨1, 9830, 65534, 45874⟩ := by decide
  have card_eq : App.cardArea area.toRect = ⟨32736, 0, 64, 65535⟩ := by decide
  rw [part_eq] at part amid
  rw [card_eq] at card
  exact ⟨fits, by decide, by decide, part, amid, card⟩

/-- Beyond a hundred percent a share may be no word. -/
example : (WordRect.centered? ⟨0, 0, 1000, 300⟩ 70 80 40 10 = some ⟨150, 30, 700, 240⟩) ∧
    WordRect.centered? ⟨0, 0, 40000, 300⟩ 200 80 40 10 = none := by decide

end WordRect

end GuessingGame.Screen
