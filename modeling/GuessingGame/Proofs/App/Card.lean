import GuessingGame.Proofs.App.Window
import GuessingGame.Proofs.Screen.Wrapping

/-!
# Whether the whole card is shown

The card has nine lines, and the last one is the message to the player. It keeps ten rows as long
as the screen has as many, and two of them are its frame. So where the rows are just enough for
the heading, the card, the tip and the status line, the card has no room for its last line; with
one row more it has: `cardLines_shown_iff`.
-/

namespace GuessingGame.App

open Screen

/-- The area of the text of the card, on a screen of some size. -/
def cardText (width height : Nat) : Rect := (cardArea (areas width height).card).inner

theorem cardText_within (width height : Nat) :
    (cardText width height).Within (screen width height) := by
  have card : (areas width height).card.Within (screen width height) := by
    constructor <;> simp only [areas, screen] <;> omega
  have middle : (cardArea (areas width height).card).Within (areas width height).card :=
    Rect.within_middle (Nat.min_le_left _ _) (Nat.le_refl _)
  exact (Rect.within_inner _).trans (middle.trans card)

/-- Where heading, tip and status line have their room, they and the frame of the card leave all
but seven rows to its text. -/
theorem height_cardText {width height : Nat} (high : 15 ≤ height) :
    (cardText width height).height = height - 7 := by
  simp only [cardText, cardArea, areas, Rect.middle, Rect.inner, cardHeight]
  omega

def layersBelowCard (app : App) (width height : Nat) : List Layer :=
  let card := cardArea (areas width height).card
  Layer.fill (screen width height) (app.wash .text .background) ::
    (app.headingLayers (areas width height).heading ++
      [Layer.fill card (app.wash .cardText .cardBackground),
        Layer.frame card (app.ink .focusedBorder)])

/-- What is drawn after the text of the card, where it is not covered. -/
def layersAboveCard (app : App) (width height : Nat) : List Layer :=
  app.tipLayers (areas width height).tip ++ app.statusLayers (areas width height).status

theorem layers_eq {app : App} (quiet : app.eventsVisible = false)
    (closed : app.help.visible = false) (ages : Ages) (width height : Nat) :
    app.layers ages width height = app.layersBelowCard width height ++
      Layer.paragraph (cardText width height)
        { lines := app.cardLines, centered := true, wrapped := true } ::
        app.layersAboveCard width height := by
  simp [layers, quiet, closed, cardLayers, cardText, screen, layersBelowCard, layersAboveCard]

section

variable (app : App) {width height x y : Nat} (inside : (cardText width height).contains x y)

include inside

/-- The parts of the screen lie one below another, and the text of the card within its part. -/
theorem between_of_cardText :
    let parts := areas width height
    parts.heading.y + parts.heading.height ≤ y ∧ y < parts.tip.y ∧ y < parts.status.y := by
  have card : (areas width height).card.y = (areas width height).heading.height := rfl
  have heading : (areas width height).heading.y = 0 := rfl
  have tip : (areas width height).tip.y =
      (areas width height).heading.height + (areas width height).card.height := rfl
  have status : (areas width height).status.y =
      (areas width height).tip.y + (areas width height).tip.height := rfl
  rw [Rect.contains_iff] at inside
  dsimp only [cardText, cardArea, Rect.middle, Rect.inner] at inside ⊢
  omega

/-- The heading lies above the text of the card, and the frame around it. -/
theorem keeps_of_mem_layersBelowCard :
    ∀ layer ∈ app.layersBelowCard width height, layer.Keeps x y := by
  have heading : ∀ layer ∈ app.headingLayers (areas width height).heading, layer.Keeps x y := by
    have between := between_of_cardText inside
    intro layer there
    apply Layer.keeps_of_not_contains
    rw [Rect.contains_iff]
    simp only [headingLayers, List.mem_cons, List.not_mem_nil, or_false] at there
    rcases there with rfl | rfl <;> dsimp only [Layer.area, Layer.paragraph] <;> omega
  simp only [layersBelowCard, List.forall_mem_cons, List.forall_mem_append]
  exact ⟨Layer.keeps_fill _ _ _ _, heading, Layer.keeps_fill _ _ _ _, Layer.keeps_frame inside _,
    List.forall_mem_nil _⟩

/-- The tip and the status line lie below the text of the card. -/
theorem keeps_of_mem_layersAboveCard :
    ∀ layer ∈ app.layersAboveCard width height, layer.Keeps x y := by
  have between := between_of_cardText inside
  intro layer there
  apply Layer.keeps_of_not_contains
  rw [Rect.contains_iff]
  simp only [layersAboveCard, tipLayers, statusLayers, List.mem_append, List.mem_cons,
    List.not_mem_nil, or_false] at there
  rcases there with (rfl | rfl) | rfl | rfl <;> dsimp only [Layer.area, Layer.paragraph] <;> omega

end

/-- The card shows the rows of its lines one after another. -/
theorem region_card {app : App} (quiet : app.eventsVisible = false)
    (closed : app.help.visible = false) (ages : Ages) (width height : Nat) :
    region (app.picture ages width height) (cardText width height) =
      shownIn (cardText width height)
        (Paragraph.columns { lines := app.cardLines, centered := true, wrapped := true }
          (cardText width height).width) := by
  rw [picture, layers_eq quiet closed]
  exact region_text _ (cardText_within width height)
    (fun _ _ inside => symbol_cellAt_of_keeps (app.keeps_of_mem_layersBelowCard inside))
    (fun _ _ inside => app.keeps_of_mem_layersAboveCard inside)

/-- What a line shows that stands in the middle of a row of some width. -/
def shownLine (width : Nat) (line : List Span) : List (List Char) :=
  shownRow width (List.replicate (width / 2 - rowWidth (glyphs line) / 2) none ++
    (glyphs line).flatMap Glyph.columns)

/-- Lines that fit on a row each are shown one below another, as many as there is room for. -/
theorem getElem?_region_card {app : App} (quiet : app.eventsVisible = false)
    (closed : app.help.visible = false) (ages : Ages) {width height row : Nat}
    (fits : ∀ line ∈ app.cardLines, Fits (cardText width height).width (glyphs line))
    {line : List Span} (there : app.cardLines[row]? = some line)
    (room : row < (cardText width height).height) :
    (region (app.picture ages width height) (cardText width height))[row]? =
      some (shownLine (cardText width height).width line) := by
  have whole : app.cardLines.flatMap
      (fun line => wrap (cardText width height).width (glyphs line)) =
        app.cardLines.map glyphs := by
    rw [List.flatMap_def, List.map_congr_left fun line there => wrap_of_fits (fits line there),
      ← List.flatMap_def, ← List.map_eq_flatMap]
  have columns (wide : (cardText width height).width ≠ 0) :
      Paragraph.columns { lines := app.cardLines, centered := true, wrapped := true }
        (cardText width height).width = app.cardLines.map fun line =>
          List.replicate ((cardText width height).width / 2 - rowWidth (glyphs line) / 2) none ++
            (glyphs line).flatMap Glyph.columns := by
    rw [Paragraph.columns, Paragraph.rows, if_neg wide, if_pos rfl, whole, List.map_map]
    rfl
  rw [region_card quiet closed, shownIn_congr columns, getElem?_shownIn room]
  simp [there, shownLine]

/-- On a screen of fifteen rows at least that is so wide that each line of the card fits on a row,
and where nothing covers the card, the first eight lines of the card are shown, the one in which a
guess is typed among them. The ninth, which is the message, is shown just when there are sixteen
rows.

To fit on a row is more than to be no wider than it (`Fits`). A title of blanks alone takes two
rows however wide the screen is, and a line that fills its row and ends in a glyph without width
takes a second one for it. Below a line that takes two rows everything stands a row lower, and the
message is cut off at sixteen rows as well. -/
theorem cardLines_shown_iff {app : App} (quiet : app.eventsVisible = false)
    (closed : app.help.visible = false) (ages : Ages) {width height : Nat} (high : 15 ≤ height)
    (fits : ∀ line ∈ app.cardLines, Fits (cardText width height).width (glyphs line)) :
    let text := cardText width height
    let shows := fun row => (region (app.picture ages width height) text)[row]? =
      (app.cardLines[row]?).map (shownLine text.width)
    (∀ row < 8, shows row) ∧ ((∀ row < 9, shows row) ↔ 16 ≤ height) := by
  intro text shows
  have lines : app.cardLines.length = 9 := rfl
  have shown {row : Nat} (there : row < 9) (room : row < text.height) : shows row := by
    have line := List.getElem?_eq_getElem (lines ▸ there)
    simp only [shows]
    rw [line]
    exact getElem?_region_card quiet closed ages fits line room
  have rows : text.height = height - 7 := height_cardText high
  refine ⟨fun row there => shown (by omega) (by omega), fun all => ?_, fun enough row there => ?_⟩
  · rcases Nat.lt_or_ge height 16 with low | enough
    · -- a row that is shown lies within the card
      have message := all 8 (by decide)
      simp only [shows] at message
      rw [region_card quiet closed,
        List.getElem?_eq_none (by rw [length_shownIn, height_cardText high]; omega)] at message
      cases message
    · exact enough
  · exact shown there (by omega)

/-- A game that was just loaded, on a screen of forty columns by sixteen rows. -/
theorem cardLines_shown_iff_sixteen :
    let app := start (fun _ => .error .missing) {} (.inline "TARGET \"PERU\";")
    let ages : Ages := fun _ => some 0
    let text := cardText 40 16
    app.eventsVisible = false ∧ app.help.visible = false ∧ 15 ≤ 16 ∧
      (∀ line ∈ app.cardLines, Fits text.width (glyphs line)) ∧
      ∀ row < 9, (region (app.picture ages 40 16) text)[row]? =
        (app.cardLines[row]?).map (shownLine text.width) := by
  intro app ages text
  have quiet : app.eventsVisible = false := by decide +kernel
  have closed : app.help.visible = false := by decide +kernel
  have fits : ∀ line ∈ app.cardLines, Fits text.width (glyphs line) := by decide +kernel
  exact ⟨quiet, closed, by decide, fits,
    (cardLines_shown_iff quiet closed ages (by decide) fits).2.mpr (by decide)⟩

/-- The same game on a screen of fifteen rows: the message to the player is not shown. -/
theorem message_cut_off :
    let app := start (fun _ => .error .missing) {} (.inline "TARGET \"PERU\";")
    let ages : Ages := fun _ => some 0
    let text := cardText 40 15
    app.eventsVisible = false ∧ app.help.visible = false ∧
      (∀ line ∈ app.cardLines, Fits text.width (glyphs line)) ∧
      ∃ message, app.cardLines[8]? = some message ∧
        message = [span "Game loaded. Good luck!" (app.ink .information)] ∧
        shownLine text.width message ∉ region (app.picture ages 40 15) text := by
  intro app ages text
  have quiet : app.eventsVisible = false := by decide +kernel
  have closed : app.help.visible = false := by decide +kernel
  have told : app.feedback = welcome := by decide +kernel
  refine ⟨quiet, closed, by decide +kernel, _, rfl, ?_, ?_⟩
  · rw [told]
    rfl
  · rw [region_card quiet closed]
    decide +kernel

end GuessingGame.App
