import GuessingGame.App.Draw
import GuessingGame.Proofs.Screen.Region

/-!
# What a window shows

The event log and the help page are shown in windows above all the rest. A window is emptied
before it is painted and framed, so within its frame nothing shows but the text that is written
there last: `region_window`.
-/

namespace GuessingGame.App

open Screen

def screen (width height : Nat) : Rect := ⟨0, 0, width, height⟩

/-- Within its frame, an empty window is blank. -/
theorem symbol_cellAt_window (app : App) (below : List Layer) {area : Rect} (title : String)
    {x y : Nat} (inside : area.inner.contains x y) :
    (cellAt (below ++ app.windowLayers area title) x y).symbol = [' '] := by
  have written : ∀ layer ∈ [Layer.fill area { background := some .black },
      Layer.frame area (app.ink .focusedBorder),
      Layer.paragraph ⟨area.inner.x, area.y, area.inner.width, min 1 area.height⟩
        { lines := [[span title]] }], layer.Keeps x y := by
    simp only [List.forall_mem_cons]
    refine ⟨Layer.keeps_fill _ _ _ _, Layer.keeps_frame inside _, ?_, List.forall_mem_nil _⟩
    -- the title stands on the frame
    apply Layer.keeps_of_not_contains
    rw [Rect.contains_iff] at inside ⊢
    dsimp only [Rect.inner, Layer.area, Layer.paragraph] at inside ⊢
    omega
  have wiped : (Layer.wipe area).apply x y (cellAt below x y) = {} :=
    if_pos (Rect.contains_of_inner inside)
  rw [windowLayers, ← List.singleton_append, ← List.append_assoc,
    symbol_cellAt_append _ written, cellAt_append_singleton, wiped]

/-- A window with a text in it shows the text, whatever lies below. -/
theorem region_window (app : App) (below : List Layer) {area : Rect} (title : String)
    (content : Paragraph) {width height : Nat} (within : area.Within (screen width height)) :
    region (rows (below ++ (app.windowLayers area title ++ [Layer.paragraph area.inner content]))
      width height) area.inner = shownIn area.inner (content.columns area.inner.width) := by
  rw [← List.append_assoc]
  refine region_text _ (area.within_inner.trans within) ?_ ?_
  · exact fun x y inside => symbol_cellAt_window app below title inside
  · exact fun _ _ _ layer none_ => absurd none_ List.not_mem_nil

end GuessingGame.App
