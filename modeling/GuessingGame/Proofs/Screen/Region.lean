import GuessingGame.Screen.Layer

/-!
# What a picture shows in an area

A picture is painted layer by layer, and a reader sees what comes of all of them. To tell what
stands in an area of it, three things must be known: nothing was written there below the text
(`symbol_cellAt_append`, back to a layer that left blanks), the text is written glyph by glyph,
and no layer above writes over it (`Layer.Keeps`). Then the area shows the rows of the text, as
many as it has room for: `region_text`.
-/

namespace GuessingGame.Screen

namespace Rect

/-- A rectangle does not reach out of another. -/
structure Within (part whole : Rect) : Prop where
  left : whole.x ≤ part.x
  right : part.x + part.width ≤ whole.x + whole.width
  top : whole.y ≤ part.y
  bottom : part.y + part.height ≤ whole.y + whole.height

theorem Within.trans {first second third : Rect} (h : first.Within second)
    (h' : second.Within third) : first.Within third where
  left := Nat.le_trans h'.left h.left
  right := Nat.le_trans h.right h'.right
  top := Nat.le_trans h'.top h.top
  bottom := Nat.le_trans h.bottom h'.bottom

theorem within_inner (area : Rect) : area.inner.Within area := by
  constructor <;> dsimp only [inner] <;> omega

theorem within_middle {area : Rect} {width height : Nat} (hw : width ≤ area.width)
    (hh : height ≤ area.height) : (area.middle width height).Within area := by
  constructor <;> dsimp only [middle] <;> omega

theorem within_centered (area : Rect) (widthPercent heightPercent leastWidth leastHeight : Nat) :
    (area.centered widthPercent heightPercent leastWidth leastHeight).Within area :=
  within_middle (share_le _ _ _) (share_le _ _ _)

end Rect

namespace Layer

/-- A layer keeps what is shown in a place; it may paint it. -/
def Keeps (layer : Layer) (x y : Nat) : Prop :=
  ∀ cell, (layer.apply x y cell).symbol = cell.symbol

theorem keeps_of_not_contains {layer : Layer} {x y : Nat}
    (outside : ¬layer.area.contains x y) : layer.Keeps x y := by
  intro cell
  rw [apply_of_not_contains outside]

theorem keeps_fill (area : Rect) (paint : Paint) (x y : Nat) : (fill area paint).Keeps x y := by
  intro cell
  rw [apply]
  split <;> rfl

/-- No piece of a frame lies within it. -/
theorem edge?_of_inner {area : Rect} {x y : Nat} (inside : area.inner.contains x y) :
    edge? area x y = none := by
  rw [Rect.contains_iff] at inside
  dsimp only [Rect.inner] at inside
  have top : (y == area.y) = false := by rw [beq_eq_false_iff_ne]; omega
  have bottom : (y + 1 == area.y + area.height) = false := by rw [beq_eq_false_iff_ne]; omega
  have left : (x == area.x) = false := by rw [beq_eq_false_iff_ne]; omega
  have right : (x + 1 == area.x + area.width) = false := by rw [beq_eq_false_iff_ne]; omega
  simp [edge?, top, bottom, left, right]

theorem keeps_frame {area : Rect} {x y : Nat} (inside : area.inner.contains x y) (paint : Paint) :
    (frame area paint).Keeps x y := by
  intro cell
  simp only [apply, change, edge?_of_inner inside]
  split <;> rfl

end Layer

/-- Layers that write nothing in a place leave what stood there. -/
theorem symbol_cellAt_append (below : List Layer) {above : List Layer} {x y : Nat}
    (kept : ∀ layer ∈ above, layer.Keeps x y) :
    (cellAt (below ++ above) x y).symbol = (cellAt below x y).symbol := by
  induction above generalizing below with
  | nil => rw [List.append_nil]
  | cons layer above ih =>
      have first := kept layer List.mem_cons_self
      have others : ∀ layer ∈ above, layer.Keeps x y :=
        fun layer more => kept layer (List.mem_cons_of_mem _ more)
      rw [← List.singleton_append, ← List.append_assoc, ih _ others, cellAt_append_singleton,
        first]

/-- A place in which no layer writes is blank. -/
theorem symbol_cellAt_of_keeps {layers : List Layer} {x y : Nat}
    (kept : ∀ layer ∈ layers, layer.Keeps x y) : (cellAt layers x y).symbol = [' '] :=
  symbol_cellAt_append [] kept

/-- What a row shows in as many places as asked for: each glyph where it begins, and blanks in
all other places. -/
def shownRow (width : Nat) (row : List (Option Glyph)) : List (List Char) :=
  (List.range width).map fun column => row[column]?.join.elim [' '] Glyph.symbol

/-- What an area shows in which rows are written: as many as it has room for, and blanks below
the last. -/
def shownIn (area : Rect) (rows : List (List (Option Glyph))) : List (List (List Char)) :=
  (List.range area.height).map fun row => shownRow area.width (rows[row]?.getD [])

@[simp] theorem length_shownIn (area : Rect) (rows : List (List (Option Glyph))) :
    (shownIn area rows).length = area.height := by
  simp [shownIn]

theorem getElem?_shownIn {area : Rect} {row : Nat} (room : row < area.height)
    (rows : List (List (Option Glyph))) :
    (shownIn area rows)[row]? = some (shownRow area.width (rows[row]?.getD [])) := by
  simp [shownIn, room]

/-- An area without columns shows nothing, whatever is written in it. -/
theorem shownIn_congr {area : Rect} {rows rows' : List (List (Option Glyph))}
    (same : area.width ≠ 0 → rows = rows') : shownIn area rows = shownIn area rows' := by
  by_cases narrow : area.width = 0
  · simp [shownIn, shownRow, narrow]
  · rw [same narrow]

/-- Where there are more rows than there is room for, the first of them are shown. -/
theorem shownIn_of_le {area : Rect} {rows : List (List (Option Glyph))}
    (full : area.height ≤ rows.length) :
    shownIn area rows = (rows.take area.height).map (shownRow area.width) := by
  apply List.ext_getElem?
  intro row
  by_cases room : row < area.height
  · have there : row < rows.length := Nat.lt_of_lt_of_le room full
    simp [getElem?_shownIn room, List.getElem?_take_of_lt room, there]
  · have beyond := Nat.le_of_not_lt room
    rw [List.getElem?_eq_none (by simpa using beyond), List.getElem?_eq_none]
    simp only [List.length_map, List.length_take]
    omega

/-- What a picture shows in an area, row by row and place by place. -/
def region (picture : List (List Cell)) (area : Rect) : List (List (List Char)) :=
  ((picture.drop area.y).take area.height).map fun row =>
    ((row.drop area.x).take area.width).map Cell.symbol

theorem take_drop_range {start count total : Nat} (fits : start + count ≤ total) :
    ((List.range total).drop start).take count = (List.range count).map (start + ·) := by
  apply List.ext_getElem
  · simp only [List.length_take, List.length_drop, List.length_range, List.length_map]
    omega
  · intro index _ _
    simp only [List.getElem_take, List.getElem_drop, List.getElem_range, List.getElem_map]

/-- What a picture shows in an area is found place by place. -/
theorem region_rows (layers : List Layer) {width height : Nat} {area : Rect}
    (within : area.Within ⟨0, 0, width, height⟩) :
    region (rows layers width height) area =
      (List.range area.height).map fun row => (List.range area.width).map fun column =>
        (cellAt layers (area.x + column) (area.y + row)).symbol := by
  have right : area.x + area.width ≤ width := by simpa using within.right
  have bottom : area.y + area.height ≤ height := by simpa using within.bottom
  simp only [region, rows, ← List.map_drop, ← List.map_take, take_drop_range right,
    take_drop_range bottom, List.map_map, Function.comp_def]

/-- An area in which nothing is written below a text and above it shows the text. -/
theorem region_text {below above : List Layer} {area : Rect} {width height : Nat}
    (glyphs : List (List (Option Glyph))) (within : area.Within ⟨0, 0, width, height⟩)
    (blank : ∀ x y, area.contains x y → (cellAt below x y).symbol = [' '])
    (kept : ∀ x y, area.contains x y → ∀ layer ∈ above, layer.Keeps x y) :
    region (rows (below ++ .text area glyphs :: above) width height) area =
      shownIn area glyphs := by
  rw [region_rows _ within, shownIn]
  refine List.map_congr_left fun row there => List.map_congr_left fun column there' => ?_
  rw [List.mem_range] at there there'
  have inside : area.contains (area.x + column) (area.y + row) := by
    rw [Rect.contains_iff]
    omega
  have symbol := blank _ _ inside
  rw [← List.singleton_append, ← List.append_assoc, symbol_cellAt_append _ (kept _ _ inside),
    cellAt_append_singleton, Layer.apply, if_pos (by exact inside)]
  simp only [Layer.change, Layer.glyphAt?, Nat.add_sub_cancel_left]
  cases glyphs[row]? with
  | none => simpa using symbol
  | some drawn =>
      cases glyph : drawn[column]?.join with
      | none => simpa [glyph] using symbol
      | some glyph' => simp [glyph]

end GuessingGame.Screen
