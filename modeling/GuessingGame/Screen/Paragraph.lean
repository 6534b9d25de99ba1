import GuessingGame.Screen.Cell
import GuessingGame.Text.Blank
import GuessingGame.Text.Cluster
import GuessingGame.Text.Width

/-!
# Paragraphs

Text in an area. Each line is cut off at the width of the area or wrapped between
words; a word that is too long for a row is broken. Blanks are kept, except that
those at a break fill up the row and one more is dropped.

These are the paragraphs of ratatui 0.30. That `truncate` and `wrap` lay out a line as
it does, the latter where it wraps without trimming, is assumed.
-/

namespace GuessingGame.Screen

open GuessingGame.Text

/-- What is shown in one place: a cluster of characters, and its paint. -/
structure Glyph where
  symbol : List Char
  paint : Paint
  deriving DecidableEq, Repr

namespace Glyph

def width (glyph : Glyph) : Nat := Text.width glyph.symbol

/-- A glyph on each column that it takes. One without width is not shown. -/
def columns (glyph : Glyph) : List (Option Glyph) :=
  match glyph.width with
  | 0 => []
  | more + 1 => some glyph :: List.replicate more none

/-- Whether a row may be broken at a glyph. -/
def isBlank (glyph : Glyph) : Bool :=
  glyph.symbol.map Char.toNat == [0x200b] ||
    (glyph.symbol.all Text.isBlank && glyph.symbol.map Char.toNat != [0xa0])

end Glyph

def rowWidth (row : List Glyph) : Nat := row.foldr (·.width + ·) 0

structure Span where
  text : List Char
  paint : Paint := {}

/-- The glyphs of a line. Control characters are not shown. -/
def glyphs (line : List Span) : List Glyph :=
  line.flatMap fun span =>
    ((clusters span.text).filter fun symbol => !symbol.any isControl).map fun symbol =>
      ⟨symbol, span.paint⟩

/-- As much of a line as fits into a row. A glyph wider than the row is left out. -/
def truncate (limit : Nat) (row : List Glyph) : List Glyph :=
  go limit (row.filter (·.width ≤ limit))
where
  /-- The first glyphs that fit. -/
  go (room : Nat) : List Glyph → List Glyph
    | [] => []
    | glyph :: rest =>
      if room < glyph.width then [] else glyph :: go (room - glyph.width) rest

/-- A line that is being wrapped: the rows that are done, the last first, the row
begun, the blanks and the word that are not yet on it, and whether a word was
seen last. -/
structure Wrapping where
  done : List (List Glyph) := []
  row : List Glyph := []
  blanks : List Glyph := []
  word : List Glyph := []
  inWord : Bool := false

namespace Wrapping

/-- The blanks that are left when as many as fit are dropped. -/
def dropFitting (room : Nat) : List Glyph → List Glyph
  | [] => []
  | glyph :: rest =>
    if room < glyph.width then glyph :: rest else dropFitting (room - glyph.width) rest

/-- Puts the blanks and the word on the row. -/
def settle (state : Wrapping) : Wrapping :=
  { state with row := state.row ++ state.blanks ++ state.word, blanks := [], word := [] }

/-- Ends the row. Blanks that would have fitted on it are dropped. -/
def breakRow (limit : Nat) (state : Wrapping) : Wrapping :=
  { state with
    done := state.row :: state.done
    row := []
    blanks := dropFitting (limit - rowWidth state.row) state.blanks }

def add (limit : Nat) (state : Wrapping) (glyph : Glyph) : Wrapping :=
  let blank := glyph.isBlank
  let tooLong := state.row = [] &&
    limit < rowWidth state.word + rowWidth state.blanks + glyph.width
  let state := if (state.inWord && blank) || tooLong then state.settle else state
  let full := limit ≤ rowWidth state.row || (0 < glyph.width &&
    limit ≤ rowWidth state.row + rowWidth state.blanks + rowWidth state.word)
  let state := if full then state.breakRow limit else state
  if full && blank && state.blanks = [] then state
  else if blank then { state with blanks := state.blanks ++ [glyph], inWord := false }
  else { state with word := state.word ++ [glyph], inWord := true }

/-- All rows. A line of blanks alone is preceded by an empty row. -/
def finish (state : Wrapping) : List (List Glyph) :=
  let last := state.row ++ state.blanks ++ state.word
  let lead := if state.row = [] ∧ state.word = [] ∧ state.blanks ≠ [] then [[]] else []
  let rows := state.done.reverse ++ lead ++ if last = [] then [] else [last]
  if rows = [] then [[]] else rows

end Wrapping

/-- The rows of a line that is wrapped. -/
def wrap (limit : Nat) (line : List Glyph) : List (List Glyph) :=
  ((line.filter (·.width ≤ limit)).foldl (Wrapping.add limit) {}).finish

structure Paragraph where
  lines : List (List Span)
  centered : Bool := false
  wrapped : Bool := false

namespace Paragraph

def rows (paragraph : Paragraph) (width : Nat) : List (List Glyph) :=
  if width = 0 then []
  else if paragraph.wrapped then paragraph.lines.flatMap fun line => wrap width (glyphs line)
  else paragraph.lines.map fun line => truncate width (glyphs line)

def indent (paragraph : Paragraph) (width : Nat) (row : List Glyph) : Nat :=
  if paragraph.centered then width / 2 - rowWidth row / 2 else 0

/-- The rows of a paragraph of some width, column by column: each glyph stands
where it begins. -/
def columns (paragraph : Paragraph) (width : Nat) : List (List (Option Glyph)) :=
  (paragraph.rows width).map fun row =>
    List.replicate (paragraph.indent width row) none ++ row.flatMap Glyph.columns

end Paragraph

end GuessingGame.Screen
