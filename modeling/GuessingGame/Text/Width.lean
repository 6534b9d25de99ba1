import GuessingGame.Text.Marks
import GuessingGame.Text.Pictograph

/-!
# Widths

How many columns a text takes on a screen. Most characters take one, those of the
East Asian scripts two, and marks none. Characters that are written together may
take less or more than each of them alone: a mark asks for another form of the
character before it, a shade of skin and what is joined to a picture show in the
picture itself, and a letter below another takes no room beside it.

The columns of such a text are therefore counted from its end: how many a
character adds depends on what stands behind it.

`width` stands for the widths of unicode-width 0.2, by which the screen library counts
columns, with the column more that this library gives to a voiced sound mark. That the
tables and `Extent` agree with the two is assumed.
-/

namespace GuessingGame.Text

/-- The points at which the widths of East Asian characters change to two and back. -/
def wideSet : CodeSet where
  changes := [
    0x1100, 0x1160, 0x231a, 0x231c, 0x2329, 0x232b, 0x23e9, 0x23ed, 0x23f0, 0x23f1, 0x23f3,
    0x23f4, 0x25fd, 0x25ff, 0x2614, 0x2616, 0x2630, 0x2638, 0x2648, 0x2654, 0x267f, 0x2680,
    0x268a, 0x2690, 0x2693, 0x2694, 0x26a1, 0x26a2, 0x26aa, 0x26ac, 0x26bd, 0x26bf, 0x26c4,
    0x26c6, 0x26ce, 0x26cf, 0x26d4, 0x26d5, 0x26ea, 0x26eb, 0x26f2, 0x26f4, 0x26f5, 0x26f6,
    0x26fa, 0x26fb, 0x26fd, 0x26fe, 0x2705, 0x2706, 0x270a, 0x270c, 0x2728, 0x2729, 0x274c,
    0x274d, 0x274e, 0x274f, 0x2753, 0x2756, 0x2757, 0x2758, 0x2795, 0x2798, 0x27b0, 0x27b1,
    0x27bf, 0x27c0, 0x2b1b, 0x2b1d, 0x2b50, 0x2b51, 0x2b55, 0x2b56, 0x2e80, 0x2e9a, 0x2e9b,
    0x2ef4, 0x2f00, 0x2fd6, 0x2ff0, 0x303f, 0x3041, 0x3097, 0x3099, 0x3100, 0x3105, 0x3130,
    0x3131, 0x318f, 0x3190, 0x31e6, 0x31ef, 0x321f, 0x3220, 0x3248, 0x3250, 0xa48d, 0xa490,
    0xa4c7, 0xa960, 0xa97d, 0xac00, 0xd7a4, 0xf900, 0xfb00, 0xfe10, 0xfe1a, 0xfe30, 0xfe53,
    0xfe54, 0xfe67, 0xfe68, 0xfe6c, 0xff01, 0xff61, 0xffe0, 0xffe7, 0x16fe0, 0x16fe5, 0x16ff0,
    0x16ff7, 0x17000, 0x18cd6, 0x18cff, 0x18d1f, 0x18d80, 0x18df3, 0x1aff0, 0x1aff4, 0x1aff5,
    0x1affc, 0x1affd, 0x1afff, 0x1b000, 0x1b123, 0x1b132, 0x1b133, 0x1b150, 0x1b153, 0x1b155,
    0x1b156, 0x1b164, 0x1b168, 0x1b170, 0x1b2fc, 0x1d300, 0x1d357, 0x1d360, 0x1d377, 0x1f004,
    0x1f005, 0x1f0cf, 0x1f0d0, 0x1f18e, 0x1f18f, 0x1f191, 0x1f19b, 0x1f200, 0x1f203, 0x1f210,
    0x1f23c, 0x1f240, 0x1f249, 0x1f250, 0x1f252, 0x1f260, 0x1f266, 0x1f300, 0x1f321, 0x1f32d,
    0x1f336, 0x1f337, 0x1f37d, 0x1f37e, 0x1f394, 0x1f3a0, 0x1f3cb, 0x1f3cf, 0x1f3d4, 0x1f3e0,
    0x1f3f1, 0x1f3f4, 0x1f3f5, 0x1f3f8, 0x1f43f, 0x1f440, 0x1f441, 0x1f442, 0x1f4fd, 0x1f4ff,
    0x1f53e, 0x1f54b, 0x1f54f, 0x1f550, 0x1f568, 0x1f57a, 0x1f57b, 0x1f595, 0x1f597, 0x1f5a4,
    0x1f5a5, 0x1f5fb, 0x1f650, 0x1f680, 0x1f6c6, 0x1f6cc, 0x1f6cd, 0x1f6d0, 0x1f6d3, 0x1f6d5,
    0x1f6d9, 0x1f6dc, 0x1f6e0, 0x1f6eb, 0x1f6ed, 0x1f6f4, 0x1f6fd, 0x1f7e0, 0x1f7ec, 0x1f7f0,
    0x1f7f1, 0x1f90c, 0x1f93b, 0x1f93c, 0x1f946, 0x1f947, 0x1fa00, 0x1fa70, 0x1fa7d, 0x1fa80,
    0x1fa8b, 0x1fa8e, 0x1fac7, 0x1fac8, 0x1fac9, 0x1facd, 0x1fadd, 0x1fadf, 0x1faeb, 0x1faef,
    0x1faf9, 0x20000, 0x2fffe, 0x30000, 0x3fffe]

/-- The points at which the property `Default_Ignorable_Code_Point` changes. -/
def ignorableSet : CodeSet where
  changes := [
    0xad, 0xae, 0x34f, 0x350, 0x61c, 0x61d, 0x115f, 0x1161, 0x17b4, 0x17b6, 0x180b, 0x1810,
    0x200b, 0x2010, 0x202a, 0x202f, 0x2060, 0x2070, 0x3164, 0x3165, 0xfe00, 0xfe10, 0xfeff,
    0xff00, 0xffa0, 0xffa1, 0xfff0, 0xfff9, 0x1bca0, 0x1bca4, 0x1d173, 0x1d17b, 0xe0000, 0xe1000]

/-- The points at which the vowels and last consonants of Korean syllables begin and end. -/
def vowelSet : CodeSet where
  changes := [0x1160, 0x1200, 0xd7b0, 0xd7c7, 0xd7cb, 0xd7fc]

/-- The points at which the class of signs before a number changes that take a column. -/
def numberSignSet : CodeSet where
  changes := [0x600, 0x605, 0x6dd, 0x6de, 0x110bd, 0x110be, 0x110cd, 0x110ce]

/-- The points at which the class of marks without width changes that extend no
other character. -/
def looseMarkSet : CodeSet where
  changes := [0x5c8, 0x5c9, 0xb53, 0xb55, 0x1aec, 0x1af1, 0xa8fa, 0xa8fb, 0x10ecc, 0x10ecd]

/-- The points at which the class of letters changes that may be written below others. -/
def lowLetterSet : CodeSet where
  changes := [
    0x1780, 0x1783, 0x1784, 0x1788, 0x1789, 0x178d, 0x178e, 0x1794, 0x1795, 0x1799, 0x179b,
    0x179e, 0x17a0, 0x17a1, 0x17a2, 0x17a3, 0x17a7, 0x17a8, 0x17ab, 0x17ad, 0x17af, 0x17b0]

/-- The points at which the class of marks changes that are passed over between a
letter and the sign that puts it below another. -/
def passedOverSet : CodeSet where
  changes := [
    0x34f, 0x350, 0x17b4, 0x17b6, 0x180b, 0x180e, 0x180f, 0x1810, 0x200d, 0x200e, 0xfe00, 0xfe10,
    0xe0100, 0xe01f0]

/-- Whether a character takes no column. A joiner of consonants that is shown when
it joins none takes one. -/
def isWidthless (c : Char) : Bool :=
  c.toNat != 0x2d7f && (ignorableSet.contains c || extendingSet.contains c ||
    vowelSet.contains c || (isLeading c && !numberSignSet.contains c) ||
    looseMarkSet.contains c)

/-- The columns of a single character. A voiced sound mark of half the width of its
letter has a cell for itself beside it. -/
def charWidth (c : Char) : Nat :=
  let n := c.toNat
  if n < 0x300 ∧ n ≠ 0xad then 1
  else if n = 0x115f ∨ n = 0x17a4 ∨ n = 0xff9e ∨ n = 0xff9f then 2
  else if n = 0x17d8 then 3
  else if isWidthless c then 0
  else if wideSet.contains c then 2
  else 1

/-- What begins behind a character, as far as it decides the columns of the
character. -/
inductive Behind where
  /-- Nothing that matters. -/
  | other
  /-- A mark that asks for the form as text. -/
  | textMark
  /-- A mark that asks for the form as a picture. -/
  | pictureMark
  /-- A mark that asks for the form of full width. -/
  | fullMark
  /-- A shade of skin. -/
  | shade
  /-- A picture. -/
  | picture
  /-- A joiner and a picture, which show in the picture before them. -/
  | joined
  /-- A mark that asks for a picture to which others are joined. -/
  | joinedMark
  /-- Tags of a flag to which others are joined. -/
  | joinedTags (count : Nat)
  /-- A letter that may be written below another. -/
  | lowLetter
  /-- A vowel that may be the second half of another. -/
  | vowel
  /-- Two such vowels. -/
  | vowelPair
  deriving DecidableEq, Repr

/-- One of the quotation marks that have a form of full width. -/
def isQuote (c : Char) : Bool := [0x2018, 0x2019, 0x201c, 0x201d].contains c.toNat

/-- A letter or digit of the name of a region. -/
def isTag (c : Char) : Bool :=
  (0xe0030 ≤ c.toNat && c.toNat ≤ 0xe0039) || (0xe0061 ≤ c.toNat && c.toNat ≤ 0xe007a)

namespace Behind

def ofChar (c : Char) : Behind :=
  let n := c.toNat
  if n < 0x300 then other
  else if n = 0xfe0e then textMark
  else if n = 0xfe0f then pictureMark
  else if n = 0xfe01 then fullMark
  else if isShade c then shade
  else if lowLetterSet.contains c then lowLetter
  else if n = 0x16d67 then vowel
  else if n = 0x16d68 then vowelPair
  else if isPicture c then picture
  else other

end Behind

/-- The columns of a text, and what it is for a character before it. -/
structure Extent where
  columns : Nat := 0
  head : Behind := .other
  deriving DecidableEq, Repr

namespace Extent

/-- Puts a character that is shown as ever before a text. -/
def alone (extent : Extent) (c : Char) : Extent where
  columns := extent.columns + charWidth c
  head := .ofChar c

def cons (extent : Extent) (c : Char) : Extent :=
  let columns := extent.columns
  let n := c.toNat
  match extent.head with
  | .other => extent.alone c
  | .textMark =>
    if isPicture c && hasForms c && !(0x1f200 ≤ n && n ≤ 0x1f2ff) then ⟨columns + 1, .other⟩
    else extent.alone c
  | .pictureMark => if hasForms c then ⟨columns + 2, .picture⟩ else extent.alone c
  | .fullMark => if isQuote c then ⟨columns + 2, .other⟩ else extent.alone c
  | .shade =>
    if isShaded c then ⟨columns, .picture⟩
    else if isJoiner c then ⟨columns, .joined⟩
    else extent.alone c
  | .picture => if isJoiner c then ⟨columns, .joined⟩ else extent.alone c
  | .joined =>
    if n = 0xfe0f then ⟨columns, .joinedMark⟩
    else if isShade c then ⟨columns, .shade⟩
    else if n = 0xe007f then ⟨columns, .joinedTags 0⟩
    else if isPicture c then ⟨columns, .picture⟩
    else extent.alone c
  | .joinedMark => if hasForms c then ⟨columns, .picture⟩ else extent.alone c
  | .joinedTags count =>
    if isTag c then ⟨columns, .joinedTags (count + 1)⟩
    else if n = 0x1f3f4 ∧ 3 ≤ count ∧ count ≤ 6 then ⟨columns, .picture⟩
    else extent.alone c
  | .lowLetter =>
    if n = 0x17d2 then ⟨columns - 1, .other⟩
    else if passedOverSet.contains c then ⟨columns, .lowLetter⟩
    else extent.alone c
  | .vowel =>
    if n = 0x16d63 ∨ n = 0x16d69 then ⟨columns, .other⟩
    else if n = 0x16d67 then ⟨columns, .vowelPair⟩
    else if n = 0x16d68 then ⟨columns + 1, .vowel⟩
    else extent.alone c
  | .vowelPair => if n = 0x16d63 then ⟨columns, .other⟩ else extent.alone c

def ofText : List Char → Extent
  | [] => {}
  | c :: rest => (ofText rest).cons c

end Extent

/-- The columns of a text. -/
def width (text : List Char) : Nat := (Extent.ofText text).columns

end GuessingGame.Text
