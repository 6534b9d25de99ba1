import GuessingGame.Text.Marks
import GuessingGame.Text.Pictograph

/-!
# Clusters

What a reader takes for one character may be several: a letter and its accents, a
syllable, a pair of letters that is a flag. A text is cut into such clusters.

`clusters` stands for the extended grapheme clusters of unicode-segmentation 1, by
which the screen library takes a text apart; that the two cut alike is assumed.
-/

namespace GuessingGame.Text

/-- The parts of a Korean syllable. Vowels of Kirat Rai join as its vowels do. -/
inductive Jamo where
  | leading
  | vowel
  | trailing
  | open
  | closed
  deriving DecidableEq, Repr

def jamo? (c : Char) : Option Jamo :=
  let n := c.toNat
  if (0x1100 ≤ n && n ≤ 0x115f) || (0xa960 ≤ n && n ≤ 0xa97c) then some .leading
  else if (0x1160 ≤ n && n ≤ 0x11a7) || (0xd7b0 ≤ n && n ≤ 0xd7c6) || n = 0x16d63 ||
      (0x16d67 ≤ n && n ≤ 0x16d6a) then some .vowel
  else if (0x11a8 ≤ n && n ≤ 0x11ff) || (0xd7cb ≤ n && n ≤ 0xd7fb) then some .trailing
  else if 0xac00 ≤ n && n ≤ 0xd7a3 then
    some (if (n - 0xac00) % 28 = 0 then .open else .closed)
  else none

/-- Whether two parts of a Korean syllable that follow each other belong together. -/
def Jamo.joins : Jamo → Jamo → Bool
  | leading, .trailing => false
  | leading, _ => true
  | vowel, .vowel | vowel, .trailing | .open, .vowel | .open, .trailing => true
  | trailing, .trailing | closed, .trailing => true
  | _, _ => false

/-- Whether the last characters of a cluster, the last of all first, wait for a
consonant to join: behind a consonant stand marks alone, a conjunct sign is among
them, and none keeps its neighbours apart. -/
def awaitsConsonant (before : List Char) : Bool :=
  let marks := before.takeWhile fun c => (isExtending c && !isNonJoiner c) || isJoiner c
  marks.any isConjunctSign && ((before.drop marks.length).head?.map isConjoining).getD false

/-- Whether the last characters of a cluster wait for a picture to join. -/
def awaitsPicture (before : List Char) : Bool :=
  match before with
  | [] => false
  | last :: earlier =>
    isJoiner last && (((earlier.dropWhile isExtending).head?).map isPictograph).getD false

/-- Whether the last characters of a cluster are a flag letter without partner. -/
def awaitsFlagLetter (before : List Char) : Bool := (before.takeWhile isFlagLetter).length % 2 == 1

/-- Whether a character continues a cluster, whose characters are given from the
last to the first. -/
def continues (before : List Char) (c : Char) : Bool :=
  match before with
  | [] => false
  | last :: _ =>
    if last = '\r' ∧ c = '\n' then true
    else if standsAlone last || standsAlone c then false
    else isExtending c || isJoiner c || isSpacing c || isLeading last ||
      (match jamo? last, jamo? c with
        | some first, some second => first.joins second
        | _, _ => false) ||
      (isConjoining c && awaitsConsonant before) ||
      (isPictograph c && awaitsPicture before) ||
      (isFlagLetter c && awaitsFlagLetter before)

/-- The clusters of a text behind the characters of one that was begun, which are
given from the last to the first. -/
def clustersAfter (before : List Char) : List Char → List (List Char)
  | [] => if before = [] then [] else [before.reverse]
  | c :: rest =>
    if before = [] || continues before c then clustersAfter (c :: before) rest
    else before.reverse :: clustersAfter [c] rest

/-- The clusters of a text. -/
def clusters (text : List Char) : List (List Char) := clustersAfter [] text

end GuessingGame.Text
