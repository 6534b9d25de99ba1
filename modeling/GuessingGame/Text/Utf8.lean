/-!
# Text as bytes

Texts are written and read as UTF-8. Reading is strict, and refuses bytes that
are no text; showing is not, and puts `�` for every maximal piece that begins
like a character and is not one.
-/

namespace GuessingGame.Text.Utf8

/-- The bytes of a text. -/
def encode (text : String) : List UInt8 := text.toByteArray.data.toList

/-- The text of some bytes, if they are one. -/
def decode? (bytes : List UInt8) : Option String := String.fromUTF8? ⟨bytes.toArray⟩

@[simp] theorem decode?_encode (text : String) : decode? (encode text) = some text := by
  have h : (⟨text.toByteArray.data.toList.toArray⟩ : ByteArray) = text.toByteArray := by simp
  simp only [decode?, encode, h, String.fromUTF8?, text.isValidUTF8, dite_true]
  rfl

theorem encode_inj {first second : String} (h : encode first = encode second) :
    first = second := by
  rw [← Option.some.injEq, ← decode?_encode first, h, decode?_encode]

@[simp] theorem encode_append (first second : String) :
    encode (first ++ second) = encode first ++ encode second := by
  simp [encode]

/-- A character whose first bytes were read: the value so far, the bytes still
to come, and the bounds of the next one. -/
structure Pending where
  value : Nat
  missing : Nat
  low : Nat
  high : Nat

/-- How a byte begins a character: a whole one, one of several bytes, or none. -/
def begin? (byte : Nat) : Option (Char ⊕ Pending) :=
  if byte < 0x80 then some (.inl (Char.ofNat byte))
  else if byte < 0xc2 then none
  else if byte < 0xe0 then some (.inr ⟨byte - 0xc0, 1, 0x80, 0xbf⟩)
  else if byte < 0xf0 then
    some (.inr ⟨byte - 0xe0, 2, if byte = 0xe0 then 0xa0 else 0x80,
      if byte = 0xed then 0x9f else 0xbf⟩)
  else if byte < 0xf5 then
    some (.inr ⟨byte - 0xf0, 3, if byte = 0xf0 then 0x90 else 0x80,
      if byte = 0xf4 then 0x8f else 0xbf⟩)
  else none

/-- Shows bytes behind a character that may be pending. -/
def showFrom (pending : Option Pending) : List UInt8 → List Char
  | [] => if pending.isSome then ['�'] else []
  | byte :: rest =>
    let n := byte.toNat
    let fresh :=
      match begin? n with
      | some (.inl c) => c :: showFrom none rest
      | some (.inr p) => showFrom (some p) rest
      | none => '�' :: showFrom none rest
    match pending with
    | none => fresh
    | some p =>
      if p.low ≤ n ∧ n ≤ p.high then
        let value := p.value * 64 + (n - 0x80)
        if p.missing ≤ 1 then Char.ofNat value :: showFrom none rest
        else showFrom (some ⟨value, p.missing - 1, 0x80, 0xbf⟩) rest
      else '�' :: fresh

/-- The text that bytes show, whatever they are. -/
def display (bytes : List UInt8) : String := String.ofList (showFrom none bytes)

end GuessingGame.Text.Utf8
