import IppXml.Text.Bytes
import IppXml.Text.Pieces

/-! Byte strings seen as characters.

Decoding never fails: a byte that does not begin the UTF-8 encoding of a character is kept
as a stray byte. Main statement: the runes of a text, encoded one after the other, are the
text.
-/

namespace IppXml

/-- One item of a decoded text. -/
inductive Rune where
  | char (c : Char)
  | stray (b : UInt8)
deriving DecidableEq

namespace Rune

/-- The bytes the rune was decoded from. -/
def bytes : Rune → Bytes
  | char c => String.utf8EncodeChar c
  | stray b => [b]

/-- The replacement character U+FFFD. -/
def replacement : Char := Char.ofNat 0xFFFD

/-- The character of the rune, with U+FFFD for a stray byte. -/
def toChar : Rune → Char
  | char c => c
  | stray _ => replacement

/-- Whether the rune is a character and not a stray byte. -/
def isChar : Rune → Bool
  | char _ => true
  | stray _ => false

end Rune

/-- The code point that the head of a text spells if it is the encoding of a character. -/
def headCode (b : UInt8) (bs : Bytes) : Nat :=
  let low (i : Nat) : Nat := (bs.getD i 0).toNat % 64
  if b < 0x80 then b.toNat
  else if b < 0xE0 then b.toNat % 32 * 64 + low 0
  else if b < 0xF0 then (b.toNat % 16 * 64 + low 0) * 64 + low 1
  else ((b.toNat % 8 * 64 + low 0) * 64 + low 1) * 64 + low 2

/-- The rune at the head of a text and the number of bytes it takes. -/
def headRune (b : UInt8) (bs : Bytes) : Rune × Nat :=
  let c := Char.ofNat (headCode b bs)
  if (String.utf8EncodeChar c).isPrefixOf (b :: bs) then
    (.char c, (String.utf8EncodeChar c).length)
  else
    (.stray b, 1)

/-- The characters and stray bytes of a text. -/
def runes (text : Bytes) : List Rune :=
  Text.pieces headRune text

/-- The text that decodes to the given runes. -/
def ofRunes (rs : List Rune) : Bytes :=
  rs.flatMap Rune.bytes

/-- The characters of a text, with U+FFFD for each stray byte. -/
def chars (text : Bytes) : List Char :=
  (runes text).map Rune.toChar

/-- The UTF-8 encoding of a list of characters. -/
def ofChars (cs : List Char) : Bytes :=
  cs.flatMap String.utf8EncodeChar

/-- Whether the text is valid UTF-8. -/
def isUtf8 (text : Bytes) : Bool :=
  (runes text).all Rune.isChar

theorem utf8EncodeChar_ne_nil (c : Char)
    : String.utf8EncodeChar c ≠ [] := by
  simp only [String.utf8EncodeChar]
  repeat' split
  all_goals simp

/-- The bytes of the rune at the head are the bytes it takes. -/
theorem headRune_bytes (b : UInt8) (bs : Bytes)
    : (headRune b bs).1.bytes ++ bs.drop ((headRune b bs).2 - 1) = b :: bs := by
  unfold headRune
  dsimp only
  split
  · next h =>
      obtain ⟨rest, hrest⟩ := List.isPrefixOf_iff_prefix.mp h
      simp only [Rune.bytes]
      have hne := utf8EncodeChar_ne_nil (Char.ofNat (headCode b bs))
      generalize String.utf8EncodeChar (Char.ofNat (headCode b bs)) = code at hrest hne
      cases code with
      | nil => exact absurd rfl hne
      | cons x xs =>
          simp only [List.cons_append, List.cons.injEq] at hrest
          obtain ⟨rfl, rfl⟩ := hrest
          simp
  · simp [Rune.bytes]

/-- Decoding loses nothing. -/
theorem ofRunes_runes (text : Bytes)
    : ofRunes (runes text) = text := by
  suffices h : ∀ n, ∀ text : Bytes, text.length ≤ n → ofRunes (runes text) = text from
    h text.length text (Nat.le_refl _)
  intro n
  induction n with
  | zero => intro text h; simp_all [ofRunes, runes]
  | succ n ih =>
      intro text h
      cases text with
      | nil => rfl
      | cons b bs =>
          have hrest := ih (bs.drop ((headRune b bs).2 - 1)) (by
            simp only [List.length_cons, List.length_drop] at h ⊢
            omega)
          simp only [runes, ofRunes] at hrest ⊢
          rw [Text.pieces_cons, List.flatMap_cons, hrest]
          exact headRune_bytes b bs

end IppXml
