import IppXml.Proofs.Text.XmlText
import IppXml.Xml.Markup
import Mathlib.Data.List.Infix

/-! Escaped texts are read as the texts that a document carries.

Reading takes an escaped text character by character: a reference gives back its character,
all other bytes stand for themselves. No byte of an escaped text is one that markup needs,
so that it cannot end the attribute or the content it stands in.
-/

namespace IppXml.Xml

-----------------------------------------------------------------------------------------
-- What raw character data spells
-----------------------------------------------------------------------------------------

/-- The bytes that raw data spells, before it is checked that they are a text. -/
def spelled? (raw : Bytes) : Option Bytes :=
  ((Text.pieces (headData true) raw).mapM id).map List.flatten

theorem charData?_eq (raw : Bytes)
    : charData? true raw
      = (spelled? raw).bind fun text => if isXmlText text then some text else none := by
  cases parts : (Text.pieces (headData true) raw).mapM id with
  | none => simp [charData?, spelled?, parts]
  | some parts' => simp [charData?, spelled?, parts]

/-- The part that the head spells comes before what the rest spells. -/
theorem spelled?_append {b : UInt8} {rest part : Bytes} (taken : Bytes)
    (h : headData true b (taken ++ rest) = (some part, taken.length + 1))
    : spelled? (b :: taken ++ rest) = (spelled? rest).map (part ++ ·) := by
  rw [spelled?, Text.pieces_append h, spelled?]
  cases tail : (Text.pieces (headData true) rest).mapM id <;> simp [tail]

/-- Bytes that are no ampersand and no carriage return stand for themselves. -/
theorem spelled?_plain {bytes : Bytes} (rest : Bytes)
    (h : ∀ b ∈ bytes, b ≠ ampersand ∧ b ≠ 0x0D)
    : spelled? (bytes ++ rest) = (spelled? rest).map (bytes ++ ·) := by
  induction bytes with
  | nil => simp
  | cons b bytes ih =>
      obtain ⟨reference, feed⟩ := h b (by simp)
      have head : headData true b (bytes ++ rest) = (some [b], 1) := by
        simp [headData, reference, feed]
      have step : spelled? (b :: (bytes ++ rest)) = (spelled? (bytes ++ rest)).map ([b] ++ ·) :=
        spelled?_append [] head
      rw [List.cons_append, step, ih fun x member => h x (by simp [member]), Option.map_map]
      rfl

-----------------------------------------------------------------------------------------
-- Escaped characters
-----------------------------------------------------------------------------------------

/-- A byte of an encoding is beyond ASCII, or it is the whole character. -/
theorem mem_encodeChar {c : Char} {b : UInt8} (h : b ∈ String.utf8EncodeChar c)
    : 0x80 ≤ b.toNat ∨ b.toNat = c.toNat := by
  cases code : String.utf8EncodeChar c with
  | nil => exact absurd code (utf8EncodeChar_ne_nil c)
  | cons x xs =>
      rw [code] at h
      rcases List.mem_cons.mp h with rfl | tail
      · by_cases ascii : b < 0x80
        · have spelledCode := headCode_of_encodeChar [] code
          rw [headCode, if_pos ascii] at spelledCode
          exact Or.inr spelledCode
        · rw [UInt8.not_lt, UInt8.le_iff_toNat_le] at ascii
          exact Or.inl ascii
      · have continued := isContinuation_of_mem_encodeChar code tail
        simp only [isContinuation, Bool.and_eq_true, decide_eq_true_eq,
          UInt8.le_iff_toNat_le] at continued
        exact Or.inl continued.1

/-- The characters that are written as references. -/
def isReserved (c : Char) : Bool :=
  c = '"' || c = '\x27' || c = '&' || c = '<' || c = '>' || c = '\t' || c = '\n' || c = '\r'

theorem escapeChar_of_not_reserved {c : Char} (h : isReserved c = false)
    : escapeChar c = String.utf8EncodeChar (carriedChar c) := by
  simp only [isReserved, Bool.or_eq_false_iff, decide_eq_false_iff_not] at h
  obtain ⟨⟨⟨⟨⟨⟨⟨h₁, h₂⟩, h₃⟩, h₄⟩, h₅⟩, h₆⟩, h₇⟩, h₈⟩ := h
  simp only [escapeChar, h₁, h₂, h₃, h₄, h₅, h₆, h₇, h₈, if_false]
  rfl

theorem carriedChar_not_reserved {c : Char} (h : isReserved c = false)
    : isReserved (carriedChar c) = false := by
  rw [carriedChar]
  split
  · exact h
  · decide

/-- The bytes that end texts and attributes or begin something in them. -/
def isDelimiter (b : UInt8) : Bool :=
  b = 0x22 || b = lessThan || b = greaterThan || b = 0x0A || b = 0x0D

/-- The bytes of a character that is not reserved are no delimiters and no ampersand. -/
theorem mem_encodeChar_of_not_reserved {c : Char} {b : UInt8} (h : isReserved c = false)
    (member : b ∈ String.utf8EncodeChar c)
    : isDelimiter b = false ∧ b ≠ ampersand := by
  have differs (d : UInt8) (ascii : d.toNat < 0x80)
      (reserved : isReserved (Char.ofNat d.toNat) = true) : b ≠ d := by
    intro same
    subst same
    rcases mem_encodeChar member with high | same
    · omega
    · rw [same, Char.ofNat_toNat, h] at reserved
      exact Bool.noConfusion reserved
  have h₁ := differs 0x22 (by decide) (by decide)
  have h₂ := differs lessThan (by decide) (by decide)
  have h₃ := differs greaterThan (by decide) (by decide)
  have h₄ := differs 0x0A (by decide) (by decide)
  have h₅ := differs 0x0D (by decide) (by decide)
  exact ⟨by simp [isDelimiter, h₁, h₂, h₃, h₄, h₅], differs ampersand (by decide) (by decide)⟩

/-- An escaped character is read as the character that a document carries.
Witness: one reference for each reserved character; all others are plain bytes.
-/
theorem spelled?_escapeChar (c : Char) (rest : Bytes)
    : spelled? (escapeChar c ++ rest)
      = (spelled? rest).map (String.utf8EncodeChar (carriedChar c) ++ ·) := by
  cases reserved : isReserved c with
  | false =>
      rw [escapeChar_of_not_reserved reserved]
      refine spelled?_plain rest ?_
      intro b member
      obtain ⟨plain, reference⟩ :=
        mem_encodeChar_of_not_reserved (carriedChar_not_reserved reserved) member
      refine ⟨reference, ?_⟩
      intro same
      subst same
      exact Bool.noConfusion plain
  | true =>
      simp only [isReserved, Bool.or_eq_true, decide_eq_true_eq] at reserved
      rcases reserved with
        ((((((rfl | rfl) | rfl) | rfl) | rfl) | rfl) | rfl) | rfl
      · exact spelled?_append [0x23, 0x33, 0x34, 0x3B] rfl
      · exact spelled?_append [0x23, 0x33, 0x39, 0x3B] rfl
      · exact spelled?_append [0x61, 0x6D, 0x70, 0x3B] rfl
      · exact spelled?_append [0x6C, 0x74, 0x3B] rfl
      · exact spelled?_append [0x67, 0x74, 0x3B] rfl
      · exact spelled?_append [0x23, 0x78, 0x39, 0x3B] rfl
      · exact spelled?_append [0x23, 0x78, 0x41, 0x3B] rfl
      · exact spelled?_append [0x23, 0x78, 0x44, 0x3B] rfl

/-- An escaped text spells the text that a document carries, by induction over its
characters.
-/
theorem spelled?_escape (text : Bytes)
    : spelled? (escape text) = some (carried text) := by
  rw [escape, carried]
  induction chars text with
  | nil => rfl
  | cons c cs ih =>
      rw [List.flatMap_cons, spelled?_escapeChar, ih]
      rfl

theorem charData?_escape (text : Bytes)
    : charData? true (escape text) = some (carried text) := by
  rw [charData?_eq, spelled?_escape, Option.bind_some, if_pos (isXmlText_carried text)]

/-- No reference holds a byte that markup needs. -/
theorem isDelimiter_of_mem_reference {c : Char} {b : UInt8} (h : isReserved c = true)
    (member : b ∈ escapeChar c)
    : isDelimiter b = false := by
  have references : ['"', '\x27', '&', '<', '>', '\t', '\n', '\r'].all
      (fun c => (escapeChar c).all fun b => !isDelimiter b) = true := by decide
  have listed : c ∈ ['"', '\x27', '&', '<', '>', '\t', '\n', '\r'] := by
    simpa [isReserved, or_assoc] using h
  have plain := List.all_eq_true.mp (List.all_eq_true.mp references c listed) b member
  simpa using plain

/-- No byte of an escaped text is one that markup needs. -/
theorem isDelimiter_of_mem_escape {text : Bytes} {b : UInt8} (h : b ∈ escape text)
    : isDelimiter b = false := by
  obtain ⟨c, _, member⟩ := List.mem_flatMap.mp h
  cases reserved : isReserved c with
  | false =>
      rw [escapeChar_of_not_reserved reserved] at member
      exact (mem_encodeChar_of_not_reserved (carriedChar_not_reserved reserved) member).1
  | true => exact isDelimiter_of_mem_reference reserved member

-----------------------------------------------------------------------------------------
-- Content and attribute values
-----------------------------------------------------------------------------------------

/-- A pattern does not occur where one of its bytes does not. -/
theorem includes_eq_false {text pattern : Bytes} {b : UInt8} (outside : b ∉ text)
    (inside : b ∈ pattern)
    : text.includes pattern = false := by
  have none : Bytes.cutAround? pattern text = none := by
    induction text with
    | nil =>
        rw [Bytes.cutAround?, if_neg]
        intro same
        subst same
        exact List.not_mem_nil inside
    | cons x xs ih =>
        have fails : pattern.isPrefixOf? (x :: xs) = none := by
          rw [← Option.not_isSome_iff_eq_none, List.isSome_isPrefixOf?_eq_isPrefixOf,
            List.isPrefixOf_iff_prefix]
          exact fun found => outside (found.subset inside)
        have tail := ih fun member => outside (List.mem_cons_of_mem x member)
        simp [Bytes.cutAround?, fails, tail]
  simp [Bytes.includes, none]

theorem not_mem_escape {b : UInt8} (h : isDelimiter b = true) (text : Bytes)
    : b ∉ escape text := by
  intro member
  rw [isDelimiter_of_mem_escape member] at h
  exact Bool.noConfusion h

/-- Escaped content is read as what a document carries. -/
theorem contentText?_escape (text : Bytes)
    : contentText? (escape text) = some (carried text) := by
  have apart : (escape text).includes sectionEnd = false :=
    includes_eq_false (not_mem_escape (b := greaterThan) (by decide) text) (by decide)
  rw [contentText?, apart, if_neg Bool.false_ne_true, charData?_escape]

/-- The space between tags is read as it is. -/
theorem contentText?_space {text : Bytes} (h : ∀ b ∈ text, b = 0x0A ∨ b = 0x20 ∨ b = 0x09)
    : contentText? text = some text := by
  have differs {b d : UInt8} (member : b ∈ text) (hd : d ∉ [0x0A, 0x20, 0x09]) : b ≠ d := by
    intro same
    subst same
    exact hd (by simpa using h b member)
  have apart : text.includes sectionEnd = false :=
    includes_eq_false (fun member => differs member (by decide) rfl)
      (by decide : greaterThan ∈ sectionEnd)
  have plain : spelled? text = some text := by
    have unescaped : ∀ b ∈ text, b ≠ ampersand ∧ b ≠ 0x0D := fun b member =>
      ⟨differs member (by decide), differs member (by decide)⟩
    have read := spelled?_plain [] unescaped
    rw [List.append_nil] at read
    rw [read]
    simp [spelled?]
  have xml : isXmlText text = true := by
    rw [isXmlText, runes_ascii, List.all_map, List.all_eq_true]
    · intro b member
      rcases h b member with rfl | rfl | rfl <;> decide
    · intro b member
      rcases h b member with rfl | rfl | rfl <;> decide
  rw [contentText?, apart, if_neg Bool.false_ne_true, charData?_eq, plain, Option.bind_some,
    if_pos xml]

/-- An escaped value in quotes is read as what a document carries. -/
theorem readValue?_escape (value rest : Bytes)
    : readValue? (0x22 :: (escape value ++ 0x22 :: rest)) = some (carried value, rest) := by
  have cut := Bytes.cutAt?_append rest (not_mem_escape (b := 0x22) (by decide) value)
  have closed : lessThan ∉ escape value := not_mem_escape (by decide) value
  simp [readValue?, isQuote, cut, closed, charData?_escape]

end IppXml.Xml
