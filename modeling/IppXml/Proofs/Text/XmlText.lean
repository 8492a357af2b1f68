import IppXml.Proofs.Text.Case

/-! Texts that a document can carry, and what becomes of the others.

A document carries characters, not bytes: where a text has a stray byte or a character that
XML excludes, the document has U+FFFD. A text is carried unchanged exactly if it has none
of them.
-/

namespace IppXml

theorem Rune.isChar_of_isXml {r : Rune} (h : r.isXml = true)
    : r.isChar = true := by
  cases r with
  | char c => rfl
  | stray b => exact Bool.noConfusion h

/-- The encoding of characters that XML allows is a text of XML. -/
theorem isXmlText_ofChars {cs : List Char}
    : isXmlText (ofChars cs) = true ↔ ∀ c ∈ cs, isXmlChar c = true := by
  simp [isXmlText, Rune.isXml]

/-- A text of XML is the encoding of its characters. -/
theorem exists_ofChars_of_isXmlText {text : Bytes} (h : isXmlText text = true)
    : ∃ cs, text = ofChars cs ∧ ∀ c ∈ cs, isXmlChar c = true := by
  have xml := List.all_eq_true.mp h
  obtain ⟨cs, encoded, _⟩ := exists_ofChars_of_isChar fun r member =>
    Rune.isChar_of_isXml (xml r member)
  refine ⟨cs, encoded, ?_⟩
  rw [encoded] at h
  exact isXmlText_ofChars.mp h

/-- Printable ASCII can be carried. -/
theorem isXmlText_ascii {text : Bytes} (h : ∀ b ∈ text, 0x20 ≤ b ∧ b < 0x80)
    : isXmlText text = true := by
  rw [isXmlText, runes_ascii (fun b member => (h b member).2), List.all_map, List.all_eq_true]
  intro b member
  have low := UInt8.le_iff_toNat_le.mp (h b member).1
  have high := UInt8.lt_iff_toNat_lt.mp (h b member).2
  simp only [UInt8.reduceToNat] at low high
  have code : (Char.ofNat b.toNat).toNat = b.toNat :=
    toNat_ofNat_of_valid (Or.inl (by omega))
  simp only [Function.comp_apply, Rune.isXml, isXmlChar_iff, code]
  omega

/-- The upper case of a text that can be carried can be carried. -/
theorem isXmlText_upper {text : Bytes} (h : isXmlText text = true)
    : isXmlText (upper text) = true := by
  obtain ⟨cs, rfl, xml⟩ := exists_ofChars_of_isXmlText h
  rw [upper, chars_ofChars, isXmlText_ofChars]
  intro c member
  obtain ⟨d, hd, rfl⟩ := List.mem_map.mp member
  exact isXmlChar_upperChar (xml d hd)

-----------------------------------------------------------------------------------------
-- What a document carries of a text
-----------------------------------------------------------------------------------------

/-- The character a document carries in place of the given one. -/
def carriedChar (c : Char) : Char :=
  if isXmlChar c then c else Rune.replacement

/-- The text a document carries in place of the given one: U+FFFD stands for every stray
byte and for every character that XML excludes.
-/
def carried (text : Bytes) : Bytes :=
  ofChars ((chars text).map carriedChar)

theorem isXmlChar_carriedChar (c : Char)
    : isXmlChar (carriedChar c) = true := by
  rw [carriedChar]
  split
  · assumption
  · decide

theorem isXmlText_carried (text : Bytes)
    : isXmlText (carried text) = true := by
  rw [carried, isXmlText_ofChars]
  intro c member
  obtain ⟨d, _, rfl⟩ := List.mem_map.mp member
  exact isXmlChar_carriedChar d

/-- A text comes back unchanged exactly if it can be carried. -/
theorem carried_eq_self_iff {text : Bytes}
    : carried text = text ↔ isXmlText text = true := by
  constructor
  · intro same
    rw [← same]
    exact isXmlText_carried text
  · intro xml
    obtain ⟨cs, rfl, allowed⟩ := exists_ofChars_of_isXmlText xml
    rw [carried, chars_ofChars]
    congr 1
    refine (List.map_congr_left fun c member => ?_).trans (List.map_id cs)
    simp [carriedChar, allowed c member]

theorem carried_of_isXmlText {text : Bytes} (h : isXmlText text = true)
    : carried text = text :=
  carried_eq_self_iff.mpr h

end IppXml
