import IppXml.Escape
import IppXml.Proofs.Instruction.Spelling
import IppXml.Proofs.Text.Decimal
import IppXml.Proofs.Text.Tokens
import IppXml.Proofs.Token.Grammar

/-! Escapes in string constants.

The lexer lets a string constant pass if its backslashes begin escapes, and the decoder
replaces escapes by characters. Both go by the same split of a text into plain bytes and
escapes: the lexer accepts exactly the texts that have one, and the decoder gives what the
pieces of the split stand for. It makes no difference whether the text is split as bytes or as
runes, also where it is not UTF-8.
-/

namespace IppXml

open Token (backslash isEscaped)

-----------------------------------------------------------------------------------------
-- Pieces
-----------------------------------------------------------------------------------------

/-- The byte of a decimal digit. -/
def digitByte (n : Nat) : UInt8 :=
  UInt8.ofNat (0x30 + n % 10)

/-- A piece of a text with escapes: a byte that stands for itself, or a code. -/
inductive Escape.Piece where
  | plain (b : UInt8) (unmarked : b ≠ backslash)
  | code (n : Fin 1000)

namespace Escape

/-- The piece as it is written: a code has three digits behind a backslash. -/
def Piece.source : Piece → Bytes
  | plain b _ => [b]
  | code n => [backslash, digitByte (n / 100), digitByte (n / 10), digitByte n]

/-- What the piece stands for: a code stands for its character in UTF-8. -/
def Piece.meaning : Piece → Bytes
  | plain b _ => [b]
  | code n => String.utf8EncodeChar (Char.ofNat n)

end Escape

theorem toNat_digitByte (n : Nat)
    : (digitByte n).toNat = 0x30 + n % 10 := by
  rw [digitByte, UInt8.toNat_ofNat']
  omega

theorem isDigit_digitByte (n : Nat)
    : isDigit (digitByte n) = true := by
  rw [isDigit_iff, toNat_digitByte]
  omega

theorem digitByte_eq {d : UInt8} {n : Nat} (h : isDigit d = true) (last : n % 10 = digitValue d)
    : digitByte n = d := by
  have bounds := isDigit_iff.mp h
  rw [← UInt8.toNat_inj, toNat_digitByte, last, digitValue]
  omega

theorem digitsValue_three (d₁ d₂ d₃ : UInt8)
    : digitsValue [d₁, d₂, d₃] = (digitValue d₁ * 10 + digitValue d₂) * 10 + digitValue d₃ := by
  simp [digitsValue]

/-- Three digits are those of a code, which they spell. -/
theorem Escape.exists_code {d₁ d₂ d₃ : UInt8}
    (h : isDigit d₁ = true ∧ isDigit d₂ = true ∧ isDigit d₃ = true)
    : ∃ n : Fin 1000,
        Piece.source (.code n) = [backslash, d₁, d₂, d₃]
        ∧ Piece.meaning (.code n) = charOfDigits d₁ d₂ d₃ := by
  obtain ⟨first, second, third⟩ := h
  have bounds₁ := isDigit_iff.mp first
  have bounds₂ := isDigit_iff.mp second
  have bounds₃ := isDigit_iff.mp third
  have value := digitsValue_three d₁ d₂ d₃
  simp only [digitValue] at value
  refine ⟨⟨digitsValue [d₁, d₂, d₃], by omega⟩, ?_, rfl⟩
  have hundreds : digitByte (digitsValue [d₁, d₂, d₃] / 100) = d₁ :=
    digitByte_eq first (by rw [digitValue]; omega)
  have tens : digitByte (digitsValue [d₁, d₂, d₃] / 10) = d₂ :=
    digitByte_eq second (by rw [digitValue]; omega)
  have ones : digitByte (digitsValue [d₁, d₂, d₃]) = d₃ :=
    digitByte_eq third (by rw [digitValue]; omega)
  simp [Piece.source, hundreds, tens, ones]

/-- The digits of a code spell it. -/
theorem Escape.charOfDigits_code (n : Fin 1000)
    : charOfDigits (digitByte (n / 100)) (digitByte (n / 10)) (digitByte n)
      = Piece.meaning (.code n) := by
  have small := n.isLt
  have value : digitsValue [digitByte (n / 100), digitByte (n / 10), digitByte n] = n := by
    simp only [digitsValue_three, digitValue, toNat_digitByte]
    omega
  rw [charOfDigits, value]
  rfl

-----------------------------------------------------------------------------------------
-- The decoder
-----------------------------------------------------------------------------------------

namespace Escape

theorem decodeAt_plain {b : UInt8} (offset : Nat) (rest : Bytes) (h : b ≠ backslash)
    : decodeAt offset (b :: rest) = (decodeAt (offset + 1) rest).map (b :: ·) := by
  rw [decodeAt.eq_def]
  exact if_neg h

theorem decodeAt_escape {d₁ d₂ d₃ : UInt8} (offset : Nat) (rest : Bytes)
    (h : isDigit d₁ = true ∧ isDigit d₂ = true ∧ isDigit d₃ = true)
    : decodeAt offset (backslash :: d₁ :: d₂ :: d₃ :: rest)
      = (decodeAt (offset + 4) rest).map (charOfDigits d₁ d₂ d₃ ++ ·) := by
  simp [decodeAt, h]

/-- A text without backslashes in front is kept as it is. -/
theorem decodeAt_append {text : Bytes} (offset : Nat) (rest : Bytes) (h : backslash ∉ text)
    : decodeAt offset (text ++ rest)
      = (decodeAt (offset + text.length) rest).map (text ++ ·) := by
  induction text generalizing offset with
  | nil =>
      change decodeAt offset rest = _
      cases decodeAt offset rest <;> rfl
  | cons b text ih =>
      rw [List.mem_cons, not_or] at h
      rw [List.cons_append, decodeAt_plain _ _ (Ne.symm h.1), ih _ h.2, List.length_cons,
        Nat.add_assoc, Nat.add_comm 1]
      cases decodeAt (offset + (text.length + 1)) rest <;> rfl

/-- The texts that are not gone through would come out unchanged. -/
theorem decode_eq_decodeAt (text : Bytes)
    : decode text = decodeAt 0 text := by
  rw [decode]
  split
  · rfl
  next absent =>
    have whole := decodeAt_append 0 [] absent
    simpa [decodeAt, Except.map] using whole.symm

/-- A text is decoded exactly if it is put together from pieces, and to what they stand for,
by induction along the decoder.
-/
theorem decodeAt_eq_ok {text result : Bytes} (offset : Nat)
    : decodeAt offset text = .ok result
      ↔ ∃ pieces : List Piece,
          text = pieces.flatMap Piece.source ∧ result = pieces.flatMap Piece.meaning := by
  constructor
  · intro decoded
    fun_induction decodeAt offset text generalizing result with
    | case1 => exact ⟨[], rfl, (Except.ok.inj decoded).symm⟩
    | case2 offset d₁ d₂ d₃ rest digits ih =>
        obtain ⟨others, found, rfl⟩ := except_map_eq_ok.mp decoded
        obtain ⟨pieces, rfl, rfl⟩ := ih found
        simp only [Bool.and_eq_true, and_assoc] at digits
        obtain ⟨n, source, meaning⟩ := exists_code digits
        exact ⟨.code n :: pieces, by simp [source], by simp [meaning]⟩
    | case3 => exact absurd decoded (by simp)
    | case4 => exact absurd decoded (by simp)
    | case5 offset b rest plain ih =>
        obtain ⟨others, found, rfl⟩ := except_map_eq_ok.mp decoded
        obtain ⟨pieces, rfl, rfl⟩ := ih found
        exact ⟨.plain b plain :: pieces, rfl, rfl⟩
  · rintro ⟨pieces, rfl, rfl⟩
    induction pieces generalizing offset with
    | nil => rfl
    | cons piece pieces ih =>
        rw [List.flatMap_cons, List.flatMap_cons]
        cases piece with
        | plain b unmarked =>
            rw [Piece.source, List.singleton_append, decodeAt_plain _ _ unmarked, ih]
            rfl
        | code n =>
            have escape := decodeAt_escape offset (pieces.flatMap Piece.source)
              ⟨isDigit_digitByte (n / 100), isDigit_digitByte (n / 10), isDigit_digitByte n⟩
            rw [ih, charOfDigits_code] at escape
            exact escape

end Escape

-----------------------------------------------------------------------------------------
-- Bytes and runes
-----------------------------------------------------------------------------------------

/-- Whether the rune is a decimal digit. -/
def Rune.IsDigit (r : Rune) : Prop :=
  ∃ c : Char, r = .char c ∧ 0x30 ≤ c.toNat ∧ c.toNat ≤ 0x39

/-- Runes in which every backslash begins an escape of three digits. A stray byte is a rune
like any other.
-/
def escapedRunes : Language Rune :=
  escaped (.char '\\') Rune.IsDigit

/-- The digits among the runes are the digits among the bytes. -/
theorem Rune.isDigit_iff {r : Rune}
    : r.IsDigit ↔ ∃ b : UInt8, isDigit b = true ∧ r = .char (Char.ofNat b.toNat) := by
  constructor
  · rintro ⟨c, rfl, low, high⟩
    have code : (UInt8.ofNat c.toNat).toNat = c.toNat := by
      rw [UInt8.toNat_ofNat']
      omega
    refine ⟨UInt8.ofNat c.toNat, ?_, ?_⟩
    · rw [IppXml.isDigit_iff, code]
      exact ⟨low, high⟩
    · rw [code, Char.ofNat_toNat]
  · rintro ⟨b, digit, rfl⟩
    have bounds := IppXml.isDigit_iff.mp digit
    have code : (Char.ofNat b.toNat).toNat = b.toNat :=
      toNat_ofNat_of_valid (Or.inl (by omega))
    refine ⟨_, rfl, ?_⟩
    rw [code]
    exact bounds

theorem lt_ascii_of_isDigit {b : UInt8} (h : isDigit b = true)
    : b < 0x80 := by
  have bounds := isDigit_iff.mp h
  exact UInt8.lt_iff_toNat_lt.mpr (Nat.lt_of_le_of_lt bounds.2 (by decide))

/-- A digit at the head of the runes is one at the head of the text. -/
theorem exists_of_runes_eq_cons {text : Bytes} {r : Rune} {rs : List Rune}
    (h : runes text = r :: rs) (digitRune : r.IsDigit)
    : ∃ b rest, isDigit b = true ∧ text = b :: rest ∧ runes rest = rs := by
  obtain ⟨b, digit, rfl⟩ := Rune.isDigit_iff.mp digitRune
  have decoded : runes (ofRunes (.char (Char.ofNat b.toNat) :: rs))
      = .char (Char.ofNat b.toNat) :: rs := by
    rw [← h, ofRunes_runes]
  refine ⟨b, ofRunes rs, digit, ?_, runes_ofRunes_tail decoded⟩
  rw [← ofRunes_runes text, h, ofRunes, List.flatMap_cons, Rune.bytes,
    encodeChar_ofNat_byte (lt_ascii_of_isDigit digit)]
  rfl

theorem runes_cons_of_isDigit {b : UInt8} (rest : Bytes) (h : isDigit b = true)
    : ∃ r : Rune, r.IsDigit ∧ runes (b :: rest) = r :: runes rest :=
  ⟨_, Rune.isDigit_iff.mpr ⟨b, h, rfl⟩, runes_cons_ascii (lt_ascii_of_isDigit h) rest⟩

/-- Digits are runes of their own, so a text begins with three of them on either level. -/
theorem beginsWithDigits_runes {text : Bytes}
    : BeginsWithDigits Rune.IsDigit (runes text)
      ↔ BeginsWithDigits (· ∈ Grammar.digits) text := by
  constructor
  · rintro ⟨r₁, r₂, r₃, rs, ⟨digit₁, digit₂, digit₃⟩, decoded⟩
    obtain ⟨d₁, _, first, rfl, decoded₁⟩ := exists_of_runes_eq_cons decoded digit₁
    obtain ⟨d₂, _, second, rfl, decoded₂⟩ := exists_of_runes_eq_cons decoded₁ digit₂
    obtain ⟨d₃, rest, third, rfl, _⟩ := exists_of_runes_eq_cons decoded₂ digit₃
    simp only [← Grammar.mem_digits] at first second third
    exact ⟨d₁, d₂, d₃, rest, ⟨first, second, third⟩, rfl⟩
  · rintro ⟨d₁, d₂, d₃, rest, ⟨first, second, third⟩, rfl⟩
    rw [Grammar.mem_digits] at first second third
    obtain ⟨r₃, digit₃, decoded₃⟩ := runes_cons_of_isDigit rest third
    obtain ⟨r₂, digit₂, decoded₂⟩ := runes_cons_of_isDigit (d₃ :: rest) second
    obtain ⟨r₁, digit₁, decoded₁⟩ := runes_cons_of_isDigit (d₂ :: d₃ :: rest) first
    refine ⟨r₁, r₂, r₃, runes rest, ⟨digit₁, digit₂, digit₃⟩, ?_⟩
    rw [decoded₁, decoded₂, decoded₃]

theorem backslash_mem_encodeChar {c : Char}
    : backslash ∈ String.utf8EncodeChar c ↔ c = '\\' := by
  have alone := runes_encodeChar_append c []
  rw [List.append_nil] at alone
  rw [mem_iff_char_mem_runes (by decide), alone, runes_nil, List.mem_singleton, Rune.char.injEq]
  exact eq_comm

/-- The pattern on runes asks for the same as the one on bytes, by induction over the runes:
behind a backslash both ask for three digits, and no other rune has a backslash among its
bytes.
-/
theorem runes_mem_escapedRunes {text : Bytes}
    : runes text ∈ escapedRunes ↔ text ∈ Grammar.escapedTexts := by
  have digitBytes : ∀ b, b ∈ Grammar.digits → b ≠ backslash := by
    rintro b member rfl
    exact absurd member (by decide)
  have digitRunes : ∀ r : Rune, r.IsDigit → r ≠ .char '\\' := by
    rintro r ⟨c, rfl, _, high⟩ same
    rw [Rune.char.inj same] at high
    exact absurd high (by decide)
  induction text using runesInduction with
  | nil => exact iff_of_true nil_mem_escaped nil_mem_escaped
  | char c rest ih =>
      have same : runes rest ∈ escapedRunes ↔ rest ∈ Grammar.escapedTexts := ih
      rw [runes_encodeChar_append, escapedRunes, cons_mem_escaped digitRunes,
        ← escapedRunes, same, beginsWithDigits_runes, Grammar.escapedTexts]
      by_cases marked : c = '\\'
      · subst marked
        change _ ↔ backslash :: rest ∈ _
        rw [cons_mem_escaped digitBytes]
        simp
      · rw [append_mem_escaped (mt backslash_mem_encodeChar.mp marked)]
        simp [marked]
  | stray b rest stray ih =>
      have plain : b ≠ backslash := by
        rintro rfl
        exact stray '\\' ⟨rest, rfl⟩
      have same : runes rest ∈ escapedRunes ↔ rest ∈ Grammar.escapedTexts := ih
      rw [runes_cons_of_isStray stray, escapedRunes, cons_mem_escaped digitRunes,
        ← escapedRunes, same, Grammar.escapedTexts, cons_mem_escaped digitBytes]
      simp [plain]

-----------------------------------------------------------------------------------------
-- Decoded texts
-----------------------------------------------------------------------------------------

namespace Escape

theorem isEscaped_plain {b : UInt8} {rest : Bytes} (h : b ≠ backslash)
    : isEscaped (b :: rest) = isEscaped rest := by
  rw [Token.isEscaped.eq_def]
  exact if_neg h

/-- The decoder accepts what the lexer accepts, by induction along the decoder. -/
theorem exists_decodeAt {text : Bytes} (offset : Nat)
    : (∃ result, decodeAt offset text = .ok result) ↔ isEscaped text = true := by
  have mapped {x : Except EscapeFault Bytes} {f : Bytes → Bytes}
      : (∃ result, x.map f = .ok result) ↔ ∃ result, x = .ok result := by
    cases x <;> simp [Except.map]
  fun_induction decodeAt offset text with
  | case1 => simp [isEscaped]
  | case2 offset d₁ d₂ d₃ rest digits ih =>
      refine mapped.trans (ih.trans ?_)
      simp [isEscaped, digits]
  | case3 offset d₁ d₂ d₃ rest digits =>
      simp [isEscaped, digits]
  | case4 offset rest short =>
      simp [isEscaped]
  | case5 offset b rest plain ih =>
      refine mapped.trans (ih.trans ?_)
      rw [← isEscaped_plain plain]

theorem isUtf8_encodeChar_append (c : Char) (rest : Bytes)
    : isUtf8 (String.utf8EncodeChar c ++ rest) = isUtf8 rest := by
  rw [isUtf8, runes_encodeChar_append]
  rfl

theorem isUtf8_cons_of_isDigit {b : UInt8} (rest : Bytes) (h : isDigit b = true)
    : isUtf8 (b :: rest) = isUtf8 rest := by
  have encoded := isUtf8_encodeChar_append (Char.ofNat b.toNat) rest
  rwa [encodeChar_ofNat_byte (lt_ascii_of_isDigit h)] at encoded

/-- What a text that begins with a backslash is decoded to. -/
theorem decodeAt_backslash {offset : Nat} {rest result : Bytes}
    (h : decodeAt offset (backslash :: rest) = .ok result)
    : ∃ d₁ d₂ d₃ more others,
        (isDigit d₁ = true ∧ isDigit d₂ = true ∧ isDigit d₃ = true)
        ∧ rest = d₁ :: d₂ :: d₃ :: more
        ∧ decodeAt (offset + 4) more = .ok others
        ∧ result = charOfDigits d₁ d₂ d₃ ++ others := by
  obtain ⟨pieces, written, rfl⟩ := (decodeAt_eq_ok offset).mp h
  cases pieces with
  | nil => exact absurd written (by simp)
  | cons piece pieces =>
      cases piece with
      | plain b unmarked => exact absurd (List.cons.inj written).1.symm unmarked
      | code n =>
          obtain ⟨_, rfl⟩ := List.cons.inj written
          have digits := And.intro (isDigit_digitByte (n / 100))
            (And.intro (isDigit_digitByte (n / 10)) (isDigit_digitByte n))
          refine ⟨_, _, _, _, _, digits, rfl, (decodeAt_eq_ok _).mpr ⟨pieces, rfl, rfl⟩, ?_⟩
          rw [charOfDigits_code]
          rfl

/-- Decoding keeps UTF-8, by induction over the runes. Behind a backslash the induction is at
the digits, and these are kept by the decoder in front of what follows them.
-/
theorem isUtf8_of_decodeAt {offset : Nat} {text result : Bytes}
    (h : decodeAt offset text = .ok result) (valid : isUtf8 text = true)
    : isUtf8 result = true := by
  induction text using runesInduction generalizing offset result with
  | nil =>
      cases h
      rfl
  | char c rest ih =>
      rw [isUtf8_encodeChar_append] at valid
      by_cases marked : c = '\\'
      · subst marked
        obtain ⟨d₁, d₂, d₃, more, others, digits, rfl, decoded, rfl⟩ := decodeAt_backslash h
        obtain ⟨first, second, third⟩ := digits
        have kept : decodeAt (offset + 1) (d₁ :: d₂ :: d₃ :: more)
            = .ok (d₁ :: d₂ :: d₃ :: others) := by
          have plain {d : UInt8} (digit : isDigit d = true) : d ≠ backslash := by
            rintro rfl
            exact Bool.noConfusion digit
          rw [decodeAt_plain _ _ (plain first), decodeAt_plain _ _ (plain second),
            decodeAt_plain _ _ (plain third), decoded]
          rfl
        have followed := ih kept valid
        rw [isUtf8_cons_of_isDigit _ first, isUtf8_cons_of_isDigit _ second,
          isUtf8_cons_of_isDigit _ third] at followed
        rwa [charOfDigits, isUtf8_encodeChar_append]
      · rw [decodeAt_append _ _ (mt backslash_mem_encodeChar.mp marked)] at h
        obtain ⟨others, decoded, rfl⟩ := except_map_eq_ok.mp h
        rw [isUtf8_encodeChar_append]
        exact ih decoded valid
  | stray b rest stray ih =>
      rw [isUtf8, runes_cons_of_isStray stray] at valid
      exact Bool.noConfusion valid

/-- The decoder and the lexer agree on escapes. A text is decoded exactly if the lexer finds it
escaped, which is the pattern on its runes and on its bytes; the result is what the pieces of
the text stand for; it is UTF-8 if the text is; and the value of a valid argument of type
`string` is always decoded.
-/
theorem decode_agrees_with_lexer (text : Bytes)
    : ((∃ result, decode text = .ok result) ↔ isEscaped text = true)
      ∧ (isEscaped text = true ↔ runes text ∈ escapedRunes)
      ∧ (isEscaped text = true ↔ text ∈ Grammar.escapedTexts)
      ∧ (∀ result,
          decode text = .ok result
          ↔ ∃ pieces : List Piece,
              text = pieces.flatMap Piece.source ∧ result = pieces.flatMap Piece.meaning)
      ∧ (∀ result, decode text = .ok result → isUtf8 text = true → isUtf8 result = true)
      ∧ (∀ a : Argument,
          a.type = "string"
          → a.isValid = true
          → ∃ result, decode a.value = .ok result) := by
  simp only [decode_eq_decodeAt]
  refine ⟨exists_decodeAt 0, ?_, Grammar.mem_escapedTexts.symm, fun _ => decodeAt_eq_ok 0,
    fun _ decoded valid => isUtf8_of_decodeAt decoded valid, ?_⟩
  · rw [runes_mem_escapedRunes, Grammar.mem_escapedTexts]
  · rintro ⟨position, _, value⟩ rfl valid
    have admitted := (Argument.isValid_mk position .string value).symm.trans valid
    exact (exists_decodeAt 0).mpr (Bool.and_eq_true_iff.mp admitted).1

/-- An argument with an escape of a character that takes two bytes, behind another such
character.
-/
def caronArgument : Argument :=
  { position := 2, type := "string", value := "ž\\353#" }

theorem decode_agrees_with_lexer_caron
    : decode caronArgument.value = .ok "žš#"
      ∧ isUtf8 caronArgument.value = true
      ∧ isUtf8 "žš#" = true
      ∧ caronArgument.isValid = true
      ∧ ∃ result, decode caronArgument.value = .ok result := by
  have decoded : decode caronArgument.value = .ok "žš#" := by decide +kernel
  have valid : isUtf8 caronArgument.value = true := by decide +kernel
  have argument : caronArgument.isValid = true := by decide +kernel
  obtain ⟨_, _, _, _, keeps, total⟩ := decode_agrees_with_lexer caronArgument.value
  exact ⟨decoded, valid, keeps _ decoded valid, argument, total caronArgument rfl argument⟩

end Escape

end IppXml
