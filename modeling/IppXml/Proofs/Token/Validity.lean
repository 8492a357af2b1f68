import IppXml.Instruction
import IppXml.Proofs.Text.XmlText

/-! Which values the arguments of a type may have, and the tokens they come from.

`ArgType.admits` states the grammar of values type by type. An argument is valid exactly if
its type is known and admits its value; the values that types admit can be carried by a
document; and a token that fills a slot is resolved to a valid argument.
-/

namespace IppXml

open Token

-----------------------------------------------------------------------------------------
-- Types and their values
-----------------------------------------------------------------------------------------

/-- The values that arguments of the type may have. -/
def ArgType.admits : ArgType → Bytes → Bool
  | var, value => isVariable value
  | int, value => isIntegerLiteral value
  | bool, value => value = "true" || value = "false"
  | string, value => isStringLiteral value
  | nil, value => value = "nil"
  | label, value => isLabel value
  | type, value => isTypeName value

@[simp] theorem ArgType.ofName?_name (t : ArgType)
    : ArgType.ofName? t.name = some t := by
  cases t <;> decide

theorem ArgType.name_of_ofName? {text : Bytes} {t : ArgType} (h : ArgType.ofName? text = some t)
    : text = t.name := by
  have named := List.find?_some h
  exact (of_decide_eq_true named).symm

theorem classify_eq_var {token : Bytes}
    : classify token = .var ↔ isVariable token = true := by
  grind [classify]

theorem atSign_not_mem_name (t : ArgType)
    : atSign ∉ t.name := by
  cases t <;> decide

theorem cutAt?_name_append (t : ArgType) (value : Bytes)
    : (t.name ++ "@" ++ value).cutAt? atSign = some (t.name, value) := by
  rw [List.append_assoc]
  exact Bytes.cutAt?_append value (atSign_not_mem_name t)

/-- A type, the at sign and a value are a constant if the type has constants and admits the
value.
-/
theorem isConstant_append {t : ArgType} (value : Bytes) (h : t.isConstant = true)
    : Token.isConstant (t.name ++ "@" ++ value) = t.admits value := by
  rw [Token.isConstant, cutAt?_name_append]
  cases t with
  | var | label | type => exact Bool.noConfusion h
  | int | bool | string | nil => rfl

/-- An argument of a known type is valid exactly if the type admits its value. -/
theorem Argument.isValid_mk (position : Int) (t : ArgType) (value : Bytes)
    : Argument.isValid { position, type := t.name, value } = t.admits value := by
  cases t with
  | var => simp [Argument.isValid, ArgType.admits, classify_eq_var]
  | label | type => simp [Argument.isValid, ArgType.admits]
  | int | bool | string | nil =>
      simp only [Argument.isValid, Argument.token, ArgType.ofName?_name]
      exact isConstant_append value rfl

theorem Argument.isValid_iff {a : Argument}
    : a.isValid = true ↔ ∃ t : ArgType, a.type = t.name ∧ t.admits a.value = true := by
  constructor
  · intro valid
    cases known : ArgType.ofName? a.type with
    | none => simp [Argument.isValid, known] at valid
    | some t =>
        have named := ArgType.name_of_ofName? known
        refine ⟨t, named, ?_⟩
        rw [← Argument.isValid_mk a.position t a.value, ← named]
        exact valid
  · intro given
    obtain ⟨t, named, admitted⟩ := given
    rw [← Argument.isValid_mk a.position t a.value, ← named] at admitted
    exact admitted

-----------------------------------------------------------------------------------------
-- Values can be carried
-----------------------------------------------------------------------------------------

/-- Whether the byte is printable ASCII other than the space. -/
def isVisible (b : UInt8) : Bool :=
  0x21 ≤ b && b ≤ 0x7E

theorem isXmlText_of_isVisible {text : Bytes} (h : ∀ b ∈ text, isVisible b = true)
    : isXmlText text = true := by
  refine isXmlText_ascii ?_
  intro b member
  have visible := h b member
  simp only [isVisible, Bool.and_eq_true, decide_eq_true_eq, UInt8.le_iff_toNat_le,
    UInt8.lt_iff_toNat_lt, UInt8.reduceToNat] at visible ⊢
  omega

theorem isVisible_of_isDigit {b : UInt8} (h : isDigit b = true)
    : isVisible b = true := by
  simp only [isDigit, isVisible, Bool.and_eq_true, decide_eq_true_eq, UInt8.le_iff_toNat_le,
    UInt8.reduceToNat] at h ⊢
  omega

theorem isVisible_of_isHexDigit {b : UInt8} (h : isHexDigit b = true)
    : isVisible b = true := by
  simp only [isHexDigit, isDigit, isVisible, Bool.or_eq_true, Bool.and_eq_true,
    decide_eq_true_eq, UInt8.le_iff_toNat_le, UInt8.reduceToNat] at h ⊢
  omega

theorem isVisible_of_isOctalDigit {b : UInt8} (h : isOctalDigit b = true)
    : isVisible b = true := by
  simp only [isOctalDigit, isVisible, Bool.and_eq_true, decide_eq_true_eq,
    UInt8.le_iff_toNat_le, UInt8.reduceToNat] at h ⊢
  omega

theorem isVisible_of_isLabelLetter {b : UInt8} (h : isLabelLetter b = true)
    : isVisible b = true := by
  simp only [isLabelLetter, isLetter, isSign, isVisible, Bool.or_eq_true, Bool.and_eq_true,
    decide_eq_true_eq, UInt8.le_iff_toNat_le, ← UInt8.toNat_inj, UInt8.reduceToNat] at h ⊢
  omega

theorem isLabelLetter_of_isVariableLetter {b : UInt8} (h : isVariableLetter b = true)
    : isLabelLetter b = true := by
  rw [isLabelLetter, Bool.or_eq_true]
  exact Or.inl h

/-- The bytes of an identifier are letters of its alphabet and digits. -/
theorem mem_identifier {letter : UInt8 → Bool} {text : Bytes} {b : UInt8}
    (h : isIdentifier letter text = true) (member : b ∈ text)
    : letter b = true ∨ isDigit b = true := by
  cases text with
  | nil => exact absurd member List.not_mem_nil
  | cons first rest =>
      simp only [isIdentifier, Bool.and_eq_true, List.all_eq_true, Bool.or_eq_true] at h
      rcases List.mem_cons.mp member with rfl | later
      · exact Or.inl h.1
      · exact h.2 b later

theorem isVisible_of_isLabel {text : Bytes} (h : isLabel text = true)
    : ∀ b ∈ text, isVisible b = true := by
  intro b member
  rcases mem_identifier h member with letter | digit
  · exact isVisible_of_isLabelLetter letter
  · exact isVisible_of_isDigit digit

theorem isVisible_of_isFrame {text : Bytes} (h : isFrame text = true)
    : ∀ b ∈ text, isVisible b = true := by
  simp only [isFrame, Bool.or_eq_true, decide_eq_true_eq] at h
  rcases h with (rfl | rfl) | rfl <;> exact List.all_eq_true.mp (by decide)

theorem isVisible_of_isTypeName {text : Bytes} (h : isTypeName text = true)
    : ∀ b ∈ text, isVisible b = true := by
  simp only [isTypeName, Bool.or_eq_true, decide_eq_true_eq] at h
  rcases h with ((rfl | rfl) | rfl) | rfl <;> exact List.all_eq_true.mp (by decide)

theorem isVisible_of_isVariable {token : Bytes} (h : isVariable token = true)
    : ∀ b ∈ token, isVisible b = true := by
  rw [isVariable] at h
  split at h
  · next frame name cut =>
      obtain ⟨rfl, _⟩ := Bytes.cutAt?_eq_some cut
      rw [Bool.and_eq_true] at h
      intro b member
      rcases List.mem_append.mp member with inFrame | behind
      · exact isVisible_of_isFrame h.1 b inFrame
      rcases List.mem_cons.mp behind with rfl | inName
      · decide
      rcases mem_identifier h.2 inName with letter | digit
      · exact isVisible_of_isLabelLetter (isLabelLetter_of_isVariableLetter letter)
      · exact isVisible_of_isDigit digit
  · exact Bool.noConfusion h

theorem isVisible_of_isNumeral {digit : UInt8 → Bool} {text : Bytes}
    (visible : ∀ {b}, digit b = true → isVisible b = true) (h : isNumeral digit text = true)
    : ∀ b ∈ text, isVisible b = true := by
  rw [isNumeral, Bool.and_eq_true, List.all_eq_true] at h
  exact fun b member => visible (h.2 b member)

theorem isVisible_of_isDecimalLiteral {text : Bytes} (h : isDecimalLiteral text = true)
    : ∀ b ∈ text, isVisible b = true := by
  have digits := isVisible_of_isNumeral isVisible_of_isDigit h
  cases text with
  | nil => exact fun b member => absurd member List.not_mem_nil
  | cons first rest =>
      rw [splitSign] at digits
      rw [List.forall_mem_cons]
      split at digits
      · next minus =>
          rw [minus]
          exact ⟨by decide, digits⟩
      split at digits
      · next plus =>
          rw [plus]
          exact ⟨by decide, digits⟩
      · exact List.forall_mem_cons.mp digits

theorem isVisible_of_isMarkedLiteral {mark : UInt8} {digit : UInt8 → Bool} {text : Bytes}
    (visible : ∀ {b}, digit b = true → isVisible b = true)
    (marks : isVisible mark = true ∧ isVisible (mark - 0x20) = true)
    (h : isMarkedLiteral mark digit text = true)
    : ∀ b ∈ text, isVisible b = true := by
  rw [isMarkedLiteral.eq_def] at h
  split at h
  · next zero m digits =>
      simp only [Bool.and_eq_true, Bool.or_eq_true, decide_eq_true_eq] at h
      obtain ⟨⟨rfl, marked⟩, numeral⟩ := h
      rw [List.forall_mem_cons, List.forall_mem_cons]
      refine ⟨by decide, ?_, isVisible_of_isNumeral visible numeral⟩
      rcases marked with rfl | rfl
      · exact marks.1
      · exact marks.2
  · exact Bool.noConfusion h

theorem isVisible_of_isIntegerLiteral {text : Bytes} (h : isIntegerLiteral text = true)
    : ∀ b ∈ text, isVisible b = true := by
  rw [isIntegerLiteral, Bool.or_eq_true, Bool.or_eq_true] at h
  rcases h with (decimal | hexadecimal) | octal
  · exact isVisible_of_isDecimalLiteral decimal
  · exact isVisible_of_isMarkedLiteral isVisible_of_isHexDigit (by decide) hexadecimal
  · exact isVisible_of_isMarkedLiteral isVisible_of_isOctalDigit (by decide) octal

/-- What a type admits can be carried by a document. String constants are checked for it;
all other values are visible ASCII.
-/
theorem isXmlText_of_admits {t : ArgType} {value : Bytes} (h : t.admits value = true)
    : isXmlText value = true := by
  cases t with
  | var => exact isXmlText_of_isVisible (isVisible_of_isVariable h)
  | int => exact isXmlText_of_isVisible (isVisible_of_isIntegerLiteral h)
  | bool =>
      simp only [ArgType.admits, Bool.or_eq_true, decide_eq_true_eq] at h
      rcases h with rfl | rfl <;> decide
  | string => exact (Bool.and_eq_true_iff.mp h).2
  | nil =>
      rw [of_decide_eq_true h]
      decide
  | label => exact isXmlText_of_isVisible (isVisible_of_isLabel h)
  | type => exact isXmlText_of_isVisible (isVisible_of_isTypeName h)

/-- The type and the value of a valid argument can be carried by a document. -/
theorem Argument.isXmlText_of_isValid {a : Argument} (h : a.isValid = true)
    : isXmlText a.type = true ∧ isXmlText a.value = true := by
  obtain ⟨t, named, admitted⟩ := Argument.isValid_iff.mp h
  refine ⟨?_, isXmlText_of_admits admitted⟩
  rw [named]
  cases t <;> decide

-----------------------------------------------------------------------------------------
-- Tokens in slots
-----------------------------------------------------------------------------------------

theorem atSign_not_mem_of_isLabel {token : Bytes} (h : isLabel token = true)
    : atSign ∉ token := by
  intro member
  rcases mem_identifier h member with letter | digit
  · exact absurd letter (by decide)
  · exact absurd digit (by decide)

theorem atSign_not_mem_of_isTypeName {token : Bytes} (h : isTypeName token = true)
    : atSign ∉ token := by
  simp only [isTypeName, Bool.or_eq_true, decide_eq_true_eq] at h
  rcases h with ((rfl | rfl) | rfl) | rfl <;> decide

theorem isConstant_of_classify {token : Bytes} (h : classify token = .constant)
    : Token.isConstant token = true := by
  grind [classify]

theorem isTypeName_of_classify {token : Bytes} (h : classify token = .typeName)
    : isTypeName token = true := by
  grind [classify]

/-- A constant is the name of its type, the at sign and a value that the type admits. -/
theorem exists_of_isConstant {token : Bytes} (h : Token.isConstant token = true)
    : ∃ t : ArgType, ∃ value,
        token.cutAt? atSign = some (t.name, value)
        ∧ t.isConstant = true
        ∧ t.admits value = true := by
  rw [Token.isConstant] at h
  split at h
  · next type value cut =>
      split at h
      · next integer =>
          subst integer
          exact ⟨.int, value, cut, rfl, h⟩
      split at h
      · next boolean =>
          subst boolean
          exact ⟨.bool, value, cut, rfl, h⟩
      split at h
      · next text =>
          subst text
          exact ⟨.string, value, cut, rfl, h⟩
      · rw [Bool.and_eq_true, decide_eq_true_eq, decide_eq_true_eq] at h
        obtain ⟨rfl, rfl⟩ := h
        exact ⟨.nil, _, cut, rfl, by decide⟩
  · exact Bool.noConfusion h

theorem resolve_of_isVariable {slot : Slot} {token : Bytes} (h : isVariable token = true)
    : slot.resolve token = (.var, token) := by
  rw [isVariable] at h
  split at h
  · next frame name cut => simp [Slot.resolve, cut, (Bool.and_eq_true_iff.mp h).1]
  · exact Bool.noConfusion h

theorem resolve_of_cutAt? {slot : Slot} {token value : Bytes} {t : ArgType}
    (cut : token.cutAt? atSign = some (t.name, value)) (h : t.isConstant = true)
    : slot.resolve token = (t, value) := by
  have kind : isFrame t.name = false ∧ isTypeName t.name = true := by
    cases t with
    | var | label | type => exact Bool.noConfusion h
    | int | bool | string | nil => decide
  simp [Slot.resolve, cut, kind]

/-- The value of a token is the token or what follows an at sign in it. -/
theorem Slot.resolve_value (slot : Slot) (token : Bytes)
    : (slot.resolve token).2 = token
      ∨ ∃ before, token = before ++ atSign :: (slot.resolve token).2 := by
  rw [Slot.resolve]
  split
  · next before after cut =>
      split
      · exact Or.inl rfl
      split
      · exact Or.inr ⟨before, (Bytes.cutAt?_eq_some cut).1⟩
      · exact Or.inl rfl
  · exact Or.inl rfl

/-- A token that fills a slot is resolved to a type that admits its value. -/
theorem Slot.admits_resolve {slot : Slot} {token : Bytes} (h : slot.accepts token = true)
    : (slot.resolve token).1.admits (slot.resolve token).2 = true := by
  cases slot with
  | var =>
      have variableToken := classify_eq_var.mp (of_decide_eq_true h)
      rw [resolve_of_isVariable variableToken]
      exact variableToken
  | symb =>
      rw [Slot.accepts, Bool.or_eq_true, decide_eq_true_eq, decide_eq_true_eq] at h
      rcases h with var | constant
      · have variableToken := classify_eq_var.mp var
        rw [resolve_of_isVariable variableToken]
        exact variableToken
      · obtain ⟨t, value, cut, known, admitted⟩ :=
          exists_of_isConstant (isConstant_of_classify constant)
        rw [resolve_of_cutAt? cut known]
        exact admitted
  | label =>
      have bare := Bytes.cutAt?_eq_none (atSign_not_mem_of_isLabel h)
      simp only [Slot.resolve, bare, Slot.bareType]
      exact h
  | type =>
      have named := isTypeName_of_classify (of_decide_eq_true h)
      have bare := Bytes.cutAt?_eq_none (atSign_not_mem_of_isTypeName named)
      simp only [Slot.resolve, bare, Slot.bareType, named]
      exact named
  | unknown => exact Bool.noConfusion h

end IppXml
