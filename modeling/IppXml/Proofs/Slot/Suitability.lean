import IppXml.Proofs.Instruction.Printing

/-! Slots and the types of arguments that suit them.

A slot says which tokens it accepts, and a type says which values it admits. Both describe the
same arguments: a token that a slot accepts is that of a valid argument whose type suits the
slot, and a valid argument has a token that every slot accepts which its type suits. In either
direction nothing is lost, although a label may be spelled like a type name and a value may
hold at signs.
-/

namespace IppXml

open Token

-----------------------------------------------------------------------------------------
-- Types that suit a slot
-----------------------------------------------------------------------------------------

/-- The types that arguments in a slot can have. -/
def Slot.types : Slot → List ArgType
  | var => [.var]
  | symb => [.var, .int, .bool, .string, .nil]
  | label => [.label]
  | type => [.type]
  | unknown => []

/-- Whether arguments of the type, as it is written in documents, suit the slot. -/
def Slot.suits (slot : Slot) (type : Bytes) : Bool :=
  slot.types.any (·.name = type)

theorem ArgType.name_injective
    : Function.Injective ArgType.name := by
  intro t u same
  have found := ArgType.ofName?_name t
  rw [same, ArgType.ofName?_name] at found
  exact (Option.some.inj found).symm

theorem Slot.suits_name {slot : Slot} {t : ArgType}
    : slot.suits t.name = true ↔ t ∈ slot.types := by
  rw [Slot.suits, List.any_eq_true]
  constructor
  · intro given
    obtain ⟨u, listed, same⟩ := given
    rw [← ArgType.name_injective (of_decide_eq_true same)]
    exact listed
  · intro listed
    exact ⟨t, listed, decide_eq_true rfl⟩

/-- Every type suits a slot. -/
theorem ArgType.exists_mem_types (t : ArgType)
    : ∃ slot ∈ [Slot.var, .symb, .label, .type], t ∈ slot.types := by
  cases t <;> decide

theorem mem_types_symb {t : ArgType} (h : t.isConstant = true)
    : t ∈ Slot.symb.types := by
  cases t with
  | var | label | type => exact Bool.noConfusion h
  | int | bool | string | nil => decide

-----------------------------------------------------------------------------------------
-- From tokens to arguments
-----------------------------------------------------------------------------------------

theorem Slot.resolve_of_isLabel {token : Bytes} (h : isLabel token = true)
    : Slot.label.resolve token = (.label, token) := by
  simp [Slot.resolve, Bytes.cutAt?_eq_none (atSign_not_mem_of_isLabel h), Slot.bareType]

theorem Slot.resolve_of_isTypeName {token : Bytes} (h : isTypeName token = true)
    : Slot.type.resolve token = (.type, token) := by
  simp [Slot.resolve, Bytes.cutAt?_eq_none (atSign_not_mem_of_isTypeName h), Slot.bareType, h]

/-- A token that fills a slot is resolved to a type that suits the slot. -/
theorem Slot.mem_types_resolve {slot : Slot} {token : Bytes} (h : slot.accepts token = true)
    : (slot.resolve token).1 ∈ slot.types := by
  cases slot with
  | var =>
      rw [resolve_of_isVariable (classify_eq_var.mp (of_decide_eq_true h))]
      simp [Slot.types]
  | symb =>
      rw [Slot.accepts, Bool.or_eq_true, decide_eq_true_eq, decide_eq_true_eq] at h
      rcases h with var | constant
      · rw [resolve_of_isVariable (classify_eq_var.mp var)]
        simp [Slot.types]
      · obtain ⟨t, value, cut, known, _⟩ := exists_of_isConstant (isConstant_of_classify constant)
        rw [resolve_of_cutAt? cut known]
        exact mem_types_symb known
  | label =>
      rw [Slot.resolve_of_isLabel h]
      simp [Slot.types]
  | type =>
      rw [Slot.resolve_of_isTypeName (isTypeName_of_classify (of_decide_eq_true h))]
      simp [Slot.types]
  | unknown => exact Bool.noConfusion h

-----------------------------------------------------------------------------------------
-- From arguments to tokens
-----------------------------------------------------------------------------------------

theorem classify_of_isTypeName {token : Bytes} (h : isTypeName token = true)
    : classify token = .typeName := by
  have bare := Bytes.cutAt?_eq_none (atSign_not_mem_of_isTypeName h)
  simp [classify, isVariable, Token.isConstant, bare, h]

/-- Behind the name of a type with constants, what the type admits makes a constant. It is no
variable, because the name of a type is no frame.
-/
theorem classify_constant {t : ArgType} {value : Bytes} (constant : t.isConstant = true)
    (admitted : t.admits value = true)
    : classify (t.name ++ "@" ++ value) = .constant := by
  have frame : isFrame t.name = false := by
    cases t with
    | var | label | type => exact Bool.noConfusion constant
    | int | bool | string | nil => decide
  have variableToken : isVariable (t.name ++ "@" ++ value) = false := by
    rw [isVariable, cutAt?_name_append t value]
    simp [frame]
  rw [classify, variableToken, isConstant_append value constant, admitted]
  rfl

/-- The token of a valid argument fills every slot that its type suits, and is resolved to the
argument's type and value, by cases over the types.
-/
theorem Slot.accepts_token {slot : Slot} {t : ArgType} {value : Bytes} (position : Int)
    (suited : t ∈ slot.types) (admitted : t.admits value = true)
    : slot.accepts (Argument.token { position, type := t.name, value }) = true
      ∧ slot.resolve (Argument.token { position, type := t.name, value }) = (t, value) := by
  rw [Argument.token_mk]
  cases t with
  | var =>
      have kind : classify value = .var := classify_eq_var.mpr admitted
      refine ⟨?_, resolve_of_isVariable admitted⟩
      cases slot with
      | var | symb => simp [Slot.accepts, ArgType.isConstant, kind]
      | label | type | unknown => simp [Slot.types] at suited
  | int | bool | string | nil =>
      refine ⟨?_, resolve_of_cutAt? (cutAt?_name_append _ value) rfl⟩
      cases slot with
      | symb => simpa [Slot.accepts, ArgType.isConstant] using Or.inr (classify_constant rfl admitted)
      | var | label | type | unknown => simp [Slot.types] at suited
  | label =>
      cases slot with
      | label => exact ⟨admitted, Slot.resolve_of_isLabel admitted⟩
      | var | symb | type | unknown => simp [Slot.types] at suited
  | type =>
      cases slot with
      | type =>
          exact ⟨decide_eq_true (classify_of_isTypeName admitted),
            Slot.resolve_of_isTypeName admitted⟩
      | var | symb | label | unknown => simp [Slot.types] at suited

/-- Tokens and valid arguments correspond to each other. A token that fills a slot is that of
the argument it is resolved to, which is valid, can be carried by a document and is of a type
that suits the slot. A valid argument is of a type that suits one of the four slots, and in
each slot that its type suits its token is accepted and resolved to its type and its value.
-/
theorem Slot.tokens_correspond (slot : Slot) (position : Nat) (token : Bytes) (a : Argument)
    : (slot.accepts token = true
        → (slot.argument position token).isValid = true
          ∧ (slot.argument position token).token = token
          ∧ isXmlText (slot.argument position token).value = true
          ∧ slot.suits (slot.argument position token).type = true)
      ∧ (a.isValid = true
        → (∃ other ∈ [Slot.var, .symb, .label, .type], other.suits a.type = true)
          ∧ (slot.suits a.type = true
            → slot.accepts a.token = true
              ∧ (slot.resolve a.token).1.name = a.type
              ∧ (slot.resolve a.token).2 = a.value)) := by
  constructor
  · intro accepted
    have valid := Slot.isValid_argument position accepted
    exact ⟨valid, slot.token_argument position token, (Argument.isXmlText_of_isValid valid).2,
      Slot.suits_name.mpr (Slot.mem_types_resolve accepted)⟩
  · intro valid
    obtain ⟨t, named, admitted⟩ := Argument.isValid_iff.mp valid
    obtain ⟨place, type, value⟩ := a
    subst named
    obtain ⟨suitable, listed, suited⟩ := t.exists_mem_types
    refine ⟨⟨suitable, listed, Slot.suits_name.mpr suited⟩, ?_⟩
    intro suits
    obtain ⟨accepted, resolved⟩ :=
      Slot.accepts_token place (Slot.suits_name.mp suits) admitted
    exact ⟨accepted, by rw [resolved], by rw [resolved]⟩

/-- A label that is spelled like the name of a type stays a label. -/
theorem Slot.tokens_correspond_typeNameLabel
    : Slot.label.accepts "int" = true
      ∧ Slot.label.suits (Slot.label.argument 1 "int").type = true
      ∧ Argument.isValid ⟨1, "label", "int"⟩ = true
      ∧ (Slot.label.resolve (Argument.token ⟨1, "label", "int"⟩)).1.name = "label" := by
  have accepted : Slot.label.accepts "int" = true := by decide
  have valid : Argument.isValid ⟨1, "label", "int"⟩ = true := by decide
  have suits : Slot.label.suits "label" = true := by decide
  obtain ⟨forward, backward⟩ := Slot.tokens_correspond .label 1 "int" ⟨1, "label", "int"⟩
  exact ⟨accepted, (forward accepted).2.2.2, valid, ((backward valid).2 suits).2.1⟩

end IppXml
