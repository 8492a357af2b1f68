import IppXml.Proofs.Instruction.Spelling
import IppXml.Proofs.Text.Tokens

/-! Instructions as tokens again.

The argument of a token has that token, whatever the slot is. So the tokens of an
instruction are those it was spelled with, its opcode in upper case, and they spell the same
instruction.
-/

namespace IppXml

open Token

-----------------------------------------------------------------------------------------
-- Tokens of arguments
-----------------------------------------------------------------------------------------

theorem Argument.token_mk (position : Int) (t : ArgType) (value : Bytes)
    : Argument.token { position, type := t.name, value }
      = if t.isConstant then t.name ++ "@" ++ value else value := by
  simp [Argument.token]

/-- A type name is the name of a type that has constants. -/
theorem ofName?_of_isTypeName {text : Bytes} (h : isTypeName text = true)
    : ∃ t : ArgType, ArgType.ofName? text = some t ∧ t.isConstant = true := by
  simp only [isTypeName, Bool.or_eq_true, decide_eq_true_eq] at h
  rcases h with ((rfl | rfl) | rfl) | rfl
  · exact ⟨.int, by decide, rfl⟩
  · exact ⟨.bool, by decide, rfl⟩
  · exact ⟨.string, by decide, rfl⟩
  · exact ⟨.nil, by decide, rfl⟩

theorem Slot.isConstant_bareType (slot : Slot) (token : Bytes)
    : (slot.bareType token).isConstant = false := by
  rw [Slot.bareType]
  split <;> rfl

/-- The argument that a token is in a slot has that token. A constant is cut at its first at
sign, where its type and its value are put together again; all else is kept whole.
-/
theorem Slot.token_argument (slot : Slot) (position : Nat) (token : Bytes)
    : (slot.argument position token).token = token := by
  rw [Slot.argument, Argument.token_mk, Slot.resolve]
  cases cut : token.cutAt? atSign with
  | none => simp [Slot.isConstant_bareType]
  | some parts =>
      obtain ⟨before, after⟩ := parts
      dsimp only
      split
      · rfl
      split
      · next typed =>
          obtain ⟨t, known, constant⟩ := ofName?_of_isTypeName typed
          have named := ArgType.name_of_ofName? known
          obtain ⟨whole, _⟩ := Bytes.cutAt?_eq_some cut
          have sign : utf8 "@" = [atSign] := rfl
          simp [constant, whole, named, sign]
      · simp [Slot.isConstant_bareType]

theorem map_token_slotArguments {position : Nat} {slots : List Slot} {tokens : List Bytes}
    (h : tokens.length = slots.length)
    : (slotArguments position slots tokens).map Argument.token = tokens := by
  refine List.ext_getElem (by simp [length_slotArguments h, h]) ?_
  intro k low high
  simp [slotArguments, Slot.token_argument]

-----------------------------------------------------------------------------------------
-- Tokens of instructions
-----------------------------------------------------------------------------------------

/-- The tokens with the first of them, the opcode, in upper case. -/
def upperOpcode : List Bytes → List Bytes
  | [] => []
  | written :: values => upper written :: values

/-- The tokens of an instruction: its opcode and those of its arguments. -/
def Instruction.tokens (i : Instruction) : List Bytes :=
  i.opcode :: i.args.map Argument.token

theorem Instruction.text_eq_join (i : Instruction)
    : i.text = Bytes.join " " i.tokens := by
  rfl

/-- An instruction has the tokens that it was spelled with, up to the case of its opcode. -/
theorem Instruction.tokens_of_ofTokens {set : InstructionSet} {tokens : List Bytes}
    {i : Instruction} (h : Instruction.ofTokens set tokens = .ok i)
    : i.tokens = upperOpcode tokens := by
  obtain ⟨written, values, signature, rfl, _, length, _, rfl⟩ :=
    Instruction.ofTokens_eq_ok.mp h
  rw [Instruction.tokens, map_token_slotArguments length]
  rfl

/-- Tokens spell the same instruction with the opcode in upper case. -/
theorem Instruction.ofTokens_upperOpcode {set : InstructionSet} {tokens : List Bytes}
    {i : Instruction}
    : Instruction.ofTokens set (upperOpcode tokens) = .ok i
      ↔ Instruction.ofTokens set tokens = .ok i := by
  cases tokens with
  | nil => rfl
  | cons written values =>
      rw [upperOpcode, ofTokens, ofTokens, upper_upper]
      cases set.lookup? (upper written) with
      | none => simp
      | some signature => rfl

/-- The tokens of an instruction spell it. -/
theorem Instruction.ofTokens_tokens {set : InstructionSet} {tokens : List Bytes}
    {i : Instruction} (h : Instruction.ofTokens set tokens = .ok i)
    : Instruction.ofTokens set i.tokens = .ok i := by
  rw [Instruction.tokens_of_ofTokens h]
  exact Instruction.ofTokens_upperOpcode.mpr h

theorem isToken_of_mem_upperOpcode {tokens : List Bytes}
    (h : ∀ token ∈ tokens, IsToken token)
    : ∀ token ∈ upperOpcode tokens, IsToken token := by
  cases tokens with
  | nil => exact h
  | cons written values =>
      rw [List.forall_mem_cons] at h
      rw [upperOpcode, List.forall_mem_cons]
      exact ⟨h.1.upper, h.2⟩

end IppXml
