import IppXml.Proofs.Conversion.Reference
import IppXml.Proofs.Document.Outcomes
import IppXml.Proofs.Error.Causes

/-! The exit codes that operations end with.

Each operation fails with errors of a single cause, and the causes are of a few kinds only.
-/

namespace IppXml

namespace Error

theorem exitCode_unwritable (reason : Bytes)
    : (Error.fault (.unwritable reason)).exitCode = 12 := by
  rw [exitCode_fault rfl]
  rfl

theorem exitCode_shape (fault : ShapeFault)
    : (Error.fault (.shape fault)).exitCode = 32 := by
  rw [exitCode_fault rfl]
  rfl

end Error

theorem InstructionFault.exitCode_kind (fault : InstructionFault)
    : fault.kind.exitCode = 22 ∨ fault.kind.exitCode = 23 := by
  cases fault with
  | unknownOpcode written => exact Or.inl rfl
  | empty | arity | argument => exact Or.inr rfl

/-- A source that has no document is unreadable or empty, or has an error in its header or in
an instruction.
-/
theorem Converter.exitCode_of_parse {c : Converter} {source : Source} {e : Error}
    (h : (c.parse source).2 = .error e)
    : e.exitCode ∈ [11, 21, 22, 23] := by
  obtain ⟨content, failure?⟩ := source
  cases failure? with
  | some reason =>
      obtain rfl : .fault (.unreadable reason) = e := Except.error.inj h
      rw [Error.exitCode_fault rfl]
      decide
  | none =>
      have meaning := c.meaning_parse content
      rw [h] at meaning
      cases meaning with
      | emptyInput => decide
      | noHeader =>
          rw [Error.exitCode_fault rfl]
          decide
      | otherHeader =>
          rw [Error.exitCode_atLine, Error.exitCode_fault rfl]
          decide
      | @rejected _ _ _ _ _ _ fault =>
          rw [Error.exitCode_atLine, Error.exitCode_fault rfl]
          rcases fault.exitCode_kind with code | code <;> simp [code]

end IppXml
