import IppXml.Instruction
import IppXml.InstructionSet
import IppXml.Fault
import IppXml.Text.Blank

/-! Source lines: their tokens, and the instruction that tokens spell. -/

namespace IppXml

/-- The sign that begins a comment, also inside a string constant. -/
def commentSign : UInt8 := 0x23

/-- The part of a line in front of its comment. -/
def withoutComment (line : Bytes) : Bytes :=
  line.takeWhile (· ≠ commentSign)

/-- The tokens of a line. -/
def lineTokens (line : Bytes) : List Bytes :=
  words (withoutComment line)

namespace Instruction

/-- The arguments that tokens spell in slots, where the first has the given position. -/
def fillSlots (opcode : Bytes) : (position : Nat) → List Slot → List Bytes
    → Except InstructionFault (List Argument)
  | position, slot :: slots, token :: tokens =>
      if slot.accepts token then
        let (known, value) := slot.resolve token
        (fillSlots opcode (position + 1) slots tokens).map fun args =>
          { position, type := known.name, value } :: args
      else .error (.argument opcode position token slot)
  | _, _, _ => .ok []

/-- The instruction that tokens spell: an opcode in any case, and its arguments. Of
several faults the opcode's counts before the number of arguments, and that before their
shapes. The instruction has no order yet.
-/
def ofTokens (set : InstructionSet) : List Bytes → Except InstructionFault Instruction
  | [] => .error .empty
  | written :: tokens =>
      let opcode := upper written
      match set.lookup? opcode with
      | none => .error (.unknownOpcode written)
      | some signature =>
          if tokens.length ≠ signature.length then
            .error (.arity opcode signature.length tokens.length)
          else
            (fillSlots opcode 1 signature tokens).map fun args =>
              { order := 0, opcode, args }

end Instruction

end IppXml
