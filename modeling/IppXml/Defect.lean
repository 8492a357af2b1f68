import IppXml.Text.Decimal

/-! Defects: uses of the library that break its rules. A defect is not an error of the
input, and nothing recovers from it.
-/

namespace IppXml

/-- A broken rule. -/
inductive Defect where
  /-- An opcode, in upper case, that the named instruction set already has. -/
  | duplicateOpcode (opcode set : Bytes)
  /-- A converter without an instruction set. -/
  | noInstructionSet
  /-- A converter without a header line. -/
  | noHeader
  /-- A line fed to a session that is done. -/
  | lineAfterDone
  /-- An index outside of a row of the given length. -/
  | outOfRange (index : Int) (length : Nat)
deriving DecidableEq

/-- The text a defect is reported with. -/
def Defect.message : Defect → Bytes
  | duplicateOpcode opcode set => "opcode " ++ opcode ++ " registered twice in " ++ set
  | noInstructionSet => "instruction set is not set"
  | noHeader => "header is not set"
  | lineAfterDone => "line fed in state Done"
  | outOfRange index length =>
      if index < 0 then "runtime error: index out of range [" ++ decimal index ++ "]"
      else
        "runtime error: index out of range [" ++ decimal index ++ "] with length "
          ++ decimalNat length

end IppXml
