import IppXml.Slot

/-! Instructions and their arguments. -/

namespace IppXml

/-- One argument of an instruction. Positions count from one; the type is the text of the
document's type attribute and need not be one of the known types.
-/
structure Argument where
  position : Int
  type : Bytes
  value : Bytes
deriving DecidableEq

namespace Argument

/-- The source token of the argument. -/
def token (a : Argument) : Bytes :=
  match ArgType.ofName? a.type with
  | some known => if known.isConstant then a.type ++ "@" ++ a.value else a.value
  | none => a.value

/-- Whether the value is well formed for the type. -/
def isValid (a : Argument) : Bool :=
  match ArgType.ofName? a.type with
  | some .var => Token.classify a.value = .var
  | some .label => Token.isLabel a.value
  | some .type => Token.isTypeName a.value
  | some _ => Token.isConstant a.token
  | none => false

/-- The type and the value as they appear in messages. -/
def text (a : Argument) : Bytes :=
  a.type ++ ":" ++ a.value

end Argument

/-- An instruction. Its order is its number in a document, and zero outside of one. -/
@[ext]
structure Instruction where
  order : Int
  opcode : Bytes
  args : List Argument
deriving DecidableEq

namespace Instruction

/-- The instruction as a line of a source program. -/
def text (i : Instruction) : Bytes :=
  Bytes.join " " (i.opcode :: i.args.map Argument.token)

/-- Whether opcode and arguments agree; orders do not matter. -/
def agrees (i j : Instruction) : Bool :=
  i.opcode = j.opcode && i.args = j.args

theorem agrees_iff {i j : Instruction}
    : i.agrees j = true ↔ i.opcode = j.opcode ∧ i.args = j.args := by
  rw [agrees, Bool.and_eq_true, decide_eq_true_eq, decide_eq_true_eq]

end Instruction

end IppXml
