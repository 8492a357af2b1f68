import IppXml.Document.Decode

/-! Issues: what keeps a document from being the one that its source asks for. -/

namespace IppXml

/-- A value in the details of an issue. -/
inductive Detail where
  | number (n : Int)
  | text (content : Bytes)
deriving DecidableEq

/-- A finding. Its order is that of the instruction it is about, or -1 for the document.
-/
structure Issue where
  type : Bytes
  order : Int
  message : Bytes
  details? : Option (List (Bytes × Detail)) := none
deriving DecidableEq

/-- The type of issues about documents that cannot be decoded. -/
def structIssue : Bytes := "STRUCT"

/-- The type of issues about documents that say something else. -/
def mismatchIssue : Bytes := "MISMATCH"

/-- A difference between what is wanted and what a document says. -/
inductive Mismatch where
  | count (want got : Nat)
  | order (place : Nat) (carried : Int)
  | opcode (want got : Bytes)
  | argumentCount (opcode : Bytes) (want got : Nat)
  | argument (opcode : Bytes) (position : Nat) (want got : Argument)
deriving DecidableEq

namespace Mismatch

/-- The text of a difference. -/
def message : Mismatch → Bytes
  | count want got =>
      "Instruction count differs: want " ++ decimalNat want ++ ", got " ++ decimalNat got
  | order place carried =>
      "Instruction " ++ decimalNat place ++ " carries order " ++ decimal carried
  | opcode want got => "Opcode differs: want " ++ want ++ ", got " ++ got
  | argumentCount name want got =>
      name ++ " argument count differs: want " ++ decimalNat want ++ ", got "
        ++ decimalNat got
  | argument name position want got =>
      name ++ " arg" ++ decimalNat position ++ " differs: want " ++ want.text ++ ", got "
        ++ got.text

/-- The values that are told with a difference. -/
def details? : Mismatch → Option (List (Bytes × Detail))
  | count want got => some [("want", .number want), ("got", .number got)]
  | order _ carried => some [("order", .number carried)]
  | opcode want got => some [("want", .text want), ("got", .text got)]
  | argumentCount .. => none
  | argument _ position want got =>
      some
        [
          ("position", .number position),
          ("want", .text want.text),
          ("got", .text got.text)
        ]

/-- The issue of a difference in the instruction with the given order. -/
def issue (place : Int) (m : Mismatch) : Issue :=
  { type := mismatchIssue, order := place, message := m.message, details? := m.details? }

end Mismatch

/-- The differences between arguments at the same positions, the first at `position`. -/
def argumentMismatches (opcode : Bytes)
    : (position : Nat) → List Argument → List Argument → List Mismatch
  | position, want :: wants, got :: gots =>
      let rest := argumentMismatches opcode (position + 1) wants gots
      if want = got then rest else .argument opcode position want got :: rest
  | _, _, _ => []

/-- The differences in opcode and arguments. Arguments are compared only where the opcodes
are the same, and one by one only where they are equally many.
-/
def contentMismatches (want got : Instruction) : List Mismatch :=
  if want.agrees got then []
  else if want.opcode ≠ got.opcode then [.opcode want.opcode got.opcode]
  else if want.args.length ≠ got.args.length then
    [.argumentCount want.opcode want.args.length got.args.length]
  else argumentMismatches want.opcode 1 want.args got.args

/-- The differences at a place of the document, which is also the order wanted there. -/
def instructionMismatches (place : Nat) (want got : Instruction) : List Mismatch :=
  (if got.order = place then [] else [.order place got.order])
    ++ contentMismatches want got

/-- The issues with the instructions of a document, place by place from the given one. -/
def compareFrom : (place : Nat) → List Instruction → List Instruction → List Issue
  | place, want :: wants, got :: gots =>
      (instructionMismatches place want got).map (·.issue place)
        ++ compareFrom (place + 1) wants gots
  | _, _, _ => []

/-- The issues with the instructions of a document that should be the wanted ones,
numbered from one. The orders of the wanted instructions do not matter.
-/
def compareInstructions (want got : List Instruction) : List Issue :=
  (if want.length = got.length then []
    else [(Mismatch.count want.length got.length).issue (-1)])
    ++ compareFrom 1 want got

/-- The issues with a document that should hold the wanted instructions. -/
def roundTrip (set : InstructionSet) (want : List Instruction) (input : Bytes)
    : Except Defect (List Issue) :=
  match Document.decode set input with
  | .ok doc => .ok (compareInstructions want doc.instructions)
  | .error (.error e) => .ok [{ type := structIssue, order := -1, message := e.message }]
  | .error (.defect d) => .error d

end IppXml
