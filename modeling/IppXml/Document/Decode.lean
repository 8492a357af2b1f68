import IppXml.Document.Raw
import IppXml.Error
import IppXml.InstructionSet
import IppXml.Text.Blank

/-! From raw programs to documents.

A raw program is a document of an instruction set if it is named after the set, its
instructions have different positive orders and registered opcodes, and their arguments
are complete and well formed. The document lists the instructions by order.
-/

namespace IppXml

/-- The number of argument elements that are told apart. -/
def maxArguments : Nat := 3

/-- The position that the name of an argument element stands for. -/
def argumentPosition? (name : Bytes) : Option Nat :=
  (List.range' 1 maxArguments).find? fun position => argumentElement position = name

namespace RawArgument

/-- The argument that an element holds at a position. -/
def toArgument (raw : RawArgument) (position : Nat) : Argument :=
  { position, type := raw.type, value := trim raw.text }

/-- Checks an element of the instruction with the given order and opcode, whose arity is
known, against the arguments before it.
-/
def check (order : Int) (opcode : Bytes) (arity : Nat) (found : List Argument)
    (raw : RawArgument) : Except ShapeFault Argument :=
  match argumentPosition? raw.name with
  | none => .error (.argumentName order raw.name)
  | some position =>
      let arg := raw.toArgument position
      if found.any (·.position = position) then .error (.repeatedArgument order position)
      else if raw.type = [] then .error (.untypedArgument order position)
      else if arity < position then .error (.excessArgument opcode arity position)
      else if !arg.isValid then
        .error (.invalidArgument order position arg.value arg.type)
      else .ok arg

end RawArgument

namespace RawInstruction

/-- The arguments that elements hold, in the sequence of the elements. -/
def checkArguments (order : Int) (opcode : Bytes) (arity : Nat)
    : (found : List Argument) → List RawArgument → Except ShapeFault (List Argument)
  | found, [] => .ok found
  | found, raw :: rest =>
      match raw.check order opcode arity found with
      | .error fault => .error fault
      | .ok arg => checkArguments order opcode arity (found ++ [arg]) rest

/-- An error in the shape of a document. -/
def shapeError {α : Type} (fault : ShapeFault) : Except Failure α :=
  .error (.error (.fault (.shape fault)))

/-- The argument at a position. Only the positions of argument elements can be asked for.
-/
def argumentAt (opcode : Bytes) (arity : Nat) (found : List Argument) (position : Nat)
    : Except Failure Argument :=
  match found.find? (·.position = (position : Int)) with
  | some arg => .ok arg
  | none =>
      if position ≤ maxArguments then shapeError (.missingArgument opcode arity position)
      else .error (.defect (.outOfRange (position - 1 : Nat) maxArguments))

/-- The arguments at the given positions. -/
def argumentsAt (opcode : Bytes) (arity : Nat) (found : List Argument)
    : List Nat → Except Failure (List Argument)
  | [] => .ok []
  | position :: positions =>
      match argumentAt opcode arity found position with
      | .error failure => .error failure
      | .ok arg => (argumentsAt opcode arity found positions).map (arg :: ·)

/-- The order that an attribute gives. -/
def readOrder (text : Bytes) : Except ShapeFault Int :=
  match readInteger? (trim text) with
  | none => .error (.orderText text)
  | some order => if order < 1 then .error (.orderSign order) else .ok order

/-- The instruction that an element of the document holds. -/
def toInstruction (set : InstructionSet) (raw : RawInstruction)
    : Except Failure Instruction :=
  if raw.name ≠ "instruction" then shapeError (.element raw.name)
  else
    match readOrder raw.order with
    | .error fault => shapeError fault
    | .ok order =>
        let opcode := upper raw.opcode
        match set.lookup? opcode with
        | none => shapeError (.unknownOpcode order raw.opcode)
        | some signature =>
            let arity := signature.length
            match checkArguments order opcode arity [] raw.args with
            | .error fault => shapeError fault
            | .ok found =>
                (argumentsAt opcode arity found (List.range' 1 arity)).map fun args =>
                  { order, opcode, args }

end RawInstruction

namespace RawProgram

open RawInstruction (shapeError)

/-- The instructions that elements hold, in the sequence of the elements. -/
def toInstructions (set : InstructionSet)
    : (found : List Instruction) → List RawInstruction → Except Failure (List Instruction)
  | found, [] => .ok found
  | found, raw :: rest =>
      match raw.toInstruction set with
      | .error failure => .error failure
      | .ok i =>
          if found.any (·.order = i.order) then shapeError (.duplicateOrder i.order)
          else toInstructions set (found ++ [i]) rest

/-- The document that a raw program is. -/
def toDocument (set : InstructionSet) (raw : RawProgram) : Except Failure Document :=
  if raw.name ≠ "program" then shapeError (.root raw.name)
  else if raw.language ≠ set.name then shapeError (.language raw.language set.name)
  else
    (toInstructions set [] raw.children).map fun instructions =>
      {
        language := raw.language,
        instructions := sortBy (fun i j => decide (i.order ≤ j.order)) instructions
      }

end RawProgram

/-- Reads a document of an instruction set. -/
def Document.decode (set : InstructionSet) (input : Bytes) : Except Failure Document :=
  match RawProgram.read? input with
  | none => .error (.error (.fault (.bare .format)))
  | some raw => raw.toDocument set

end IppXml
