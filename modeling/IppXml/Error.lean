import IppXml.Defect
import IppXml.Fault

/-! Errors: faults with the place where they were met, and the exit codes of the commands.
-/

namespace IppXml

/-- A fault, an error at a line or in a context, or two errors at once. -/
inductive Error where
  | fault (fault : Fault)
  /-- An error in the given line of a source program; lines count from one. -/
  | atLine (line : Int) (cause : Error)
  /-- An error with words in front that say what it is about. -/
  | within (context : Bytes) (cause : Error)
  | both (first second : Error)
deriving DecidableEq

namespace Error

/-- The full text of an error. -/
def message : Error → Bytes
  | fault f => f.message
  | atLine line cause => "line " ++ decimal line ++ ": " ++ cause.message
  | within context cause => context ++ ": " ++ cause.message
  | both first second => first.message ++ "\n" ++ second.message

/-- The error of a line. Where no cause is given, the message says so. -/
def locate (line : Int) (cause? : Option Error) : Error :=
  atLine line (cause?.getD (.fault (.other "<nil>")))

/-- The error with words in front. Where no cause is given, the message says so. -/
def explain (context : Bytes) (cause? : Option Error) : Error :=
  within context (cause?.getD (.fault (.other "%!w(<nil>)")))

/-- Errors that are met at once, in the given sequence, as one; none if there are none. -/
def join? : List Error → Option Error
  | [] => none
  | first :: rest =>
      match join? rest with
      | none => some first
      | some others => some (both first others)

/-- The faults that the error is made of. -/
def faults : Error → List Fault
  | fault f => [f]
  | atLine _ cause => cause.faults
  | within _ cause => cause.faults
  | both first second => first.faults ++ second.faults

/-- Whether one of the causes is of the kind. -/
def isKind (kind : ErrorKind) : Error → Bool
  | fault f => f.kind?.any (·.isA kind)
  | atLine _ cause => cause.isKind kind
  | within _ cause => cause.isKind kind
  | both first second => first.isKind kind || second.isKind kind

/-- The line of the error, if one is known. -/
def line? : Error → Option Int
  | fault _ => none
  | atLine line _ => some line
  | within _ cause => cause.line?
  | both first second => first.line?.or second.line?

end Error

/-- The exit code for errors of the kind. -/
def ErrorKind.exitCode : ErrorKind → Nat
  | usage => 10
  | input => 11
  | emptyInput => 11
  | output => 12
  | header => 21
  | unknownOpcode => 22
  | arity => 23
  | argument => 23
  | grammar => 23
  | format => 31
  | shape => 32

/-- The kinds that decide about the exit code, the decisive ones first. -/
def decisiveKinds : List ErrorKind :=
  [
    .usage, .emptyInput, .input, .output, .header, .unknownOpcode, .grammar, .format,
    .shape
  ]

/-- The exit code of a command that ends with the error; 99 if the error is of no kind. -/
def Error.exitCode (e : Error) : Nat :=
  match decisiveKinds.find? (e.isKind ·) with
  | some kind => kind.exitCode
  | none => 99

/-- Why an operation has no result: an error of its input, or a defect of its caller. -/
inductive Failure where
  | error (e : Error)
  | defect (d : Defect)
deriving DecidableEq

end IppXml
