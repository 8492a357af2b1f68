import IppXml.Command.Basic
import IppXml.Conversion
import IppXml.Table

/-! The command that reads a source program and writes its document. -/

namespace IppXml.Command

/-- The name of the converter that commands use. -/
def converterName : Bytes := "Driver"

/-- No arguments are taken. A help flag that asks for no help counts as one. -/
def checkNoArguments (line : CommandLine) : Except UsageFault Unit :=
  match line.positionals with
  | arg :: _ => .error (.unexpectedArgument arg)
  | [] =>
      if line.dashed then .error (.unexpectedArgument "--")
      else if (line.value? helpFlag.name).isSome then .error .helpRefused
      else .ok ()

/-- The command that writes documents. -/
def convertCommand : Command :=
  { failure := "Translation failed", flags := [helpFlag], check := checkNoArguments }

/-- What the help says about the command. -/
def convertDescription : Bytes :=
  "Usage: ippparse [--help] < program > document\n\n" ++
  "Ippparse reads an IPPcode24 program from standard input, checks every\n" ++
  "instruction against the instruction set and writes the program as an XML\n" ++
  "document to standard output. The first error stops the translation and\n" ++
  "nothing is written.\n\n" ++
  "Environment:\n" ++
  "  IPPCODE_LOG_LEVEL  trace, debug, info, warn or error (default info)\n" ++
  "  IPPCODE_INDENT     tab, none or 0-8 spaces (default tab)\n\n"

/-- The exit codes and what they mean. -/
def exitCodes : List (Nat × String) :=
  [
    (0, "success or help"),
    (ErrorKind.usage.exitCode, "invalid argument or environment"),
    (ErrorKind.input.exitCode, "empty or unreadable input"),
    (ErrorKind.output.exitCode, "output cannot be written"),
    (ErrorKind.header.exitCode, "missing or invalid .IPPcode24 header"),
    (ErrorKind.unknownOpcode.exitCode, "unknown opcode"),
    (ErrorKind.grammar.exitCode, "wrong argument count or malformed argument")
  ]

/-- The table of exit codes. -/
def exitCodeTable : Table :=
  {
    title := "Exit codes",
    header := ["Code", "Meaning"],
    rows := exitCodes.map fun (code, meaning) => [.number code, .text meaning]
  }

/-- The table of the opcodes of an instruction set. -/
def opcodeTable (set : InstructionSet) : Table :=
  {
    title := set.name ++ " instructions",
    header := ["Opcode", "Arguments"],
    rows :=
      set.opcodes.map fun opcode =>
        [.text opcode, .text (Signature.text ((set.lookup? opcode).getD []))]
  }

/-- The help of the command. -/
def convertHelp : Bytes :=
  convertDescription ++ exitCodeTable.render ++ "\n" ++ (opcodeTable ippcode24).render

/-- Runs the command. -/
def runConvert (args : List Bytes) (env : Environment) (stdin : Source) (stdout : Sink)
    : Outcome :=
  match convertCommand.start args env with
  | .refused threshold message e => .refused threshold message e
  | .help => .shown (stdout.stored [convertHelp])
  | .run settings _ =>
      let conversion := (settings.converter converterName).convert stdin stdout
      let records := conversion.events.map (Event.record converterName)
      .finished convertCommand settings.level records (stdout.stored conversion.writes) []
        conversion.result

end IppXml.Command
