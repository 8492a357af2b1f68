import IppXml.Command.Convert
import IppXml.Files
import IppXml.Verification.Report

/-! The command that checks a document and compares it with its source program. -/

namespace IppXml.Command

/-- The flag that names the source program. -/
def sourceFlag : Flag :=
  { name := "source", letter := 0x73, kind := .text }

/-- The flag that names the file for the report. -/
def reportFlag : Flag :=
  { name := "report", letter := 0x6F, kind := .text }

/-- No arguments besides flags are taken. -/
def checkNoPositionals (line : CommandLine) : Except UsageFault Unit :=
  match line.positionals with
  | arg :: _ => .error (.unexpectedArgument arg)
  | [] => .ok ()

/-- The command that checks documents. -/
def verifyCommand : Command :=
  {
    failure := "Verification failed",
    flags := [helpFlag, sourceFlag, reportFlag],
    check := checkNoPositionals
  }

/-- The help of the command. -/
def verifyHelp : Bytes :=
  "Check an IPPcode24 XML document\n\n" ++
  "Usage:\n" ++
  "  ippverify [--source program.ipp] [--report file] < document.xml [flags]\n\n" ++
  "Flags:\n" ++
  "  -h, --help            help for ippverify\n" ++
  "  -o, --report string   also save the report to this file\n" ++
  "  -s, --source string   source program the document is expected to translate\n"

/-- The files that the command line names; an empty name means none. -/
structure VerifyRequest where
  source : Bytes
  report : Bytes
deriving DecidableEq

/-- The files that a command line names. -/
def VerifyRequest.ofCommandLine (line : CommandLine) : VerifyRequest :=
  { source := line.textOf sourceFlag.name, report := line.textOf reportFlag.name }

/-- The log record of a comparison. -/
def comparedRecord (source : Bytes) (issues : Nat) : Log.Record :=
  {
    level := .debug,
    message := "Compared with source",
    fields := [("source", source), ("issues", decimalNat issues)]
  }

/-- The course of a check: the log, the report if it came to one, the file it was saved
to, and the result.
-/
structure Verification where
  records : List Log.Record := []
  report : Bytes := []
  saved : List (Bytes × Bytes) := []
  result : Except Error Unit

/-- A check that ends with an error before there is a report. -/
def Verification.failed (records : List Log.Record) (e : Error) : Verification :=
  { records, result := .error e }

/-- Reads the document on standard input. -/
def readDocument (stdin : Source) : Except Failure Document :=
  match stdin.failure? with
  | some reason => .error (.error (.fault (.unreadable reason)))
  | none =>
      if isBlank stdin.content then .error (.error (.fault (.bare .emptyInput)))
      else Document.decode ippcode24 stdin.content

/-- The program in a source file. -/
def readProgram (settings : Settings) (files : FileAccess) (name : Bytes)
    : List Event × Except Error Document :=
  match files.read name with
  | .error reason => ([], .error (.fault (.unreadable reason)))
  | .ok content =>
      match (settings.converter converterName).parse { content } with
      | (events, .error e) => (events, .error (.within name e))
      | (events, .ok doc) => (events, .ok doc)

/-- The result of a check with the given issues. -/
def verdict (issues : List Issue) : Except Error Unit :=
  if issues.isEmpty then .ok ()
  else .error (.fault (.shape (.issues (issues.map Issue.message))))

/-- Saves a report, if a file is named for it, and gives the verdict. -/
def saveReport (files : FileAccess) (name report : Bytes) (issues : List Issue)
    : List (Bytes × Bytes) × Except Error Unit :=
  if name = [] then ([], verdict issues)
  else
    match files.create name with
    | .error reason =>
        ([], .error (.fault (.unwritable ("failed to create report file: " ++ reason))))
    | .ok () => ([(name, report)], verdict issues)

/-- Reports on a document with the given issues. -/
def reportOn (files : FileAccess) (name : Bytes) (records : List Log.Record)
    (doc : Document) (issues : List Issue) : Except Defect Verification :=
  ((Report.ofDocument doc issues).render).map fun report =>
    let (saved, result) := saveReport files name report issues
    { records, report, saved, result }

/-- Checks a document and reports on it. -/
def verifyDocument (settings : Settings) (request : VerifyRequest) (files : FileAccess)
    (stdin : Source) : Except Defect Verification :=
  match readDocument stdin with
  | .error (.error e) => .ok (.failed [] e)
  | .error (.defect d) => .error d
  | .ok doc =>
      if request.source = [] then reportOn files request.report [] doc []
      else
        match readProgram settings files request.source with
        | (events, .error e) => .ok (.failed (events.map (Event.record converterName)) e)
        | (events, .ok program) => do
            let issues ← roundTrip ippcode24 program.instructions stdin.content
            let records :=
              events.map (Event.record converterName)
                ++ [comparedRecord request.source issues.length]
            reportOn files request.report records doc issues

/-- Runs the command. -/
def runVerify (args : List Bytes) (env : Environment) (stdin : Source)
    (files : FileAccess) : Except Defect Outcome :=
  match verifyCommand.start args env with
  | .refused threshold message e => .ok (.refused threshold message e)
  | .help => .ok (.shown verifyHelp)
  | .run settings line =>
      (verifyDocument settings (.ofCommandLine line) files stdin).map fun v =>
        .finished verifyCommand settings.level v.records v.report v.saved v.result

end IppXml.Command
