import IppXml.Line
import IppXml.Log
import IppXml.Converter

/-! Sessions: the course of one conversion, line by line.

A session waits for the header, then takes instructions, and is done once it is finished.
A step that fails leaves the session as it was.
-/

namespace IppXml

/-- What a session is waiting for. -/
inductive Phase where
  | awaitHeader
  | processing
  | done
deriving DecidableEq

/-- The word for a phase. -/
def Phase.name : Phase → String
  | awaitHeader => "AwaitHeader"
  | processing => "Processing"
  | done => "Done"

/-- The phase with the given number. -/
def Phase.ofCode? (code : Int) : Option Phase :=
  if code = 0 then some awaitHeader
  else if code = 1 then some processing
  else if code = 2 then some done
  else none

/-- What happens in a session. -/
inductive Event where
  | headerAccepted (line : Int)
  | instructionAccepted (line : Int) (i : Instruction)
  | failed (phase : Phase) (e : Error)
  | finished (count : Nat)
deriving DecidableEq

/-- The arguments of an instruction as they appear in the log. -/
def argumentList (args : List Argument) : Bytes :=
  "[" ++ Bytes.join " " (args.map Argument.text) ++ "]"

/-- The log record of an event in a session of the named converter. -/
def Event.record (converter : Bytes) : Event → Log.Record
  | headerAccepted line =>
      {
        level := .debug,
        message := "Header accepted",
        fields := [("driver", converter), ("line", decimal line)]
      }
  | instructionAccepted line i =>
      {
        level := .trace,
        message := "Instruction",
        fields :=
          [
            ("driver", converter), ("line", decimal line), ("order", decimal i.order),
            ("opcode", i.opcode), ("args", argumentList i.args)
          ]
      }
  | failed phase e =>
      {
        level := .debug,
        message := "Translation failed",
        fields := [("driver", converter), ("state", utf8 phase.name), ("err", e.message)]
      }
  | finished count =>
      {
        level := .debug,
        message := "Translation done",
        fields := [("driver", converter), ("instructions", decimalNat count)]
      }

/-- How far a conversion has come that is not done. -/
inductive Progress where
  /-- Nothing but blank lines so far. -/
  | awaitHeader
  /-- The header has been seen, and these instructions. -/
  | processing (doc : Document)
deriving DecidableEq

namespace Progress

/-- The phase of the session. -/
def phase : Progress → Phase
  | awaitHeader => .awaitHeader
  | processing _ => .processing

/-- The document so far. -/
def document (c : Converter) : Progress → Document
  | awaitHeader => .empty c.set.name
  | processing doc => doc

/-- Takes the tokens of a line that has some. The first such line has to be the header
alone, all others instructions.
-/
def accept (c : Converter) (line : Int) (tokens : List Bytes)
    : Progress → Except Error (Progress × Event)
  | awaitHeader =>
      if tokens = [c.header] then
        .ok (processing (.empty c.set.name), .headerAccepted line)
      else
        let found := Bytes.join " " tokens
        .error (.atLine line (.fault (.header (.different c.header found))))
  | processing doc =>
      match Instruction.ofTokens c.set tokens with
      | .error fault => .error (.atLine line (.fault (.instruction fault)))
      | .ok i => .ok (processing (doc.push i), .instructionAccepted line (doc.numbered i))

/-- Takes a line. Nothing happens on a line without tokens. -/
def feed (c : Converter) (progress : Progress) (line : Int) (text : Bytes)
    : Except Error (Progress × List Event) :=
  match lineTokens text with
  | [] => .ok (progress, [])
  | tokens => (progress.accept c line tokens).map fun (next, event) => (next, [event])

/-- The document at the end of the source, which has to have a header. -/
def finish (c : Converter) : Progress → Except Error Document
  | awaitHeader => .error (.fault (.header (.missing c.header)))
  | processing doc => .ok doc

/-- Takes numbered lines up to the first one that fails. -/
def feedAll (c : Converter) : Progress → List (Bytes × Nat)
    → List Event × Except Error Progress
  | progress, [] => ([], .ok progress)
  | progress, (text, line) :: rest =>
      match progress.feed c line text with
      | .error e => ([.failed progress.phase e], .error e)
      | .ok (next, events) =>
          let (more, result) := feedAll c next rest
          (events ++ more, result)

end Progress

/-- A session: a conversion under way, or a document that is done. -/
inductive Session where
  | underWay (progress : Progress)
  | done (doc : Document)
deriving DecidableEq

/-- What can be done with a session. -/
inductive Step where
  | feed (line : Int) (text : Bytes)
  | finish
deriving DecidableEq

namespace Session

/-- The session before its first line. -/
def initial : Session :=
  underWay .awaitHeader

/-- The phase of the session. -/
def phase : Session → Phase
  | underWay progress => progress.phase
  | done _ => .done

/-- The document so far. -/
def document (c : Converter) : Session → Document
  | underWay progress => progress.document c
  | done doc => doc

/-- Takes a line. When the session is done, only lines without tokens may come. -/
def feed (c : Converter) (line : Int) (text : Bytes)
    : Session → Except Failure (Session × List Event)
  | underWay progress =>
      match progress.feed c line text with
      | .error e => .error (.error e)
      | .ok (next, events) => .ok (underWay next, events)
  | done doc =>
      if lineTokens text = [] then .ok (done doc, []) else .error (.defect .lineAfterDone)

/-- Ends the session, which may be repeated. -/
def finish (c : Converter) : Session → Except Error (Session × List Event)
  | underWay progress =>
      (progress.finish c).map fun doc => (done doc, [.finished doc.size])
  | done doc => .ok (done doc, [.finished doc.size])

/-- Takes a step: the session behind it, and what happened or why the step failed. After a
step that failed the session goes on from where it was.
-/
def step (c : Converter) (session : Session) : Step → Session × Except Failure (List Event)
  | .feed line text =>
      match session.feed c line text with
      | .error failure => (session, .error failure)
      | .ok (next, events) => (next, .ok events)
  | .finish =>
      match session.finish c with
      | .error e => (session, .error (.error e))
      | .ok (next, events) => (next, .ok events)

/-- The session behind steps, whether they failed or not. -/
def run (c : Converter) (session : Session) (steps : List Step) : Session :=
  steps.foldl (fun session step => (session.step c step).1) session

end Session

end IppXml
