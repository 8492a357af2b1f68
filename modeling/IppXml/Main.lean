import IppXml.Command.Verify

/-! The programs: standard streams, the environment and files around the commands.

The first argument chooses the command, `ippparse` or `ippverify`; the others are its own.
-/

namespace IppXml

/-- The string that a text encodes, with U+FFFD for stray bytes. -/
def toDisplay (text : Bytes) : String :=
  String.ofList (chars text)

/-- Reads a stream to its end; the second part tells why reading failed. -/
partial def readStream (stream : IO.FS.Stream) (content : ByteArray) : IO Source := do
  match ← (stream.read 65536).toBaseIO with
  | .error e => return { content := content.toList, failure? := some (utf8 (toString e)) }
  | .ok chunk =>
      if chunk.isEmpty then return { content := content.toList }
      else readStream stream (content ++ chunk)

/-- Writes a text to a stream and tells why that failed, if it did. -/
def writeStream (stream : IO.FS.Stream) (text : Bytes) : IO (Option Bytes) := do
  let action : IO Unit := do
    stream.write (ByteArray.mk text.toArray)
    stream.flush
  match ← action.toBaseIO with
  | .ok () => return none
  | .error e => return some (utf8 (toString e))

/-- The environment of the process, as far as settings look at it. -/
def readEnvironment : IO Environment := do
  let level ← IO.getEnv (toDisplay logLevelVariable)
  let indent ← IO.getEnv (toDisplay indentVariable)
  return fun name =>
    if name = logLevelVariable then level.map utf8
    else if name = indentVariable then indent.map utf8
    else none

/-- The words for a failed access to a file. -/
def accessFailure (name : Bytes) : IO.Error → Bytes
  | .noFileOrDirectory .. => "open " ++ name ++ ": no such file or directory"
  | .inappropriateType .. => "read " ++ name ++ ": is a directory"
  | .permissionDenied .. => "open " ++ name ++ ": permission denied"
  | e => utf8 (toString e)

/-- The content of a file, or why it cannot be read. -/
def readFile (name : Bytes) : IO (Except Bytes Bytes) := do
  match ← (IO.FS.readBinFile (toDisplay name)).toBaseIO with
  | .ok content => return .ok content.toList
  | .error e => return .error (accessFailure name e)

/-- Writes a file and tells why that failed, if it did. -/
def saveFile (name content : Bytes) : IO (Except Bytes Unit) := do
  let data := ByteArray.mk content.toArray
  match ← (IO.FS.writeBinFile (toDisplay name) data).toBaseIO with
  | .ok () => return .ok ()
  | .error e => return .error (accessFailure name e)

/-- Shows what a run wrote to its standard streams and ends with its exit code. -/
def finishRun (outcome : Outcome) : IO UInt32 := do
  discard <| writeStream (← IO.getStderr) outcome.stderr
  return outcome.code.toUInt32

/-- Converts standard input; a write that fails is told in a second run of the pure part.
-/
def mainConvert (args : List Bytes) : IO UInt32 := do
  let env ← readEnvironment
  let stdin ← readStream (← IO.getStdin) .empty
  let outcome := Command.runConvert args env stdin {}
  match ← writeStream (← IO.getStdout) outcome.stdout with
  | none => finishRun outcome
  | some reason =>
      finishRun (Command.runConvert args env stdin { failure? := some reason })

/-- The files that a command line for checking names. -/
def requestedFiles (args : List Bytes) : Command.VerifyRequest :=
  match CommandLine.read Command.verifyCommand.flags args with
  | .ok line => .ofCommandLine line
  | .error _ => { source := [], report := [] }

/-- Checks standard input. The report file is written once the run asks for it. -/
def mainVerify (args : List Bytes) : IO UInt32 := do
  let env ← readEnvironment
  let stdin ← readStream (← IO.getStdin) .empty
  let request := requestedFiles args
  let source ← if request.source = [] then pure (.error []) else readFile request.source
  let run (created : Except Bytes Unit) : Except Defect Outcome :=
    Command.runVerify args env stdin
      { read := fun _ => source, create := fun _ => created }
  let finish (result : Except Defect Outcome) : IO UInt32 := do
    match result with
    | .error defect =>
        discard <| writeStream (← IO.getStderr) (defect.message ++ "\n")
        return 2
    | .ok outcome =>
        discard <| writeStream (← IO.getStdout) outcome.stdout
        finishRun outcome
  match run (.ok ()) with
  | .ok { saved := (name, content) :: _, .. } => finish (run (← saveFile name content))
  | result => finish result

end IppXml

open IppXml in
/-- Chooses the command by the first argument. -/
def main (args : List String) : IO UInt32 := do
  match args with
  | "ippverify" :: rest => mainVerify (rest.map utf8)
  | "ippparse" :: rest => mainConvert (rest.map utf8)
  | _ =>
      discard <| writeStream (← IO.getStderr) "usage: ippparse | ippverify\n"
      return 10
