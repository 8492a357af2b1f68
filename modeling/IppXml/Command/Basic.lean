import IppXml.CommandLine
import IppXml.Error
import IppXml.Settings

/-! What the commands have in common: they read the environment and the command line, show
their help when asked for it, and end with an exit code and a log.
-/

namespace IppXml

/-- A command. -/
structure Command where
  /-- The log message of a run that fails. -/
  failure : Bytes
  flags : List Flag
  /-- What the command line must satisfy beyond its grammar. -/
  check : CommandLine → Except UsageFault Unit

/-- The flag that asks for help. -/
def helpFlag : Flag :=
  { name := "help", letter := 0x68, kind := .switch }

/-- The log record of an error that ends a run. -/
def errorRecord (message : Bytes) (e : Error) : Log.Record :=
  { level := .error, message, fields := [("err", e.message)] }

/-- How a run of a command begins. -/
inductive Start where
  /-- The run ends with an error before anything is done. -/
  | refused (threshold : Log.Level) (message : Bytes) (e : Error)
  /-- The help is shown. -/
  | help
  /-- The command does its work. -/
  | run (settings : Settings) (line : CommandLine)

/-- Begins a run: the environment is read first, and then the command line. -/
def Command.start (command : Command) (args : List Bytes) (env : Environment) : Start :=
  match Settings.read env with
  | (_, some fault) => .refused .info "Bad configuration" (.fault (.usage fault))
  | (settings, none) =>
      let refuse (fault : UsageFault) : Start :=
        .refused settings.level command.failure (.fault (.usage fault))
      match CommandLine.read command.flags args with
      | .error fault => refuse fault
      | .ok line =>
          if line.isOn helpFlag.name then .help
          else
            match command.check line with
            | .error fault => refuse fault
            | .ok () => .run settings line

/-- With settings that can be read, the command line decides how a run begins. -/
theorem Command.start_of_settings {command : Command} {args : List Bytes} {env : Environment}
    {settings : Settings} (h : Settings.read env = (settings, none))
    : command.start args env
      = match CommandLine.read command.flags args with
        | .error fault => .refused settings.level command.failure (.fault (.usage fault))
        | .ok line =>
            if line.isOn helpFlag.name then .help
            else
              match command.check line with
              | .error fault => .refused settings.level command.failure (.fault (.usage fault))
              | .ok () => .run settings line := by
  simp only [Command.start, h]

/-- How a run ended, and what it left behind. -/
structure Outcome where
  code : Nat
  stdout : Bytes
  stderr : Bytes
  /-- The files that were written. -/
  saved : List (Bytes × Bytes) := []
deriving DecidableEq

namespace Outcome

/-- The outcome of a run that is refused. -/
def refused (threshold : Log.Level) (message : Bytes) (e : Error) : Outcome :=
  {
    code := e.exitCode,
    stdout := [],
    stderr := Log.text threshold [errorRecord message e]
  }

/-- The outcome of showing a text. -/
def shown (text : Bytes) : Outcome :=
  { code := 0, stdout := text, stderr := [] }

/-- The outcome of work with the given log, outputs and result. -/
def finished (command : Command) (threshold : Log.Level) (records : List Log.Record)
    (stdout : Bytes) (saved : List (Bytes × Bytes)) : Except Error Unit → Outcome
  | .ok () => { code := 0, stdout, stderr := Log.text threshold records, saved }
  | .error e =>
      {
        code := e.exitCode,
        stdout,
        stderr := Log.text threshold (records ++ [errorRecord command.failure e]),
        saved
      }

section Finished

variable (command : Command) (threshold : Log.Level) (records : List Log.Record)
  (stdout : Bytes) (saved : List (Bytes × Bytes)) (result : Except Error Unit)

theorem code_finished
    : (finished command threshold records stdout saved result).code
      = match result with
        | .ok () => 0
        | .error e => e.exitCode := by
  cases result <;> rfl

theorem code_finished_error (e : Error)
    : (finished command threshold records stdout saved (.error e)).code = e.exitCode := by
  rfl

theorem stdout_finished
    : (finished command threshold records stdout saved result).stdout = stdout := by
  cases result <;> rfl

theorem saved_finished
    : (finished command threshold records stdout saved result).saved = saved := by
  cases result <;> rfl

end Finished

end Outcome

end IppXml
