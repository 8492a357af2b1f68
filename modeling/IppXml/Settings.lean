import IppXml.Converter
import IppXml.Log
import IppXml.Text.Blank
import IppXml.Text.Case

/-! Settings of a run, and the environment variables that change them. -/

namespace IppXml

/-- The variables of an environment that are set, with their values. -/
abbrev Environment := Bytes → Option Bytes

/-- The settings of a run. -/
structure Settings where
  header : Bytes := defaultHeader
  indent : Bytes := defaultIndent
  level : Log.Level := .info
deriving DecidableEq

/-- The text that settings are looked up by: without blanks at its ends and in lower case.
-/
def settingKey (value : Bytes) : Bytes :=
  lower (trim value)

/-- The log level that a value names, in any case; the empty value means `info`. -/
def Log.Level.read (value : Bytes) : Except UsageFault Log.Level :=
  let key := settingKey value
  if key = "trace" then .ok .trace
  else if key = "debug" then .ok .debug
  else if key = "info" || key = [] then .ok .info
  else if key = "warn" then .ok .warn
  else if key = "error" then .ok .error
  else .error (.logLevel value)

/-- The greatest number of spaces in an indentation. -/
def maxSpaces : Int := 8

/-- The indentation that a value names: a tab, nothing, or a number of spaces. -/
def readIndent (value : Bytes) : Except UsageFault Bytes :=
  let key := settingKey value
  if key = "tab" then .ok "\t"
  else if key = "none" then .ok []
  else
    match readInteger? key with
    | none => .error (.indent key)
    | some n =>
        if n < 0 || maxSpaces < n then .error (.indent key)
        else .ok (Bytes.times n.toNat " ")

namespace Settings

/-- Settings, and the fault that ended their reading. -/
abbrev Reading := Settings × Option UsageFault

/-- Changes settings by a variable, if it is set and nothing has gone wrong before. -/
def apply (env : Environment) (name : Bytes)
    (change : Settings → Bytes → Except UsageFault Settings) : Reading → Reading
  | (settings, some fault) => (settings, some fault)
  | (settings, none) =>
      match env name with
      | none => (settings, none)
      | some value =>
          match change settings value with
          | .ok changed => (changed, none)
          | .error fault => (settings, some fault)

/-- The settings with the log level that the value names. -/
def withLevel (settings : Settings) (value : Bytes) : Except UsageFault Settings :=
  (Log.Level.read value).map fun level => { settings with level }

/-- The settings with the indentation that the value names. -/
def withIndent (settings : Settings) (value : Bytes) : Except UsageFault Settings :=
  (readIndent value).map fun indent => { settings with indent }

/-- The settings of an environment. At the first fault they stay as they are, and what was
set before it is kept.
-/
def read (env : Environment) : Reading :=
  apply env indentVariable withIndent (apply env logLevelVariable withLevel ({}, none))

/-- The IPPcode24 converter with these settings. -/
def converter (settings : Settings) (name : Bytes) : Converter :=
  { name, set := ippcode24, header := settings.header, indent := settings.indent }

end Settings

end IppXml
