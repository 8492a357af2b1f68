import IppXml.Text.Blank
import IppXml.Text.Quoted

/-! Log records and the lines they are written as. -/

namespace IppXml.Log

/-- How important a record is. -/
inductive Level where
  | trace
  | debug
  | info
  | warn
  | error
deriving DecidableEq

/-- The number of a level; more important levels have greater numbers. -/
def Level.severity : Level → Int
  | trace => -8
  | debug => -4
  | info => 0
  | warn => 4
  | error => 8

/-- The level as it is written in log lines. -/
def Level.name : Level → Bytes
  | trace => "DEBUG-4"
  | debug => "DEBUG"
  | info => "INFO"
  | warn => "WARN"
  | error => "ERROR"

/-- A log record. -/
structure Record where
  level : Level
  message : Bytes
  fields : List (Bytes × Bytes)
deriving DecidableEq

/-- Whether a rune forces quotes around the value that holds it. -/
def needsQuotes : Rune → Bool
  | .stray _ => true
  | .char c =>
      if c.toNat < 0x80 then c.toNat ≤ 0x20 || c = '"' || c = '='
      else c = Rune.replacement || isBlankChar c || !isPrintable c

/-- A value as it is written in log lines. -/
def valueText (value : Bytes) : Bytes :=
  if value = [] || (runes value).any needsQuotes then quote value else value

/-- A key and a value as they are written in log lines. -/
def fieldText (key value : Bytes) : Bytes :=
  key ++ "=" ++ valueText value

/-- The line of a record. -/
def Record.line (r : Record) : Bytes :=
  Bytes.join " "
    (fieldText "level" r.level.name :: fieldText "msg" r.message
      :: r.fields.map fun (key, value) => fieldText key value) ++ "\n"

/-- The lines of the records that are at least as important as the threshold. -/
def text (threshold : Level) (records : List Record) : Bytes :=
  (records.filter (threshold.severity ≤ ·.level.severity)).flatMap Record.line

end IppXml.Log
