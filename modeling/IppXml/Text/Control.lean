import IppXml.Text.Rune

/-! Terminal control sequences in texts.

A sequence begins with the escape character, and what follows tells how it ends: a style,
behind `[`, with the letter `m`; a command, behind `]`, with a backslash; and a link, a
command that begins with `8;`, with the bell, or with the escape character and a
backslash. Nothing inside of a sequence is shown.
-/

namespace IppXml

/-- The character that begins a control sequence. -/
def escapeSign : Char := '\x1b'

/-- The bell. -/
def bellSign : Char := '\x07'

/-- Where a scan stands with respect to control sequences. -/
inductive ControlScan where
  /-- Outside of any sequence. -/
  | plain
  /-- Behind the escape character. -/
  | opened
  /-- Behind the escape character and others that do not tell the kind of the sequence. -/
  | unknown
  /-- In a style. -/
  | style
  /-- Behind the bracket of a command. -/
  | commandStart
  /-- Behind the bracket of a command and the digit eight. -/
  | commandEight
  /-- In a command that is no link. -/
  | command
  /-- In a link; the flag tells whether the last character was the escape character. -/
  | link (escaped : Bool)
deriving DecidableEq

namespace ControlScan

/-- The state in a command that is no link, behind one more character. -/
def inCommand (c : Char) : ControlScan :=
  if c = '\\' then plain else command

/-- The state behind one more character. -/
def next (c : Char) : ControlScan → ControlScan
  | plain => if c = escapeSign then opened else plain
  | opened => if c = '[' then style else if c = ']' then commandStart else unknown
  | unknown => if c = '[' then style else if c = ']' then command else unknown
  | style => if c = 'm' then plain else style
  | commandStart => if c = '8' then commandEight else inCommand c
  | commandEight => if c = ';' then link false else inCommand c
  | command => inCommand c
  | link escaped =>
      if c = bellSign || (escaped && c = '\\') then plain else link (c = escapeSign)

end ControlScan

/-- A control sequence that has come to its end. -/
structure ControlSequence where
  isStyle : Bool
  text : Bytes
deriving DecidableEq

/-- The sequences that end in the characters, where `seen` has been read of the one that a
scan is in.
-/
def controlSequencesFrom : ControlScan → (seen : Bytes) → List Char → List ControlSequence
  | _, _, [] => []
  | scan, seen, c :: cs =>
      let text := seen ++ String.utf8EncodeChar c
      let after := scan.next c
      if after ≠ .plain then controlSequencesFrom after text cs
      else if scan = .plain then controlSequencesFrom .plain [] cs
      else { isStyle := scan = .style, text } :: controlSequencesFrom .plain [] cs

/-- The control sequences of a text. -/
def controlSequences (text : Bytes) : List ControlSequence :=
  controlSequencesFrom .plain [] (chars text)

end IppXml
