import IppXml.Fault

/-! Command lines: flags, their values, and what is left.

Long flags begin with two dashes, and letters with one; several letters may share a dash.
Flags and other arguments may be mixed; two dashes alone end the flags. Reading stops at
the first fault.
-/

namespace IppXml

/-- What a flag takes. -/
inductive FlagKind where
  /-- A truth value, which may be left out. -/
  | switch
  /-- A text. -/
  | text
deriving DecidableEq

/-- A flag that a command understands. -/
structure Flag where
  name : Bytes
  letter : UInt8
  kind : FlagKind
deriving DecidableEq

/-- The value of a flag. -/
inductive FlagValue where
  | switch (on : Bool)
  | text (content : Bytes)
deriving DecidableEq

/-- A command line that has been read: flags in their sequence, the other arguments, and
whether two dashes alone occurred.
-/
structure CommandLine where
  flags : List (Bytes × FlagValue) := []
  positionals : List Bytes := []
  dashed : Bool := false
deriving DecidableEq

namespace CommandLine

/-- The dash. -/
def dash : UInt8 := 0x2D

/-- The equals sign. -/
def equals : UInt8 := 0x3D

/-- The spellings of a truth value. -/
def readSwitch? (value : Bytes) : Option Bool :=
  if ["1", "t", "T", "TRUE", "true", "True"].any (utf8 · = value) then some true
  else if ["0", "f", "F", "FALSE", "false", "False"].any (utf8 · = value) then some false
  else none

/-- Gives a value to a flag. -/
def assign (line : CommandLine) (flag : Flag) (value : Bytes)
    : Except UsageFault CommandLine :=
  match flag.kind with
  | .text => .ok { line with flags := line.flags ++ [(flag.name, .text value)] }
  | .switch =>
      match readSwitch? value with
      | some on => .ok { line with flags := line.flags ++ [(flag.name, .switch on)] }
      | none => .error (.invalidSwitch value flag.letter flag.name)

/-- A flag whose value is the next argument, and the fault if there is none. -/
structure Pending where
  flag : Flag
  fault : UsageFault

/-- Reads the letters behind a dash. A rest that begins with `test.` is passed over. -/
def readLetters (known : List Flag)
    : CommandLine → Bytes → Except UsageFault (CommandLine × Option Pending)
  | line, [] => .ok (line, none)
  | line, letter :: rest =>
      if (utf8 "test.").isPrefixOf (letter :: rest) then .ok (line, none)
      else
        match known.find? (·.letter = letter) with
        | none => .error (.unknownShorthand letter (letter :: rest))
        | some flag =>
            if rest.head? = some equals && 1 < rest.length then
              (line.assign flag rest.tail).map (·, none)
            else if flag.kind = .switch then
              match line.assign flag "true" with
              | .error fault => .error fault
              | .ok line => readLetters known line rest
            else if rest ≠ [] then (line.assign flag rest).map (·, none)
            else
              let fault := .missingShorthandValue letter (letter :: rest)
              .ok (line, some { flag, fault })

/-- Reads a long flag from the whole argument. -/
def readLong (known : List Flag) (line : CommandLine) (arg : Bytes)
    : Except UsageFault (CommandLine × Option Pending) :=
  let body := arg.drop 2
  if body.head? = some dash || body.head? = some equals then .error (.badFlag arg)
  else
    let (name, value?) :=
      match Bytes.cutAt? equals body with
      | some (name, value) => (name, some value)
      | none => (body, none)
    match known.find? (·.name = name) with
    | none => .error (.unknownFlag name)
    | some flag =>
        match value?, flag.kind with
        | some value, _ => (line.assign flag value).map (·, none)
        | none, .switch => (line.assign flag "true").map (·, none)
        | none, .text => .ok (line, some { flag, fault := .missingValue arg })

/-- Whether an argument is no flag: it has no dash in front, or nothing else. -/
def isPositional (arg : Bytes) : Bool :=
  arg.head? ≠ some dash || arg.length = 1

/-- Reads arguments, the first of which may be the value of a flag before it. -/
def readFrom (known : List Flag)
    : Option Pending → CommandLine → List Bytes → Except UsageFault CommandLine
  | none, line, [] => .ok line
  | some pending, _, [] => .error pending.fault
  | some pending, line, arg :: rest =>
      match line.assign pending.flag arg with
      | .error fault => .error fault
      | .ok line => readFrom known none line rest
  | none, line, arg :: rest =>
      if isPositional arg then
        readFrom known none { line with positionals := line.positionals ++ [arg] } rest
      else if arg = "--" then
        .ok { line with positionals := line.positionals ++ rest, dashed := true }
      else
        let step :=
          if arg[1]? = some dash then readLong known line arg
          else readLetters known line arg.tail
        match step with
        | .error fault => .error fault
        | .ok (line, pending) => readFrom known pending line rest

/-- Reads a command line. -/
def read (known : List Flag) (args : List Bytes) : Except UsageFault CommandLine :=
  readFrom known none {} args

/-- The value a flag has in the end. -/
def value? (line : CommandLine) (name : Bytes) : Option FlagValue :=
  line.flags.reverse.lookup name

/-- Whether a switch is on in the end. -/
def isOn (line : CommandLine) (name : Bytes) : Bool :=
  line.value? name = some (.switch true)

/-- The text of a flag in the end, and the empty text if it is not given. -/
def textOf (line : CommandLine) (name : Bytes) : Bytes :=
  match line.value? name with
  | some (.text content) => content
  | _ => []

end CommandLine

end IppXml
