import IppXml.Escape
import IppXml.Slot
import IppXml.Text.Quoted

/-! What can be wrong with a command line, a source program or a document.

A fault says what was found and where. Its message is made here and nowhere else.
-/

namespace IppXml

/-- The kinds of errors that callers tell apart. -/
inductive ErrorKind where
  | usage
  | input
  | output
  | emptyInput
  | header
  | unknownOpcode
  | arity
  | argument
  | grammar
  | format
  | shape
deriving DecidableEq

/-- The words that messages of the kind begin with. -/
def ErrorKind.text : ErrorKind → Bytes
  | usage => "invalid usage"
  | input => "cannot read input"
  | output => "cannot write output"
  | emptyInput => "empty input"
  | header => "missing or invalid header"
  | unknownOpcode => "unknown opcode"
  | arity => "syntax error: wrong number of arguments"
  | argument => "syntax error: malformed argument"
  | grammar => "syntax error"
  | format => "malformed document"
  | shape => "unexpected document structure"

/-- Whether an error of the first kind counts as one of the second. Wrong argument counts
and malformed arguments are errors of the grammar.
-/
def ErrorKind.isA (kind general : ErrorKind) : Bool :=
  kind = general || (general = grammar && (kind = arity || kind = argument))

/-- Faults of the command line and of the environment. -/
inductive UsageFault where
  /-- A value that is no log level. -/
  | logLevel (value : Bytes)
  /-- A value that is no indentation. -/
  | indent (value : Bytes)
  /-- A long flag that is not defined. -/
  | unknownFlag (name : Bytes)
  /-- A letter that is no flag, and what is left of its cluster. -/
  | unknownShorthand (letter : UInt8) (cluster : Bytes)
  /-- Two dashes that are followed by a dash or an equals sign. -/
  | badFlag (arg : Bytes)
  /-- A long flag at the end that requires a value. -/
  | missingValue (arg : Bytes)
  /-- A letter at the end that requires a value. -/
  | missingShorthandValue (letter : UInt8) (cluster : Bytes)
  /-- A value that is no truth value. -/
  | invalidSwitch (value : Bytes) (letter : UInt8) (name : Bytes)
  /-- An argument where none is taken. -/
  | unexpectedArgument (arg : Bytes)
  /-- A help flag that asks for no help. -/
  | helpRefused
deriving DecidableEq

/-- The environment variable for the log level. -/
def logLevelVariable : Bytes := "IPPCODE_LOG_LEVEL"

/-- The environment variable for the indentation. -/
def indentVariable : Bytes := "IPPCODE_INDENT"

/-- The letter of a flag as it appears in messages. -/
def quoteLetter (letter : UInt8) : Bytes :=
  quoteChar (Char.ofNat letter.toNat)

/-- What follows the words of the kind. -/
def UsageFault.detail : UsageFault → Bytes
  | logLevel value => logLevelVariable ++ "=" ++ quote value ++ " is not a log level"
  | indent value => indentVariable ++ "=" ++ quote value ++ " is not tab, none or 0-8"
  | unknownFlag name => "unknown flag: --" ++ name
  | unknownShorthand letter cluster =>
      "unknown shorthand flag: " ++ quoteLetter letter ++ " in -" ++ cluster
  | badFlag arg => "bad flag syntax: " ++ arg
  | missingValue arg => "flag needs an argument: " ++ arg
  | missingShorthandValue letter cluster =>
      "flag needs an argument: " ++ quoteLetter letter ++ " in -" ++ cluster
  | invalidSwitch value letter name =>
      "invalid argument " ++ quote value ++ " for "
        ++ quote ("-" ++ [letter] ++ ", --" ++ name)
        ++ " flag: strconv.ParseBool: parsing " ++ quote value ++ ": invalid syntax"
  | unexpectedArgument arg => "unexpected argument " ++ quote arg
  | helpRefused => "help flag set to false"

/-- Faults of the header line. -/
inductive HeaderFault where
  /-- The source ends before its header. -/
  | missing (header : Bytes)
  /-- The first line with tokens is not the header. -/
  | different (header found : Bytes)
deriving DecidableEq

/-- What follows the words of the kind. -/
def HeaderFault.detail : HeaderFault → Bytes
  | missing header => quote header ++ " not found"
  | different header found => "expected " ++ quote header ++ ", found " ++ quote found

/-- Faults of a line that should be an instruction. -/
inductive InstructionFault where
  /-- No tokens. -/
  | empty
  /-- An opcode, as written, that the instruction set does not have. -/
  | unknownOpcode (written : Bytes)
  /-- An opcode with the wrong number of arguments. -/
  | arity (opcode : Bytes) (required found : Nat)
  /-- A token that does not fill the slot at its position. -/
  | argument (opcode : Bytes) (position : Nat) (token : Bytes) (slot : Slot)
deriving DecidableEq

/-- The kind of error that the fault is. -/
def InstructionFault.kind : InstructionFault → ErrorKind
  | empty => .grammar
  | unknownOpcode _ => .unknownOpcode
  | arity .. => .arity
  | argument .. => .argument

/-- What follows the words of the kind. -/
def InstructionFault.detail : InstructionFault → Bytes
  | empty => "empty instruction"
  | unknownOpcode written => written
  | arity opcode required found =>
      opcode ++ " takes " ++ decimalNat required ++ ", got " ++ decimalNat found
  | argument opcode position token slot =>
      opcode ++ " arg" ++ decimalNat position ++ " " ++ quote token ++ " is not a "
        ++ slot.name

/-- Faults of a well-formed document that does not hold a program. -/
inductive ShapeFault where
  | root (name : Bytes)
  | language (found expected : Bytes)
  | element (name : Bytes)
  | orderText (text : Bytes)
  | orderSign (order : Int)
  | duplicateOrder (order : Int)
  | unknownOpcode (order : Int) (opcode : Bytes)
  | argumentName (order : Int) (name : Bytes)
  | repeatedArgument (order : Int) (position : Nat)
  | untypedArgument (order : Int) (position : Nat)
  | excessArgument (opcode : Bytes) (arity position : Nat)
  | invalidArgument (order : Int) (position : Nat) (value type : Bytes)
  | missingArgument (opcode : Bytes) (arity position : Nat)
  /-- A document that differs from its source, with what was found. -/
  | issues (messages : List Bytes)
deriving DecidableEq

/-- The name of the element for the argument at a position. -/
def argumentElement (position : Int) : Bytes :=
  "arg" ++ decimal position

/-- What follows the words of the kind. -/
def ShapeFault.detail : ShapeFault → Bytes
  | root name => "root element is " ++ quote name ++ ", not program"
  | language found expected => "language is " ++ quote found ++ ", not " ++ quote expected
  | element name => "unexpected element " ++ quote name
  | orderText text => "order " ++ quote text ++ " is not a number"
  | orderSign order => "order " ++ decimal order ++ " is not positive"
  | duplicateOrder order => "duplicate order " ++ decimal order
  | unknownOpcode order opcode =>
      "instruction " ++ decimal order ++ " has unknown opcode " ++ quote opcode
  | argumentName order name =>
      "instruction " ++ decimal order ++ " has unexpected element " ++ quote name
  | repeatedArgument order position =>
      "instruction " ++ decimal order ++ " repeats " ++ argumentElement position
  | untypedArgument order position =>
      "instruction " ++ decimal order ++ " " ++ argumentElement position ++ " has no type"
  | excessArgument opcode arity position =>
      opcode ++ " takes " ++ decimalNat arity ++ " arguments, found "
        ++ argumentElement position
  | invalidArgument order position value type =>
      "instruction " ++ decimal order ++ " " ++ argumentElement position ++ ": "
        ++ quote value ++ " is not a valid " ++ type
  | missingArgument opcode arity position =>
      opcode ++ " takes " ++ decimalNat arity ++ " arguments, "
        ++ argumentElement position ++ " is missing"
  | issues messages =>
      decimalNat messages.length ++ " issues: " ++ Bytes.join "; " messages

/-- The text of a fault in the escapes of a string. -/
def EscapeFault.message : EscapeFault → Bytes
  | truncated offset => "truncated escape sequence at offset " ++ decimalNat offset
  | invalid escape => "invalid escape sequence " ++ quote escape

/-- A single cause of an error. -/
inductive Fault where
  /-- A fault of which only the kind is told. -/
  | bare (kind : ErrorKind)
  | usage (fault : UsageFault)
  /-- The input could not be read, for the reason the system gives. -/
  | unreadable (reason : Bytes)
  /-- The output could not be written, for the reason the system gives. -/
  | unwritable (reason : Bytes)
  | header (fault : HeaderFault)
  | instruction (fault : InstructionFault)
  | shape (fault : ShapeFault)
  | escape (fault : EscapeFault)
  /-- A fault of no kind. -/
  | other (text : Bytes)
deriving DecidableEq

/-- The kind of a fault, if it has one. -/
def Fault.kind? : Fault → Option ErrorKind
  | bare kind => some kind
  | usage _ => some .usage
  | unreadable _ => some .input
  | unwritable _ => some .output
  | header _ => some .header
  | instruction fault => some fault.kind
  | shape _ => some .shape
  | escape _ => none
  | other _ => none

/-- The text of a fault: the words of its kind and what was found. -/
def Fault.message : Fault → Bytes
  | bare kind => kind.text
  | usage fault => ErrorKind.usage.text ++ ": " ++ fault.detail
  | unreadable reason => ErrorKind.input.text ++ ": " ++ reason
  | unwritable reason => ErrorKind.output.text ++ ": " ++ reason
  | header fault => ErrorKind.header.text ++ ": " ++ fault.detail
  | instruction fault => fault.kind.text ++ ": " ++ fault.detail
  | shape fault => ErrorKind.shape.text ++ ": " ++ fault.detail
  | escape fault => fault.message
  | other text => text

end IppXml
