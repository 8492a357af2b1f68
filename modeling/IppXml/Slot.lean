import IppXml.Token

/-! What an instruction requires at an argument position, and the types of arguments. -/

namespace IppXml

/-- The type attribute an argument carries in a document. -/
inductive ArgType where
  | var
  | int
  | bool
  | string
  | nil
  | label
  | type
deriving DecidableEq

namespace ArgType

/-- The type as it is written in documents. -/
def name : ArgType → Bytes
  | var => "var"
  | int => "int"
  | bool => "bool"
  | string => "string"
  | nil => "nil"
  | label => "label"
  | type => "type"

/-- The type that is written as the given text. -/
def ofName? (text : Bytes) : Option ArgType :=
  [var, int, bool, string, nil, label, type].find? (·.name = text)

/-- Whether the arguments of the type are written as constants in source programs. -/
def isConstant : ArgType → Bool
  | int | bool | string | nil => true
  | var | label | type => false

end ArgType

/-- The kind of token an instruction requires at one of its argument positions. -/
inductive Slot where
  | var
  | symb
  | label
  | type
  /-- A kind that no token satisfies. -/
  | unknown
deriving DecidableEq

namespace Slot

/-- The word for a slot. -/
def name : Slot → Bytes
  | var => "var"
  | symb => "symb"
  | label => "label"
  | type => "type"
  | unknown => "unknown"

/-- The slot with the given number. -/
def ofCode (code : Int) : Slot :=
  if code = 0 then var
  else if code = 1 then symb
  else if code = 2 then label
  else if code = 3 then type
  else unknown

/-- Whether the token may fill the slot. A label may be spelled like a type name. -/
def accepts (slot : Slot) (token : Bytes) : Bool :=
  match slot with
  | var => Token.classify token = .var
  | symb => Token.classify token = .var || Token.classify token = .constant
  | label => Token.isLabel token
  | type => Token.classify token = .typeName
  | unknown => false

/-- The type of a token without an at sign, or with one that follows neither a frame nor a
type.
-/
def bareType (slot : Slot) (token : Bytes) : ArgType :=
  if slot ≠ label && Token.isTypeName token then .type else .label

/-- The type and the value that a token has in the slot. A variable keeps its whole token,
a constant what follows the first at sign, and all else is kept as written.
-/
def resolve (slot : Slot) (token : Bytes) : ArgType × Bytes :=
  match token.cutAt? Token.atSign with
  | some (before, after) =>
      if Token.isFrame before then (.var, token)
      else if Token.isTypeName before then ((ArgType.ofName? before).getD .label, after)
      else (slot.bareType token, token)
  | none => (slot.bareType token, token)

end Slot

end IppXml
