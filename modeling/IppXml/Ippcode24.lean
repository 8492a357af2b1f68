import IppXml.InstructionSet

/-! The instruction set IPPcode24. -/

namespace IppXml

/-- The opcodes of IPPcode24 and their arguments. -/
def ippcode24Opcodes : List (String × Signature) :=
  [
    -- frames and calls
    ("CREATEFRAME", []),
    ("PUSHFRAME", []),
    ("POPFRAME", []),
    ("DEFVAR", [.var]),
    ("CALL", [.label]),
    ("RETURN", []),
    ("MOVE", [.var, .symb]),
    -- data stack
    ("PUSHS", [.symb]),
    ("POPS", [.var]),
    -- arithmetic, comparison and logic
    ("ADD", [.var, .symb, .symb]),
    ("SUB", [.var, .symb, .symb]),
    ("MUL", [.var, .symb, .symb]),
    ("IDIV", [.var, .symb, .symb]),
    ("LT", [.var, .symb, .symb]),
    ("GT", [.var, .symb, .symb]),
    ("EQ", [.var, .symb, .symb]),
    ("AND", [.var, .symb, .symb]),
    ("OR", [.var, .symb, .symb]),
    ("NOT", [.var, .symb]),
    -- conversions and strings
    ("INT2CHAR", [.var, .symb]),
    ("STRI2INT", [.var, .symb, .symb]),
    ("CONCAT", [.var, .symb, .symb]),
    ("STRLEN", [.var, .symb]),
    ("GETCHAR", [.var, .symb, .symb]),
    ("SETCHAR", [.var, .symb, .symb]),
    ("TYPE", [.var, .symb]),
    -- input and output
    ("READ", [.var, .type]),
    ("WRITE", [.symb]),
    -- control flow
    ("LABEL", [.label]),
    ("JUMP", [.label]),
    ("JUMPIFEQ", [.label, .symb, .symb]),
    ("JUMPIFNEQ", [.label, .symb, .symb]),
    ("EXIT", [.symb]),
    -- debugging
    ("DPRINT", [.symb]),
    ("BREAK", [])
  ]

/-- The instruction set that converters use unless told otherwise. -/
def ippcode24 : InstructionSet :=
  {
    name := "IPPcode24",
    entries := ippcode24Opcodes.map fun (opcode, signature) => (utf8 opcode, signature)
  }

end IppXml
