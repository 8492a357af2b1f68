import IppXml.Error
import IppXml.Proofs.Instruction.Spelling
import Mathlib.Data.Nat.Find
import Mathlib.Logic.ExistsUnique

/-! Why the tokens of a line are rejected.

A line can have several defects at once. They count in a fixed sequence: no tokens, an
opcode that is not registered, a wrong number of arguments, and the first argument that does
not fill its slot. Main statement: every list of tokens is in exactly one class, and the
class decides about the error or about the instruction.
-/

namespace IppXml

/-- The first thing that is wrong with the tokens of a line, if anything is. -/
inductive LineClass where
  | empty
  | unknownOpcode
  | miscounted
  /-- The argument at the index does not fill its slot; indices count from zero. -/
  | malformed (index : Nat)
  | accepted
deriving DecidableEq

/-- Tokens that begin with an opcode of the set, and the arguments behind it. -/
structure Call (set : InstructionSet) (tokens : List Bytes) where
  written : Bytes
  values : List Bytes
  signature : Signature
  tokens_eq : tokens = written :: values
  known : set.lookup? written = some signature

namespace Call

variable {set : InstructionSet} {tokens : List Bytes}

/-- There are as many arguments as slots. -/
def IsCounted (call : Call set tokens) : Prop :=
  call.values.length = call.signature.length

/-- The token is the argument at the index, and its slot does not accept it. -/
def IsMisfit (call : Call set tokens) (index : Nat) (slot : Slot) (token : Bytes) : Prop :=
  call.signature[index]? = some slot
  ∧ call.values[index]? = some token
  ∧ slot.accepts token = false

/-- The argument at the index does not fill its slot. -/
def Misfits (call : Call set tokens) (index : Nat) : Prop :=
  ∃ slot token, call.IsMisfit index slot token

end Call

/-- The error that a fault in a line is. -/
def InstructionFault.error (fault : InstructionFault) : Error :=
  .fault (.instruction fault)

namespace LineClass

/-- The tokens are of the class. -/
def Describes (set : InstructionSet) (tokens : List Bytes) : LineClass → Prop
  | empty => tokens = []
  | unknownOpcode => ∃ written values, tokens = written :: values ∧ upper written ∉ set.opcodes
  | miscounted => ∃ call : Call set tokens, ¬ call.IsCounted
  | malformed index =>
      ∃ call : Call set tokens,
        call.IsCounted ∧ call.Misfits index ∧ ∀ earlier < index, ¬ call.Misfits earlier
  | accepted => ∃ call : Call set tokens, call.IsCounted ∧ ∀ index, ¬ call.Misfits index

/-- The result is the one for tokens of the class. -/
def Answers (set : InstructionSet) (tokens : List Bytes)
    (result : Except InstructionFault Instruction) : LineClass → Prop
  | empty =>
      ∃ fault,
        result = .error fault
        ∧ fault.error.isKind .grammar = true
        ∧ fault.error.isKind .arity = false
        ∧ fault.error.isKind .argument = false
  | unknownOpcode =>
      ∃ fault,
        result = .error fault
        ∧ fault.error.isKind .unknownOpcode = true
        ∧ fault.error.exitCode = 22
  | miscounted =>
      ∃ fault,
        result = .error fault
        ∧ fault.error.isKind .arity = true
        ∧ fault.error.exitCode = 23
  | malformed index =>
      ∃ fault,
        result = .error fault
        ∧ fault.error.isKind .argument = true
        ∧ fault.error.exitCode = 23
        ∧ ∃ (call : Call set tokens) (slot : Slot) (token : Bytes),
            call.IsMisfit index slot token
            ∧ fault.error.message
              = ErrorKind.argument.text ++ ": " ++ upper call.written ++ " "
                ++ argumentElement (index + 1 : Nat) ++ " " ++ quote token ++ " is not a "
                ++ slot.name
  | accepted =>
      ∃ (call : Call set tokens) (args : List Argument),
        result = .ok { order := 0, opcode := upper call.written, args }
        ∧ upper call.written ∈ set.opcodes
        ∧ args.length = call.signature.length
        ∧ ∀ (index : Nat) (slot : Slot) (token : Bytes),
            call.signature[index]? = some slot
            → call.values[index]? = some token
            → args[index]? = some (slot.argument (index + 1) token)

/-- The class of tokens with the given result. -/
def ofResult : Except InstructionFault Instruction → LineClass
  | .error .empty => empty
  | .error (.unknownOpcode _) => unknownOpcode
  | .error (.arity ..) => miscounted
  | .error (.argument _ position _ _) => malformed (position - 1)
  | .ok _ => accepted

end LineClass

-----------------------------------------------------------------------------------------
-- The first argument that does not fill its slot
-----------------------------------------------------------------------------------------

/-- Slots are filled up to the first one that does not accept its token, by induction over
the slots.
-/
theorem Instruction.fillSlots_of_misfit (opcode : Bytes) {position index : Nat}
    {slots : List Slot} {tokens : List Bytes} {slot : Slot} {token : Bytes}
    (atSlot : slots[index]? = some slot) (atToken : tokens[index]? = some token)
    (refused : slot.accepts token = false)
    (before : ∀ earlier < index, ∀ s t,
      slots[earlier]? = some s → tokens[earlier]? = some t → s.accepts t = true)
    : fillSlots opcode position slots tokens
      = .error (.argument opcode (position + index) token slot) := by
  induction slots generalizing position index tokens with
  | nil => simp at atSlot
  | cons first slots ih =>
      cases tokens with
      | nil => simp at atToken
      | cons head tokens =>
          rw [fillSlots]
          cases index with
          | zero =>
              obtain rfl : first = slot := by simpa using atSlot
              obtain rfl : head = token := by simpa using atToken
              simp [refused]
          | succ index =>
              have fits := before 0 (by omega) first head rfl rfl
              have later : fillSlots opcode (position + 1) slots tokens
                  = .error (.argument opcode (position + 1 + index) token slot) :=
                ih atSlot atToken fun earlier below => before (earlier + 1) (by omega)
              rw [if_pos fits, later, Nat.add_assoc, Nat.add_comm 1]
              rfl

theorem getElem?_slotArguments {position index : Nat} {slots : List Slot}
    {tokens : List Bytes} {slot : Slot} {token : Bytes} (atSlot : slots[index]? = some slot)
    (atToken : tokens[index]? = some token)
    : (slotArguments position slots tokens)[index]?
      = some (slot.argument (position + index) token) := by
  have pair : (slots.zip tokens)[index]? = some (slot, token) :=
    List.getElem?_zip_eq_some.mpr ⟨atSlot, atToken⟩
  simp [slotArguments, pair]

-----------------------------------------------------------------------------------------
-- The result for each class
-----------------------------------------------------------------------------------------

theorem Instruction.ofTokens_of_unknown {set : InstructionSet} {written : Bytes}
    (values : List Bytes) (h : upper written ∉ set.opcodes)
    : ofTokens set (written :: values) = .error (.unknownOpcode written) := by
  rw [ofTokens, set.lookup?_upper, InstructionSet.lookup?_eq_none.mpr h]

namespace Call

variable {set : InstructionSet} {tokens : List Bytes}

theorem ofTokens_of_miscounted (call : Call set tokens) (h : ¬ call.IsCounted)
    : Instruction.ofTokens set tokens
      = .error (.arity (upper call.written) call.signature.length call.values.length) := by
  obtain ⟨written, values, signature, rfl, known⟩ := call
  rw [Instruction.ofTokens, set.lookup?_upper, known]
  exact if_pos h

theorem ofTokens_of_isCounted (call : Call set tokens) (h : call.IsCounted)
    : Instruction.ofTokens set tokens
      = (Instruction.fillSlots (upper call.written) 1 call.signature call.values).map
          fun args => { order := 0, opcode := upper call.written, args } := by
  obtain ⟨written, values, signature, rfl, known⟩ := call
  rw [Instruction.ofTokens, set.lookup?_upper, known]
  exact if_neg (not_not.mpr h)

theorem accepts_of_not_misfits {call : Call set tokens} {index : Nat} {slot : Slot}
    {token : Bytes} (h : ¬ call.Misfits index) (atSlot : call.signature[index]? = some slot)
    (atToken : call.values[index]? = some token)
    : slot.accepts token = true := by
  cases answer : slot.accepts token with
  | true => rfl
  | false => exact absurd ⟨slot, token, atSlot, atToken, answer⟩ h

theorem ofTokens_of_misfit {call : Call set tokens} {index : Nat} {slot : Slot}
    {token : Bytes} (counted : call.IsCounted) (misfit : call.IsMisfit index slot token)
    (first : ∀ earlier < index, ¬ call.Misfits earlier)
    : Instruction.ofTokens set tokens
      = .error (.argument (upper call.written) (index + 1) token slot) := by
  obtain ⟨atSlot, atToken, refused⟩ := misfit
  rw [call.ofTokens_of_isCounted counted,
    Instruction.fillSlots_of_misfit _ atSlot atToken refused fun earlier below _ _ =>
      accepts_of_not_misfits (first earlier below),
    Nat.add_comm]
  rfl

theorem ofTokens_of_fits {call : Call set tokens} (counted : call.IsCounted)
    (fits : ∀ index, ¬ call.Misfits index)
    : Instruction.ofTokens set tokens
      = .ok {
          order := 0,
          opcode := upper call.written,
          args := slotArguments 1 call.signature call.values } := by
  have filled : Instruction.fillSlots (upper call.written) 1 call.signature call.values
      = .ok (slotArguments 1 call.signature call.values) := by
    refine (Instruction.fillSlots_eq_ok _).mpr ⟨?_, rfl⟩
    intro pair member
    obtain ⟨index, found⟩ := List.mem_iff_getElem?.mp member
    obtain ⟨atSlot, atToken⟩ := List.getElem?_zip_eq_some.mp found
    exact accepts_of_not_misfits (fits index) atSlot atToken
  rw [call.ofTokens_of_isCounted counted, filled]
  rfl

end Call

-----------------------------------------------------------------------------------------
-- Classes of lines
-----------------------------------------------------------------------------------------

namespace LineClass

variable {set : InstructionSet} {tokens : List Bytes}

/-- Every list of tokens is of some class: if the opcode is known and the number of arguments
right, the least index of a misfit decides.
-/
theorem exists_describes (set : InstructionSet) (tokens : List Bytes)
    : ∃ c, Describes set tokens c := by
  cases tokens with
  | nil => exact ⟨empty, rfl⟩
  | cons written values =>
      cases known : set.lookup? written with
      | none =>
          exact ⟨unknownOpcode, written, values, rfl, InstructionSet.lookup?_eq_none.mp known⟩
      | some signature =>
          let call : Call set (written :: values) := ⟨written, values, signature, rfl, known⟩
          by_cases counted : call.IsCounted
          · by_cases misfit : ∃ index, call.Misfits index
            · classical
              exact ⟨malformed (Nat.find misfit), call, counted, Nat.find_spec misfit,
                fun earlier below => Nat.find_min misfit below⟩
            · exact ⟨accepted, call, counted, not_exists.mp misfit⟩
          · exact ⟨miscounted, call, counted⟩

/-- The class can be read off the result, so there is one class at most. -/
theorem Describes.eq_ofResult {c : LineClass} (h : Describes set tokens c)
    : c = ofResult (Instruction.ofTokens set tokens) := by
  cases c with
  | empty =>
      obtain rfl : tokens = [] := h
      rfl
  | unknownOpcode =>
      obtain ⟨written, values, rfl, unknown⟩ := h
      rw [Instruction.ofTokens_of_unknown values unknown]
      rfl
  | miscounted =>
      obtain ⟨call, wrong⟩ := h
      rw [call.ofTokens_of_miscounted wrong]
      rfl
  | malformed index =>
      obtain ⟨call, counted, ⟨slot, token, misfit⟩, first⟩ := h
      rw [Call.ofTokens_of_misfit counted misfit first]
      rfl
  | accepted =>
      obtain ⟨call, counted, fits⟩ := h
      rw [Call.ofTokens_of_fits counted fits]
      rfl

/-- The message about an argument names its element. -/
theorem message_argument (opcode token : Bytes) (position : Nat) (slot : Slot)
    : (InstructionFault.argument opcode position token slot).error.message
      = ErrorKind.argument.text ++ ": " ++ opcode ++ " " ++ argumentElement position ++ " "
        ++ quote token ++ " is not a " ++ slot.name := by
  have word : utf8 " arg" = utf8 " " ++ utf8 "arg" := rfl
  simp [InstructionFault.error, Error.message, Fault.message, InstructionFault.kind,
    InstructionFault.detail, argumentElement, decimal, word]

theorem Describes.answers {c : LineClass} (h : Describes set tokens c)
    : Answers set tokens (Instruction.ofTokens set tokens) c := by
  cases c with
  | empty =>
      obtain rfl : tokens = [] := h
      exact ⟨.empty, rfl, rfl, rfl, rfl⟩
  | unknownOpcode =>
      obtain ⟨written, values, rfl, unknown⟩ := h
      exact ⟨_, Instruction.ofTokens_of_unknown values unknown, rfl, rfl⟩
  | miscounted =>
      obtain ⟨call, wrong⟩ := h
      exact ⟨_, call.ofTokens_of_miscounted wrong, rfl, rfl⟩
  | malformed index =>
      obtain ⟨call, counted, ⟨slot, token, misfit⟩, first⟩ := h
      exact ⟨_, Call.ofTokens_of_misfit counted misfit first, rfl, rfl, call, slot, token,
        misfit, message_argument _ _ _ _⟩
  | accepted =>
      obtain ⟨call, counted, fits⟩ := h
      refine ⟨call, _, Call.ofTokens_of_fits counted fits,
        InstructionSet.upper_mem_opcodes call.known, length_slotArguments counted, ?_⟩
      intro index slot token atSlot atToken
      rw [getElem?_slotArguments atSlot atToken, Nat.add_comm]

end LineClass

/-- Tokens are classified by their first defect. They are of exactly one class, and the class
decides about the result, whatever else is wrong: no tokens are an error of the grammar only;
an opcode that is not registered ends with code 22; a wrong number of arguments ends with
code 23, and so does an argument that does not fill its slot, of which the first is named; and
tokens without a defect are an instruction without an order, in upper case, with the type and
value that each slot gives to its token.
-/
theorem Instruction.ofTokens_classifies (set : InstructionSet) (tokens : List Bytes)
    : (∃! c, LineClass.Describes set tokens c)
      ∧ ∀ c,
          LineClass.Describes set tokens c
          → LineClass.Answers set tokens (Instruction.ofTokens set tokens) c := by
  refine ⟨?_, fun c => LineClass.Describes.answers⟩
  obtain ⟨c, describes⟩ := LineClass.exists_describes set tokens
  refine ⟨c, describes, ?_⟩
  intro other also
  exact also.eq_ofResult.trans describes.eq_ofResult.symm

end IppXml
