import IppXml.Defect
import IppXml.Slot
import IppXml.Sorting
import IppXml.Text.Case

/-! Instruction sets: opcodes and the arguments they take. Opcodes are registered and
looked up in upper case.
-/

namespace IppXml

/-- The slots of an opcode, in the sequence of positions. -/
abbrev Signature := List Slot

/-- The names of the slots, with spaces between them. -/
def Signature.text (signature : Signature) : Bytes :=
  Bytes.join " " (signature.map Slot.name)

/-- A named table of opcodes, in the sequence of their registration. -/
structure InstructionSet where
  name : Bytes
  entries : List (Bytes × Signature)

namespace InstructionSet

/-- The instruction set without opcodes. -/
def empty (name : Bytes) : InstructionSet :=
  { name, entries := [] }

/-- The signature of an opcode, whatever its case. -/
def lookup? (set : InstructionSet) (opcode : Bytes) : Option Signature :=
  set.entries.lookup (upper opcode)

theorem mem_of_lookup? {set : InstructionSet} {opcode : Bytes} {signature : Signature}
    (h : set.lookup? opcode = some signature)
    : (upper opcode, signature) ∈ set.entries := by
  obtain ⟨before, after, entries, _⟩ := List.lookup_eq_some_iff.mp h
  simp [entries]

/-- Adds an opcode. Registering an opcode a second time is a defect of the caller. -/
def register (set : InstructionSet) (opcode : Bytes) (signature : Signature)
    : Except Defect InstructionSet :=
  if (set.lookup? opcode).isSome then .error (.duplicateOpcode (upper opcode) set.name)
  else .ok { set with entries := set.entries ++ [(upper opcode, signature)] }

/-- Registers opcodes one after the other. -/
def registerAll (set : InstructionSet) (entries : List (Bytes × Signature))
    : Except Defect InstructionSet :=
  entries.foldlM (fun set (opcode, signature) => set.register opcode signature) set

/-- The registered opcodes in the order of their bytes. -/
def opcodes (set : InstructionSet) : List Bytes :=
  sortBy (fun a b => decide (a ≤ b)) (set.entries.map Prod.fst)

theorem mem_opcodes {set : InstructionSet} {opcode : Bytes}
    : opcode ∈ set.opcodes ↔ opcode ∈ set.entries.map Prod.fst :=
  (sortBy_perm _ _).mem_iff

/-- An opcode is not found exactly if its upper case is not registered. -/
theorem lookup?_eq_none {set : InstructionSet} {opcode : Bytes}
    : set.lookup? opcode = none ↔ upper opcode ∉ set.opcodes := by
  rw [lookup?, List.lookup_eq_none_iff, mem_opcodes]
  constructor
  · intro differs member
    obtain ⟨entry, inside, same⟩ := List.mem_map.mp member
    exact bne_iff_ne.mp (differs entry inside) same.symm
  · intro absent entry inside
    exact bne_iff_ne.mpr fun same => absent (List.mem_map.mpr ⟨entry, inside, same.symm⟩)

theorem isSome_lookup? {set : InstructionSet} {opcode : Bytes}
    : (set.lookup? opcode).isSome = true ↔ upper opcode ∈ set.opcodes := by
  rw [← Option.ne_none_iff_isSome, ne_eq, lookup?_eq_none, Classical.not_not]

theorem upper_mem_opcodes {set : InstructionSet} {opcode : Bytes} {signature : Signature}
    (h : set.lookup? opcode = some signature)
    : upper opcode ∈ set.opcodes :=
  isSome_lookup?.mp (Option.isSome_of_eq_some h)

end InstructionSet

end IppXml
