import IppXml.Proofs.Document.NormalForm
import IppXml.Proofs.Slot.Suitability

/-! Decoded instructions as lines of a source program.

The decoder checks each argument against its own type and the number of arguments against the
signature. It does not check types against slots, as spelling an instruction from tokens
does. That is all there is between the two: a decoded instruction is spelled by its tokens
exactly if the type of each argument suits the slot at its position. A label that is spelled
like a type name may fill the slot of a type, but is another argument there.
-/

namespace IppXml

-----------------------------------------------------------------------------------------
-- Arguments
-----------------------------------------------------------------------------------------

/-- A valid argument is what its token makes in a slot exactly if its type suits the slot.
Witness: whatever a slot accepts is resolved to a type that suits it.
-/
theorem Slot.argument_token_iff {slot : Slot} {a : Argument} {position : Nat}
    (valid : a.isValid = true) (placed : a.position = position)
    : slot.accepts a.token = true ∧ slot.argument position a.token = a
      ↔ slot.suits a.type = true := by
  constructor
  · intro given
    obtain ⟨accepted, same⟩ := given
    rw [← same]
    exact Slot.suits_name.mpr (Slot.mem_types_resolve accepted)
  · intro suits
    obtain ⟨t, named, admitted⟩ := Argument.isValid_iff.mp valid
    obtain ⟨place, type, value⟩ := a
    subst named placed
    obtain ⟨accepted, resolved⟩ :=
      Slot.accepts_token position (Slot.suits_name.mp suits) admitted
    exact ⟨accepted, by rw [Slot.argument, resolved]⟩

/-- The types of the arguments suit the slots one by one. -/
def SuitSlots (slots : List Slot) (args : List Argument) : Prop :=
  List.Forall₂ (fun slot a => slot.suits a.type = true) slots args

/-- Valid arguments in sequence are those that their tokens make in slots exactly if their
types suit the slots, by induction over both.
-/
theorem slotArguments_map_token_iff {slots : List Slot} {args : List Argument}
    {position : Nat} (length : slots.length = args.length)
    (positions
      : args.map Argument.position = (List.range' position args.length).map Int.ofNat)
    (valid : ∀ a ∈ args, a.isValid = true)
    : (∀ pair ∈ slots.zip (args.map Argument.token), pair.1.accepts pair.2 = true)
        ∧ slotArguments position slots (args.map Argument.token) = args
      ↔ SuitSlots slots args := by
  induction slots generalizing args position with
  | nil =>
      obtain rfl : args = [] := List.length_eq_zero_iff.mp length.symm
      simp [SuitSlots, slotArguments]
  | cons slot slots ih =>
      cases args with
      | nil => simp at length
      | cons a args =>
          rw [List.length_cons, List.range'_succ, List.map_cons, List.map_cons,
            List.cons.injEq] at positions
          rw [List.forall_mem_cons] at valid
          have first
              : slot.accepts a.token = true ∧ slot.argument position a.token = a
                ↔ slot.suits a.type = true :=
            Slot.argument_token_iff valid.1 positions.1
          have others := ih (Nat.succ.inj length) positions.2 valid.2
          rw [SuitSlots, List.forall₂_cons, ← SuitSlots, ← first, ← others, List.map_cons,
            List.zip_cons_cons, List.forall_mem_cons, slotArguments_cons, List.cons.injEq]
          exact and_and_and_comm

-----------------------------------------------------------------------------------------
-- Instructions
-----------------------------------------------------------------------------------------

/-- The tokens of a normal instruction spell one that agrees with it exactly if the types of
its arguments suit the slots of its signature.
-/
theorem Instruction.IsNormal.exists_ofTokens_iff {set : InstructionSet} {d : Instruction}
    {signature : Signature} (normal : d.IsNormal set)
    (known : set.lookup? d.opcode = some signature)
    (length : signature.length = d.args.length)
    : (∃ i, Instruction.ofTokens set d.tokens = .ok i ∧ i.agrees d = true)
      ↔ SuitSlots signature d.args := by
  have valid : ∀ a ∈ d.args, a.isValid = true :=
    fun a member => (normal.args a member).1
  rw [← slotArguments_map_token_iff length normal.positions valid]
  constructor
  · intro given
    obtain ⟨i, spelled, agree⟩ := given
    obtain ⟨written, values, found, same, looked, _, accepted, rfl⟩ :=
      Instruction.ofTokens_eq_ok.mp spelled
    obtain ⟨rfl, rfl⟩ := List.cons.inj same
    rw [normal.opcode.1, known] at looked
    cases looked
    exact ⟨accepted, (Instruction.agrees_iff.mp agree).2⟩
  · intro given
    obtain ⟨accepted, same⟩ := given
    refine ⟨{ order := 0, opcode := d.opcode, args := d.args }, ?_, ?_⟩
    · refine Instruction.ofTokens_eq_ok.mpr
        ⟨d.opcode, d.args.map Argument.token, signature, rfl, ?_, ?_, accepted, ?_⟩
      · rw [normal.opcode.1]
        exact known
      · rw [List.length_map, length]
      · rw [same, normal.opcode.1]
    · exact Instruction.agrees_iff.mpr ⟨rfl, rfl⟩

/-- Arguments in sequence suit the slots one by one exactly if each of them suits the slot
that its position says.
-/
theorem Instruction.IsNormal.suitSlots_iff {set : InstructionSet} {d : Instruction}
    {signature : Signature} (normal : d.IsNormal set)
    (length : signature.length = d.args.length)
    : SuitSlots signature d.args
      ↔ ∀ a ∈ d.args, ∃ (k : Nat) (slot : Slot),
          a.position = k + 1 ∧ signature[k]? = some slot ∧ slot.suits a.type = true := by
  rw [SuitSlots, List.forall₂_iff_get]
  constructor
  · intro given a member
    obtain ⟨k, bound, rfl⟩ := List.mem_iff_getElem.mp member
    have inside : k < signature.length := length ▸ bound
    exact ⟨k, signature[k], position_getElem bound normal.positions,
      List.getElem?_eq_getElem inside, given.2 k inside bound⟩
  · intro given
    refine ⟨length, ?_⟩
    intro k inside bound
    obtain ⟨place, slot, placed, found, suits⟩ := given _ (List.getElem_mem bound)
    rw [position_getElem bound normal.positions] at placed
    obtain rfl : k = place := by omega
    rw [List.getElem?_eq_getElem inside] at found
    cases found
    exact suits

/-- Decoding and spelling disagree only about types that do not suit their slots. For every
instruction of a decoded document, its tokens spell an instruction that agrees with it exactly
if the type of each argument suits the slot of the signature at the argument's position.
-/
theorem Document.respells_iff_suits {set : InstructionSet} {input : Bytes} {doc : Document}
    (decoded : Document.decode set input = .ok doc) {d : Instruction}
    (member : d ∈ doc.instructions)
    : ∃ signature,
        set.lookup? d.opcode = some signature
        ∧ ((∃ i, Instruction.ofTokens set d.tokens = .ok i ∧ i.agrees d = true)
          ↔ ∀ a ∈ d.args, ∃ (k : Nat) (slot : Slot),
              a.position = k + 1
              ∧ signature[k]? = some slot
              ∧ slot.suits a.type = true) := by
  have normal := (Document.isNormal_of_decode decoded).instructions d member
  obtain ⟨signature, known, length⟩ := normal.signature
  refine ⟨signature, known, ?_⟩
  rw [normal.exists_ofTokens_iff known length]
  exact normal.suitSlots_iff length

/-- A label that is spelled like a type name, where a type is required. -/
def readsLabel : Instruction :=
  { order := 1, opcode := "READ", args := [⟨1, "var", "GF@x"⟩, ⟨2, "label", "int"⟩] }

/-- A label that is spelled like a type name, where a label is required. -/
def jumpsToLabel : Instruction :=
  { order := 2, opcode := "JUMP", args := [⟨1, "label", "int"⟩] }

/-- A document of both instructions. -/
def labelsText : Bytes :=
  utf8 "<program language='IPPcode24'>"
    ++ "<instruction order='1' opcode='READ'>"
    ++ "<arg1 type='var'>GF@x</arg1><arg2 type='label'>int</arg2></instruction>"
    ++ "<instruction order='2' opcode='JUMP'><arg1 type='label'>int</arg1></instruction>"
    ++ "</program>"

/-- Both instructions are decoded and their tokens spell instructions, but only where the
label is required do they spell the same.
-/
theorem respells_iff_suits_labels
    : Document.decode ippcode24 labelsText = .ok ⟨"IPPcode24", [readsLabel, jumpsToLabel]⟩
      ∧ (Instruction.ofTokens ippcode24 readsLabel.tokens).isOk = true
      ∧ (¬ ∃ i,
          Instruction.ofTokens ippcode24 readsLabel.tokens = .ok i
          ∧ i.agrees readsLabel = true)
      ∧ ∃ i,
          Instruction.ofTokens ippcode24 jumpsToLabel.tokens = .ok i
          ∧ i.agrees jumpsToLabel = true := by
  have decoded : Document.decode ippcode24 labelsText
      = .ok ⟨"IPPcode24", [readsLabel, jumpsToLabel]⟩ := by decide +kernel
  refine ⟨decoded, by decide +kernel, ?_, ?_⟩
  · obtain ⟨signature, known, respells⟩ :=
      Document.respells_iff_suits decoded (d := readsLabel) (by simp)
    have read : ippcode24.lookup? readsLabel.opcode = some [.var, .type] := by decide +kernel
    obtain rfl : signature = [.var, .type] := Option.some.inj (known.symm.trans read)
    rw [respells]
    intro suited
    obtain ⟨k, slot, placed, found, suits⟩ := suited ⟨2, "label", "int"⟩ (by simp [readsLabel])
    obtain rfl : k = 1 := by
      simp only at placed
      omega
    cases found
    exact absurd suits (by decide)
  · obtain ⟨signature, known, respells⟩ :=
      Document.respells_iff_suits decoded (d := jumpsToLabel) (by simp)
    have jump : ippcode24.lookup? jumpsToLabel.opcode = some [.label] := by decide +kernel
    obtain rfl : signature = [.label] := Option.some.inj (known.symm.trans jump)
    refine respells.mpr ?_
    intro a member
    obtain rfl : a = ⟨1, "label", "int"⟩ := by simpa [jumpsToLabel] using member
    exact ⟨0, .label, rfl, rfl, by decide⟩

end IppXml
