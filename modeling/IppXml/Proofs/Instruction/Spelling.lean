import IppXml.Line
import IppXml.Proofs.Token.Validity

/-! What the tokens of a line spell.

An instruction is accepted exactly if its opcode is registered, it has as many tokens as
slots and each token fills its slot; its arguments are then those that the slots make of
the tokens.
-/

namespace IppXml

/-- An opcode is found as it is written. -/
theorem InstructionSet.lookup?_upper (set : InstructionSet) (opcode : Bytes)
    : set.lookup? (upper opcode) = set.lookup? opcode := by
  rw [lookup?, upper_upper, lookup?]

/-- The argument that a token is in the slot at a position. -/
def Slot.argument (slot : Slot) (position : Nat) (token : Bytes) : Argument :=
  { position, type := (slot.resolve token).1.name, value := (slot.resolve token).2 }

theorem Slot.isValid_argument {slot : Slot} {token : Bytes} (position : Nat)
    (h : slot.accepts token = true)
    : (slot.argument position token).isValid = true := by
  rw [Slot.argument, Argument.isValid_mk]
  exact Slot.admits_resolve h

/-- The arguments that tokens make in slots, the first at the given position. -/
def slotArguments (position : Nat) (slots : List Slot) (tokens : List Bytes) : List Argument :=
  (slots.zip tokens).mapIdx fun k (slot, token) => slot.argument (position + k) token

theorem slotArguments_cons (position : Nat) (slot : Slot) (slots : List Slot) (token : Bytes)
    (tokens : List Bytes)
    : slotArguments position (slot :: slots) (token :: tokens)
      = slot.argument position token :: slotArguments (position + 1) slots tokens := by
  simp [slotArguments, List.mapIdx_cons, Nat.add_assoc, Nat.add_comm 1]

theorem except_map_eq_ok {ε α β : Type} {f : α → β} {x : Except ε α} {y : β}
    : x.map f = .ok y ↔ ∃ value, x = .ok value ∧ y = f value := by
  cases x with
  | error e => simp [Except.map]
  | ok value =>
      simp only [Except.map, Except.ok.injEq, exists_eq_left']
      exact eq_comm

theorem except_map_eq_error {ε α β : Type} {f : α → β} {x : Except ε α} {e : ε}
    : x.map f = .error e ↔ x = .error e := by
  cases x <;> simp [Except.map]

/-- Slots are filled exactly if each accepts its token, by induction over both. -/
theorem Instruction.fillSlots_eq_ok (opcode : Bytes) {position : Nat} {slots : List Slot}
    {tokens : List Bytes} {args : List Argument}
    : fillSlots opcode position slots tokens = .ok args
      ↔ (∀ pair ∈ slots.zip tokens, pair.1.accepts pair.2 = true)
        ∧ args = slotArguments position slots tokens := by
  induction slots generalizing position tokens args with
  | nil =>
      have nothing : fillSlots opcode position [] tokens = .ok [] := by simp [fillSlots]
      rw [nothing, Except.ok.injEq]
      simp [slotArguments]
  | cons slot slots ih =>
      cases tokens with
      | nil =>
          have nothing : fillSlots opcode position (slot :: slots) [] = .ok [] := by
            simp [fillSlots]
          rw [nothing, Except.ok.injEq]
          simp [slotArguments]
      | cons token tokens =>
          rw [fillSlots, List.zip_cons_cons, List.forall_mem_cons, slotArguments_cons]
          cases slot.accepts token with
          | false => simp
          | true =>
              simp only [if_true, true_and, except_map_eq_ok, ih]
              constructor
              · intro given
                obtain ⟨others, ⟨accepted, rfl⟩, rfl⟩ := given
                exact ⟨accepted, rfl⟩
              · intro given
                obtain ⟨accepted, rfl⟩ := given
                exact ⟨_, ⟨accepted, rfl⟩, rfl⟩

/-- Tokens spell an instruction exactly if the first is an opcode of the set in any case and
the others fill its slots.
-/
theorem Instruction.ofTokens_eq_ok {set : InstructionSet} {tokens : List Bytes}
    {i : Instruction}
    : Instruction.ofTokens set tokens = .ok i
      ↔ ∃ written values signature,
          tokens = written :: values
          ∧ set.lookup? (upper written) = some signature
          ∧ values.length = signature.length
          ∧ (∀ pair ∈ signature.zip values, pair.1.accepts pair.2 = true)
          ∧ i = {
              order := 0,
              opcode := upper written,
              args := slotArguments 1 signature values } := by
  cases tokens with
  | nil => simp [ofTokens]
  | cons written values =>
      rw [ofTokens]
      cases known : set.lookup? (upper written) with
      | none => simp [known]
      | some signature =>
          by_cases length : values.length = signature.length
          · simp only [length, ne_eq, not_true_eq_false, if_false, except_map_eq_ok,
              fillSlots_eq_ok]
            constructor
            · intro given
              obtain ⟨args, ⟨accepted, rfl⟩, rfl⟩ := given
              exact ⟨written, values, signature, rfl, known, length, accepted, rfl⟩
            · intro given
              obtain ⟨_, _, other, same, found, _, accepted, rfl⟩ := given
              obtain ⟨rfl, rfl⟩ := List.cons.inj same
              rw [known] at found
              cases found
              exact ⟨_, ⟨accepted, rfl⟩, rfl⟩
          · simp only [length, ne_eq, not_false_eq_true, if_true, reduceCtorEq,
              false_iff]
            intro given
            obtain ⟨_, _, other, same, found, equal, _⟩ := given
            obtain ⟨rfl, rfl⟩ := List.cons.inj same
            rw [known] at found
            cases found
            exact length equal

-----------------------------------------------------------------------------------------
-- The arguments of a line
-----------------------------------------------------------------------------------------

theorem length_slotArguments {position : Nat} {slots : List Slot} {tokens : List Bytes}
    (h : tokens.length = slots.length)
    : (slotArguments position slots tokens).length = slots.length := by
  simp [slotArguments, h]

/-- The positions of arguments count up. -/
theorem position_slotArguments {position : Nat} {slots : List Slot} {tokens : List Bytes}
    (h : tokens.length = slots.length)
    : (slotArguments position slots tokens).map Argument.position
      = (List.range' position slots.length).map Int.ofNat := by
  refine List.ext_getElem (by simp [length_slotArguments h]) ?_
  intro k low high
  simp [slotArguments, Slot.argument]

/-- The arguments of a line are numbered from one, and there are as many as the set says. -/
theorem Instruction.args_of_ofTokens {set : InstructionSet} {tokens : List Bytes}
    {i : Instruction} (h : Instruction.ofTokens set tokens = .ok i)
    : i.args.map Argument.position = (List.range' 1 i.args.length).map Int.ofNat
      ∧ ∃ entry ∈ set.entries, i.args.length = entry.2.length := by
  obtain ⟨written, values, signature, rfl, known, length, _, rfl⟩ := ofTokens_eq_ok.mp h
  have count : (slotArguments 1 signature values).length = signature.length :=
    length_slotArguments length
  refine ⟨?_, _, InstructionSet.mem_of_lookup? known, count⟩
  rw [count]
  exact position_slotArguments length

theorem mem_slotArguments {position : Nat} {slots : List Slot} {tokens : List Bytes}
    {a : Argument} (h : a ∈ slotArguments position slots tokens)
    : ∃ slot token place, (slot, token) ∈ slots.zip tokens ∧ a = slot.argument place token := by
  obtain ⟨k, bound, rfl⟩ := List.mem_mapIdx.mp h
  exact ⟨_, _, _, List.getElem_mem bound, rfl⟩

end IppXml
