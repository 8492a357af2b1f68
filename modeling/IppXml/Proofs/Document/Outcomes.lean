import IppXml.Proofs.Document.Structure
import IppXml.Proofs.Instruction.Spelling

/-! How decoding ends.

Input that is no XML is a format error, and every fault that the checks find is an error in
the shape of the document. One thing is neither. Only so many argument elements are told
apart, and an opcode may take more: once an instruction of such an opcode has all elements
with names, the decoder looks for one more outside of its table. `RawProgram.Overruns` says
exactly when that happens.
-/

namespace IppXml

/-- The failure is an error in the shape of the document. -/
def Failure.IsShape (failure : Failure) : Prop :=
  ∃ fault, failure = .error (.fault (.shape fault))

theorem RawInstruction.isShape_of_shapeError {α : Type} {fault : ShapeFault} {failure : Failure}
    (h : (RawInstruction.shapeError fault : Except Failure α) = .error failure)
    : failure.IsShape :=
  ⟨fault, (Except.error.inj h).symm⟩

/-- What is met when the decoder leaves its table of argument elements. -/
def overrun : Failure :=
  .defect (.outOfRange maxArguments maxArguments)

theorem not_isShape_overrun
    : ¬ overrun.IsShape := by
  rintro ⟨fault, same⟩
  exact Failure.noConfusion same

-----------------------------------------------------------------------------------------
-- Arguments
-----------------------------------------------------------------------------------------

namespace RawInstruction

theorem argumentsAt_append (opcode : Bytes) (arity : Nat) (found : List Argument)
    (positions more : List Nat)
    : argumentsAt opcode arity found (positions ++ more)
      = match argumentsAt opcode arity found positions with
        | .error failure => .error failure
        | .ok args => (argumentsAt opcode arity found more).map (args ++ ·) := by
  induction positions with
  | nil =>
      rw [List.nil_append, argumentsAt]
      cases argumentsAt opcode arity found more <;> rfl
  | cons position positions ih =>
      rw [List.cons_append, argumentsAt, argumentsAt, ih]
      cases argumentAt opcode arity found position with
      | error failure => rfl
      | ok arg =>
          cases argumentsAt opcode arity found positions with
          | error failure => rfl
          | ok args => cases argumentsAt opcode arity found more <;> rfl

/-- As long as only positions of elements are asked for, one that is missing is an error in
the shape of the document.
-/
theorem isShape_of_argumentsAt {opcode : Bytes} {arity : Nat} {found : List Argument}
    {positions : List Nat} {failure : Failure} (named : ∀ p ∈ positions, p ≤ maxArguments)
    (h : argumentsAt opcode arity found positions = .error failure)
    : failure.IsShape := by
  induction positions with
  | nil => exact absurd h (by simp [argumentsAt])
  | cons position positions ih =>
      rw [argumentsAt] at h
      cases first : argumentAt opcode arity found position with
      | error other =>
          rw [first] at h
          rw [argumentAt] at first
          split at first
          · exact absurd first (by simp)
          rw [if_pos (named position (by simp))] at first
          rw [← Except.error.inj h]
          exact isShape_of_shapeError first
      | ok arg =>
          rw [first] at h
          exact ih (fun p member => named p (by simp [member])) (except_map_eq_error.mp h)

/-- The position behind all elements is never found, and it is outside of the table. -/
theorem argumentsAt_behind (opcode : Bytes) (arity count : Nat) {found : List Argument}
    (inside : ∀ a ∈ found, a.position ≤ maxArguments)
    : argumentsAt opcode arity found (List.range' (maxArguments + 1) (count + 1))
      = .error overrun := by
  have nothing : found.find? (·.position = ((maxArguments + 1 : Nat) : Int)) = none := by
    rw [List.find?_eq_none]
    intro a member
    have bound := inside a member
    simp only [decide_eq_true_eq]
    omega
  have outside : ¬ maxArguments + 1 ≤ maxArguments := by omega
  rw [List.range'_succ, argumentsAt, argumentAt, nothing]
  simp only [outside, if_false]
  rfl

end RawInstruction

theorem range'_split {count : Nat} (h : maxArguments < count)
    : List.range' 1 count
      = List.range' 1 maxArguments ++ List.range' (maxArguments + 1) (count - maxArguments) := by
  have total : count = maxArguments + (count - maxArguments) := by omega
  conv_lhs => rw [total]
  rw [← List.range'_append_1, Nat.add_comm 1]

/-- For an opcode that takes more arguments than there are names of elements, an element
holds an argument as if there were just so many.
-/
theorem RawArgument.holds_iff_of_le {arity : Nat} {raw : RawArgument} {a : Argument}
    (h : maxArguments ≤ arity)
    : raw.Holds arity a ↔ raw.Holds maxArguments a := by
  constructor
  · rintro ⟨position, named, _, same, valid⟩
    exact ⟨position, named, (argumentPosition?_bounds named).2, same, valid⟩
  · rintro ⟨position, named, inside, same, valid⟩
    exact ⟨position, named, inside.trans h, same, valid⟩

theorem position_le_of_holds {arity : Nat} {raws : List RawArgument} {found : List Argument}
    (h : List.Forall₂ (RawArgument.Holds arity) raws found)
    : ∀ a ∈ found, a.position ≤ maxArguments := by
  intro a member
  obtain ⟨raw, _, holds⟩ := exists_of_forall₂_right h member
  exact holds.isNormal.2

-----------------------------------------------------------------------------------------
-- Instructions
-----------------------------------------------------------------------------------------

/-- The element is an instruction whose opcode takes more arguments than there are names for,
and the elements in it are those of all names, once each, typed and valid.
-/
structure RawInstruction.Overruns (set : InstructionSet) (raw : RawInstruction) : Prop where
  name : raw.name = "instruction"
  order : ∃ n, raw.HasOrder n
  signature
    : ∃ signature,
        set.lookup? (upper raw.opcode) = some signature ∧ maxArguments < signature.length
  arguments : raw.HasArguments maxArguments

/-- Once the arguments of an instruction with too many slots have been checked, either one of
those with names is missing, or the decoder looks behind them.
-/
theorem RawInstruction.argumentsAt_of_wide (opcode : Bytes) {arity : Nat}
    {raws : List RawArgument} {found : List Argument} (wide : maxArguments < arity)
    (held : List.Forall₂ (RawArgument.Holds arity) raws found)
    : argumentsAt opcode arity found (List.range' 1 arity)
      = match argumentsAt opcode arity found (List.range' 1 maxArguments) with
        | .error failure => .error failure
        | .ok _ => .error overrun := by
  obtain ⟨count, more⟩ := Nat.exists_eq_add_of_lt wide
  have left : arity - maxArguments = count + 1 := by omega
  rw [range'_split wide, argumentsAt_append, left,
    argumentsAt_behind opcode arity count (position_le_of_holds held)]
  rfl

/-- Where an argument is missing, the shape is wrong, or there are those of all names and the
opcode takes more.
-/
theorem RawInstruction.argumentsAt_eq_error {opcode : Bytes} {arity : Nat}
    {raws : List RawArgument} {found : List Argument} {failure : Failure}
    (held : List.Forall₂ (RawArgument.Holds arity) raws found)
    (h : argumentsAt opcode arity found (List.range' 1 arity) = .error failure)
    : failure.IsShape
      ∨ failure = overrun
        ∧ maxArguments < arity
        ∧ ∃ args, argumentsAt opcode arity found (List.range' 1 maxArguments) = .ok args := by
  have named {count : Nat} (few : count ≤ maxArguments) : ∀ p ∈ List.range' 1 count,
      p ≤ maxArguments := by
    intro p member
    rw [List.mem_range'_1] at member
    omega
  by_cases wide : maxArguments < arity
  · rw [argumentsAt_of_wide opcode wide held] at h
    split at h
    next other missing =>
      rw [← Except.error.inj h]
      exact Or.inl (isShape_of_argumentsAt (named (Nat.le_refl _)) missing)
    next args complete =>
      exact Or.inr ⟨(Except.error.inj h).symm, wide, args, complete⟩
  · exact Or.inl (isShape_of_argumentsAt (named (Nat.not_lt.mp wide)) h)

/-- An instruction that is not accepted is in a wrong shape, or it overruns the table. -/
theorem RawInstruction.toInstruction_eq_error {set : InstructionSet} {raw : RawInstruction}
    {failure : Failure} (h : raw.toInstruction set = .error failure)
    : failure.IsShape ∨ failure = overrun ∧ raw.Overruns set := by
  rw [toInstruction] at h
  split at h
  · exact Or.inl (isShape_of_shapeError h)
  next name =>
    split at h
    · exact Or.inl (isShape_of_shapeError h)
    next order read =>
      dsimp only at h
      split at h
      · exact Or.inl (isShape_of_shapeError h)
      next signature known =>
        split at h
        · exact Or.inl (isShape_of_shapeError h)
        next found checked =>
          obtain ⟨held, distinct⟩ := collected_nil_left.mp
            ((checkArguments_eq_ok order (upper raw.opcode)).mp checked)
          -- every element has passed its check, so an argument is missing
          rcases argumentsAt_eq_error held (except_map_eq_error.mp h) with
            shape | ⟨same, wide, args, complete⟩
          · exact Or.inl shape
          · refine Or.inr ⟨same, not_not.mp name,
              ⟨order, hasOrder_iff.mpr (readOrder_eq_ok.mp read)⟩, ⟨signature, known, wide⟩, ?_⟩
            refine (hasArguments_iff (Nat.le_refl _)).mpr ⟨found, args, ?_, distinct, ?_⟩
            · exact held.imp fun _ _ => (RawArgument.holds_iff_of_le wide.le).mp
            · exact (argumentsAt_eq_ok (upper raw.opcode) signature.length).mp complete

/-- An instruction that overruns the table is met as such. -/
theorem RawInstruction.Overruns.toInstruction {set : InstructionSet} {raw : RawInstruction}
    (h : raw.Overruns set)
    : raw.toInstruction set = .error overrun := by
  obtain ⟨name, ⟨order, hasOrder⟩, ⟨signature, known, wide⟩, arguments⟩ := h
  obtain ⟨found, args, held, distinct, complete⟩ :=
    (hasArguments_iff (Nat.le_refl _)).mp arguments
  have wideHeld : List.Forall₂ (RawArgument.Holds signature.length) raw.args found :=
    held.imp fun _ _ => (RawArgument.holds_iff_of_le wide.le).mpr
  have read : readOrder raw.order = .ok order := readOrder_eq_ok.mpr (hasOrder_iff.mp hasOrder)
  have checked : checkArguments order (upper raw.opcode) signature.length [] raw.args
      = .ok found :=
    (checkArguments_eq_ok order (upper raw.opcode)).mpr
      (collected_nil_left.mpr ⟨wideHeld, distinct⟩)
  have named : argumentsAt (upper raw.opcode) signature.length found
      (List.range' 1 maxArguments) = .ok args :=
    (argumentsAt_eq_ok (upper raw.opcode) signature.length).mpr complete
  have behind := argumentsAt_of_wide (upper raw.opcode) wide wideHeld
  rw [named] at behind
  simp [RawInstruction.toInstruction, name, read, known, checked, behind, Except.map]

-----------------------------------------------------------------------------------------
-- Programs
-----------------------------------------------------------------------------------------

/-- The elements in front of one that overruns the table make a document by themselves. -/
def RawProgram.Overruns (set : InstructionSet) (raw : RawProgram) : Prop :=
  ∃ before child after,
    raw.children = before ++ child :: after
    ∧ (∃ doc, RawProgram.toDocument set { raw with children := before } = .ok doc)
    ∧ child.Overruns set

namespace RawProgram

theorem toInstructions_append (set : InstructionSet) (found : List Instruction)
    (before rest : List RawInstruction)
    : toInstructions set found (before ++ rest)
      = match toInstructions set found before with
        | .error failure => .error failure
        | .ok next => toInstructions set next rest := by
  induction before generalizing found with
  | nil => rfl
  | cons raw before ih =>
      rw [List.cons_append, toInstructions, toInstructions]
      cases raw.toInstruction set with
      | error failure => rfl
      | ok i =>
          dsimp only
          split
          · rfl
          · exact ih _

/-- Instructions that are not accepted are in a wrong shape, or one of them overruns the table
behind others that are accepted, by induction over the elements.
-/
theorem toInstructions_eq_error {set : InstructionSet} {found : List Instruction}
    {raws : List RawInstruction} {failure : Failure}
    (h : toInstructions set found raws = .error failure)
    : failure.IsShape
      ∨ failure = overrun
        ∧ ∃ before child after next,
            raws = before ++ child :: after
            ∧ toInstructions set found before = .ok next
            ∧ child.Overruns set := by
  induction raws generalizing found with
  | nil => exact absurd h (by simp [toInstructions])
  | cons raw raws ih =>
      rw [toInstructions] at h
      cases first : raw.toInstruction set with
      | error other =>
          rw [first] at h
          rw [← Except.error.inj h]
          rcases RawInstruction.toInstruction_eq_error first with shape | ⟨same, overruns⟩
          · exact Or.inl shape
          · exact Or.inr ⟨same, [], raw, raws, found, rfl, rfl, overruns⟩
      | ok i =>
          rw [first] at h
          dsimp only at h
          split at h
          · exact Or.inl (RawInstruction.isShape_of_shapeError h)
          next fresh =>
            rcases ih h with shape | ⟨same, before, child, after, next, rfl, accepted, overruns⟩
            · exact Or.inl shape
            · refine Or.inr ⟨same, raw :: before, child, after, next, rfl, ?_, overruns⟩
              rw [toInstructions, first]
              simp only [fresh]
              exact accepted

theorem toDocument_eq_error {set : InstructionSet} {raw : RawProgram} {failure : Failure}
    (h : raw.toDocument set = .error failure)
    : failure.IsShape ∨ failure = overrun ∧ raw.Overruns set := by
  rw [toDocument] at h
  split at h
  · exact Or.inl (RawInstruction.isShape_of_shapeError h)
  next name =>
    split at h
    · exact Or.inl (RawInstruction.isShape_of_shapeError h)
    next language =>
      rcases toInstructions_eq_error (except_map_eq_error.mp h) with
        shape | ⟨same, before, child, after, next, split, accepted, overruns⟩
      · exact Or.inl shape
      · obtain ⟨held, distinct⟩ := collected_nil_left.mp (toInstructions_eq_ok.mp accepted)
        have document : ∃ doc,
            RawProgram.toDocument set { raw with children := before } = .ok doc :=
          ⟨_, toDocument_eq_ok.mpr
            ⟨not_not.mp name, not_not.mp language, next, held, distinct, rfl⟩⟩
        exact Or.inr ⟨same, before, child, after, split, document, overruns⟩

/-- A program that overruns the table is met as such. -/
theorem Overruns.toDocument {set : InstructionSet} {raw : RawProgram} (h : raw.Overruns set)
    : raw.toDocument set = .error overrun := by
  obtain ⟨before, child, after, children, ⟨doc, accepted⟩, overruns⟩ := h
  obtain ⟨name, language, instructions, held, distinct, _⟩ := toDocument_eq_ok.mp accepted
  have taken : toInstructions set [] before = .ok instructions :=
    toInstructions_eq_ok.mpr (collected_nil_left.mpr ⟨held, distinct⟩)
  have stopped : toInstructions set [] raw.children = .error overrun := by
    rw [children, toInstructions_append, taken]
    simp [toInstructions, overruns.toInstruction]
  have named : raw.name = "program" := name
  have spoken : raw.language = set.name := language
  simp [RawProgram.toDocument, named, spoken, stopped, Except.map]

/-- Only opcodes with more arguments than there are names for overrun the table. -/
theorem not_overruns {set : InstructionSet} {raw : RawProgram}
    (narrow : ∀ entry ∈ set.entries, entry.2.length ≤ maxArguments)
    : ¬ raw.Overruns set := by
  rintro ⟨before, child, after, _, _, overruns⟩
  obtain ⟨signature, known, wide⟩ := overruns.signature
  have few := narrow _ (InstructionSet.mem_of_lookup? known)
  exact absurd few (Nat.not_le.mpr wide)

/-- A program that does not overrun the table is a document, or in a wrong shape. -/
theorem toDocument_of_not_overruns {set : InstructionSet} {raw : RawProgram}
    (h : ¬ raw.Overruns set)
    : (∃ doc, raw.toDocument set = .ok doc)
      ∨ ∃ fault, raw.toDocument set = .error (.error (.fault (.shape fault))) := by
  cases checked : raw.toDocument set with
  | ok doc => exact Or.inl ⟨doc, rfl⟩
  | error failure =>
      rcases toDocument_eq_error checked with ⟨fault, rfl⟩ | ⟨_, overruns⟩
      · exact Or.inr ⟨fault, rfl⟩
      · exact absurd overruns h

end RawProgram

-----------------------------------------------------------------------------------------
-- Documents
-----------------------------------------------------------------------------------------

theorem Document.decode_of_read? {input : Bytes} {raw : RawProgram} (set : InstructionSet)
    (h : RawProgram.read? input = some raw)
    : Document.decode set input = raw.toDocument set := by
  rw [Document.decode, h]

theorem Document.decode_of_unreadable {input : Bytes} (set : InstructionSet)
    (h : RawProgram.read? input = none)
    : Document.decode set input = .error (.error (.fault (.bare .format))) := by
  rw [Document.decode, h]

/-- With no opcode that takes too many arguments, decoding ends with a document, or with a
fault of its format or its shape.
-/
theorem Document.decode_of_narrow {set : InstructionSet} (input : Bytes)
    (narrow : ∀ entry ∈ set.entries, entry.2.length ≤ maxArguments)
    : (∃ doc, Document.decode set input = .ok doc)
      ∨ ∃ fault,
          Document.decode set input = .error (.error (.fault fault))
          ∧ (fault.kind? = some .format ∨ fault.kind? = some .shape) := by
  cases read : RawProgram.read? input with
  | none => exact Or.inr ⟨_, Document.decode_of_unreadable set read, Or.inl rfl⟩
  | some raw =>
      rw [Document.decode_of_read? set read]
      rcases RawProgram.toDocument_of_not_overruns (RawProgram.not_overruns narrow) with
        accepted | ⟨fault, failed⟩
      · exact Or.inl accepted
      · exact Or.inr ⟨_, failed, Or.inr rfl⟩

/-- How decoding ends, for every instruction set and every input. Input that cannot be read
is a format error. What can be read is a document or an error in its shape, except that the
decoder leaves its table of argument elements exactly if the program overruns it; with no
opcode that takes more arguments than there are names for, no program does.
-/
theorem Document.decode_ends (set : InstructionSet) (input : Bytes)
    : (RawProgram.read? input = none
        → ∃ e, Document.decode set input = .error (.error e) ∧ e.isKind .format = true)
      ∧ ∀ raw,
          RawProgram.read? input = some raw
          → (Document.decode set input = .error (.defect (.outOfRange 3 3))
              ↔ raw.Overruns set)
            ∧ (¬ raw.Overruns set
              → (∃ doc, Document.decode set input = .ok doc)
                ∨ ∃ e, Document.decode set input = .error (.error e)
                    ∧ e.isKind .shape = true)
            ∧ ((∀ entry ∈ set.entries, entry.2.length ≤ 3) → ¬ raw.Overruns set) := by
  refine ⟨fun unreadable => ⟨_, Document.decode_of_unreadable set unreadable, rfl⟩, ?_⟩
  intro raw read
  rw [Document.decode_of_read? set read]
  refine ⟨⟨?_, RawProgram.Overruns.toDocument⟩, ?_, RawProgram.not_overruns⟩
  · intro left
    rcases RawProgram.toDocument_eq_error left with shape | ⟨_, overruns⟩
    · exact absurd shape not_isShape_overrun
    · exact overruns
  · intro inside
    rcases RawProgram.toDocument_of_not_overruns inside with accepted | ⟨fault, failed⟩
    · exact Or.inl accepted
    · exact Or.inr ⟨_, failed, rfl⟩

/-- A set with an opcode of four arguments. -/
def wideSet : InstructionSet :=
  { name := "wide", entries := [("FOUR", [.label, .label, .label, .label])] }

/-- A document with all argument elements that have names. -/
def wideText : Bytes :=
  utf8 "<program language='wide'><instruction order='1' opcode='four'>"
    ++ "<arg1 type='nil'>nil</arg1><arg2 type='nil'>nil</arg2><arg3 type='nil'>nil</arg3>"
    ++ "</instruction></program>"

/-- The decoder leaves its table on a set that can be registered and a document that can be
read, so its outcome is neither a document nor an error.
-/
theorem decode_wideText
    : (InstructionSet.empty "wide").registerAll [("four", [.label, .label, .label, .label])]
        = .ok wideSet
      ∧ (RawProgram.read? wideText).isSome = true
      ∧ Document.decode wideSet wideText = .error (.defect (.outOfRange 3 3)) := by
  have left : Document.decode wideSet wideText = .error (.defect (.outOfRange 3 3)) := by
    decide +kernel
  refine ⟨rfl, ?_, left⟩
  rw [Option.isSome_iff_ne_none]
  intro unreadable
  rw [Document.decode_of_unreadable wideSet unreadable] at left
  exact absurd left (by decide)

end IppXml
