import IppXml.Document.Decode
import Mathlib.Data.List.Forall2

/-! What the checks of a document accept.

Each check stops at the first fault. The statements here say when there is none, element by
element: they turn the loops of the decoder into relations between the elements and what
they hold.
-/

namespace IppXml

-----------------------------------------------------------------------------------------
-- Items with different keys
-----------------------------------------------------------------------------------------

section Collected

variable {α β κ : Type} {R : α → β → Prop} {key : β → κ}

/-- The result adds one item for each element to those found before, and none of the new
items has the key of another one or of one found before.
-/
def Collected (R : α → β → Prop) (key : β → κ) (found : List β) (elements : List α)
    (result : List β) : Prop :=
  ∃ items,
    result = found ++ items
    ∧ List.Forall₂ R elements items
    ∧ items.Pairwise (fun x y => key x ≠ key y)
    ∧ ∀ x ∈ found, ∀ y ∈ items, key x ≠ key y

theorem collected_nil {found result : List β}
    : Collected R key found [] result ↔ result = found := by
  constructor
  · intro given
    obtain ⟨items, rfl, related, _⟩ := given
    rw [List.forall₂_nil_left_iff.mp related, List.append_nil]
  · intro same
    subst same
    exact ⟨[], by simp⟩

/-- Collecting takes the first element first. -/
theorem collected_cons {found result : List β} {first : α} {rest : List α}
    : Collected R key found (first :: rest) result
      ↔ ∃ x, R first x ∧ (∀ y ∈ found, key y ≠ key x)
          ∧ Collected R key (found ++ [x]) rest result := by
  constructor
  · intro given
    obtain ⟨items, rfl, related, distinct, fresh⟩ := given
    obtain ⟨x, others, held, tail, rfl⟩ := List.forall₂_cons_left_iff.mp related
    obtain ⟨differs, apart⟩ := List.pairwise_cons.mp distinct
    refine ⟨x, held, fun y member => fresh y member x (by simp), others, by simp, tail,
      apart, ?_⟩
    intro y member z later
    rcases List.mem_append.mp member with before | same
    · exact fresh y before z (by simp [later])
    · rw [List.mem_singleton.mp same]
      exact differs z later
  · intro given
    obtain ⟨x, held, unused, others, rfl, related, distinct, fresh⟩ := given
    refine ⟨x :: others, by simp, .cons held related,
      .cons (fun z later => fresh x (by simp) z later) distinct, ?_⟩
    intro y member z later
    rcases List.mem_cons.mp later with rfl | behind
    · exact unused y member
    · exact fresh y (by simp [member]) z behind

theorem collected_nil_left {elements : List α} {result : List β}
    : Collected R key [] elements result
      ↔ List.Forall₂ R elements result ∧ result.Pairwise (fun x y => key x ≠ key y) := by
  simp [Collected]

end Collected

-----------------------------------------------------------------------------------------
-- Arguments
-----------------------------------------------------------------------------------------

/-- The element holds the argument of an instruction with so many arguments. -/
def RawArgument.Holds (arity : Nat) (raw : RawArgument) (a : Argument) : Prop :=
  ∃ position : Nat,
    argumentPosition? raw.name = some position
    ∧ position ≤ arity
    ∧ a = raw.toArgument position
    ∧ a.isValid = true

/-- An argument without a type is not valid, so the check for types only picks the fault. -/
theorem Argument.type_ne_nil_of_isValid {a : Argument} (h : a.isValid = true)
    : a.type ≠ [] := by
  intro empty
  have unknown : ArgType.ofName? [] = none := by decide
  simp [Argument.isValid, empty, unknown] at h

theorem RawArgument.check_eq_ok (order : Int) (opcode : Bytes) {arity : Nat}
    {found : List Argument} {raw : RawArgument} {a : Argument}
    : raw.check order opcode arity found = .ok a
      ↔ raw.Holds arity a ∧ ∀ f ∈ found, f.position ≠ a.position := by
  rw [RawArgument.check]
  constructor
  · intro h
    split at h
    · exact absurd h (by simp)
    next position named =>
      dsimp only at h
      split at h
      · exact absurd h (by simp)
      next fresh =>
        split at h
        · exact absurd h (by simp)
        split at h
        · exact absurd h (by simp)
        next inside =>
          split at h
          · exact absurd h (by simp)
          next valid =>
            rw [← Except.ok.inj h]
            simp only [List.any_eq_true, decide_eq_true_eq, not_exists, not_and] at fresh
            exact ⟨⟨position, named, Nat.le_of_not_lt inside, rfl, by simpa using valid⟩, fresh⟩
  · intro given
    obtain ⟨⟨position, named, inside, rfl, valid⟩, fresh⟩ := given
    have typed : raw.type ≠ [] := Argument.type_ne_nil_of_isValid valid
    have unrepeated : found.any (·.position = (position : Int)) = false := by
      rw [List.any_eq_false]
      exact fun f member => by simpa [RawArgument.toArgument] using fresh f member
    simp only [named, unrepeated, typed, Nat.not_lt.mpr inside, valid]
    rfl

/-- The elements of an instruction are accepted if each holds an argument and no two hold
the same position, by induction over the elements.
-/
theorem RawInstruction.checkArguments_eq_ok (order : Int) (opcode : Bytes) {arity : Nat}
    {found result : List Argument} {raws : List RawArgument}
    : checkArguments order opcode arity found raws = .ok result
      ↔ Collected (RawArgument.Holds arity) Argument.position found raws result := by
  induction raws generalizing found with
  | nil =>
      rw [checkArguments, Except.ok.injEq, collected_nil]
      exact eq_comm
  | cons raw raws ih =>
      rw [checkArguments, collected_cons]
      simp only [← and_assoc, ← RawArgument.check_eq_ok order opcode]
      cases raw.check order opcode arity found with
      | error fault => simp
      | ok a => simp [ih]

/-- The arguments at positions are those found there first, by induction over the positions.
-/
theorem RawInstruction.argumentsAt_eq_ok (opcode : Bytes) (arity : Nat)
    {found args : List Argument} {positions : List Nat}
    : argumentsAt opcode arity found positions = .ok args
      ↔ List.Forall₂
          (fun (position : Nat) a => found.find? (·.position = (position : Int)) = some a)
          positions args := by
  induction positions generalizing args with
  | nil =>
      rw [argumentsAt, Except.ok.injEq, List.forall₂_nil_left_iff]
      exact eq_comm
  | cons position positions ih =>
      rw [argumentsAt, argumentAt, List.forall₂_cons_left_iff]
      cases found.find? (·.position = (position : Int)) with
      | none =>
          by_cases known : position ≤ maxArguments <;> simp [known, shapeError]
      | some a =>
          cases rest : argumentsAt opcode arity found positions with
          | error failure => simp [rest, Except.map, ← ih]
          | ok others =>
              simp [rest, Except.map, ← ih]
              exact eq_comm

-----------------------------------------------------------------------------------------
-- Instructions
-----------------------------------------------------------------------------------------

theorem RawInstruction.readOrder_eq_ok {text : Bytes} {order : Int}
    : readOrder text = .ok order ↔ readInteger? (trim text) = some order ∧ 1 ≤ order := by
  rw [readOrder]
  cases readInteger? (trim text) with
  | none => simp
  | some number =>
      by_cases low : number < 1
      · simp only [low, if_true, reduceCtorEq, Option.some.injEq, false_iff]
        omega
      · simp only [low, if_false, Except.ok.injEq, Option.some.injEq]
        omega

/-- What an element says if it is an instruction of the set. -/
structure RawInstruction.Holds (set : InstructionSet) (raw : RawInstruction)
    (i : Instruction) : Prop where
  name : raw.name = "instruction"
  order : readInteger? (trim raw.order) = some i.order ∧ 1 ≤ i.order
  opcode : i.opcode = upper raw.opcode
  args
    : ∃ signature found,
        set.lookup? i.opcode = some signature
        ∧ List.Forall₂ (RawArgument.Holds signature.length) raw.args found
        ∧ found.Pairwise (fun a b => a.position ≠ b.position)
        ∧ List.Forall₂
            (fun (position : Nat) a => found.find? (·.position = (position : Int)) = some a)
            (List.range' 1 signature.length) i.args

theorem RawInstruction.toInstruction_eq_ok {set : InstructionSet} {raw : RawInstruction}
    {i : Instruction}
    : raw.toInstruction set = .ok i ↔ raw.Holds set i := by
  rw [toInstruction]
  constructor
  · intro h
    split at h
    · exact absurd h (by simp [shapeError])
    next name =>
      split at h
      · exact absurd h (by simp [shapeError])
      next order read =>
        dsimp only at h
        split at h
        · exact absurd h (by simp [shapeError])
        next signature known =>
          split at h
          · exact absurd h (by simp [shapeError])
          next found checked =>
            cases complete : argumentsAt (upper raw.opcode) signature.length found
                (List.range' 1 signature.length) with
            | error failure => simp [complete, Except.map] at h
            | ok args =>
                rw [complete] at h
                cases h
                obtain ⟨held, distinct⟩ := collected_nil_left.mp
                  ((checkArguments_eq_ok order (upper raw.opcode)).mp checked)
                exact {
                  name := not_not.mp name,
                  order := readOrder_eq_ok.mp read,
                  opcode := rfl,
                  args := ⟨signature, found, known, held, distinct,
                    (argumentsAt_eq_ok (upper raw.opcode) signature.length).mp complete⟩ }
  · intro given
    obtain ⟨name, order, opcode, signature, found, known, held, distinct, complete⟩ := given
    have read := readOrder_eq_ok.mpr order
    have args := (checkArguments_eq_ok i.order i.opcode).mpr
      (collected_nil_left.mpr ⟨held, distinct⟩)
    have all := (argumentsAt_eq_ok i.opcode signature.length).mpr complete
    rw [← opcode]
    simp [name, read, known, args, all, Except.map]

-----------------------------------------------------------------------------------------
-- Documents
-----------------------------------------------------------------------------------------

/-- The instructions of a program are accepted if each element holds one and no two have
the same order, by induction over the elements.
-/
theorem RawProgram.toInstructions_eq_ok {set : InstructionSet}
    {found result : List Instruction} {raws : List RawInstruction}
    : toInstructions set found raws = .ok result
      ↔ Collected (RawInstruction.Holds set) Instruction.order found raws result := by
  induction raws generalizing found with
  | nil =>
      rw [toInstructions, Except.ok.injEq, collected_nil]
      exact eq_comm
  | cons raw raws ih =>
      rw [toInstructions, collected_cons]
      simp only [← RawInstruction.toInstruction_eq_ok]
      cases raw.toInstruction set with
      | error failure => simp
      | ok i =>
          cases repeated : found.any (·.order = i.order) with
          | true =>
              obtain ⟨f, member, same⟩ := List.any_eq_true.mp repeated
              simp only [repeated, if_true, RawInstruction.shapeError, reduceCtorEq, false_iff]
              intro given
              obtain ⟨j, held, fresh, _⟩ := given
              rw [← Except.ok.inj held] at fresh
              exact fresh f member (of_decide_eq_true same)
          | false =>
              have fresh : ∀ f ∈ found, f.order ≠ i.order := by
                simpa using List.any_eq_false.mp repeated
              simp only [repeated, Bool.false_eq_true, if_false, ih]
              constructor
              · exact fun rest => ⟨i, rfl, fresh, rest⟩
              · intro given
                obtain ⟨j, held, _, rest⟩ := given
                rw [Except.ok.inj held]
                exact rest

/-- The document of a program lists the instructions its elements hold by their orders. -/
theorem RawProgram.toDocument_eq_ok {set : InstructionSet} {raw : RawProgram}
    {doc : Document}
    : raw.toDocument set = .ok doc
      ↔ raw.name = "program"
        ∧ raw.language = set.name
        ∧ ∃ instructions,
            List.Forall₂ (RawInstruction.Holds set) raw.children instructions
            ∧ instructions.Pairwise (fun i j => i.order ≠ j.order)
            ∧ doc = {
                language := set.name,
                instructions := sortBy (fun i j => decide (i.order ≤ j.order)) instructions } := by
  rw [toDocument]
  by_cases name : raw.name = "program"
  · by_cases language : raw.language = set.name
    · have accepted (instructions : List Instruction)
          : toInstructions set [] raw.children = .ok instructions
            ↔ List.Forall₂ (RawInstruction.Holds set) raw.children instructions
              ∧ instructions.Pairwise (fun i j => i.order ≠ j.order) :=
        toInstructions_eq_ok.trans collected_nil_left
      simp only [name, language, ne_eq, not_true_eq_false, if_false, true_and, ← and_assoc,
        ← accepted]
      cases toInstructions set [] raw.children with
      | error failure => simp [Except.map]
      | ok instructions =>
          simp only [Except.map, Except.ok.injEq, exists_eq_left']
          exact eq_comm
    · simp [name, language, RawInstruction.shapeError]
  · simp [name, RawInstruction.shapeError]

theorem Document.decode_eq_ok {set : InstructionSet} {input : Bytes} {doc : Document}
    : Document.decode set input = .ok doc
      ↔ ∃ raw, RawProgram.read? input = some raw ∧ raw.toDocument set = .ok doc := by
  rw [Document.decode]
  cases RawProgram.read? input <;> simp

end IppXml
