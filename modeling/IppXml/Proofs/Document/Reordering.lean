import IppXml.Proofs.Document.NormalForm
import Mathlib.Data.List.Nodup
import Mathlib.Data.List.Perm.Basic

/-! The sequence of elements in a document does not matter.

The decoder takes elements as they come: it stops at the first that is wrong and keeps those
before it to find repetitions. What it finds in the end depends on the elements alone. An
instruction lists its arguments by position and a document its instructions by order, and no
two of them have the same.
-/

namespace IppXml

-----------------------------------------------------------------------------------------
-- Reordered programs
-----------------------------------------------------------------------------------------

/-- The elements differ at most in the sequence of the elements inside. -/
structure RawInstruction.Reordered (x y : RawInstruction) : Prop where
  name : x.name = y.name
  order : x.order = y.order
  opcode : x.opcode = y.opcode
  args : x.args.Perm y.args

/-- The programs differ at most in the sequence of their elements and of the elements inside
these.
-/
structure RawProgram.Reordered (x y : RawProgram) : Prop where
  name : x.name = y.name
  language : x.language = y.language
  children
    : ∃ middle,
        x.children.Perm middle ∧ List.Forall₂ RawInstruction.Reordered middle y.children

theorem RawInstruction.Reordered.symm {x y : RawInstruction} (h : x.Reordered y)
    : y.Reordered x :=
  ⟨h.name.symm, h.order.symm, h.opcode.symm, h.args.symm⟩

/-- Elements can be put back, first those inside and then the others. -/
theorem RawProgram.Reordered.symm {x y : RawProgram} (h : x.Reordered y)
    : y.Reordered x := by
  obtain ⟨middle, permuted, inside⟩ := h.children
  have back : List.Forall₂ RawInstruction.Reordered y.children middle :=
    (inside.imp fun _ _ reordered => reordered.symm).flip
  have swapped : Relation.Comp List.Perm (List.Forall₂ RawInstruction.Reordered)
      y.children x.children := by
    rw [← List.forall₂_comp_perm_eq_perm_comp_forall₂]
    exact ⟨middle, back, permuted.symm⟩
  exact ⟨h.name.symm, h.language.symm, swapped⟩

-----------------------------------------------------------------------------------------
-- Instructions
-----------------------------------------------------------------------------------------

/-- Arguments of different positions are found wherever they stand. -/
theorem find?_position_of_perm {found other : List Argument} {position : Nat} {a : Argument}
    (perm : found.Perm other)
    (distinct : other.Pairwise fun a b => a.position ≠ b.position)
    (first : found.find? (·.position = (position : Int)) = some a)
    : other.find? (·.position = (position : Int)) = some a := by
  have member := perm.mem_iff.mp (List.mem_of_find?_eq_some first)
  have placed : a.position = position := by simpa using List.find?_some first
  rw [← placed]
  exact find?_position distinct member

/-- An instruction is held by its element in whatever sequence the arguments are. -/
theorem RawInstruction.Reordered.holds {set : InstructionSet} {x y : RawInstruction}
    {i : Instruction} (h : x.Reordered y) (held : x.Holds set i)
    : y.Holds set i := by
  obtain ⟨signature, found, known, args, distinct, complete⟩ := held.args
  obtain ⟨other, otherArgs, perm⟩ := List.perm_comp_forall₂ h.args.symm args
  have otherDistinct : other.Pairwise fun a b => a.position ≠ b.position :=
    perm.symm.pairwise distinct fun differ same => differ same.symm
  refine {
    name := h.name ▸ held.name,
    order := h.order ▸ held.order,
    opcode := h.opcode ▸ held.opcode,
    args := ⟨signature, other, known, otherArgs, otherDistinct, ?_⟩ }
  exact complete.imp fun _ _ first => find?_position_of_perm perm.symm otherDistinct first

-----------------------------------------------------------------------------------------
-- Programs
-----------------------------------------------------------------------------------------

/-- Instructions of different orders are sorted into one sequence, wherever they stand. -/
theorem sortBy_order_of_perm {xs ys : List Instruction} (perm : xs.Perm ys)
    (distinct : xs.Pairwise fun i j => i.order ≠ j.order)
    : sortBy (fun i j => decide (i.order ≤ j.order)) xs
      = sortBy (fun i j => decide (i.order ≤ j.order)) ys := by
  have left := sortBy_perm (fun i j => decide (i.order ≤ j.order)) xs
  have right := sortBy_perm (fun i j => decide (i.order ≤ j.order)) ys
  refine List.Perm.eq_of_pairwise ?_ (pairwise_sortBy_order xs) (pairwise_sortBy_order ys)
    (left.trans (perm.trans right.symm))
  intro i j member other below above
  have orders : (xs.map Instruction.order).Nodup := List.pairwise_map.mpr distinct
  refine List.inj_on_of_nodup_map orders (left.mem_iff.mp member) ?_ ?_
  · exact perm.mem_iff.mpr (right.mem_iff.mp other)
  · exact Int.le_antisymm (of_decide_eq_true below) (of_decide_eq_true above)

/-- In step with reordered elements stand the same instructions. -/
theorem forall₂_holds_of_reordered {set : InstructionSet} {xs ys : List RawInstruction}
    {instructions : List Instruction}
    (h : List.Forall₂ RawInstruction.Reordered xs ys)
    (held : List.Forall₂ (RawInstruction.Holds set) xs instructions)
    : List.Forall₂ (RawInstruction.Holds set) ys instructions := by
  induction h generalizing instructions with
  | nil => exact held
  | cons reordered _ ih =>
      obtain ⟨i, others, first, rest, rfl⟩ := List.forall₂_cons_left_iff.mp held
      exact .cons (reordered.holds first) (ih rest)

theorem RawProgram.Reordered.toDocument {set : InstructionSet} {x y : RawProgram}
    {doc : Document} (h : x.Reordered y) (accepted : x.toDocument set = .ok doc)
    : y.toDocument set = .ok doc := by
  obtain ⟨name, language, instructions, held, distinct, rfl⟩ :=
    RawProgram.toDocument_eq_ok.mp accepted
  obtain ⟨middle, permuted, inside⟩ := h.children
  obtain ⟨others, otherHeld, perm⟩ := List.perm_comp_forall₂ permuted.symm held
  have otherDistinct : others.Pairwise fun i j => i.order ≠ j.order :=
    perm.symm.pairwise distinct fun differ same => differ same.symm
  refine RawProgram.toDocument_eq_ok.mpr ⟨h.name ▸ name, h.language ▸ language, others,
    forall₂_holds_of_reordered inside otherHeld, otherDistinct, ?_⟩
  rw [sortBy_order_of_perm perm otherDistinct]

/-- The sequence of elements does not matter, on either level: of two programs that differ in
nothing else, one is a document exactly if the other is, and then it is the same document. So
are the texts that the programs are read from decoded alike.
-/
theorem Document.decode_of_reordered {x y : RawProgram} (h : x.Reordered y)
    (set : InstructionSet) (doc : Document)
    : (x.toDocument set = .ok doc ↔ y.toDocument set = .ok doc)
      ∧ ∀ input other,
          RawProgram.read? input = some x
          → RawProgram.read? other = some y
          → (Document.decode set input = .ok doc ↔ Document.decode set other = .ok doc) := by
  have same : x.toDocument set = .ok doc ↔ y.toDocument set = .ok doc :=
    ⟨h.toDocument, h.symm.toDocument⟩
  refine ⟨same, ?_⟩
  intro input other read readOther
  simpa [Document.decode, read, readOther] using same

/-- The program with the elements on both levels in the opposite sequence. -/
def RawProgram.reversed (x : RawProgram) : RawProgram :=
  { x with children := x.children.reverse.map fun c => { c with args := c.args.reverse } }

theorem RawProgram.reordered_reversed (x : RawProgram)
    : x.Reordered x.reversed := by
  refine ⟨rfl, rfl, x.children.reverse, (List.reverse_perm x.children).symm, ?_⟩
  rw [RawProgram.reversed, List.forall₂_map_right_iff, List.forall₂_same]
  exact fun c _ => ⟨rfl, rfl, rfl, (List.reverse_perm c.args).symm⟩

/-- A document with its elements in sequence. -/
def forwardText : Bytes :=
  utf8 "<program language='IPPcode24'>"
    ++ "<instruction order='1' opcode='NOT'>"
    ++ "<arg1 type='var'>GF@x</arg1><arg2 type='bool'>true</arg2></instruction>"
    ++ "<instruction order='2' opcode='BREAK'/></program>"

/-- The same document with its elements out of sequence. -/
def backwardText : Bytes :=
  utf8 "<program language='IPPcode24'>"
    ++ "<instruction order='2' opcode='BREAK'/>"
    ++ "<instruction order='1' opcode='NOT'>"
    ++ "<arg2 type='bool'>true</arg2><arg1 type='var'>GF@x</arg1></instruction></program>"

/-- What both texts say. -/
def forwardDocument : Document :=
  {
    language := "IPPcode24",
    instructions :=
      [{ order := 1, opcode := "NOT", args := [⟨1, "var", "GF@x"⟩, ⟨2, "bool", "true"⟩] },
        { order := 2, opcode := "BREAK", args := [] }]
  }

theorem decode_of_reordered_backward
    : forwardDocument.raw.Reordered forwardDocument.raw.reversed
      ∧ RawProgram.read? forwardText = some forwardDocument.raw
      ∧ RawProgram.read? backwardText = some forwardDocument.raw.reversed
      ∧ forwardText ≠ backwardText
      ∧ Document.decode ippcode24 backwardText = .ok forwardDocument := by
  have reordered := forwardDocument.raw.reordered_reversed
  have forward : RawProgram.read? forwardText = some forwardDocument.raw := by decide +kernel
  have backward : RawProgram.read? backwardText = some forwardDocument.raw.reversed := by
    decide +kernel
  have decoded : Document.decode ippcode24 forwardText = .ok forwardDocument :=
    Document.decode_eq_ok.mpr ⟨_, forward, by decide +kernel⟩
  refine ⟨reordered, forward, backward, by decide +kernel, ?_⟩
  have alike := (Document.decode_of_reordered reordered ippcode24 forwardDocument).2
  exact (alike _ _ forward backward).mp decoded

end IppXml
