import IppXml.Ippcode24
import IppXml.Proofs.Document.Checks
import IppXml.Proofs.Document.Rendering
import IppXml.Proofs.Token.Validity
import IppXml.Proofs.Xml.Attributes

/-! Normal documents: those that come out of the decoder, and that it reads back.

Decoding puts orders, opcodes, values and sequences into a normal form. Whatever the input
was, the result is normal; and a normal document is rendered to a text from which the same
document is decoded.
-/

namespace IppXml

open Xml (IsIndent XmlNode)

-----------------------------------------------------------------------------------------
-- Normal instructions and documents
-----------------------------------------------------------------------------------------

/-- The instruction is one that a document of the set can hold: in upper case, with an order
that can be read, and with all arguments in sequence, valid and trimmed.
-/
structure Instruction.IsNormal (set : InstructionSet) (i : Instruction) : Prop where
  order : 1 ≤ i.order ∧ inInt64 i.order = true
  opcode : upper i.opcode = i.opcode ∧ isXmlText i.opcode = true
  signature
    : ∃ signature, set.lookup? i.opcode = some signature ∧ signature.length = i.args.length
  few : i.args.length ≤ maxArguments
  positions : i.args.map Argument.position = (List.range' 1 i.args.length).map Int.ofNat
  args : ∀ a ∈ i.args, a.isValid = true ∧ trim a.value = a.value

/-- The document is one of the set, and its instructions are normal and listed by order. -/
structure Document.IsNormal (set : InstructionSet) (doc : Document) : Prop where
  language : doc.language = set.name ∧ isXmlText doc.language = true
  instructions : ∀ i ∈ doc.instructions, i.IsNormal set
  sorted : doc.instructions.Pairwise fun i j => i.order < j.order

-----------------------------------------------------------------------------------------
-- Normal documents are read back
-----------------------------------------------------------------------------------------

theorem argumentPosition?_argumentElement {position : Nat} (low : 1 ≤ position)
    (high : position ≤ maxArguments)
    : argumentPosition? (argumentElement position) = some position := by
  have all : ∀ position ∈ List.range' 1 maxArguments,
      argumentPosition? (argumentElement (position : Nat)) = some position := by decide
  exact all position (by simp [List.mem_range'_1]; omega)

/-- The position of an argument in sequence is one of those in the sequence. -/
theorem Instruction.IsNormal.exists_position {set : InstructionSet} {i : Instruction}
    (h : i.IsNormal set) {a : Argument} (member : a ∈ i.args)
    : ∃ position : Nat,
        a.position = position ∧ 1 ≤ position ∧ position ≤ i.args.length := by
  have listed : a.position ∈ i.args.map Argument.position := List.mem_map_of_mem member
  rw [h.positions] at listed
  obtain ⟨position, inside, same⟩ := List.mem_map.mp listed
  rw [List.mem_range'_1] at inside
  exact ⟨position, same.symm, inside.1, by omega⟩

theorem Instruction.IsNormal.holds_arg {set : InstructionSet} {i : Instruction}
    (h : i.IsNormal set) {a : Argument} (member : a ∈ i.args)
    : a.raw.Holds i.args.length a := by
  obtain ⟨position, same, low, high⟩ := h.exists_position member
  obtain ⟨valid, trimmed⟩ := h.args a member
  refine ⟨position, ?_, high, ?_, valid⟩
  · rw [Argument.raw, same]
    exact argumentPosition?_argumentElement low (Nat.le_trans high h.few)
  · rw [RawArgument.toArgument, ← same]
    simp [Argument.raw, trimmed]

theorem Instruction.IsNormal.distinct {set : InstructionSet} {i : Instruction}
    (h : i.IsNormal set)
    : i.args.Pairwise fun a b => a.position ≠ b.position := by
  have unique : (List.range' 1 i.args.length).Nodup := List.nodup_range'
  rw [← List.pairwise_map, h.positions, List.pairwise_map]
  refine unique.imp ?_
  intro m n differ same
  exact differ (Int.ofNat.inj same)

theorem find?_position {args : List Argument} {a : Argument}
    (distinct : args.Pairwise fun a b => a.position ≠ b.position) (member : a ∈ args)
    : args.find? (·.position = a.position) = some a := by
  induction args with
  | nil => exact absurd member List.not_mem_nil
  | cons first args ih =>
      obtain ⟨differs, others⟩ := List.pairwise_cons.mp distinct
      rcases List.mem_cons.mp member with rfl | later
      · simp
      · simp [differs a later, ih others later]

/-- Arguments have the given positions one by one exactly if these are their positions. -/
theorem forall₂_position {positions : List Nat} {args : List Argument}
    : List.Forall₂ (fun position a => Int.ofNat position = a.position) positions args
      ↔ args.map Argument.position = positions.map Int.ofNat := by
  rw [eq_comm, ← List.forall₂_eq_eq_eq, List.forall₂_map_left_iff, List.forall₂_map_right_iff]

theorem position_getElem {args : List Argument} {k : Nat} (bound : k < args.length)
    (positions : args.map Argument.position = (List.range' 1 args.length).map Int.ofNat)
    : args[k].position = k + 1 := by
  have placed := congrArg (·[k]?) positions
  simpa [bound, Int.add_comm] using placed

/-- The element of a normal instruction holds it. -/
theorem Instruction.IsNormal.holds_raw {set : InstructionSet} {i : Instruction}
    (h : i.IsNormal set)
    : i.raw.Holds set i := by
  obtain ⟨signature, known, length⟩ := h.signature
  refine ⟨rfl, ?_, h.opcode.1.symm, signature, i.args, known, ?_, h.distinct, ?_⟩
  · rw [Instruction.raw, trim_decimal, readInteger?_decimal h.order.2]
    exact ⟨rfl, h.order.1⟩
  · rw [length, Instruction.raw, List.forall₂_map_left_iff, List.forall₂_same]
    exact fun a member => h.holds_arg member
  · have placed : List.Forall₂ (fun (position : Nat) a => Int.ofNat position = a.position)
        (List.range' 1 signature.length) i.args := by
      rw [forall₂_position, length]
      exact h.positions
    rw [List.forall₂_iff_zip] at placed ⊢
    refine ⟨placed.1, ?_⟩
    intro position a pair
    have same := placed.2 pair
    have found := find?_position h.distinct (List.of_mem_zip pair).2
    rw [← same] at found
    exact found

theorem Argument.carried_of_isValid {a : Argument} (h : a.isValid = true)
    : a.carried = a := by
  obtain ⟨type, value⟩ := Argument.isXmlText_of_isValid h
  rw [Argument.carried, carried_of_isXmlText type, carried_of_isXmlText value]

theorem Instruction.carried_eq_self {i : Instruction} (opcode : isXmlText i.opcode = true)
    (args : ∀ a ∈ i.args, a.isValid = true)
    : i.carried = i := by
  have same : i.args.map Argument.carried = i.args := by
    refine (List.map_congr_left fun a member => ?_).trans (List.map_id _)
    exact Argument.carried_of_isValid (args a member)
  rw [Instruction.carried, carried_of_isXmlText opcode, same]

theorem Document.carried_eq_self {doc : Document} (language : isXmlText doc.language = true)
    (instructions : ∀ i ∈ doc.instructions, i.carried = i)
    : doc.carried = doc := by
  have same : doc.instructions.map Instruction.carried = doc.instructions :=
    (List.map_congr_left instructions).trans (List.map_id _)
  rw [Document.carried, carried_of_isXmlText language, same]

/-- A normal document is carried unchanged. -/
theorem Document.IsNormal.carried {set : InstructionSet} {doc : Document}
    (h : doc.IsNormal set)
    : doc.carried = doc := by
  refine Document.carried_eq_self h.language.2 ?_
  intro i member
  have normal := h.instructions i member
  exact Instruction.carried_eq_self normal.opcode.2 fun a inside => (normal.args a inside).1

/-- A normal document is decoded from its rendering. -/
theorem Document.IsNormal.decode_render {set : InstructionSet} {doc : Document}
    {indent : Bytes} (h : doc.IsNormal set) (indented : IsIndent indent)
    : Document.decode set (doc.render indent) = .ok doc := by
  have read := RawProgram.read?_render indented doc
  rw [h.carried] at read
  refine Document.decode_eq_ok.mpr ⟨_, read, ?_⟩
  refine RawProgram.toDocument_eq_ok.mpr ⟨rfl, h.language.1, doc.instructions, ?_, ?_, ?_⟩
  · rw [Document.raw, List.forall₂_map_left_iff, List.forall₂_same]
    exact fun i member => (h.instructions i member).holds_raw
  · exact h.sorted.imp fun less => Int.ne_of_lt less
  · have ordered : doc.instructions.Pairwise
        fun i j => decide (i.order ≤ j.order) = true :=
      h.sorted.imp fun less => by simpa using Int.le_of_lt less
    rw [sortBy_eq_self ordered, ← h.language.1]

-----------------------------------------------------------------------------------------
-- Decoded documents are normal
-----------------------------------------------------------------------------------------

theorem argumentPosition?_bounds {name : Bytes} {position : Nat}
    (h : argumentPosition? name = some position)
    : 1 ≤ position ∧ position ≤ maxArguments := by
  have member := List.mem_of_find?_eq_some h
  rw [List.mem_range'_1] at member
  omega

/-- Held arguments are valid and trimmed, and have one of the positions of elements. -/
theorem RawArgument.Holds.isNormal {arity : Nat} {raw : RawArgument} {a : Argument}
    (h : raw.Holds arity a)
    : (a.isValid = true ∧ trim a.value = a.value) ∧ a.position ≤ maxArguments := by
  obtain ⟨position, named, _, rfl, valid⟩ := h
  refine ⟨⟨valid, trim_trim raw.text⟩, ?_⟩
  exact Int.ofNat_le.mpr (argumentPosition?_bounds named).2

theorem exists_of_forall₂_right {α β : Type} {R : α → β → Prop} {xs : List α} {ys : List β}
    {y : β} (h : List.Forall₂ R xs ys) (member : y ∈ ys)
    : ∃ x ∈ xs, R x y := by
  induction h with
  | nil => exact absurd member List.not_mem_nil
  | cons related _ ih =>
      rcases List.mem_cons.mp member with rfl | later
      · exact ⟨_, by simp, related⟩
      · obtain ⟨x, inside, related⟩ := ih later
        exact ⟨x, by simp [inside], related⟩

/-- Arguments that are found by their positions have these positions. -/
theorem map_position_of_find? {found args : List Argument} {positions : List Nat}
    (h : List.Forall₂
      (fun (position : Nat) a => found.find? (·.position = (position : Int)) = some a)
      positions args)
    : args.map Argument.position = positions.map Int.ofNat := by
  rw [← forall₂_position]
  refine h.imp ?_
  intro position a first
  have named := List.find?_some first
  exact (of_decide_eq_true named).symm

/-- A held instruction is normal if its opcode can be carried. Only positions of elements are
found, so there are at most as many arguments as names of elements.
-/
theorem RawInstruction.Holds.isNormal {set : InstructionSet} {raw : RawInstruction}
    {i : Instruction} (h : raw.Holds set i) (xml : isXmlText raw.opcode = true)
    : i.IsNormal set := by
  obtain ⟨signature, found, known, held, _, complete⟩ := h.args
  have length : signature.length = i.args.length := by simpa using complete.length_eq
  have normal : ∀ a ∈ found,
      (a.isValid = true ∧ trim a.value = a.value) ∧ a.position ≤ maxArguments := by
    intro a member
    obtain ⟨element, _, holds⟩ := exists_of_forall₂_right held member
    exact holds.isNormal
  have inFound : ∀ a ∈ i.args, a ∈ found := by
    intro a member
    obtain ⟨position, _, first⟩ := exists_of_forall₂_right complete member
    exact List.mem_of_find?_eq_some first
  have positions := map_position_of_find? complete
  rw [length] at positions
  refine {
    order := ⟨h.order.2, (readInteger?_eq_some.mp h.order.1).2⟩,
    opcode := ?_,
    signature := ⟨signature, known, length⟩,
    few := ?_,
    positions := positions,
    args := fun a member => (normal a (inFound a member)).1 }
  · rw [h.opcode]
    exact ⟨upper_upper raw.opcode, isXmlText_upper xml⟩
  · by_contra many
    -- the last position would be that of an argument found
    have last : Int.ofNat i.args.length ∈ i.args.map Argument.position := by
      rw [positions]
      refine List.mem_map_of_mem ?_
      rw [List.mem_range'_1]
      omega
    obtain ⟨a, member, same⟩ := List.mem_map.mp last
    have bound := (normal a (inFound a member)).2
    rw [same] at bound
    exact many (Int.ofNat_le.mp bound)

/-- The attributes of what is read as a program can be carried. -/
theorem RawProgram.isXmlText_of_read? {input : Bytes} {raw : RawProgram}
    (h : RawProgram.read? input = some raw)
    : isXmlText raw.language = true ∧ ∀ child ∈ raw.children, isXmlText child.opcode = true := by
  obtain ⟨node, read, rfl⟩ := Option.map_eq_some_iff.mp h
  have xml := Xml.xmlNode_of_read? read
  refine ⟨xml.isXmlText_attr _, ?_⟩
  intro child member
  obtain ⟨element, inside, rfl⟩ := List.mem_map.mp member
  exact (xml.of_mem_elements inside).isXmlText_attr _

/-- Instructions are sorted by their orders. -/
theorem pairwise_sortBy_order (instructions : List Instruction)
    : (sortBy (fun i j => decide (i.order ≤ j.order)) instructions).Pairwise
        fun i j => decide (i.order ≤ j.order) = true := by
  refine sortBy_pairwise instructions ?_ ?_
  · intro i j
    simpa using Int.le_total i.order j.order
  · intro i j k
    simpa using Int.le_trans

/-- Whatever the input was, a decoded document is normal. -/
theorem Document.isNormal_of_decode {set : InstructionSet} {input : Bytes} {doc : Document}
    (h : Document.decode set input = .ok doc)
    : doc.IsNormal set := by
  obtain ⟨raw, read, checked⟩ := Document.decode_eq_ok.mp h
  obtain ⟨_, language, instructions, held, distinct, rfl⟩ :=
    RawProgram.toDocument_eq_ok.mp checked
  obtain ⟨languageXml, opcodesXml⟩ := RawProgram.isXmlText_of_read? read
  have perm := sortBy_perm (fun i j => decide (i.order ≤ j.order)) instructions
  refine ⟨⟨rfl, language ▸ languageXml⟩, ?_, ?_⟩
  · intro i member
    obtain ⟨child, inside, holds⟩ := exists_of_forall₂_right held (perm.mem_iff.mp member)
    exact holds.isNormal (opcodesXml child inside)
  · have apart : (sortBy (fun i j => decide (i.order ≤ j.order)) instructions).Pairwise
        fun i j => i.order ≠ j.order :=
      perm.symm.pairwise distinct fun differ same => differ same.symm
    refine ((pairwise_sortBy_order instructions).and apart).imp ?_
    intro i j given
    obtain ⟨below, differ⟩ := given
    exact Int.lt_iff_le_and_ne.mpr ⟨of_decide_eq_true below, differ⟩

/-- Decoding gives a stable form: a decoded document, rendered with any indentation, is
decoded to the same document. Opcodes, values, orders and the sequence of instructions have
been normalized by the first decoding, and normal documents are read back.
-/
theorem Document.decode_render_of_decode {set : InstructionSet} {input indent : Bytes}
    {doc : Document} (h : Document.decode set input = .ok doc) (indented : IsIndent indent)
    : Document.decode set (doc.render indent) = .ok doc :=
  (Document.isNormal_of_decode h).decode_render indented

/-- A document in loose form: an order with a sign and a gap before it, an opcode in mixed
case, arguments out of sequence, a reference, and blanks around a value.
-/
def looseText : Bytes :=
  utf8 "<program language='IPPcode24'><instruction order='+07' opcode='Not'>"
    ++ "<arg2 type='bool'>tru&#x65;\n</arg2><arg1 type='var'>GF@x</arg1>"
    ++ "</instruction></program>"

/-- What the loose document says. -/
def looseDocument : Document :=
  {
    language := "IPPcode24",
    instructions :=
      [{ order := 7, opcode := "NOT", args := [⟨1, "var", "GF@x"⟩, ⟨2, "bool", "true"⟩] }]
  }

theorem decode_render_looseDocument
    : Document.decode ippcode24 looseText = .ok looseDocument
      ∧ IsIndent [0x09]
      ∧ Document.decode ippcode24 (looseDocument.render [0x09]) = .ok looseDocument := by
  have decoded : Document.decode ippcode24 looseText = .ok looseDocument := by
    decide +kernel
  have indented : IsIndent [0x09] := by simp [IsIndent]
  exact ⟨decoded, indented, Document.decode_render_of_decode decoded indented⟩

end IppXml
