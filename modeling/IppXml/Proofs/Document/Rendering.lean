import IppXml.Proofs.Text.Decimal
import IppXml.Proofs.Xml.Elements

/-! What a rendered document says when it is read again.

Whatever the texts of a document are, its rendering is a well-formed document with exactly
its elements, and each text comes back with U+FFFD in place of what XML excludes. Texts
never leak into the markup around them.
-/

namespace IppXml

open IppXml.Xml

-----------------------------------------------------------------------------------------
-- Names of elements
-----------------------------------------------------------------------------------------

theorem isPlainName_program : IsPlainName "program" :=
  isPlainName_of_all (by decide) (by decide) (by decide)

theorem isPlainName_instruction : IsPlainName "instruction" :=
  isPlainName_of_all (by decide) (by decide) (by decide)

theorem isPlainName_type : IsPlainName "type" :=
  isPlainName_of_all (by decide) (by decide) (by decide)

theorem isPlainName_order : IsPlainName "order" :=
  isPlainName_of_all (by decide) (by decide) (by decide)

theorem isPlainName_opcode : IsPlainName "opcode" :=
  isPlainName_of_all (by decide) (by decide) (by decide)

theorem isPlainName_language : IsPlainName "language" :=
  isPlainName_of_all (by decide) (by decide) (by decide)

theorem carried_decimal (n : Int)
    : carried (decimal n) = decimal n := by
  have bytes : ∀ b ∈ decimal n, (decide (0x20 ≤ b) && decide (b < 0x80)) = true :=
    all_decimal (by decide) n
  refine carried_of_isXmlText (isXmlText_ascii ?_)
  simpa using bytes

/-- The name of an argument's element is a name, whatever the position is. -/
theorem isPlainName_argumentElement (position : Int)
    : IsPlainName (argumentElement position) := by
  have arg : utf8 "arg" = [0x61, 0x72, 0x67] := rfl
  have element : argumentElement position = 0x61 :: 0x72 :: 0x67 :: decimal position := by
    simp [argumentElement, arg]
  have bytes : ∀ b ∈ decimal position,
      (decide (b < 0x80) && isNameByte b && decide (b ≠ colon)
        && runeSatisfies isNameChar (.char (Char.ofNat b.toNat))) = true :=
    all_decimal (by decide) position
  simp only [Bool.and_eq_true, decide_eq_true_eq] at bytes
  refine ⟨?_, ?_, ?_⟩
  · have ascii : ∀ b ∈ argumentElement position, b < 0x80 := by
      rw [element]
      simpa using fun b member => (bytes b member).1.1.1
    rw [isName, runes_ascii ascii, element]
    simp only [List.map_cons, List.all_cons, List.all_map, Bool.and_eq_true, List.all_eq_true]
    exact ⟨by decide, by decide, by decide, fun b member => (bytes b member).2⟩
  · rw [element]
    simpa using ⟨by decide, by decide, by decide, fun b member => (bytes b member).1.1.2⟩
  · rw [element]
    simpa using ⟨by decide, by decide, by decide, fun member => (bytes colon member).1.2 rfl⟩

-----------------------------------------------------------------------------------------
-- The trees of rendered elements
-----------------------------------------------------------------------------------------

/-- The tree of an argument's element. -/
def Argument.node (a : Argument) : Node :=
  .element ⟨[], argumentElement a.position⟩ [carriedAttribute "type" a.type]
    (textNodes a.value)

/-- The tree of an instruction's element. -/
def Instruction.node (indent : Bytes) (i : Instruction) : Node :=
  .element ⟨[], "instruction"⟩
    [carriedAttribute "order" (decimal i.order), carriedAttribute "opcode" i.opcode]
    (nestedNodes indent 1 (i.args.map Argument.node))

/-- The tree of a document's root. -/
def Document.node (indent : Bytes) (doc : Document) : Node :=
  .element ⟨[], "program"⟩ [carriedAttribute "language" doc.language]
    (nestedNodes indent 0 (doc.instructions.map (Instruction.node indent)))

theorem Argument.written (a : Argument)
    : WrittenElement a.raw.render a.node := by
  have attrs : ∀ entry ∈ [(utf8 "type", a.type)], IsPlainName entry.1 := by
    simpa using isPlainName_type
  exact (WrittenContent.escape a.value).element (isPlainName_argumentElement a.position) attrs
    (by simp)

theorem Instruction.written {indent : Bytes} (h : IsIndent indent) (i : Instruction)
    : WrittenElement (i.raw.render indent) (i.node indent) := by
  have args := WrittenContent.nested 1 h fun a (_ : a ∈ i.args) => a.written
  have attrs : ∀ entry ∈ [(utf8 "order", decimal i.order), (utf8 "opcode", i.opcode)],
      IsPlainName entry.1 := by
    simpa using ⟨isPlainName_order, isPlainName_opcode⟩
  have unique : [utf8 "order", utf8 "opcode"].Nodup := by decide
  have text : i.raw.render indent
      = startTag "instruction" [("order", decimal i.order), ("opcode", i.opcode)]
        ++ nested indent 1 (i.args.map fun a => a.raw.render) ++ endTag "instruction" := by
    simp [RawInstruction.render, Instruction.raw, Function.comp_def]
  rw [text]
  exact args.element isPlainName_instruction attrs unique

theorem Document.written {indent : Bytes} (h : IsIndent indent) (doc : Document)
    : WrittenElement (doc.raw.render indent) (doc.node indent) := by
  have children := WrittenContent.nested 0 h fun i (_ : i ∈ doc.instructions) => i.written h
  have attrs : ∀ entry ∈ [(utf8 "language", doc.language)], IsPlainName entry.1 := by
    simpa using isPlainName_language
  have text : doc.raw.render indent
      = startTag "program" [("language", doc.language)]
        ++ nested indent 0 (doc.instructions.map fun i => i.raw.render indent)
        ++ endTag "program" := by
    simp [RawProgram.render, Document.raw, Function.comp_def]
  rw [text]
  exact children.element isPlainName_program attrs (by simp)

-----------------------------------------------------------------------------------------
-- The whole text
-----------------------------------------------------------------------------------------

theorem markup_lineFeed (rest : Bytes) (h : ∀ b ∈ rest.head?, b = lessThan)
    : markup ("\n" ++ rest) = .text "\n" :: markup rest :=
  markup_text (by decide) (by decide)
    (contentText?_space fun _ member => Or.inl (List.mem_singleton.mp member)) h

/-- The declaration is set aside, and the end of its line is space in front of the root. -/
theorem markup_declarationLine {rest : Bytes} (h : rest.head? = some lessThan)
    : markup (declarationLine ++ rest) = .aside :: .text "\n" :: markup rest := by
  have split : declarationLine
      = lessThan :: utf8 "?xml version=\"1.0\" encoding=\"UTF-8\"?>" ++ utf8 "\n" := by
    decide +kernel
  have feed := markup_lineFeed rest (by simp [h])
  rw [split, List.append_assoc, ← feed]
  exact markup_append rfl

/-- The rendering of a document is well-formed, whatever its texts are. -/
theorem Document.wellFormed_render {indent : Bytes} (h : IsIndent indent) (doc : Document)
    : WellFormed (doc.render indent) (doc.node indent) := by
  have written := doc.written h
  obtain ⟨items, content, read⟩ := written.items
  refine ⟨written.isElement, [.aside, .text "\n"], items, [.text "\n"], ?_, by decide, content,
    by decide⟩
  have last : markup (utf8 "\n") = [.text "\n"] := markup_lineFeed [] (by simp)
  rw [Document.render, List.append_assoc,
    markup_declarationLine (head?_append_tag _ written.begins), read, last]
  rfl

-----------------------------------------------------------------------------------------
-- What the tree says
-----------------------------------------------------------------------------------------

/-- The argument that a document carries in place of the given one. -/
def Argument.carried (a : Argument) : Argument :=
  { a with type := IppXml.carried a.type, value := IppXml.carried a.value }

/-- The instruction that a document carries in place of the given one. -/
def Instruction.carried (i : Instruction) : Instruction :=
  { i with opcode := IppXml.carried i.opcode, args := i.args.map Argument.carried }

/-- The document that is carried in place of the given one. -/
def Document.carried (doc : Document) : Document :=
  {
    language := IppXml.carried doc.language,
    instructions := doc.instructions.map Instruction.carried
  }

/-- The elements among the nodes of indented content are those it was made of. -/
theorem filter_nestedNodes {children : List Node} (indent : Bytes) (depth : Nat)
    (h : ∀ child ∈ children, child.isElement = true)
    : (nestedNodes indent depth children).filter Node.isElement = children := by
  have breaks (depth : Nat) : (breakNodes indent depth).filter Node.isElement = [] := by
    rw [breakNodes]
    split <;> rfl
  rw [nestedNodes]
  split
  · next empty => simp [empty]
  · rw [List.filter_append, breaks, List.append_nil, List.filter_flatMap]
    clear * - h breaks
    induction children with
    | nil => rfl
    | cons child children ih =>
        rw [List.flatMap_cons, ih fun other member => h other (by simp [member])]
        simp [breaks, h child (by simp)]

theorem RawArgument.ofNode_node (a : Argument)
    : RawArgument.ofNode a.node = a.carried.raw := by
  have text : a.node.innerText = IppXml.carried a.value := flatMap_ownText_textNodes a.value
  rw [RawArgument.ofNode, text]
  rfl

theorem RawInstruction.ofNode_node (indent : Bytes) (i : Instruction)
    : RawInstruction.ofNode (i.node indent) = i.carried.raw := by
  have name : (i.node indent).base = "instruction" := rfl
  have order : (i.node indent).attr "order" = decimal i.order := carried_decimal i.order
  have opcode : (i.node indent).attr "opcode" = IppXml.carried i.opcode := rfl
  have args : (i.node indent).elements = i.args.map Argument.node :=
    filter_nestedNodes indent 1 (by simp [Argument.node, Node.isElement])
  rw [RawInstruction.ofNode, name, order, opcode, args]
  simp [Instruction.raw, Instruction.carried, RawArgument.ofNode_node]

theorem RawProgram.ofNode_node (indent : Bytes) (doc : Document)
    : RawProgram.ofNode (doc.node indent) = doc.carried.raw := by
  have name : (doc.node indent).base = "program" := rfl
  have language : (doc.node indent).attr "language" = IppXml.carried doc.language := rfl
  have children
      : (doc.node indent).elements = doc.instructions.map (Instruction.node indent) :=
    filter_nestedNodes indent 0 (by simp [Instruction.node, Node.isElement])
  rw [RawProgram.ofNode, name, language, children]
  simp [Document.raw, Document.carried, RawInstruction.ofNode_node]

/-- A rendered document is read as the document that is carried in its place. -/
theorem RawProgram.read?_render {indent : Bytes} (h : IsIndent indent) (doc : Document)
    : RawProgram.read? (doc.render indent) = some doc.carried.raw := by
  rw [RawProgram.read?, (doc.wellFormed_render h).read?, Option.map_some,
    RawProgram.ofNode_node]

-----------------------------------------------------------------------------------------
-- Equal renderings
-----------------------------------------------------------------------------------------

theorem Argument.raw_injective
    : Function.Injective Argument.raw := by
  intro a b same
  obtain ⟨position, type, value⟩ := a
  obtain ⟨_, _, _⟩ := b
  simp only [Argument.raw, RawArgument.mk.injEq, argumentElement, List.append_cancel_left_eq]
    at same
  obtain ⟨place, rfl, rfl⟩ := same
  rw [decimal_injective place]

theorem Instruction.raw_injective
    : Function.Injective Instruction.raw := by
  intro i j same
  obtain ⟨order, opcode, args⟩ := i
  obtain ⟨_, _, _⟩ := j
  simp only [Instruction.raw, RawInstruction.mk.injEq, true_and] at same
  obtain ⟨number, rfl, elements⟩ := same
  rw [decimal_injective number, List.map_injective_iff.mpr Argument.raw_injective elements]

theorem Document.raw_injective
    : Function.Injective Document.raw := by
  intro doc other same
  obtain ⟨language, instructions⟩ := doc
  obtain ⟨_, _⟩ := other
  simp only [Document.raw, RawProgram.mk.injEq, true_and] at same
  obtain ⟨rfl, children⟩ := same
  rw [List.map_injective_iff.mpr Instruction.raw_injective children]

/-- Documents that are rendered alike are carried alike. -/
theorem Document.carried_eq_of_render_eq {indent : Bytes} {doc other : Document}
    (h : IsIndent indent) (same : doc.render indent = other.render indent)
    : doc.carried = other.carried := by
  have read := RawProgram.read?_render h doc
  rw [same, RawProgram.read?_render h other, Option.some.injEq] at read
  exact (Document.raw_injective read).symm

-----------------------------------------------------------------------------------------
-- Lines
-----------------------------------------------------------------------------------------

theorem Argument.lineFeed_not_mem_render (a : Argument)
    : 0x0A ∉ a.raw.render :=
  lineFeed_not_mem_element (isPlainName_argumentElement a.position)
    (by simpa using isPlainName_type) (not_mem_escape (by decide) a.value)

theorem Instruction.lineFeed_not_mem_render (i : Instruction)
    : 0x0A ∉ i.raw.render [] := by
  refine lineFeed_not_mem_element isPlainName_instruction
    (by simpa using ⟨isPlainName_order, isPlainName_opcode⟩) (lineFeed_not_mem_nested ?_)
  simpa [Instruction.raw] using fun a _ => a.lineFeed_not_mem_render

theorem Document.lineFeed_not_mem_render (doc : Document)
    : 0x0A ∉ doc.raw.render [] := by
  refine lineFeed_not_mem_element isPlainName_program (by simpa using isPlainName_language)
    (lineFeed_not_mem_nested ?_)
  simpa [Document.raw] using fun i _ => i.lineFeed_not_mem_render

end IppXml
