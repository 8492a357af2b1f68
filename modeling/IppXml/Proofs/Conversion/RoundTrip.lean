import IppXml.Proofs.Conversion.Reference
import IppXml.Proofs.Document.NormalForm
import IppXml.Proofs.Instruction.Spelling
import IppXml.Proofs.Verification.Comparison
import IppXml.Settings

/-! A converted program is decoded as it was parsed.

The document of a source is normal: its tokens have no blanks that decoding could trim, its
values can be carried, and its orders count from one. So the decoder reads back what the
converter writes, and comparing the two finds no issue.
-/

namespace IppXml

open Xml (IsIndent)

-----------------------------------------------------------------------------------------
-- Orders of a source
-----------------------------------------------------------------------------------------

/-- A text has at most one line more than it has bytes. -/
theorem length_lines_le (text : Bytes)
    : (Bytes.lines text).length ≤ text.length + 1 := by
  rw [Bytes.lines]
  induction text with
  | nil => simp
  | cons b text ih =>
      rw [List.splitOn_cons_eq_if_modifyHead]
      split
      · simpa using ih
      · rw [List.length_modifyHead, List.length_cons]
        omega

theorem length_tokenLines_le (content : Bytes)
    : (tokenLines content).length ≤ content.length + 1 := by
  have kept : (tokenLines content).length ≤ (Bytes.lines content).length := by
    refine (List.length_filter_le _ _).trans ?_
    simp
  exact kept.trans (length_lines_le content)

theorem exists_line_of_mem_tokenLines {content : Bytes} {entry : Nat × List Bytes}
    (h : entry ∈ tokenLines content)
    : ∃ line, entry.2 = lineTokens line := by
  obtain ⟨numbered, _, rfl⟩ := List.mem_map.mp (List.mem_filter.mp h).1
  exact ⟨numbered.1, rfl⟩

theorem inInt64_of_le {n m : Nat} (h : inInt64 m = true) (le : n ≤ m)
    : inInt64 n = true := by
  rw [inInt64, Bool.and_eq_true, decide_eq_true_eq, decide_eq_true_eq] at h ⊢
  omega

-----------------------------------------------------------------------------------------
-- The document of a source is normal
-----------------------------------------------------------------------------------------

/-- The value of a token without blanks is trimmed already. -/
theorem Slot.trim_resolve {slot : Slot} {token : Bytes}
    (h : ∀ r ∈ runes token, r.isBlank = false)
    : trim (slot.resolve token).2 = (slot.resolve token).2 := by
  refine trim_eq_self ?_
  intro r member
  apply h
  rcases slot.resolve_value token with whole | ⟨before, split⟩
  · rw [whole] at member
    exact member
  · rw [split, runes_append_ascii (by decide)]
    simp [member]

/-- The texts of the set can be carried by documents, and its opcodes take at most as many
arguments as documents have elements for.
-/
structure InstructionSet.FitsDocuments (set : InstructionSet) : Prop where
  name : isXmlText set.name = true
  opcodes : ∀ entry ∈ set.entries, isXmlText entry.1 = true
  arity : ∀ entry ∈ set.entries, entry.2.length ≤ maxArguments

theorem ippcode24_fitsDocuments
    : ippcode24.FitsDocuments := by
  constructor <;> decide +kernel

/-- The instruction of a line is normal, once it has an order. -/
theorem Instruction.isNormal_of_ofTokens {set : InstructionSet} {line : Bytes}
    {i : Instruction} {order : Int} (fits : set.FitsDocuments)
    (spelled : Instruction.ofTokens set (lineTokens line) = .ok i)
    (counted : 1 ≤ order ∧ inInt64 order = true)
    : Instruction.IsNormal set { i with order } := by
  obtain ⟨written, values, signature, tokens, known, length, accepted, rfl⟩ :=
    Instruction.ofTokens_eq_ok.mp spelled
  have entry := InstructionSet.mem_of_lookup? known
  rw [upper_upper] at entry
  have count : (slotArguments 1 signature values).length = signature.length :=
    length_slotArguments length
  refine {
    order := counted,
    opcode := ⟨upper_upper written, fits.opcodes _ entry⟩,
    signature := ⟨signature, known, count.symm⟩,
    few := count.trans_le (fits.arity _ entry),
    positions := ?_,
    args := ?_ }
  · rw [count]
    exact position_slotArguments length
  · intro a member
    obtain ⟨slot, token, place, pair, rfl⟩ := mem_slotArguments member
    refine ⟨slot.isValid_argument place (accepted _ pair), slot.trim_resolve ?_⟩
    have inLine : token ∈ lineTokens line := by
      rw [tokens]
      exact List.mem_cons_of_mem written (List.of_mem_zip pair).2
    exact runes_of_mem_lineTokens inLine

/-- Instructions that are numbered by their place are sorted by order. -/
theorem pairwise_mapIdx_order (instructions : List Instruction)
    : (instructions.mapIdx fun k i => { i with order := (k : Int) + 1 }).Pairwise
        fun i j => i.order < j.order := by
  rw [List.pairwise_iff_getElem]
  intro j k low high less
  simp only [List.getElem_mapIdx]
  omega

/-- The document of a source is normal. -/
theorem Converter.isNormal_of_parse {c : Converter} {content : Bytes} {doc : Document}
    (fits : c.set.FitsDocuments) (size : inInt64 content.length = true)
    (h : (c.parse { content }).2 = .ok doc)
    : doc.IsNormal c.set := by
  have meaning := c.meaning_parse content
  rw [h] at meaning
  cases meaning with
  | @program first later instructions entries spelled =>
      refine ⟨⟨rfl, fits.name⟩, ?_, pairwise_mapIdx_order instructions⟩
      intro i member
      obtain ⟨k, bound, rfl⟩ := List.mem_mapIdx.mp member
      obtain ⟨entry, inside, parsed⟩ :=
        exists_of_forall₂_right spelled (List.getElem_mem bound)
      have listed : entry ∈ tokenLines content := by
        rw [entries]
        exact List.mem_cons_of_mem _ inside
      obtain ⟨line, tokens⟩ := exists_line_of_mem_tokenLines listed
      rw [tokens] at parsed
      refine Instruction.isNormal_of_ofTokens fits parsed ⟨by omega, ?_⟩
      -- there are no more instructions than bytes, so their orders are numbers too
      have lines := length_tokenLines_le content
      rw [entries, List.length_cons, spelled.length_eq] at lines
      exact inInt64_of_le (n := k + 1) size (by omega)

-----------------------------------------------------------------------------------------
-- Writing and reading back
-----------------------------------------------------------------------------------------

theorem isIndent_times_space (count : Nat)
    : IsIndent (Bytes.times count " ") := by
  intro b member
  rw [Bytes.times, List.mem_flatten] at member
  obtain ⟨text, copy, inside⟩ := member
  rw [List.eq_of_mem_replicate copy] at inside
  exact Or.inl (List.mem_singleton.mp inside)

/-- An indentation that can be chosen is space between tags. -/
theorem isIndent_of_readIndent {value indent : Bytes} (h : readIndent value = .ok indent)
    : IsIndent indent := by
  rw [readIndent] at h
  split at h
  · rw [← Except.ok.inj h]
    intro b member
    exact Or.inr (List.mem_singleton.mp member)
  split at h
  · rw [← Except.ok.inj h]
    exact fun b member => absurd member List.not_mem_nil
  split at h
  · exact absurd h (by simp)
  split at h
  · exact absurd h (by simp)
  · rw [← Except.ok.inj h]
    exact isIndent_times_space _

/-- Instructions that are numbered from a place on are those wanted there. -/
theorem compareFrom_self {place : Nat} {instructions : List Instruction}
    (h : ∀ (k : Nat) (i : Instruction), instructions[k]? = some i → i.order = k + place)
    : compareFrom place instructions instructions = [] := by
  refine compareFrom_eq_nil_iff.mpr ?_
  intro k want got wanted found
  rw [wanted] at found
  cases found
  exact ⟨h k want wanted, rfl, rfl⟩

/-- The orders of the document of a source count from one. -/
theorem Converter.order_of_parse {c : Converter} {content : Bytes} {doc : Document}
    (h : (c.parse { content }).2 = .ok doc)
    : ∀ (k : Nat) (i : Instruction), doc.instructions[k]? = some i → i.order = k + 1 := by
  have meaning := c.meaning_parse content
  rw [h] at meaning
  cases meaning with
  | program entries spelled =>
      intro k i found
      rw [List.getElem?_mapIdx] at found
      obtain ⟨j, _, rfl⟩ := Option.map_eq_some_iff.mp found
      rfl

theorem Converter.convert_of_parse {c : Converter} {source : Source} {doc : Document}
    (h : (c.parse source).2 = .ok doc)
    : (c.convert source {}).writes = [doc.render c.indent]
      ∧ (c.convert source {}).result = .ok () := by
  rw [Converter.writes_convert, Converter.result_convert, h]
  exact ⟨rfl, rfl⟩

/-- Converting loses nothing. If a source has a document, then the converter writes one
text, in any indentation that can be chosen, and from it the decoder reads the same
document: language, orders from one on, opcodes, and positions, types and values of
arguments. So verifying the text against the program finds no issue. The size of a source is
a 64-bit number, as every number of this library is; lines beyond would have no order.
-/
theorem Converter.decode_convert {c : Converter} {content value : Bytes} {doc : Document}
    (fits : c.set.FitsDocuments) (indented : readIndent value = .ok c.indent)
    (size : inInt64 content.length = true) (parsed : (c.parse { content }).2 = .ok doc)
    : ∃ output,
        (c.convert { content } {}).writes = [output]
        ∧ (c.convert { content } {}).result = .ok ()
        ∧ Document.decode c.set output = .ok doc
        ∧ (∀ (k : Nat) (i : Instruction),
            doc.instructions[k]? = some i → i.order = k + 1)
        ∧ roundTrip c.set doc.instructions output = .ok [] := by
  have orders := Converter.order_of_parse parsed
  obtain ⟨written, finished⟩ := Converter.convert_of_parse parsed
  have decoded : Document.decode c.set (doc.render c.indent) = .ok doc :=
    (Converter.isNormal_of_parse fits size parsed).decode_render
      (isIndent_of_readIndent indented)
  refine ⟨doc.render c.indent, written, finished, decoded, orders, ?_⟩
  simp [roundTrip, decoded, compareInstructions, compareFrom_self orders]

/-- A converter that indents by two spaces. -/
def sampleConverter : Converter :=
  { name := "sample", set := ippcode24, header := defaultHeader, indent := "  " }

/-- A source with a comment, a carriage return, an opcode in lower case and a constant that
needs escapes.
-/
def sampleSource : Bytes :=
  "#\n.IPPcode24\r\n\nwrite string@é<\\032&# said"

/-- The document of the sample. -/
def sampleDocument : Document :=
  {
    language := "IPPcode24",
    instructions := [{ order := 1, opcode := "WRITE", args := [⟨1, "string", "é<\\032&"⟩] }]
  }

theorem decode_convert_sample
    : readIndent "2" = .ok sampleConverter.indent
      ∧ inInt64 sampleSource.length = true
      ∧ (sampleConverter.parse { content := sampleSource }).2 = .ok sampleDocument
      ∧ ∃ output,
          (sampleConverter.convert { content := sampleSource } {}).writes = [output]
          ∧ Document.decode ippcode24 output = .ok sampleDocument
          ∧ roundTrip ippcode24 sampleDocument.instructions output = .ok [] := by
  have indented : readIndent "2" = .ok sampleConverter.indent := by decide +kernel
  have size : inInt64 sampleSource.length = true := by decide +kernel
  have parsed : (sampleConverter.parse { content := sampleSource }).2 = .ok sampleDocument := by
    decide +kernel
  obtain ⟨output, written, _, decoded, _, verified⟩ :=
    Converter.decode_convert ippcode24_fitsDocuments indented size parsed
  exact ⟨indented, size, parsed, output, written, decoded, verified⟩

end IppXml
