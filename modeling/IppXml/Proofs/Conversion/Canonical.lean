import IppXml.Proofs.Conversion.RoundTrip
import IppXml.Proofs.Instruction.Printing

/-! Documents and the tokens of their sources determine each other.

A source says nothing to a converter but the token lists of its lines, and of those a
document keeps all but the case of opcodes. So a document can be printed as a source that
has the same document, and two sources have the same output exactly if their token lists
agree up to the case of opcodes.
-/

namespace IppXml

-----------------------------------------------------------------------------------------
-- Lines and their tokens
-----------------------------------------------------------------------------------------

theorem lines_append_lineFeed (text rest : Bytes)
    : Bytes.lines (text ++ 0x0A :: rest) = Bytes.lines text ++ Bytes.lines rest := by
  simp only [Bytes.lines, List.splitOn_eq_splitOnP]
  exact List.splitOnP_append_cons text rest (by simp)

theorem lines_join {texts : List Bytes} (nonempty : texts ≠ [])
    (h : ∀ text ∈ texts, 0x0A ∉ text)
    : Bytes.lines (Bytes.join "\n" texts) = texts :=
  List.splitOn_intercalate 0x0A h nonempty

/-- The token lists of a source, line by line and without the empty ones. -/
def tokenLists (content : Bytes) : List (List Bytes) :=
  ((Bytes.lines content).map lineTokens).filter (· ≠ [])

theorem map_snd_tokenLines (content : Bytes)
    : (tokenLines content).map Prod.snd = tokenLists content := by
  have numbered : (Bytes.lines content).map lineTokens
      = ((Bytes.lines content).zipIdx 1).map fun line => lineTokens line.1 := by
    conv_lhs => rw [← List.zipIdx_map_fst 1 (Bytes.lines content), List.map_map]
    rfl
  rw [tokenLists, numbered, tokenLines, withTokens, List.filter_map, List.filter_map,
    List.map_map]
  rfl

theorem isToken_of_mem_tokenLists {content : Bytes} {tokens : List Bytes}
    (h : tokens ∈ tokenLists content)
    : ∀ token ∈ tokens, IsToken token := by
  obtain ⟨line, _, rfl⟩ := List.mem_map.mp (List.mem_filter.mp h).1
  exact fun token => isToken_of_mem_lineTokens

-----------------------------------------------------------------------------------------
-- Instructions spelled by token lists
-----------------------------------------------------------------------------------------

/-- The token lists spell the instructions one by one. -/
def InstructionSet.Spells (set : InstructionSet) (lists : List (List Bytes))
    (instructions : List Instruction) : Prop :=
  List.Forall₂ (fun tokens i => Instruction.ofTokens set tokens = .ok i) lists instructions

namespace InstructionSet.Spells

variable {set : InstructionSet} {lists : List (List Bytes)} {instructions : List Instruction}

theorem map_tokens (h : set.Spells lists instructions)
    : instructions.map Instruction.tokens = lists.map upperOpcode := by
  rw [eq_comm, ← List.forall₂_eq_eq_eq, List.forall₂_map_left_iff,
    List.forall₂_map_right_iff]
  exact List.Forall₂.imp (fun _ _ parsed => (Instruction.tokens_of_ofTokens parsed).symm) h

/-- Instructions are spelled by their own tokens. -/
theorem of_tokens (h : set.Spells lists instructions)
    : set.Spells (instructions.map Instruction.tokens) instructions := by
  refine List.forall₂_map_left_iff.mpr (List.forall₂_same.mpr ?_)
  intro i member
  obtain ⟨tokens, _, parsed⟩ := exists_of_forall₂_right h member
  exact Instruction.ofTokens_tokens parsed

/-- Token lists spell one list of instructions at most. -/
theorem unique {others : List Instruction} (h : set.Spells lists instructions)
    (h' : set.Spells lists others)
    : instructions = others := by
  refine List.right_unique_forall₂' ?_ h h'
  intro tokens i j parsed parsed'
  rw [parsed] at parsed'
  exact Except.ok.inj parsed'

theorem isToken (content : Bytes) (h : set.Spells lists instructions)
    (listed : ∀ tokens ∈ lists, tokens ∈ tokenLists content)
    : ∀ i ∈ instructions, ∀ token ∈ i.tokens, IsToken token := by
  intro i member
  obtain ⟨tokens, inside, parsed⟩ := exists_of_forall₂_right h member
  rw [Instruction.tokens_of_ofTokens parsed]
  exact isToken_of_mem_upperOpcode (isToken_of_mem_tokenLists (listed tokens inside))

end InstructionSet.Spells

/-- A source has a document exactly if its first token list is the header alone and the
others spell instructions.
-/
theorem Converter.parse_eq_ok {c : Converter} {content : Bytes} {doc : Document}
    : (c.parse { content }).2 = .ok doc
      ↔ ∃ lists instructions,
          tokenLists content = [c.header] :: lists
          ∧ c.set.Spells lists instructions
          ∧ doc = Document.ofList c.set.name instructions := by
  rw [← map_snd_tokenLines]
  constructor
  · intro parsed
    have meaning := c.meaning_parse content
    rw [parsed] at meaning
    cases meaning with
    | @program first later instructions entries spelled =>
        refine ⟨later.map Prod.snd, instructions, by simp [entries], ?_, ?_⟩
        · exact List.forall₂_map_left_iff.mpr spelled
        · rw [Document.ofList_eq]
  · intro given
    obtain ⟨lists, instructions, lines, spelled, rfl⟩ := given
    obtain ⟨⟨number, tokens⟩, later, entries, rfl, rfl⟩ := List.map_eq_cons_iff.mp lines
    exact parse_of_spells entries (List.forall₂_map_left_iff.mp spelled)

/-- Numbering instructions does not change their tokens. -/
theorem Document.map_tokens_ofList (language : Bytes) (instructions : List Instruction)
    : (Document.ofList language instructions).instructions.map Instruction.tokens
      = instructions.map Instruction.tokens := by
  rw [Document.ofList_eq]
  refine List.ext_getElem (by simp) ?_
  intro k low high
  simp [Instruction.tokens]

-----------------------------------------------------------------------------------------
-- Printed documents
-----------------------------------------------------------------------------------------

/-- The document as a source program: the header, and one line for each instruction. -/
def Document.source (header : Bytes) (doc : Document) : Bytes :=
  Bytes.join "\n" (header :: doc.instructions.map Instruction.text)

theorem Document.lines_source {header : Bytes} {doc : Document} (title : IsToken header)
    (h : ∀ i ∈ doc.instructions, ∀ token ∈ i.tokens, IsToken token)
    : Bytes.lines (doc.source header) = header :: doc.instructions.map Instruction.text := by
  refine lines_join (by simp) (List.forall_mem_cons.mpr ⟨?_, ?_⟩)
  · exact lineFeed_not_mem_of_isToken title
  · intro text member
    obtain ⟨i, inside, rfl⟩ := List.mem_map.mp member
    rw [Instruction.text_eq_join]
    exact lineFeed_not_mem_join (h i inside)

/-- A printed document has the tokens of its instructions, line by line. -/
theorem Document.tokenLists_source {header : Bytes} {doc : Document} (title : IsToken header)
    (h : ∀ i ∈ doc.instructions, ∀ token ∈ i.tokens, IsToken token)
    : tokenLists (doc.source header) = [header] :: doc.instructions.map Instruction.tokens := by
  have first : lineTokens header = [header] := by
    rw [lineTokens_of_not_mem title.uncommented]
    exact words_eq_singleton title.nonempty title.visible
  have later : (doc.instructions.map Instruction.text).map lineTokens
      = doc.instructions.map Instruction.tokens := by
    rw [List.map_map]
    refine List.map_congr_left ?_
    intro i inside
    rw [Function.comp_apply, Instruction.text_eq_join, lineTokens_join (h i inside)]
  rw [tokenLists, Document.lines_source title h, List.map_cons, first, later]
  simp [Instruction.tokens]

/-- A line feed at the end of a source adds a line without tokens. -/
theorem tokenLists_append_lineFeed (text : Bytes)
    : tokenLists (text ++ "\n") = tokenLists text := by
  have feed : utf8 "\n" = [0x0A] := rfl
  have last : (Bytes.lines []).map lineTokens = [[]] := by decide +kernel
  rw [tokenLists, feed, lines_append_lineFeed, List.map_append, List.filter_append, last]
  simp [tokenLists]

/-- The document of a source, printed as a source with or without a line feed at its end,
has the same document again. No token is lost, and none is split by the layout of the print.
-/
theorem Converter.parse_source_of_parse {c : Converter} {content : Bytes} {doc : Document}
    (h : (c.parse { content }).2 = .ok doc)
    : (c.parse { content := doc.source c.header }).2 = .ok doc
      ∧ (c.parse { content := doc.source c.header ++ "\n" }).2 = .ok doc := by
  obtain ⟨lists, instructions, lines, spelled, rfl⟩ := Converter.parse_eq_ok.mp h
  have title : IsToken c.header :=
    isToken_of_mem_tokenLists (lines ▸ List.mem_cons_self) _ (by simp)
  have numbered := Document.map_tokens_ofList c.set.name instructions
  have visible : ∀ i ∈ (Document.ofList c.set.name instructions).instructions,
      ∀ token ∈ i.tokens, IsToken token := by
    intro i member token inside
    have listed := List.mem_map_of_mem (f := Instruction.tokens) member
    rw [numbered] at listed
    obtain ⟨j, original, same⟩ := List.mem_map.mp listed
    refine spelled.isToken content ?_ j original token (same ▸ inside)
    exact fun tokens spelledBy => lines ▸ List.mem_cons_of_mem _ spelledBy
  have printed := Document.tokenLists_source title visible
  rw [numbered] at printed
  constructor
  · exact Converter.parse_eq_ok.mpr ⟨_, _, printed, spelled.of_tokens, rfl⟩
  · rw [← tokenLists_append_lineFeed] at printed
    exact Converter.parse_eq_ok.mpr ⟨_, _, printed, spelled.of_tokens, rfl⟩

/-- A source with a comment, an opcode in other letters, a constant with a second at sign
and an escaped comment sign, and a label that is spelled like a type.
-/
def looseSource : Bytes :=
  ".IPPcode24 # title\n\n  puſhs string@ž@\\035\r\njump string\n"

/-- The document of the loose source. -/
def looseSourceDocument : Document :=
  {
    language := "IPPcode24",
    instructions :=
      [
        { order := 1, opcode := "PUSHS", args := [⟨1, "string", "ž@\\035"⟩] },
        { order := 2, opcode := "JUMP", args := [⟨1, "label", "string"⟩] }
      ]
  }

theorem parse_source_looseSource
    : (sampleConverter.parse { content := looseSource }).2 = .ok looseSourceDocument
      ∧ looseSourceDocument.source sampleConverter.header
        = ".IPPcode24\nPUSHS string@ž@\\035\nJUMP string"
      ∧ (sampleConverter.parse
          { content := looseSourceDocument.source sampleConverter.header }).2
        = .ok looseSourceDocument := by
  have parsed : (sampleConverter.parse { content := looseSource }).2
      = .ok looseSourceDocument := by decide +kernel
  exact ⟨parsed, by decide +kernel, (Converter.parse_source_of_parse parsed).1⟩

-----------------------------------------------------------------------------------------
-- Sources with the same output
-----------------------------------------------------------------------------------------

/-- What is left of a source without layout, comments and the case of opcodes: the token
lists behind the header, each with its first token in upper case.
-/
def programTokens (content : Bytes) : List (List Bytes) :=
  (tokenLists content).tail.map upperOpcode

/-- The tokens of a document are what is left of its source. -/
theorem Converter.map_tokens_of_parse {c : Converter} {content : Bytes} {doc : Document}
    (h : (c.parse { content }).2 = .ok doc)
    : doc.instructions.map Instruction.tokens = programTokens content := by
  obtain ⟨lists, instructions, lines, spelled, rfl⟩ := Converter.parse_eq_ok.mp h
  rw [Document.map_tokens_ofList, spelled.map_tokens, programTokens, lines]
  rfl

/-- Two documents of a converter are equal exactly if the same is left of their sources. -/
theorem Converter.document_eq_iff {c : Converter} {left right : Bytes} {doc other : Document}
    (parsed : (c.parse { content := left }).2 = .ok doc)
    (parsed' : (c.parse { content := right }).2 = .ok other)
    : doc = other ↔ programTokens left = programTokens right := by
  constructor
  · intro same
    rw [← map_tokens_of_parse parsed, ← map_tokens_of_parse parsed', same]
  · intro same
    rw [← map_tokens_of_parse parsed, ← map_tokens_of_parse parsed'] at same
    obtain ⟨_, instructions, _, spelled, rfl⟩ := Converter.parse_eq_ok.mp parsed
    obtain ⟨_, others, _, spelled', rfl⟩ := Converter.parse_eq_ok.mp parsed'
    rw [Document.map_tokens_ofList, Document.map_tokens_ofList] at same
    have again := spelled'.of_tokens
    rw [← same] at again
    rw [spelled.of_tokens.unique again]

/-- Documents carry the instructions that tokens spell unchanged, whatever their orders. -/
theorem Instruction.carried_of_ofTokens {set : InstructionSet} {tokens : List Bytes}
    {i : Instruction} (order : Int) (fits : set.FitsDocuments)
    (h : Instruction.ofTokens set tokens = .ok i)
    : Instruction.carried { i with order } = { i with order } := by
  obtain ⟨written, values, signature, _, known, _, accepted, rfl⟩ :=
    Instruction.ofTokens_eq_ok.mp h
  have entry := InstructionSet.mem_of_lookup? known
  rw [upper_upper] at entry
  refine Instruction.carried_eq_self (fits.opcodes _ entry) ?_
  intro a member
  obtain ⟨slot, token, place, pair, rfl⟩ := mem_slotArguments member
  exact slot.isValid_argument place (accepted _ pair)

theorem Converter.carried_of_parse {c : Converter} {content : Bytes} {doc : Document}
    (fits : c.set.FitsDocuments) (h : (c.parse { content }).2 = .ok doc)
    : doc.carried = doc := by
  obtain ⟨lists, instructions, _, spelled, rfl⟩ := Converter.parse_eq_ok.mp h
  rw [Document.ofList_eq]
  refine Document.carried_eq_self fits.name ?_
  intro i member
  obtain ⟨k, bound, rfl⟩ := List.mem_mapIdx.mp member
  obtain ⟨tokens, _, parsed⟩ := exists_of_forall₂_right spelled (List.getElem_mem bound)
  exact Instruction.carried_of_ofTokens _ fits parsed

/-- Only what has a document is converted. -/
theorem Converter.exists_parse_of_convert {c : Converter} {source : Source}
    (h : (c.convert source {}).result = .ok ())
    : ∃ doc, (c.parse source).2 = .ok doc :=
  (Converter.result_convert_eq_ok.mp h).1

/-- Converting IPPcode24 forgets layout, comments and the case of opcodes, and nothing else:
two accepted sources are converted to the same bytes exactly if they have the same token
lists behind the header, up to the case of their first tokens.
-/
theorem Converter.output_eq_iff {c : Converter} {value left right : Bytes}
    (language : c.set = ippcode24) (indented : readIndent value = .ok c.indent)
    (accepted : (c.convert { content := left } {}).result = .ok ())
    (accepted' : (c.convert { content := right } {}).result = .ok ())
    : ∃ output output',
        (c.convert { content := left } {}).writes = [output]
        ∧ (c.convert { content := right } {}).writes = [output']
        ∧ (output = output' ↔ programTokens left = programTokens right) := by
  obtain ⟨doc, parsed⟩ := Converter.exists_parse_of_convert accepted
  obtain ⟨other, parsed'⟩ := Converter.exists_parse_of_convert accepted'
  have fits : c.set.FitsDocuments := language ▸ ippcode24_fitsDocuments
  refine ⟨doc.render c.indent, other.render c.indent, (Converter.convert_of_parse parsed).1,
    (Converter.convert_of_parse parsed').1, ?_⟩
  rw [← Converter.document_eq_iff parsed parsed']
  constructor
  · intro same
    have carried := Document.carried_eq_of_render_eq (isIndent_of_readIndent indented) same
    rwa [Converter.carried_of_parse fits parsed, Converter.carried_of_parse fits parsed']
      at carried
  · intro same
    rw [same]

/-- A program that writes a letter. -/
def plainSource : Bytes := ".IPPcode24\nwrite string@a"

/-- The same program in another layout, with comments and in upper case. -/
def spacedSource : Bytes := "#\n\t.IPPcode24\r\n\n WRITE  string@a#b\n"

/-- A program that writes the letter as an escape. -/
def escapedSource : Bytes := ".IPPcode24\nwrite string@\\097"

theorem output_eq_iff_layouts
    : ∃ plain spaced escaped,
        (sampleConverter.convert { content := plainSource } {}).writes = [plain]
        ∧ (sampleConverter.convert { content := spacedSource } {}).writes = [spaced]
        ∧ (sampleConverter.convert { content := escapedSource } {}).writes = [escaped]
        ∧ plain = spaced
        ∧ plain ≠ escaped := by
  have indented : readIndent "2" = .ok sampleConverter.indent := by decide +kernel
  have accepted : (sampleConverter.convert { content := plainSource } {}).result = .ok () := by
    decide +kernel
  have acceptedSpaced
      : (sampleConverter.convert { content := spacedSource } {}).result = .ok () := by
    decide +kernel
  have acceptedEscaped
      : (sampleConverter.convert { content := escapedSource } {}).result = .ok () := by
    decide +kernel
  obtain ⟨plain, spaced, written, writtenSpaced, layout⟩ :=
    Converter.output_eq_iff rfl indented accepted acceptedSpaced
  obtain ⟨again, escaped, writtenAgain, writtenEscaped, spelling⟩ :=
    Converter.output_eq_iff rfl indented accepted acceptedEscaped
  rw [written] at writtenAgain
  obtain ⟨rfl, _⟩ := List.cons.inj writtenAgain
  refine ⟨plain, spaced, escaped, written, writtenSpaced, writtenEscaped, ?_, ?_⟩
  · exact layout.mpr (by decide +kernel)
  · exact fun same => absurd (spelling.mp same) (by decide +kernel)

end IppXml
