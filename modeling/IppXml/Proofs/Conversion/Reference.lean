import IppXml.Conversion
import IppXml.Proofs.Text.Words
import Mathlib.Data.List.Forall2

/-! What a source program means, read off its lines with tokens.

A conversion takes lines one by one and keeps a state. Lines without tokens leave no trace
in it, so the outcome is that of the lines with tokens: the header first, then one
instruction for each line, up to the first that is rejected.
-/

namespace IppXml

/-- The numbered lines that hold tokens, with their tokens. -/
def withTokens (lines : List (Bytes × Nat)) : List (Nat × List Bytes) :=
  (lines.map fun (text, number) => (number, lineTokens text)).filter fun entry => entry.2 ≠ []

/-- The lines of a source that hold tokens. Lines end at line feeds and count from one. -/
def tokenLines (content : Bytes) : List (Nat × List Bytes) :=
  withTokens ((Bytes.lines content).zipIdx 1)

-----------------------------------------------------------------------------------------
-- Blank sources
-----------------------------------------------------------------------------------------

/-- The source is the encoding of white space characters and nothing else. -/
def IsBlankSource (content : Bytes) : Prop :=
  ∃ cs, content = ofChars cs ∧ ∀ c ∈ cs, isBlankChar c = true

theorem isBlank_iff {content : Bytes}
    : isBlank content = true ↔ IsBlankSource content :=
  isBlank_iff_exists_ofChars

/-- A blank source has no tokens on any line. -/
theorem tokenLines_of_isBlank {content : Bytes} (h : isBlank content = true)
    : tokenLines content = [] := by
  rw [tokenLines, withTokens, List.filter_eq_nil_iff]
  intro entry member
  obtain ⟨⟨text, number⟩, numbered, rfl⟩ := List.mem_map.mp member
  have line : text ∈ Bytes.lines content := List.fst_mem_of_mem_zipIdx numbered
  simp [lineTokens_eq_nil (isBlank_of_mem_lines h line)]

theorem isBlank_of_tokenLines_eq_cons {content : Bytes} {entry : Nat × List Bytes}
    {later : List (Nat × List Bytes)} (h : tokenLines content = entry :: later)
    : isBlank content = false := by
  rw [Bool.eq_false_iff]
  intro blank
  rw [tokenLines_of_isBlank blank] at h
  exact absurd h (by simp)

-----------------------------------------------------------------------------------------
-- Runs over lines with tokens
-----------------------------------------------------------------------------------------

/-- The instructions that lines spell, one for each line. -/
def Converter.Spells (c : Converter) (entries : List (Nat × List Bytes))
    (instructions : List Instruction) : Prop :=
  List.Forall₂ (fun entry i => Instruction.ofTokens c.set entry.2 = .ok i) entries instructions

namespace Progress

/-- Takes the tokens of lines up to the first one that fails. -/
def acceptAll (c : Converter) : Progress → List (Nat × List Bytes) → Except Error Progress
  | progress, [] => .ok progress
  | progress, (number, tokens) :: rest =>
      match progress.accept c number tokens with
      | .error e => .error e
      | .ok (next, _) => acceptAll c next rest

/-- A run takes the lines with tokens only, by induction over the lines. -/
theorem feedAll_snd (c : Converter) (progress : Progress) (lines : List (Bytes × Nat))
    : (feedAll c progress lines).2 = acceptAll c progress (withTokens lines) := by
  induction lines generalizing progress with
  | nil => rfl
  | cons line rest ih =>
      obtain ⟨text, number⟩ := line
      cases tokens : lineTokens text with
      | nil =>
          have skipped : withTokens ((text, number) :: rest) = withTokens rest := by
            simp [withTokens, tokens]
          rw [skipped, ← ih]
          simp [feedAll, feed, tokens]
      | cons token more =>
          have kept : withTokens ((text, number) :: rest)
              = (number, token :: more) :: withTokens rest := by
            simp [withTokens, tokens]
          rw [kept, acceptAll, feedAll, feed, tokens]
          cases step : progress.accept c number (token :: more) with
          | error e => simp [step, Except.map]
          | ok accepted => simp [step, Except.map, ih]

/-- Behind the header, a run that does not fail adds the instruction of each line, by
induction over the lines.
-/
theorem acceptAll_processing_eq_ok {c : Converter} {doc : Document} {next : Progress}
    {entries : List (Nat × List Bytes)}
    : acceptAll c (.processing doc) entries = .ok next
      ↔ ∃ instructions,
          c.Spells entries instructions
          ∧ next = .processing (instructions.foldl Document.push doc) := by
  induction entries generalizing doc with
  | nil =>
      rw [acceptAll, Except.ok.injEq]
      constructor
      · intro same
        subst same
        exact ⟨[], .nil, rfl⟩
      · intro given
        obtain ⟨instructions, spelled, rfl⟩ := given
        rw [List.forall₂_nil_left_iff.mp spelled]
        rfl
  | cons entry rest ih =>
      obtain ⟨number, tokens⟩ := entry
      rw [acceptAll, accept]
      cases parsed : Instruction.ofTokens c.set tokens with
      | error fault =>
          simp only [reduceCtorEq, false_iff]
          intro given
          obtain ⟨instructions, spelled, _⟩ := given
          obtain ⟨i, others, head, _⟩ := List.forall₂_cons_left_iff.mp spelled
          rw [parsed] at head
          exact absurd head (by simp)
      | ok i =>
          dsimp only
          rw [ih]
          constructor
          · intro given
            obtain ⟨others, spelled, rfl⟩ := given
            exact ⟨i :: others, .cons parsed spelled, rfl⟩
          · intro given
            obtain ⟨instructions, spelled, rfl⟩ := given
            obtain ⟨j, others, head, tail, rfl⟩ := List.forall₂_cons_left_iff.mp spelled
            rw [parsed] at head
            rw [← Except.ok.inj head]
            exact ⟨others, tail, rfl⟩

/-- Behind the header, a run ends at the first line that is rejected, whatever follows. -/
theorem acceptAll_processing_eq_error {c : Converter} {before after : List (Nat × List Bytes)}
    {instructions : List Instruction} {number : Nat} {tokens : List Bytes}
    {fault : InstructionFault} (doc : Document) (spelled : c.Spells before instructions)
    (rejected : Instruction.ofTokens c.set tokens = .error fault)
    : acceptAll c (.processing doc) (before ++ (number, tokens) :: after)
      = .error (.atLine number (.fault (.instruction fault))) := by
  induction spelled generalizing doc with
  | nil => simp [acceptAll, accept, rejected]
  | cons parsed _ ih =>
      rw [List.cons_append, acceptAll, accept, parsed]
      exact ih (doc.push _)

end Progress

-----------------------------------------------------------------------------------------
-- Whole sources
-----------------------------------------------------------------------------------------

/-- Instructions are added at the end, numbered by their place. -/
theorem Document.foldl_push (doc : Document) (instructions : List Instruction)
    : instructions.foldl Document.push doc
      = {
          language := doc.language,
          instructions := doc.instructions
            ++ instructions.mapIdx fun k i => { i with order := doc.size + k + 1 } } := by
  induction instructions generalizing doc with
  | nil => simp
  | cons i rest ih =>
      rw [List.foldl_cons, ih, List.mapIdx_cons]
      simp [Document.numbered, Int.add_assoc, Int.add_comm 1]

theorem Document.ofList_eq (language : Bytes) (instructions : List Instruction)
    : Document.ofList language instructions
      = { language, instructions := instructions.mapIdx fun k i => { i with order := k + 1 } } := by
  rw [Document.ofList, Document.foldl_push]
  simp [Document.empty, Document.size]

namespace Converter

theorem parse_of_isBlank {c : Converter} {content : Bytes} (h : isBlank content = true)
    : (c.parse { content }).2 = .error (.fault (.bare .emptyInput)) := by
  simp [parse, h]

/-- The outcome of a source that is not blank is that of its lines with tokens. -/
theorem parse_of_not_isBlank {c : Converter} {content : Bytes} (h : isBlank content = false)
    : (c.parse { content }).2
      = match Progress.acceptAll c .awaitHeader (tokenLines content) with
        | .error e => .error e
        | .ok progress => progress.finish c := by
  rw [parse, tokenLines, ← Progress.feedAll_snd]
  simp only [h, Bool.false_eq_true, if_false]
  cases Progress.feedAll c .awaitHeader ((Bytes.lines content).zipIdx 1) with
  | mk events outcome =>
      cases outcome with
      | error e => rfl
      | ok progress => cases progress <;> rfl

/-- Behind the header the outcome is that of the later lines. -/
theorem parse_of_header {c : Converter} {content : Bytes} {number : Nat}
    {later : List (Nat × List Bytes)} (h : tokenLines content = (number, [c.header]) :: later)
    : (c.parse { content }).2
      = match Progress.acceptAll c (.processing (.empty c.set.name)) later with
        | .error e => .error e
        | .ok progress => progress.finish c := by
  rw [parse_of_not_isBlank (isBlank_of_tokenLines_eq_cons h), h, Progress.acceptAll,
    Progress.accept, if_pos rfl]

/-- Lines either spell instructions one by one, or there is a first one that does not. -/
theorem spells_or_rejected (c : Converter) (entries : List (Nat × List Bytes))
    : (∃ instructions, c.Spells entries instructions)
      ∨ ∃ before number tokens after fault,
          entries = before ++ (number, tokens) :: after
          ∧ (∃ instructions, c.Spells before instructions)
          ∧ Instruction.ofTokens c.set tokens = .error fault := by
  induction entries with
  | nil => exact Or.inl ⟨[], .nil⟩
  | cons entry rest ih =>
      obtain ⟨number, tokens⟩ := entry
      cases parsed : Instruction.ofTokens c.set tokens with
      | error fault => exact Or.inr ⟨[], number, tokens, rest, fault, rfl, ⟨[], .nil⟩, parsed⟩
      | ok i =>
          rcases ih with ⟨others, spelled⟩ | ⟨before, line, rejected, after, fault, rfl, found⟩
          · exact Or.inl ⟨i :: others, .cons parsed spelled⟩
          · obtain ⟨⟨others, spelled⟩, failed⟩ := found
            exact Or.inr ⟨(number, tokens) :: before, line, rejected, after, fault, rfl,
              ⟨i :: others, .cons parsed spelled⟩, failed⟩

theorem parse_of_rejected {c : Converter} {content : Bytes} {first number : Nat}
    {before after : List (Nat × List Bytes)} {tokens : List Bytes}
    {instructions : List Instruction} {fault : InstructionFault}
    (entries : tokenLines content = (first, [c.header]) :: (before ++ (number, tokens) :: after))
    (spelled : c.Spells before instructions)
    (rejected : Instruction.ofTokens c.set tokens = .error fault)
    : (c.parse { content }).2 = .error (.atLine number (.fault (.instruction fault))) := by
  rw [parse_of_header entries, Progress.acceptAll_processing_eq_error _ spelled rejected]

theorem parse_of_spells {c : Converter} {content : Bytes} {first : Nat}
    {later : List (Nat × List Bytes)} {instructions : List Instruction}
    (entries : tokenLines content = (first, [c.header]) :: later)
    (spelled : c.Spells later instructions)
    : (c.parse { content }).2 = .ok (Document.ofList c.set.name instructions) := by
  have run : Progress.acceptAll c (.processing (.empty c.set.name)) later
      = .ok (.processing (Document.ofList c.set.name instructions)) :=
    Progress.acceptAll_processing_eq_ok.mpr ⟨instructions, spelled, rfl⟩
  rw [parse_of_header entries, run]
  rfl

-----------------------------------------------------------------------------------------
-- The meaning of a source
-----------------------------------------------------------------------------------------

/-- What a source means to a converter. A blank source has no lines with tokens, so the
cases exclude each other.
-/
inductive Meaning (c : Converter) (content : Bytes) : Except Error Document → Prop
  | emptyInput (blank : IsBlankSource content)
    : c.Meaning content (.error (.fault (.bare .emptyInput)))
  /-- There are comments at most. -/
  | noHeader (visible : ¬ IsBlankSource content) (nothing : tokenLines content = [])
    : c.Meaning content (.error (.fault (.header (.missing c.header))))
  /-- The first line with tokens is not the header alone. -/
  | otherHeader {number : Nat} {tokens later}
    (entries : tokenLines content = (number, tokens) :: later) (differs : tokens ≠ [c.header])
    : c.Meaning content
        (.error (.atLine number
          (.fault (.header (.different c.header (Bytes.join " " tokens))))))
  /-- A later line is rejected, and none between the header and it. -/
  | rejected {first number : Nat} {before tokens after instructions fault}
    (entries
      : tokenLines content = (first, [c.header]) :: (before ++ (number, tokens) :: after))
    (spelled : c.Spells before instructions)
    (failed : Instruction.ofTokens c.set tokens = .error fault)
    : c.Meaning content (.error (.atLine number (.fault (.instruction fault))))
  /-- All later lines are instructions, and their orders are their places. -/
  | program {first later instructions}
    (entries : tokenLines content = (first, [c.header]) :: later)
    (spelled : c.Spells later instructions)
    : c.Meaning content
        (.ok {
          language := c.set.name,
          instructions := instructions.mapIdx fun k i => { i with order := k + 1 } })

/-- The outcome of a conversion is a meaning of its source. -/
theorem meaning_parse (c : Converter) (content : Bytes)
    : c.Meaning content (c.parse { content }).2 := by
  cases blank : isBlank content with
  | true =>
      rw [parse_of_isBlank blank]
      exact .emptyInput (isBlank_iff.mp blank)
  | false =>
      cases entries : tokenLines content with
      | nil =>
          rw [parse_of_not_isBlank blank, entries]
          refine .noHeader ?_ entries
          intro space
          rw [isBlank_iff.mpr space] at blank
          exact Bool.noConfusion blank
      | cons entry later =>
          obtain ⟨number, tokens⟩ := entry
          by_cases header : tokens = [c.header]
          · subst header
            rcases c.spells_or_rejected later with
              ⟨instructions, spelled⟩ | ⟨before, line, tokens, after, fault, rfl, found⟩
            · rw [parse_of_spells entries spelled, Document.ofList_eq]
              exact .program entries spelled
            · obtain ⟨⟨instructions, spelled⟩, failed⟩ := found
              rw [parse_of_rejected entries spelled failed]
              exact .rejected entries spelled failed
          · rw [parse_of_not_isBlank blank, entries, Progress.acceptAll, Progress.accept,
              if_neg header]
            exact .otherHeader entries header

/-- A source has no meaning but the outcome of its conversion, case by case. -/
theorem Meaning.eq_parse {c : Converter} {content : Bytes} {outcome : Except Error Document}
    (h : c.Meaning content outcome)
    : (c.parse { content }).2 = outcome := by
  cases h with
  | emptyInput blank => exact parse_of_isBlank (isBlank_iff.mpr blank)
  | noHeader visible nothing =>
      have plain : isBlank content = false := by
        rw [Bool.eq_false_iff]
        exact fun blank => visible (isBlank_iff.mp blank)
      rw [parse_of_not_isBlank plain, nothing]
      rfl
  | otherHeader entries differs =>
      rw [parse_of_not_isBlank (isBlank_of_tokenLines_eq_cons entries), entries,
        Progress.acceptAll, Progress.accept, if_neg differs]
  | rejected entries spelled failed => exact parse_of_rejected entries spelled failed
  | program entries spelled => rw [parse_of_spells entries spelled, Document.ofList_eq]

/-- The outcome of a conversion is the meaning of its source: a blank source, and no other, is
empty input; else a source without tokens misses its header; else the first line with tokens
has to be the header alone; else the first later line that is no instruction is reported,
whatever follows it; else there is one instruction for each later line, in sequence and
numbered from one.
-/
theorem parse_eq_iff_meaning (c : Converter) (content : Bytes)
    : (∀ outcome, (c.parse { content }).2 = outcome ↔ c.Meaning content outcome)
      ∧ ((c.parse { content }).2 = .error (.fault (.bare .emptyInput))
        ↔ IsBlankSource content) := by
  have means (outcome : Except Error Document)
      : (c.parse { content }).2 = outcome ↔ c.Meaning content outcome := by
    constructor
    · intro same
      subst same
      exact c.meaning_parse content
    · exact Meaning.eq_parse
  refine ⟨means, ?_⟩
  rw [means]
  constructor
  · intro meaning
    cases meaning with
    | emptyInput blank => exact blank
  · exact .emptyInput

end Converter

end IppXml
