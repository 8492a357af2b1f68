import IppXml.Proofs.Conversion.Reference
import IppXml.Proofs.Document.NormalForm
import IppXml.Proofs.Instruction.Spelling
import IppXml.Verification.Report

/-! The listing of a document.

The row of an instruction has a cell for each position that an argument element can have.
Where the positions of arguments count from one and there are at most so many, each argument
goes into its own cell, and no argument is put outside of the row. Decoded documents are like
that, and so are the documents of sources if no signature has more slots than there are cells.
-/

namespace IppXml.Report

/-- The row that an instruction should have: its order, its opcode, its arguments in their
sequence, and empty cells behind them.
-/
def cells (i : Instruction) : List Cell :=
  .number i.order :: .text i.opcode :: i.args.map (fun a => .text (describe a))
    ++ List.replicate (maxArguments - i.args.length) (.text [])

theorem cellIndex_ofNat {position : Nat} (h : position ≤ maxArguments)
    : cellIndex (position : Int) = (position + 1 : Nat) := by
  have all : ∀ position ≤ maxArguments, cellIndex (position : Nat) = (position + 1 : Nat) := by
    decide
  exact all position h

/-- Arguments in sequence fill the cells from theirs on, by induction over the arguments. -/
theorem foldlM_placeArgument {args : List Argument} {position : Nat} {front : List Cell}
    {free : Nat} (before : front.length = position + 1)
    (positions : args.map Argument.position = (List.range' position args.length).map Int.ofNat)
    (enough : args.length ≤ free) (inside : position + free ≤ maxArguments + 1)
    : args.foldlM placeArgument (front ++ List.replicate free (.text []))
      = .ok (front ++ args.map (fun a => .text (describe a))
          ++ List.replicate (free - args.length) (.text [])) := by
  induction args generalizing position front free with
  | nil => simp [pure, Except.pure]
  | cons a args ih =>
      obtain ⟨left, rfl⟩ := Nat.exists_eq_add_of_lt enough
      rw [List.map_cons, List.length_cons, List.range'_succ, List.map_cons] at positions
      obtain ⟨place, later⟩ := List.cons.inj positions
      have index : cellIndex a.position = (front.length : Nat) := by
        rw [place, before]
        exact cellIndex_ofNat (by omega)
      have room : (front.length : Int)
          < (front ++ List.replicate (args.length + left + 1) (Cell.text [])).length := by
        rw [List.length_append, List.length_replicate]
        omega
      have placed : placeArgument (front ++ List.replicate (args.length + left + 1) (.text [])) a
          = .ok ((front ++ [.text (describe a)])
              ++ List.replicate (args.length + left) (.text [])) := by
        rw [placeArgument, index]
        simp only [Int.natCast_nonneg, room, decide_true, Bool.and_self, if_true]
        simp [List.replicate_succ]
      have counts : args.length + left + 1 - (a :: args).length = left := by
        rw [List.length_cons]
        omega
      rw [List.foldlM_cons, placed, counts]
      show args.foldlM placeArgument _ = _
      rw [ih (by simp [before]) later (by omega) (by omega)]
      simp

/-- The row of an instruction whose arguments are in sequence, and not too many. -/
theorem row_eq_cells {i : Instruction}
    (positions : i.args.map Argument.position = (List.range' 1 i.args.length).map Int.ofNat)
    (few : i.args.length ≤ maxArguments)
    : row i = .ok (cells i) := by
  have front : [Cell.number i.order, .text i.opcode].length = 1 + 1 := rfl
  exact foldlM_placeArgument front positions few (by decide)

theorem rows_eq_map_cells {instructions : List Instruction}
    (h : ∀ i ∈ instructions, row i = .ok (cells i))
    : rows instructions = .ok (instructions.map cells) := by
  induction instructions with
  | nil => rfl
  | cons i rest ih =>
      rw [rows, h i (by simp), ih fun j member => h j (by simp [member])]
      rfl

/-- The listing of a normal document has one row for each instruction. -/
theorem rows_of_isNormal {set : InstructionSet} {doc : Document} (h : doc.IsNormal set)
    : rows doc.instructions = .ok (doc.instructions.map cells) := by
  apply rows_eq_map_cells
  intro i member
  have normal := h.instructions i member
  exact row_eq_cells normal.positions normal.few

theorem issueText_ne_nil (r : Report)
    : r.issueText ≠ [] := by
  have found : utf8 "⚠ Found " ≠ [] := by decide
  rw [issueText]
  split
  · decide
  · simp [found]

/-- There is a report on every normal document, whatever the issues are. -/
theorem render_of_isNormal {set : InstructionSet} {doc : Document} (issues : List Issue)
    (h : doc.IsNormal set)
    : ∃ text, (ofDocument doc issues).render = .ok text ∧ text ≠ [] := by
  cases rendered : (ofDocument doc issues).render with
  | error defect => simp [render, ofDocument, rows_of_isNormal h, Except.map] at rendered
  | ok text =>
      obtain ⟨rows, _, rfl⟩ := except_map_eq_ok.mp rendered
      exact ⟨_, rfl, by simp [issueText_ne_nil]⟩

-----------------------------------------------------------------------------------------
-- Columns by their names
-----------------------------------------------------------------------------------------

/-- The cell of a row in the column with the given name. -/
def cellIn (row : List Cell) (column : Bytes) : Option Cell :=
  (header.zip row).lookup column

/-- The name of the column for the argument at a position. -/
def argumentColumn (position : Int) : Bytes :=
  "Arg" ++ decimal position

/-- The cell for the argument at a place, counted from zero; it is empty if there is none. -/
def argumentCell (i : Instruction) (place : Nat) : Cell :=
  .text ((i.args[place]?.map describe).getD [])

/-- The row shows the instruction: its order, its opcode, its arguments in the columns of
their places, with nothing in the columns that are left, and each argument in the column of
its own position.
-/
structure Shows (i : Instruction) (row : List Cell) : Prop where
  width : row.length = header.length
  order : cellIn row "Order" = some (.number i.order)
  opcode : cellIn row "Opcode" = some (.text i.opcode)
  places
    : ∀ place < maxArguments,
        cellIn row (argumentColumn (place + 1 : Nat)) = some (argumentCell i place)
  positions
    : ∀ a ∈ i.args, cellIn row (argumentColumn a.position) = some (.text (describe a))

/-- A row has the same cells place by place, whether there is an argument or not. -/
theorem cells_eq {i : Instruction} (few : i.args.length ≤ maxArguments)
    : cells i
      = [
          .number i.order, .text i.opcode, argumentCell i 0, argumentCell i 1,
          argumentCell i 2
        ] := by
  simp only [cells, argumentCell]
  match i.args, few with
  | [], _ => rfl
  | [_], _ => rfl
  | [_, _], _ => rfl
  | [_, _, _], _ => rfl
  | _ :: _ :: _ :: _ :: _, many => exact absurd many (by simp [maxArguments])

theorem shows_cells {i : Instruction}
    (positions : i.args.map Argument.position = (List.range' 1 i.args.length).map Int.ofNat)
    (few : i.args.length ≤ maxArguments)
    : Shows i (cells i) := by
  rw [cells_eq few]
  have places : ∀ place < maxArguments,
      cellIn
        [.number i.order, .text i.opcode, argumentCell i 0, argumentCell i 1, argumentCell i 2]
        (argumentColumn (place + 1 : Nat))
      = some (argumentCell i place) := by
    intro place bound
    match place, bound with
    | 0, _ => rfl
    | 1, _ => rfl
    | 2, _ => rfl
  refine ⟨rfl, rfl, rfl, places, ?_⟩
  intro a member
  obtain ⟨place, inside, rfl⟩ := List.mem_iff_getElem.mp member
  have own : argumentCell i place = .text (describe i.args[place]) := by
    simp [argumentCell, inside]
  rw [position_getElem inside positions, ← own]
  exact places place (by omega)

-----------------------------------------------------------------------------------------
-- Documents that can be listed
-----------------------------------------------------------------------------------------

/-- The document was decoded for some set, or it is that of a source for a set without
signatures of more slots than a row has cells for.
-/
inductive Obtained (doc : Document) : Prop
  | decoded {set : InstructionSet} {input : Bytes}
    (read : Document.decode set input = .ok doc)
  | parsed {c : Converter} {source : Source}
    (narrow : ∀ entry ∈ c.set.entries, entry.2.length ≤ maxArguments)
    (read : (c.parse source).2 = .ok doc)

/-- The arguments of a source's instructions are in sequence, and not too many. -/
theorem args_of_parse {c : Converter} {source : Source} {doc : Document}
    (narrow : ∀ entry ∈ c.set.entries, entry.2.length ≤ maxArguments)
    (h : (c.parse source).2 = .ok doc)
    : ∀ i ∈ doc.instructions,
        i.args.map Argument.position = (List.range' 1 i.args.length).map Int.ofNat
        ∧ i.args.length ≤ maxArguments := by
  obtain ⟨content, failure?⟩ := source
  cases failure? with
  | some reason => exact absurd h (by simp [Converter.parse])
  | none =>
      have meaning := c.meaning_parse content
      rw [h] at meaning
      cases meaning with
      | @program first later instructions entries spelled =>
          intro i member
          obtain ⟨k, bound, rfl⟩ := List.mem_mapIdx.mp member
          obtain ⟨entry, _, accepted⟩ :=
            exists_of_forall₂_right spelled (List.getElem_mem bound)
          obtain ⟨positions, known, inside, count⟩ := Instruction.args_of_ofTokens accepted
          exact ⟨positions, count.trans_le (narrow known inside)⟩

theorem Obtained.args {doc : Document} (h : Obtained doc)
    : ∀ i ∈ doc.instructions,
        i.args.map Argument.position = (List.range' 1 i.args.length).map Int.ofNat
        ∧ i.args.length ≤ maxArguments := by
  cases h with
  | decoded read =>
      intro i member
      have normal := (Document.isNormal_of_decode read).instructions i member
      exact ⟨normal.positions, normal.few⟩
  | parsed narrow read => exact args_of_parse narrow read

/-- The report on a document that was decoded or parsed, with any issues, is never cut short
by a cell outside of its row. It lists one row for each instruction, in the sequence of the
document, and each row shows its instruction with every argument in its own column.
-/
theorem render_shows_instructions {doc : Document} (h : Obtained doc) (issues : List Issue)
    : ∃ listing,
        rows doc.instructions = .ok listing
        ∧ List.Forall₂ Shows doc.instructions listing
        ∧ (ofDocument doc issues).render
          = .ok (Table.render
              { title := (ofDocument doc issues).title, header, rows := listing }
            ++ "\n" ++ (ofDocument doc issues).issueText) := by
  have listed : rows doc.instructions = .ok (doc.instructions.map cells) := by
    apply rows_eq_map_cells
    intro i member
    obtain ⟨positions, few⟩ := h.args i member
    exact row_eq_cells positions few
  refine ⟨doc.instructions.map cells, listed, ?_, ?_⟩
  · apply List.forall₂_map_right_iff.mpr
    apply List.forall₂_same.mpr
    intro i member
    obtain ⟨positions, few⟩ := h.args i member
    exact shows_cells positions few
  · rw [render]
    change (rows doc.instructions).map _ = _
    rw [listed]
    rfl

/-- A converter to IPPcode24 with the default header and indentation. -/
def listedConverter : Converter :=
  { name := "listed", set := ippcode24, header := defaultHeader, indent := defaultIndent }

/-- A source whose instructions fill three cells and none, with an escape in a constant. -/
def listedSource : Bytes :=
  ".IPPcode24\nconcat GF@s string@a\\035 LF@t # three\nbreak"

/-- The document of the source. -/
def listedDocument : Document :=
  {
    language := "IPPcode24",
    instructions :=
      [
        {
          order := 1,
          opcode := "CONCAT",
          args := [⟨1, "var", "GF@s"⟩, ⟨2, "string", "a\\035"⟩, ⟨3, "var", "LF@t"⟩]
        },
        { order := 2, opcode := "BREAK", args := [] }
      ]
  }

/-- An issue with the document as a whole. -/
def listedIssue : Issue :=
  { type := mismatchIssue, order := -1, message := "" }

/-- The listings of a decoded and of a parsed document, without and with an issue. -/
theorem render_shows_instructions_listed
    : (Document.decode ippcode24 looseText = .ok looseDocument
        ∧ ∃ listing,
            rows looseDocument.instructions = .ok listing
            ∧ List.Forall₂ Shows looseDocument.instructions listing)
      ∧ (listedConverter.parse { content := listedSource }).2 = .ok listedDocument
      ∧ ∃ listing text,
          rows listedDocument.instructions = .ok listing
          ∧ List.Forall₂ Shows listedDocument.instructions listing
          ∧ (ofDocument listedDocument [listedIssue]).render = .ok text := by
  have decoded : Document.decode ippcode24 looseText = .ok looseDocument := by
    decide +kernel
  have parsed : (listedConverter.parse { content := listedSource }).2 = .ok listedDocument := by
    decide +kernel
  have narrow : ∀ entry ∈ listedConverter.set.entries, entry.2.length ≤ maxArguments := by
    decide
  obtain ⟨rows, listed, shown, _⟩ := render_shows_instructions (.decoded decoded) []
  obtain ⟨others, alsoListed, alsoShown, rendered⟩ :=
    render_shows_instructions (.parsed narrow parsed) [listedIssue]
  exact ⟨⟨decoded, rows, listed, shown⟩, parsed, others, _, alsoListed, alsoShown, rendered⟩

end IppXml.Report
