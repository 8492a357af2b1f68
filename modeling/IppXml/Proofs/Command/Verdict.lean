import IppXml.Command.Verify
import IppXml.Proofs.Command.ExitCodes
import IppXml.Proofs.Conversion.RoundTrip
import IppXml.Proofs.Text.Tokens
import IppXml.Proofs.Verification.Listing

/-! The verdict of the checking command.

A check needs a document on standard input and, if a source file is named, a program in it.
`Checkable` says that both can be had. Then there is a report, and the code tells whether it
could be saved and whether document and program are the same; else the run ends with the code
of what is missing and leaves nothing behind.
-/

namespace IppXml.Command

/-- The document is on standard input, and the program, if a source is named, is in it. -/
structure Checkable (settings : Settings) (source : Bytes) (files : FileAccess)
    (stdin : Source) (doc : Document) (program? : Option Document) : Prop where
  readable : stdin.failure? = none
  decoded : Document.decode ippcode24 stdin.content = .ok doc
  /-- A program is asked for exactly if a source is named. -/
  asked : program? = none ↔ source = []
  parsed
    : ∀ program ∈ program?,
        ∃ content,
          files.read source = .ok content
          ∧ ((settings.converter converterName).parse { content }).2 = .ok program

/-- The issues of a document with the program that it should be. -/
def foundIssues (doc : Document) : Option Document → List Issue
  | none => []
  | some program => compareInstructions program.instructions doc.instructions

-----------------------------------------------------------------------------------------
-- Documents and programs
-----------------------------------------------------------------------------------------

/-- White space alone is no document. -/
theorem decode_eq_ok_not_isBlank {set : InstructionSet} {input : Bytes} {doc : Document}
    (h : Document.decode set input = .ok doc)
    : isBlank input = false := by
  rw [Bool.eq_false_iff]
  intro blank
  -- every document has a tag, and the byte that opens it is no white space
  have plain : Xml.lessThan ∉ input := by
    intro member
    have rune := (mem_iff_char_mem_runes (by decide)).mp member
    exact absurd (List.all_eq_true.mp blank _ rune) (by decide)
  obtain ⟨raw, read, _⟩ := Document.decode_eq_ok.mp h
  rw [RawProgram.read?, Xml.Node.read?_eq_none plain] at read
  exact absurd read (by simp)

theorem readDocument_eq_ok {stdin : Source} {doc : Document}
    : readDocument stdin = .ok doc
      ↔ stdin.failure? = none ∧ Document.decode ippcode24 stdin.content = .ok doc := by
  rw [readDocument]
  cases stdin.failure? with
  | some reason => simp
  | none =>
      simp only [true_and]
      cases blank : isBlank stdin.content with
      | false => simp
      | true =>
          simp only [if_true, reduceCtorEq, false_iff]
          intro decoded
          rw [decode_eq_ok_not_isBlank decoded] at blank
          exact Bool.noConfusion blank

/-- A document that cannot be had is an error, and never a defect. -/
theorem readDocument_eq_error {stdin : Source} {failure : Failure}
    (h : readDocument stdin = .error failure)
    : ∃ e, failure = .error e ∧ e.exitCode ∈ [11, 31, 32] := by
  rw [readDocument] at h
  split at h
  · cases h
    exact ⟨_, rfl, by rw [Error.exitCode_fault rfl]; decide⟩
  split at h
  · cases h
    exact ⟨_, rfl, by decide⟩
  rcases Document.decode_of_narrow stdin.content ippcode24_fitsDocuments.arity with
    ⟨doc, decoded⟩ | ⟨fault, failed, kind⟩
  · rw [decoded] at h
    exact absurd h (by simp)
  · rw [failed] at h
    cases h
    refine ⟨_, rfl, ?_⟩
    rcases kind with format | shape
    · rw [Error.exitCode_fault format]
      decide
    · rw [Error.exitCode_fault shape]
      decide

theorem readProgram_eq_ok {settings : Settings} {files : FileAccess} {name : Bytes}
    {program : Document}
    : (readProgram settings files name).2 = .ok program
      ↔ ∃ content,
          files.read name = .ok content
          ∧ ((settings.converter converterName).parse { content }).2 = .ok program := by
  rw [readProgram]
  cases files.read name with
  | error reason => simp
  | ok content =>
      simp only [Except.ok.injEq, exists_eq_left']
      rcases (settings.converter converterName).parse { content } with ⟨events, e | doc⟩ <;> simp

theorem readProgram_eq_error {settings : Settings} {files : FileAccess} {name : Bytes}
    {e : Error} (h : (readProgram settings files name).2 = .error e)
    : e.exitCode ∈ [11, 21, 22, 23] := by
  rw [readProgram] at h
  cases found : files.read name with
  | error reason =>
      rw [found] at h
      cases h
      rw [Error.exitCode_fault rfl]
      decide
  | ok content =>
      rw [found] at h
      dsimp only at h
      split at h
      next events cause failed =>
        cases h
        rw [Error.exitCode_within]
        exact Converter.exitCode_of_parse (congrArg Prod.snd failed)
      · exact absurd h (by simp)

-----------------------------------------------------------------------------------------
-- Reports
-----------------------------------------------------------------------------------------

theorem roundTrip_of_decode {set : InstructionSet} {input : Bytes} {doc : Document}
    (want : List Instruction) (h : Document.decode set input = .ok doc)
    : roundTrip set want input = .ok (compareInstructions want doc.instructions) := by
  rw [roundTrip, h]

/-- There is a report on a decoded document, and it is saved as it is printed. -/
theorem reportOn_of_decode {input : Bytes} {doc : Document} (files : FileAccess)
    (name : Bytes) (records : List Log.Record) (issues : List Issue)
    (h : Document.decode ippcode24 input = .ok doc)
    : ∃ text,
        (Report.ofDocument doc issues).render = .ok text
        ∧ text ≠ []
        ∧ reportOn files name records doc issues
          = .ok {
              records,
              report := text,
              saved := (saveReport files name text issues).1,
              result := (saveReport files name text issues).2 } := by
  obtain ⟨text, rendered, nonempty⟩ :=
    Report.render_of_isNormal issues (Document.isNormal_of_decode h)
  exact ⟨text, rendered, nonempty, by rw [reportOn, rendered]; rfl⟩

/-- With a document and its program at hand, the check comes to a report. -/
theorem verifyDocument_of_checkable {settings : Settings} (request : VerifyRequest)
    {files : FileAccess} {stdin : Source} {doc : Document} {program? : Option Document}
    (h : Checkable settings request.source files stdin doc program?)
    : ∃ v,
        verifyDocument settings request files stdin = .ok v
        ∧ (Report.ofDocument doc (foundIssues doc program?)).render = .ok v.report
        ∧ v.report ≠ []
        ∧ (v.saved, v.result)
          = saveReport files request.report v.report (foundIssues doc program?) := by
  rw [verifyDocument, readDocument_eq_ok.mpr ⟨h.readable, h.decoded⟩]
  dsimp only
  cases program? with
  | none =>
      rw [if_pos (h.asked.mp rfl)]
      obtain ⟨text, rendered, nonempty, reported⟩ :=
        reportOn_of_decode files request.report [] [] h.decoded
      exact ⟨_, reported, rendered, nonempty, rfl⟩
  | some program =>
      have named : request.source ≠ [] := fun empty => absurd (h.asked.mpr empty) (by simp)
      rw [if_neg named]
      cases reading : readProgram settings files request.source with
      | mk events outcome =>
          have parsed := readProgram_eq_ok.mpr (h.parsed program rfl)
          rw [reading] at parsed
          cases parsed
          obtain ⟨text, rendered, nonempty, reported⟩ :=
            reportOn_of_decode files request.report
              (events.map (Event.record converterName)
                ++ [comparedRecord request.source (foundIssues doc (some program)).length])
              (foundIssues doc (some program)) h.decoded
          simp only [roundTrip_of_decode program.instructions h.decoded]
          exact ⟨_, reported, rendered, nonempty, rfl⟩

/-- Where document or program cannot be had, the check ends with an error and leaves nothing
behind.
-/
theorem verifyDocument_of_not_checkable {settings : Settings} (request : VerifyRequest)
    {files : FileAccess} {stdin : Source}
    (h : ∀ doc program?, ¬ Checkable settings request.source files stdin doc program?)
    : ∃ records e,
        verifyDocument settings request files stdin = .ok (.failed records e)
        ∧ e.exitCode ∈ [11, 21, 22, 23, 31, 32] := by
  rw [verifyDocument]
  cases document : readDocument stdin with
  | error failure =>
      obtain ⟨e, rfl, code⟩ := readDocument_eq_error document
      have wider : [11, 31, 32] ⊆ [11, 21, 22, 23, 31, 32] := by decide
      exact ⟨[], e, rfl, wider code⟩
  | ok doc =>
      obtain ⟨readable, decoded⟩ := readDocument_eq_ok.mp document
      by_cases unnamed : request.source = []
      · exact absurd ⟨readable, decoded, by simp [unnamed], by simp⟩ (h doc none)
      · dsimp only
        rw [if_neg unnamed]
        cases reading : readProgram settings files request.source with
        | mk events outcome =>
            have same : (readProgram settings files request.source).2 = outcome := by
              rw [reading]
            cases outcome with
            | error e =>
                have wider : [11, 21, 22, 23] ⊆ [11, 21, 22, 23, 31, 32] := by decide
                exact ⟨_, e, rfl, wider (readProgram_eq_error same)⟩
            | ok program =>
                refine absurd ⟨readable, decoded, by simp [unnamed], ?_⟩ (h doc (some program))
                intro other given
                cases given
                exact readProgram_eq_ok.mp same

-----------------------------------------------------------------------------------------
-- The verdict
-----------------------------------------------------------------------------------------

/-- What a check leaves behind that has come to a report. -/
structure IsVerdict (doc : Document) (program? : Option Document) (report : Bytes)
    (files : FileAccess) (outcome : Outcome) : Prop where
  printed : (Report.ofDocument doc (foundIssues doc program?)).render = .ok outcome.stdout
  /-- The document has been decoded, so all issues are differences. -/
  mismatches : ∀ issue ∈ foundIssues doc program?, issue.type ≠ structIssue
  /-- A report that cannot be saved comes before all differences. -/
  refused
    : ∀ reason,
        report ≠ []
        → files.create report = .error reason
        → outcome.code = 12 ∧ outcome.saved = []
  different
    : (report = [] ∨ files.create report = .ok ())
      → (∃ program ∈ program?, doc.instructions ≠ program.instructions)
      → outcome.code = 32
  same
    : (report = [] ∨ files.create report = .ok ())
      → (∀ program ∈ program?, doc.instructions = program.instructions)
      → outcome.code = 0
  /-- What is saved is what is printed. -/
  saved : report ≠ [] → files.create report = .ok () → outcome.saved = [(report, outcome.stdout)]
  unsaved : report = [] → outcome.saved = []

theorem foundIssues_eq_nil_iff {settings : Settings} {source : Bytes} {files : FileAccess}
    {stdin : Source} {doc : Document} {program? : Option Document}
    (h : Checkable settings source files stdin doc program?)
    : foundIssues doc program? = []
      ↔ ∀ program ∈ program?, doc.instructions = program.instructions := by
  cases program? with
  | none => simp [foundIssues]
  | some program =>
      obtain ⟨content, _, parsed⟩ := h.parsed program rfl
      rw [foundIssues, compareInstructions_eq_nil_iff_eq (Converter.order_of_parse parsed)]
      simp

theorem type_of_mem_foundIssues {doc : Document} {program? : Option Document} {issue : Issue}
    (h : issue ∈ foundIssues doc program?)
    : issue.type = mismatchIssue := by
  cases program? with
  | none => exact absurd h List.not_mem_nil
  | some program => exact type_of_mem_compareInstructions h

/-- The issues alone decide about the code of a verdict. -/
theorem code_verdict (threshold : Log.Level) (records : List Log.Record) (stdout : Bytes)
    (saved : List (Bytes × Bytes)) (issues : List Issue)
    : (Outcome.finished verifyCommand threshold records stdout saved (verdict issues)).code
      = if issues = [] then 0 else 32 := by
  cases issues with
  | nil => rfl
  | cons issue issues =>
      rw [if_neg (List.cons_ne_nil issue issues), verdict]
      exact (Outcome.code_finished_error ..).trans (Error.exitCode_shape _)

theorem saveReport_of_refused {files : FileAccess} {name report reason : Bytes}
    {issues : List Issue} (named : name ≠ []) (h : files.create name = .error reason)
    : saveReport files name report issues
      = ([], .error (.fault (.unwritable ("failed to create report file: " ++ reason)))) := by
  rw [saveReport, if_neg named, h]

theorem saveReport_of_created {files : FileAccess} {name report : Bytes}
    {issues : List Issue} (named : name ≠ []) (h : files.create name = .ok ())
    : saveReport files name report issues = ([(name, report)], verdict issues) := by
  rw [saveReport, if_neg named, h]

/-- Unless a report is refused by its file, the issues decide about the result. -/
theorem snd_saveReport {files : FileAccess} {name report : Bytes} {issues : List Issue}
    (h : name = [] ∨ files.create name = .ok ())
    : (saveReport files name report issues).2 = verdict issues := by
  by_cases named : name = []
  · rw [saveReport, if_pos named]
  · rw [saveReport_of_created named (h.resolve_left named)]

theorem isVerdict_finished {settings : Settings} {source report : Bytes} {files : FileAccess}
    {stdin : Source} {doc : Document} {program? : Option Document} {v : Verification}
    (threshold : Log.Level) (h : Checkable settings source files stdin doc program?)
    (rendered : (Report.ofDocument doc (foundIssues doc program?)).render = .ok v.report)
    (saving : (v.saved, v.result)
      = saveReport files report v.report (foundIssues doc program?))
    : IsVerdict doc program? report files
        (.finished verifyCommand threshold v.records v.report v.saved v.result) := by
  have saved := congrArg Prod.fst saving
  have result := congrArg Prod.snd saving
  dsimp only at saved result
  have code (writable : report = [] ∨ files.create report = .ok ())
      : (Outcome.finished verifyCommand threshold v.records v.report v.saved v.result).code
        = if foundIssues doc program? = [] then 0 else 32 := by
    rw [result, snd_saveReport writable, code_verdict]
  refine {
    printed := by rw [Outcome.stdout_finished, rendered],
    mismatches := ?_,
    refused := ?_,
    different := ?_,
    same := ?_,
    saved := ?_,
    unsaved := ?_ }
  · intro issue member
    rw [type_of_mem_foundIssues member]
    decide
  · intro reason named failed
    rw [Outcome.saved_finished, saved, result, saveReport_of_refused named failed]
    exact ⟨(Outcome.code_finished_error ..).trans (Error.exitCode_unwritable _), rfl⟩
  · intro writable differs
    rw [code writable, if_neg]
    intro none
    obtain ⟨program, member, differ⟩ := differs
    exact differ ((foundIssues_eq_nil_iff h).mp none program member)
  · intro writable agree
    rw [code writable, if_pos ((foundIssues_eq_nil_iff h).mpr agree)]
  · intro named created
    rw [Outcome.saved_finished, Outcome.stdout_finished, saved,
      saveReport_of_created named created]
  · intro unnamed
    rw [Outcome.saved_finished, saved, saveReport, if_pos unnamed]

theorem IsVerdict.code_mem {doc : Document} {program? : Option Document} {report : Bytes}
    {files : FileAccess} {outcome : Outcome} (h : IsVerdict doc program? report files outcome)
    : outcome.code ∈ [0, 12, 32] := by
  have decided (writable : report = [] ∨ files.create report = .ok ())
      : outcome.code ∈ [0, 12, 32] := by
    by_cases agree : ∀ program ∈ program?, doc.instructions = program.instructions
    · simp [h.same writable agree]
    · push Not at agree
      simp [h.different writable agree]
  by_cases unnamed : report = []
  · exact decided (Or.inl unnamed)
  · cases created : files.create report with
    | ok done => exact decided (Or.inr created)
    | error reason => simp [(h.refused reason unnamed created).1]

/-- A command line that names files only leads to a check. -/
theorem runVerify_of_line {args : List Bytes} {env : Environment} {settings : Settings}
    {line : CommandLine} (stdin : Source) (files : FileAccess)
    (accepted : Settings.read env = (settings, none))
    (read : CommandLine.read verifyCommand.flags args = .ok line)
    (helpless : line.isOn helpFlag.name = false) (alone : line.positionals = [])
    : runVerify args env stdin files
      = (verifyDocument settings (.ofCommandLine line) files stdin).map fun v =>
          .finished verifyCommand settings.level v.records v.report v.saved v.result := by
  have checked : verifyCommand.check line = .ok () := by
    show checkNoPositionals line = .ok ()
    rw [checkNoPositionals, alone]
  have start : verifyCommand.start args env = .run settings line := by
    rw [Command.start_of_settings accepted, read]
    simp [helpless, checked]
  rw [runVerify, start]

/-- The verdict of the checking command is exact, for every standard input and all files, if
the settings can be read and the command line names files only. A report is printed exactly
if the document and, where a source is named, its program can be had. Otherwise the run leaves
nothing behind, and its code tells what is missing. With a report, the code is 12 if it cannot
be saved, else 32 if document and program differ, and else 0; what is saved is what is printed,
and the issues are differences only.
-/
theorem runVerify_verdict {args : List Bytes} {env : Environment} {settings : Settings}
    {line : CommandLine} (stdin : Source) (files : FileAccess)
    (accepted : Settings.read env = (settings, none))
    (read : CommandLine.read verifyCommand.flags args = .ok line)
    (helpless : line.isOn helpFlag.name = false) (alone : line.positionals = [])
    : let source := line.textOf sourceFlag.name
      let report := line.textOf reportFlag.name
      ∃ outcome,
        runVerify args env stdin files = .ok outcome
        ∧ outcome.code ≠ 99
        ∧ (outcome.stdout ≠ []
          ↔ ∃ doc program?, Checkable settings source files stdin doc program?)
        ∧ ((∀ doc program?, ¬ Checkable settings source files stdin doc program?)
          → outcome.stdout = []
            ∧ outcome.saved = []
            ∧ outcome.code ∈ [11, 21, 22, 23, 31, 32])
        ∧ ∀ doc program?,
            Checkable settings source files stdin doc program?
            → IsVerdict doc program? report files outcome := by
  intro source report
  rw [runVerify_of_line stdin files accepted read helpless alone]
  have verdicts (doc : Document) (program? : Option Document)
      (h : Checkable settings source files stdin doc program?)
      : ∃ v,
          verifyDocument settings (.ofCommandLine line) files stdin = .ok v
          ∧ v.report ≠ []
          ∧ IsVerdict doc program? report files
              (.finished verifyCommand settings.level v.records v.report v.saved v.result) := by
    obtain ⟨v, verified, rendered, nonempty, saving⟩ :=
      verifyDocument_of_checkable (.ofCommandLine line) h
    exact ⟨v, verified, nonempty, isVerdict_finished settings.level h rendered saving⟩
  by_cases checkable : ∃ doc program?, Checkable settings source files stdin doc program?
  · obtain ⟨doc, program?, h⟩ := checkable
    obtain ⟨v, verified, nonempty, isVerdict⟩ := verdicts doc program? h
    rw [verified]
    refine ⟨_, rfl, ?_, ?_, ?_, ?_⟩
    · exact ne_of_mem_of_not_mem isVerdict.code_mem (by decide)
    · rw [Outcome.stdout_finished]
      exact iff_of_true nonempty ⟨doc, program?, h⟩
    · intro missing
      exact absurd h (missing doc program?)
    -- there is one verification, whichever document and program it is asked about
    · intro other otherProgram? otherwise
      obtain ⟨w, verified', _, isVerdict'⟩ := verdicts other otherProgram? otherwise
      rw [verified] at verified'
      cases verified'
      exact isVerdict'
  · push Not at checkable
    obtain ⟨records, e, verified, code⟩ :=
      verifyDocument_of_not_checkable (.ofCommandLine line) checkable
    rw [verified]
    refine ⟨_, rfl, ?_, ?_, fun _ => ⟨rfl, rfl, code⟩, ?_⟩
    · exact ne_of_mem_of_not_mem code (by decide)
    · refine iff_of_false (fun printed => printed rfl) ?_
      rintro ⟨doc, program?, h⟩
      exact checkable doc program? h
    · intro doc program? h
      exact absurd h (checkable doc program?)

/-- A directory that holds a program. -/
def writeDirectory : Directory :=
  { files := [("p", ".IPPcode24\nwrite int@0x1f")] }

/-- The document of the program in the directory, but for the order number if it is not 1. -/
def writeDocument (order : Int) : Document :=
  {
    language := "IPPcode24",
    instructions := [{ order, opcode := "WRITE", args := [⟨1, "int", "0x1f"⟩] }]
  }

/-- The text of such a document with the order number 2. -/
def laterText : Bytes :=
  utf8 "<program language='IPPcode24'><instruction order='2' opcode='Write'>"
    ++ "<arg1 type='int'> 0x1f</arg1></instruction></program>"

/-- A document that differs from its program in the order number alone. -/
theorem runVerify_verdict_laterText
    : Settings.read (fun _ => none) = ({}, none)
      ∧ CommandLine.read verifyCommand.flags ["-sp", "--report", "r"]
        = .ok { flags := [("source", .text "p"), ("report", .text "r")] }
      ∧ Checkable {} "p" writeDirectory.access { content := laterText } (writeDocument 2)
          (some (writeDocument 1))
      ∧ ∃ outcome,
          runVerify ["-sp", "--report", "r"] (fun _ => none) { content := laterText }
              writeDirectory.access
            = .ok outcome
          ∧ outcome.code = 32
          ∧ outcome.stdout ≠ []
          ∧ outcome.saved = [(utf8 "r", outcome.stdout)] := by
  have accepted : Settings.read (fun _ => none) = ({}, none) := by decide +kernel
  have read : CommandLine.read verifyCommand.flags ["-sp", "--report", "r"]
      = .ok { flags := [("source", .text "p"), ("report", .text "r")] } := by decide +kernel
  have checkable : Checkable {} "p" writeDirectory.access { content := laterText }
      (writeDocument 2) (some (writeDocument 1)) := by
    refine ⟨rfl, by decide +kernel, by decide, ?_⟩
    intro program same
    cases same
    exact ⟨_, rfl, by decide +kernel⟩
  obtain ⟨outcome, ran, _, printed, _, verdicts⟩ :=
    runVerify_verdict { content := laterText } writeDirectory.access accepted read
      (by decide) rfl
  have isVerdict := verdicts (writeDocument 2) (some (writeDocument 1)) checkable
  refine ⟨accepted, read, checkable, outcome, ran, ?_, ?_, ?_⟩
  · exact isVerdict.different (Or.inr rfl) ⟨writeDocument 1, rfl, by decide⟩
  · exact printed.mpr ⟨_, _, checkable⟩
  · exact isVerdict.saved (by decide) rfl

end IppXml.Command
