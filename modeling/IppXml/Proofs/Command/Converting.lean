import IppXml.Proofs.Command.Arguments
import IppXml.Proofs.Command.ExitCodes
import IppXml.Proofs.Instruction.Spelling

/-! Runs of the converting command.

A run is refused with a usage error, shows the help, or converts standard input. It converts
only if no argument is left on the command line, and whatever goes wrong leaves standard
output empty.
-/

namespace IppXml

-----------------------------------------------------------------------------------------
-- How a run begins
-----------------------------------------------------------------------------------------

theorem Command.usage_of_refused {command : Command} {args : List Bytes} {env : Environment}
    {threshold : Log.Level} {message : Bytes} {e : Error}
    (h : command.start args env = .refused threshold message e)
    : ∃ fault, e = .fault (.usage fault) := by
  cases reading : Settings.read env with
  | mk settings fault? =>
      cases fault? with
      | some fault =>
          rw [Command.start, reading] at h
          cases h
          exact ⟨fault, rfl⟩
      | none =>
          rw [Command.start_of_settings reading] at h
          split at h
          · cases h
            exact ⟨_, rfl⟩
          split at h
          · exact absurd h (by simp)
          split at h
          · cases h
            exact ⟨_, rfl⟩
          · exact absurd h (by simp)

theorem Outcome.code_refused_usage (threshold : Log.Level) (message : Bytes)
    (fault : UsageFault)
    : (Outcome.refused threshold message (.fault (.usage fault))).code = 10 := by
  rw [Outcome.refused, Error.exitCode_fault rfl]
  rfl

/-- The command line asks for help: its flags can be read, and help is on in the end. -/
def Command.AsksForHelp (command : Command) (args : List Bytes) : Prop :=
  ∃ line, CommandLine.read command.flags args = .ok line ∧ line.isOn helpFlag.name = true

namespace Command

theorem start_of_asksForHelp {command : Command} {args : List Bytes} {env : Environment}
    {settings : Settings} (accepted : Settings.read env = (settings, none))
    (h : command.AsksForHelp args)
    : command.start args env = .help := by
  obtain ⟨line, read, on⟩ := h
  rw [start_of_settings accepted, read]
  simp [on]

/-- The only flag of the converting command is a switch. -/
theorem switches_convert
    : ∀ flag ∈ convertCommand.flags, flag.kind = .switch := by
  decide

/-- A command line that has been marked does not pass the check. -/
theorem checkNoArguments_of_isMarked {args : List Bytes} {line : CommandLine}
    (read : CommandLine.read convertCommand.flags args = .ok line) (marked : line.IsMarked)
    : ∃ fault, convertCommand.check line = .error fault := by
  obtain ⟨added, flags, names⟩ := (CommandLine.grows_readFrom switches_convert read).flags
  have named : ∀ entry ∈ line.flags, entry.1 = helpFlag.name := by
    intro entry member
    rw [flags] at member
    obtain ⟨flag, single, name⟩ := names entry (by simpa using member)
    rw [name, List.mem_singleton.mp single]
  show ∃ fault, checkNoArguments line = .error fault
  rw [checkNoArguments]
  split
  · exact ⟨_, rfl⟩
  next none =>
    split
    · exact ⟨_, rfl⟩
    next undashed =>
      have given : line.flags ≠ [] := by
        rcases marked with flags | positionals | dashed
        · exact flags
        · exact absurd none positionals
        · exact absurd dashed undashed
      -- what is left is a flag, and there is only the one for help
      have known : (line.value? helpFlag.name).isSome = true := by
        rw [CommandLine.value?]
        cases backwards : line.flags.reverse with
        | nil => exact absurd (List.reverse_eq_nil_iff.mp backwards) given
        | cons entry rest =>
            have last := named entry (List.mem_reverse.mp (by simp [backwards]))
            simp [← last]
      simp [known]

-----------------------------------------------------------------------------------------
-- Arguments of the converting command
-----------------------------------------------------------------------------------------

/-- Where all arguments are passed over, the run converts. -/
theorem start_convert_of_passedOver {args : List Bytes} {env : Environment}
    {settings : Settings} (accepted : Settings.read env = (settings, none))
    (h : ∀ arg ∈ args, CommandLine.IsPassedOver arg)
    : convertCommand.start args env = .run settings {} := by
  have read : CommandLine.read convertCommand.flags args = .ok {} :=
    CommandLine.readFrom_of_passedOver h
  rw [start_of_settings accepted, read]
  rfl

/-- Where an argument is not passed over, the run does not convert. -/
theorem start_convert_of_visible {args : List Bytes} {env : Environment}
    {settings : Settings} (accepted : Settings.read env = (settings, none))
    (visible : ∃ arg ∈ args, ¬ CommandLine.IsPassedOver arg)
    (helpless : ¬ convertCommand.AsksForHelp args)
    : ∃ fault,
        convertCommand.start args env
        = .refused settings.level convertCommand.failure (.fault (.usage fault)) := by
  rw [start_of_settings accepted]
  cases read : CommandLine.read convertCommand.flags args with
  | error fault => exact ⟨fault, rfl⟩
  | ok line =>
      have off : ¬ line.isOn helpFlag.name = true := fun on => helpless ⟨line, read, on⟩
      obtain ⟨fault, refused⟩ := checkNoArguments_of_isMarked read
        (CommandLine.isMarked_of_readFrom switches_convert read visible)
      refine ⟨fault, ?_⟩
      simp only [off, refused]
      rfl

/-- An argument that is not passed over keeps the command from converting, whatever standard
input holds: the run shows the help if the command line asks for it, and else it is a usage
error with nothing on standard output. Arguments that are passed over are as good as none.
-/
theorem runConvert_with_arguments {args : List Bytes} {env : Environment}
    {settings : Settings} (accepted : Settings.read env = (settings, none))
    : ((∃ arg ∈ args, ¬ utf8 "-test." <+: arg)
        → (convertCommand.AsksForHelp args
            → ∀ stdin stdout,
                runConvert args env stdin stdout = .shown (stdout.stored [convertHelp]))
          ∧ (¬ convertCommand.AsksForHelp args
            → ∃ outcome : Outcome,
                outcome.code = 10
                ∧ outcome.stdout = []
                ∧ ∀ stdin stdout, runConvert args env stdin stdout = outcome))
      ∧ ((∀ arg ∈ args, utf8 "-test." <+: arg)
        → runConvert args env = runConvert [] env) := by
  refine ⟨fun visible => ⟨?_, ?_⟩, ?_⟩
  · intro asks stdin stdout
    rw [runConvert, start_of_asksForHelp accepted asks]
  · intro helpless
    obtain ⟨fault, refused⟩ := start_convert_of_visible accepted visible helpless
    refine ⟨.refused settings.level convertCommand.failure (.fault (.usage fault)),
      Outcome.code_refused_usage _ _ fault, rfl, fun stdin stdout => ?_⟩
    rw [runConvert, refused]
  · intro passed
    funext stdin stdout
    have nothing : ∀ arg ∈ ([] : List Bytes), CommandLine.IsPassedOver arg := by simp
    rw [runConvert, runConvert, start_convert_of_passedOver accepted passed,
      start_convert_of_passedOver accepted nothing]

/-- An environment without variables. -/
def emptyEnvironment : Environment := fun _ => none

theorem runConvert_with_arguments_helpOff
    : Settings.read emptyEnvironment = ({}, none)
      ∧ (∃ arg ∈ [utf8 "-test.v", utf8 "--help=F"], ¬ utf8 "-test." <+: arg)
      ∧ ¬ convertCommand.AsksForHelp ["-test.v", "--help=F"]
      ∧ ∃ outcome : Outcome,
          outcome.code = 10
          ∧ outcome.stdout = []
          ∧ ∀ stdin stdout,
              runConvert ["-test.v", "--help=F"] emptyEnvironment stdin stdout = outcome := by
  have accepted : Settings.read emptyEnvironment = ({}, none) := by decide +kernel
  have visible : ∃ arg ∈ [utf8 "-test.v", utf8 "--help=F"], ¬ utf8 "-test." <+: arg :=
    ⟨utf8 "--help=F", by decide⟩
  have read : CommandLine.read convertCommand.flags ["-test.v", "--help=F"]
      = .ok { flags := [("help", .switch false)] } := by decide +kernel
  have helpless : ¬ convertCommand.AsksForHelp ["-test.v", "--help=F"] := by
    rintro ⟨line, same, on⟩
    rw [read] at same
    rw [← Except.ok.inj same] at on
    exact absurd on (by decide)
  exact ⟨accepted, visible, helpless,
    ((runConvert_with_arguments accepted).1 visible).2 helpless⟩

/-- An argument that is passed over does not keep the command from converting: with it the
outcome depends on standard input, and a program is converted.
-/
theorem runConvert_passedOver_argument
    : (runConvert ["-test.v"] emptyEnvironment { content := ".IPPcode24" } {}).code = 0
      ∧ (runConvert ["-test.v"] emptyEnvironment { content := ".IPPcode24" } {}).stdout
        = Document.render "\t" { language := "IPPcode24", instructions := [] }
      ∧ (runConvert ["-test.v"] emptyEnvironment { content := [] } {}).code = 11 := by
  decide +kernel

end Command

-----------------------------------------------------------------------------------------
-- Conversions
-----------------------------------------------------------------------------------------

/-- A conversion that fails leaves nothing in its output, and the code tells why. -/
theorem Converter.convert_fails_cleanly {c : Converter} {source : Source} {sink : Sink}
    {e : Error} (h : (c.convert source sink).result = .error e)
    : e.exitCode ∈ [11, 12, 21, 22, 23] ∧ sink.stored (c.convert source sink).writes = [] := by
  rw [Converter.result_convert] at h
  rw [Converter.writes_convert]
  cases parsed : (c.parse source).2 with
  | error cause =>
      rw [parsed] at h
      rw [← Except.error.inj h]
      have wider : [11, 21, 22, 23] ⊆ [11, 12, 21, 22, 23] := by decide
      exact ⟨wider (Converter.exitCode_of_parse parsed), by simp [Sink.stored]⟩
  | ok doc =>
      rw [parsed] at h
      cases failing : sink.failure? with
      | none => simp [failing] at h
      | some reason =>
          rw [failing] at h
          rw [← Except.error.inj h, Error.exitCode_fault rfl]
          exact ⟨by decide, by simp [Sink.stored, failing]⟩

-----------------------------------------------------------------------------------------
-- The settings of a run
-----------------------------------------------------------------------------------------

/-- No variable changes the header. -/
theorem Settings.header_apply {env : Environment} {name : Bytes}
    {change : Settings → Bytes → Except UsageFault Settings} {reading : Reading}
    (h : ∀ settings value next, change settings value = .ok next
      → next.header = settings.header)
    : (apply env name change reading).1.header = reading.1.header := by
  obtain ⟨settings, fault?⟩ := reading
  cases fault? with
  | some fault => rfl
  | none =>
      rw [apply]
      split
      · rfl
      split
      next changed done => exact h _ _ _ done
      · rfl

theorem Settings.header_read (env : Environment)
    : (Settings.read env).1.header = defaultHeader := by
  rw [Settings.read, Settings.header_apply, Settings.header_apply]
  · intro settings value next changed
    rw [withLevel] at changed
    obtain ⟨level, _, rfl⟩ := except_map_eq_ok.mp changed
    rfl
  · intro settings value next changed
    rw [withIndent] at changed
    obtain ⟨indent, _, rfl⟩ := except_map_eq_ok.mp changed
    rfl

/-- The converter of a run can be built: its header is not empty. -/
theorem Settings.build_converter {env : Environment} {settings : Settings} (name : Bytes)
    (h : Settings.read env = (settings, none))
    : ConverterOptions.build { header := settings.header, indent := settings.indent } name
      = .ok (settings.converter name) := by
  have header := Settings.header_read env
  rw [h] at header
  have nonempty : settings.header ≠ [] := by
    rw [header]
    decide
  rw [ConverterOptions.build]
  exact if_neg nonempty

-----------------------------------------------------------------------------------------
-- Whole runs
-----------------------------------------------------------------------------------------

namespace Command

/-- A run that converts ends as the conversion does. -/
theorem runConvert_of_run {args : List Bytes} {env : Environment} {settings : Settings}
    {line : CommandLine} (stdin : Source) (stdout : Sink)
    (h : convertCommand.start args env = .run settings line)
    : let conversion := (settings.converter converterName).convert stdin stdout
      (runConvert args env stdin stdout).stdout = stdout.stored conversion.writes
      ∧ (runConvert args env stdin stdout).code
        = match conversion.result with
          | .ok () => 0
          | .error e => e.exitCode := by
  rw [runConvert, h]
  exact ⟨Outcome.stdout_finished .., Outcome.code_finished ..⟩

/-- The code of a conversion that fails is not that of success. -/
theorem runConvert_code_eq_zero {args : List Bytes} {env : Environment} {settings : Settings}
    {line : CommandLine} {stdin : Source} {stdout : Sink}
    (h : convertCommand.start args env = .run settings line)
    : (runConvert args env stdin stdout).code = 0
      ↔ ((settings.converter converterName).convert stdin stdout).result = .ok () := by
  rw [(runConvert_of_run stdin stdout h).2]
  cases result : ((settings.converter converterName).convert stdin stdout).result with
  | ok done => simp
  | error e =>
      have code : e.exitCode ≠ 0 :=
        ne_of_mem_of_not_mem (Converter.convert_fails_cleanly result).1 (by decide)
      exact iff_of_false code (by simp)

/-- The converting command fails cleanly. Whatever its arguments, its environment and its
input are and whatever fails on the way, it ends with one of seven codes, and unless the code
is zero there is nothing on standard output. Without arguments, and with settings that can be
read, its converter can be built and makes one write at most: the rendered document, exactly
if the source has one. The code is zero exactly if that write is made and succeeds.
-/
theorem runConvert_fails_cleanly (args : List Bytes) (env : Environment) (stdin : Source)
    (stdout : Sink)
    : let outcome := runConvert args env stdin stdout
      outcome.code ∈ [0, 10, 11, 12, 21, 22, 23]
      ∧ (outcome.code ≠ 0 → outcome.stdout = [])
      ∧ ∀ settings,
          args = []
          → Settings.read env = (settings, none)
          → ∃ converter,
              ConverterOptions.build
                  { header := settings.header, indent := settings.indent } converterName
                = .ok converter
              ∧ let parsed := (converter.parse stdin).2
                let writes := (converter.convert stdin stdout).writes
                writes.length ≤ 1
                ∧ (writes.length = 1 ↔ ∃ doc, parsed = .ok doc)
                ∧ (∀ doc, parsed = .ok doc → writes = [doc.render settings.indent])
                ∧ outcome.stdout = stdout.stored writes
                ∧ (outcome.code = 0
                  ↔ (∃ doc, parsed = .ok doc) ∧ stdout.failure? = none) := by
  refine ⟨?_, ?_, ?_⟩
  · cases start : convertCommand.start args env with
    | refused threshold message e =>
        obtain ⟨fault, rfl⟩ := usage_of_refused start
        rw [runConvert, start]
        simp [Outcome.code_refused_usage]
    | help =>
        rw [runConvert, start]
        simp [Outcome.shown]
    | run settings line =>
        rw [(runConvert_of_run stdin stdout start).2]
        cases result : ((settings.converter converterName).convert stdin stdout).result with
        | ok done => simp
        | error e =>
            have wider : [11, 12, 21, 22, 23] ⊆ [0, 10, 11, 12, 21, 22, 23] := by decide
            exact wider (Converter.convert_fails_cleanly result).1
  · intro failed
    cases start : convertCommand.start args env with
    | refused threshold message e =>
        rw [runConvert, start]
        rfl
    | help =>
        rw [runConvert, start] at failed
        exact absurd rfl failed
    | run settings line =>
        rw [(runConvert_of_run stdin stdout start).1]
        cases result : ((settings.converter converterName).convert stdin stdout).result with
        | ok done => exact absurd ((runConvert_code_eq_zero start).mpr result) failed
        | error e => exact (Converter.convert_fails_cleanly result).2
  · rintro settings rfl accepted
    have start : convertCommand.start [] env = .run settings {} :=
      start_convert_of_passedOver accepted (by simp)
    refine ⟨_, Settings.build_converter converterName accepted, ?_⟩
    dsimp only
    refine ⟨?_, ?_, ?_, (runConvert_of_run stdin stdout start).1, ?_⟩
    · rw [Converter.writes_convert]
      split <;> simp
    · rw [Converter.writes_convert]
      cases ((settings.converter converterName).parse stdin).2 <;> simp
    · intro doc parsed
      rw [Converter.writes_convert, parsed]
      rfl
    · rw [runConvert_code_eq_zero start, Converter.result_convert_eq_ok]

/-- An environment that asks for two spaces. -/
def spacesEnvironment : Environment :=
  fun name => if name = indentVariable then some "2" else none

/-- A program without instructions, and an output that refuses its document. -/
theorem runConvert_fails_cleanly_brokenPipe
    : Settings.read spacesEnvironment = ({ indent := "  " }, none)
      ∧ (runConvert [] spacesEnvironment { content := ".IPPcode24" }
          { failure? := some "broken pipe" }).code = 12
      ∧ (runConvert [] spacesEnvironment { content := ".IPPcode24" }
          { failure? := some "broken pipe" }).stdout = []
      ∧ ∃ converter,
          ConverterOptions.build { indent := "  " } converterName = .ok converter
          ∧ (converter.convert { content := ".IPPcode24" }
              { failure? := some "broken pipe" }).writes.length ≤ 1 := by
  have accepted : Settings.read spacesEnvironment = ({ indent := "  " }, none) := by
    decide +kernel
  have code : (runConvert [] spacesEnvironment { content := ".IPPcode24" }
      { failure? := some "broken pipe" }).code = 12 := by decide +kernel
  obtain ⟨_, empty, converts⟩ := runConvert_fails_cleanly [] spacesEnvironment
    { content := ".IPPcode24" } { failure? := some "broken pipe" }
  obtain ⟨converter, built, single, _⟩ := converts _ rfl accepted
  exact ⟨accepted, code, empty (by simp [code]), converter, built, single⟩

end Command

end IppXml
