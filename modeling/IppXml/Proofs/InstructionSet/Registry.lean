import IppXml.Proofs.Instruction.Spelling

/-! Instruction sets as registries.

A registration is refused if the upper case of its opcode is registered, and is entered at
the end otherwise. Main statement: after any history of registrations, refused ones among
them, the set answers for the history: an opcode is known exactly if a call named it in some
case, with the slots of the first such call, and the listing has each name once.
-/

namespace IppXml

namespace InstructionSet

/-- The set behind a registration. A registration that is refused leaves it as it is. -/
def attempt (set : InstructionSet) (opcode : Bytes) (signature : Signature) : InstructionSet :=
  match set.register opcode signature with
  | .ok extended => extended
  | .error _ => set

/-- The set behind a history of registrations, each of which may be refused. -/
def registerEach (set : InstructionSet) (calls : List (Bytes × Signature)) : InstructionSet :=
  calls.foldl (fun set (opcode, signature) => set.attempt opcode signature) set

/-- The names that calls ask for: their opcodes in upper case. -/
def namesOf (calls : List (Bytes × Signature)) : List Bytes :=
  calls.map fun (opcode, _) => upper opcode

/-- The slots of the first call that names the opcode, in whatever case. -/
def firstCall? (calls : List (Bytes × Signature)) (opcode : Bytes) : Option Signature :=
  (calls.find? fun (written, _) => upper written = upper opcode).map Prod.snd

-----------------------------------------------------------------------------------------
-- A single registration
-----------------------------------------------------------------------------------------

/-- A registration is refused exactly if its opcode in upper case is registered. -/
theorem register_eq_error {set : InstructionSet} {opcode : Bytes} {signature : Signature}
    : (∃ defect, set.register opcode signature = .error defect)
      ↔ upper opcode ∈ set.opcodes := by
  rw [← isSome_lookup?, register]
  split <;> simp [*]

theorem attempt_of_mem {set : InstructionSet} {opcode : Bytes} (signature : Signature)
    (h : upper opcode ∈ set.opcodes)
    : set.attempt opcode signature = set := by
  rw [attempt, register, if_pos (isSome_lookup?.mpr h)]

theorem attempt_of_not_mem {set : InstructionSet} {opcode : Bytes} (signature : Signature)
    (h : upper opcode ∉ set.opcodes)
    : set.attempt opcode signature
      = { set with entries := set.entries ++ [(upper opcode, signature)] } := by
  rw [attempt, register, if_neg (mt isSome_lookup?.mp h)]

/-- What was known stays, and the opcode of the registration is known besides. -/
theorem lookup?_attempt (set : InstructionSet) (opcode other : Bytes) (signature : Signature)
    : (set.attempt opcode signature).lookup? other
      = (set.lookup? other).or (if upper opcode = upper other then some signature else none) := by
  by_cases registered : upper opcode ∈ set.opcodes
  · rw [attempt_of_mem signature registered]
    split
    · next same =>
        -- The opcode was refused because it is known, so its own slots do not count.
        obtain ⟨known, found⟩ := Option.isSome_iff_exists.mp
          (isSome_lookup?.mpr (same ▸ registered))
        rw [found, Option.some_or]
    · rw [Option.or_none]
  · rw [attempt_of_not_mem signature registered, lookup?, List.lookup_append, lookup?]
    congr 1
    by_cases same : upper opcode = upper other
    · simp [same]
    · simp [same, Ne.symm same]

theorem mem_opcodes_attempt {set : InstructionSet} {opcode form : Bytes}
    {signature : Signature}
    : form ∈ (set.attempt opcode signature).opcodes
      ↔ form ∈ set.opcodes ∨ form = upper opcode := by
  by_cases registered : upper opcode ∈ set.opcodes
  · rw [attempt_of_mem signature registered]
    constructor
    · exact Or.inl
    · intro either
      rcases either with member | rfl
      · exact member
      · exact registered
  · rw [attempt_of_not_mem signature registered, mem_opcodes, mem_opcodes]
    simp

/-- Names stay different: only one that is not there is added. -/
theorem nodup_names_attempt {set : InstructionSet} (opcode : Bytes) (signature : Signature)
    (h : (set.entries.map Prod.fst).Nodup)
    : ((set.attempt opcode signature).entries.map Prod.fst).Nodup := by
  by_cases registered : upper opcode ∈ set.opcodes
  · rwa [attempt_of_mem signature registered]
  · rw [attempt_of_not_mem signature registered, List.map_append]
    rw [mem_opcodes] at registered
    refine List.nodup_append.mpr ⟨h, by simp, ?_⟩
    intro name member added last same
    rw [List.map_singleton, List.mem_singleton] at last
    rw [same, last] at member
    exact registered member

-----------------------------------------------------------------------------------------
-- Histories of registrations
-----------------------------------------------------------------------------------------

theorem registerEach_cons (set : InstructionSet) (call : Bytes × Signature)
    (calls : List (Bytes × Signature))
    : set.registerEach (call :: calls) = (set.attempt call.1 call.2).registerEach calls :=
  rfl

theorem registerEach_append (set : InstructionSet) (calls more : List (Bytes × Signature))
    : set.registerEach (calls ++ more) = (set.registerEach calls).registerEach more :=
  List.foldl_append

/-- What the set knew comes first, then the first call for the opcode, by induction over the
calls.
-/
theorem lookup?_registerEach (set : InstructionSet) (calls : List (Bytes × Signature))
    (opcode : Bytes)
    : (set.registerEach calls).lookup? opcode
      = (set.lookup? opcode).or (firstCall? calls opcode) := by
  induction calls generalizing set with
  | nil => exact Option.or_none.symm
  | cons call calls ih =>
      rw [registerEach_cons, ih, lookup?_attempt, Option.or_assoc]
      congr 1
      by_cases same : upper call.1 = upper opcode <;> simp [firstCall?, same]

theorem mem_opcodes_registerEach {set : InstructionSet} {calls : List (Bytes × Signature)}
    {form : Bytes}
    : form ∈ (set.registerEach calls).opcodes
      ↔ form ∈ set.opcodes ∨ form ∈ namesOf calls := by
  induction calls generalizing set with
  | nil => simp [registerEach, namesOf]
  | cons call calls ih =>
      rw [registerEach_cons, ih, mem_opcodes_attempt, or_assoc, ← List.mem_cons]
      rfl

theorem nodup_names_registerEach {set : InstructionSet} (calls : List (Bytes × Signature))
    (h : (set.entries.map Prod.fst).Nodup)
    : ((set.registerEach calls).entries.map Prod.fst).Nodup := by
  induction calls generalizing set with
  | nil => exact h
  | cons call calls ih => exact ih (nodup_names_attempt call.1 call.2 h)

/-- Different names are listed in the order of their bytes, without a name twice. -/
theorem pairwise_opcodes {set : InstructionSet} (h : (set.entries.map Prod.fst).Nodup)
    : set.opcodes.Pairwise (· < ·) := by
  have sorted : set.opcodes.Pairwise fun a b => decide (a ≤ b) = true := by
    apply sortBy_pairwise
    · intro a b
      simpa only [decide_eq_true_eq] using Std.le_total
    · intro a b c first second
      rw [decide_eq_true_eq] at first second ⊢
      exact Std.le_trans first second
  have distinct : set.opcodes.Nodup := (sortBy_perm _ _).nodup_iff.mpr h
  refine (sorted.and distinct).imp ?_
  intro a b both
  exact Std.lt_of_le_of_ne (of_decide_eq_true both.1) both.2

theorem mem_opcodes_of_calls {name : Bytes} {calls : List (Bytes × Signature)} {form : Bytes}
    : form ∈ ((empty name).registerEach calls).opcodes ↔ form ∈ namesOf calls := by
  rw [mem_opcodes_registerEach]
  simp [empty, mem_opcodes]

theorem upper_of_mem_namesOf {calls : List (Bytes × Signature)} {form : Bytes}
    (h : form ∈ namesOf calls)
    : upper form = form := by
  obtain ⟨call, _, rfl⟩ := List.mem_map.mp h
  exact upper_upper call.1

/-- A set that starts empty answers for the history of its registrations, refused ones among
them. A further registration is refused exactly if an earlier call had the same name, and
then it changes nothing. An opcode is found exactly if its upper case was named, with the
slots of the first call that did so, and it is found in upper case as it is. The listing is
in the strict order of bytes, has each name of the history once and no others, and all of
them are found.
-/
theorem registerEach_answers_for_history (name : Bytes) (calls : List (Bytes × Signature))
    : let set := (empty name).registerEach calls
      (∀ opcode signature,
          ((∃ defect, set.register opcode signature = .error defect)
            ↔ upper opcode ∈ namesOf calls)
          ∧ (upper opcode ∈ namesOf calls
              → (empty name).registerEach (calls ++ [(opcode, signature)]) = set))
      ∧ (∀ opcode,
          ((set.lookup? opcode).isSome = true ↔ upper opcode ∈ namesOf calls)
          ∧ set.lookup? opcode = firstCall? calls opcode
          ∧ set.lookup? (upper opcode) = set.lookup? opcode)
      ∧ set.opcodes.Pairwise (· < ·)
      ∧ (∀ form ∈ namesOf calls, set.opcodes.count form = 1)
      ∧ ∀ form ∈ set.opcodes, form ∈ namesOf calls ∧ (set.lookup? form).isSome = true := by
  have increasing : ((empty name).registerEach calls).opcodes.Pairwise (· < ·) :=
    pairwise_opcodes (nodup_names_registerEach calls .nil)
  refine ⟨?_, ?_, increasing, ?_, ?_⟩
  · intro opcode signature
    refine ⟨register_eq_error.trans mem_opcodes_of_calls, ?_⟩
    intro named
    rw [registerEach_append]
    exact attempt_of_mem signature (mem_opcodes_of_calls.mpr named)
  · intro opcode
    refine ⟨isSome_lookup?.trans mem_opcodes_of_calls, ?_, lookup?_upper _ opcode⟩
    rw [lookup?_registerEach]
    exact Option.none_or
  · intro form named
    have distinct : ((empty name).registerEach calls).opcodes.Nodup :=
      increasing.imp Std.ne_of_lt
    rw [distinct.count, if_pos (mem_opcodes_of_calls.mpr named)]
  · intro form listed
    have named := mem_opcodes_of_calls.mp listed
    refine ⟨named, isSome_lookup?.mpr ?_⟩
    rwa [upper_of_mem_namesOf named]

example
    : ((empty "test").registerEach [("ſet", [.label]), ("SET", [])]).lookup? "set"
      = some [.label] := by
  decide +kernel

end InstructionSet

end IppXml
