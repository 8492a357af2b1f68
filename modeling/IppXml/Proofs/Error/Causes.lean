import IppXml.Error
import Mathlib.Data.Nat.Basic
import Mathlib.Order.Basic

/-! The exit code of an error and its causes.

The code is found by asking for one kind after the other. The kinds are asked for in the
order of their codes, so the answer is the lowest code of a kind that some cause has. Main
statement: the place of an error does not matter for its code, errors that are met at once
have the lowest of their codes, and so every error has the lowest of the codes of its causes.
-/

namespace IppXml

-----------------------------------------------------------------------------------------
-- The kinds that decide
-----------------------------------------------------------------------------------------

theorem decisiveKinds_sorted
    : decisiveKinds.Pairwise fun kind later => kind.exitCode ≤ later.exitCode := by
  decide

theorem ErrorKind.exitCode_le (kind : ErrorKind)
    : kind.exitCode ≤ 99 := by
  cases kind <;> decide

/-- The first kind that has a property is the one with the lowest code. -/
theorem exitCode_le_of_find? {p : ErrorKind → Bool} {kind other : ErrorKind}
    (found : decisiveKinds.find? p = some kind) (member : other ∈ decisiveKinds)
    (holds : p other = true)
    : kind.exitCode ≤ other.exitCode := by
  obtain ⟨_, before, after, split, lacking⟩ := List.find?_eq_some_iff_append.mp found
  have sorted := decisiveKinds_sorted
  rw [split] at sorted member
  obtain ⟨_, sorted, _⟩ := List.pairwise_append.mp sorted
  rcases List.mem_append.mp member with early | late
  · have differs := lacking other early
    rw [holds] at differs
    exact absurd differs (by decide)
  · rcases List.mem_cons.mp late with rfl | later
    · exact Nat.le_refl _
    · exact (List.pairwise_cons.mp sorted).1 other later

namespace Error

/-- The exit code is the lowest of 99 and the codes of the kinds that the error is of. -/
theorem le_exitCode_iff {e : Error} {n : Nat}
    : n ≤ e.exitCode
      ↔ n ≤ 99 ∧ ∀ kind ∈ decisiveKinds, e.isKind kind = true → n ≤ kind.exitCode := by
  rw [exitCode]
  split
  · next kind found =>
      constructor
      · intro below
        refine ⟨Nat.le_trans below kind.exitCode_le, ?_⟩
        intro other member holds
        exact Nat.le_trans below (exitCode_le_of_find? found member holds)
      · intro below
        have holds := List.find?_some found
        exact below.2 kind (List.mem_of_find?_eq_some found) holds
  · next missing =>
      constructor
      · intro below
        refine ⟨below, ?_⟩
        intro kind member holds
        exact absurd holds (List.find?_eq_none.mp missing kind member)
      · exact And.left

/-- Each kind with the exit code of an error of which nothing else is told. -/
def bareCodes : List (ErrorKind × Nat) :=
  [
    (.usage, 10), (.input, 11), (.emptyInput, 11), (.output, 12), (.header, 21),
    (.unknownOpcode, 22), (.grammar, 23), (.arity, 23), (.argument, 23), (.format, 31),
    (.shape, 32)
  ]

-----------------------------------------------------------------------------------------
-- Causes, places and several errors at once
-----------------------------------------------------------------------------------------

theorem exitCode_atLine (line : Int) (cause : Error)
    : (atLine line cause).exitCode = cause.exitCode := by
  rfl

theorem exitCode_within (context : Bytes) (cause : Error)
    : (within context cause).exitCode = cause.exitCode := by
  rfl

/-- The first decisive kind that a fault counts as has the code of its own kind. -/
theorem exitCode_fault {f : Fault} {kind : ErrorKind} (h : f.kind? = some kind)
    : (Error.fault f).exitCode = kind.exitCode := by
  have asked (general : ErrorKind) : (Error.fault f).isKind general = kind.isA general := by
    simp [isKind, h]
  simp only [exitCode, asked]
  cases kind <;> rfl

theorem exitCode_fault_of_no_kind {f : Fault} (h : f.kind? = none)
    : (Error.fault f).exitCode = 99 := by
  have asked (general : ErrorKind) : (Error.fault f).isKind general = false := by
    simp [isKind, h]
  simp only [exitCode, asked]
  rfl

/-- A kind that is told alone has the code that is listed for it. -/
theorem mem_bareCodes (kind : ErrorKind)
    : (kind, (fault (.bare kind)).exitCode) ∈ bareCodes := by
  rw [exitCode_fault rfl]
  cases kind <;> decide

/-- Two errors at once have the lower of their codes, as they are of the kinds of either. -/
theorem exitCode_both (first second : Error)
    : (both first second).exitCode = min first.exitCode second.exitCode := by
  -- The first kind of either error is not known, so the codes are compared by what is below.
  apply eq_of_forall_le_iff
  intro n
  rw [Nat.le_min, le_exitCode_iff, le_exitCode_iff, le_exitCode_iff]
  simp only [isKind, Bool.or_eq_true]
  constructor
  · intro below
    obtain ⟨small, below⟩ := below
    exact ⟨⟨small, fun kind member holds => below kind member (Or.inl holds)⟩,
      ⟨small, fun kind member holds => below kind member (Or.inr holds)⟩⟩
  · intro below
    obtain ⟨⟨small, below₁⟩, _, below₂⟩ := below
    exact ⟨small, fun kind member holds =>
      holds.elim (below₁ kind member) (below₂ kind member)⟩

/-- The code of several errors at once, by induction over them. -/
theorem exitCode_join? (errors : List Error)
    : (join? errors).map exitCode = (errors.map exitCode).min? := by
  induction errors with
  | nil => rfl
  | cons first rest ih =>
      rw [List.map_cons, List.min?_cons, ← ih, join?]
      cases join? rest with
      | none => rfl
      | some others => exact congrArg some (exitCode_both first others)

/-- The code of an error is the lowest one of its causes, by induction over the error. -/
theorem min?_exitCode_faults (e : Error)
    : (e.faults.map fun f => (fault f).exitCode).min? = some e.exitCode := by
  induction e with
  | fault f => rfl
  | atLine line cause ih => exact ih
  | within context cause ih => exact ih
  | both first second ih₁ ih₂ =>
      rw [List.min?_eq_some_iff] at ih₁ ih₂ ⊢
      obtain ⟨member₁, below₁⟩ := ih₁
      obtain ⟨member₂, below₂⟩ := ih₂
      rw [exitCode_both, faults, List.map_append]
      constructor
      · rcases Nat.le_total first.exitCode second.exitCode with lower | lower
        · rw [Nat.min_eq_left lower]
          exact List.mem_append_left _ member₁
        · rw [Nat.min_eq_right lower]
          exact List.mem_append_right _ member₂
      · intro code member
        rcases List.mem_append.mp member with inFirst | inSecond
        · exact Nat.le_trans (Nat.min_le_left _ _) (below₁ code inFirst)
        · exact Nat.le_trans (Nat.min_le_right _ _) (below₂ code inSecond)

/-- The exit code of an error is that of the cause with the lowest code. It is the same at a
line and in a context, and several errors at once have the lowest of their codes. A cause of
no kind has code 99, any other one that of its kind, and all kinds of syntax errors have code
23. The codes of the kinds themselves are those listed, and an error that only has a text has
code 99.
-/
theorem exitCode_of_causes (e : Error) (errors : List Error)
    : (∀ line, (atLine line e).exitCode = e.exitCode)
      ∧ (∀ context, (within context e).exitCode = e.exitCode)
      ∧ (join? errors).map exitCode = (errors.map exitCode).min?
      ∧ (e.faults.map fun f => (fault f).exitCode).min? = some e.exitCode
      ∧ (∀ f : Fault, f.kind? = none → (fault f).exitCode = 99)
      ∧ (∀ (f : Fault) (kind : ErrorKind),
          f.kind? = some kind → (fault f).exitCode = kind.exitCode)
      ∧ (∀ (f : Fault) (kind : ErrorKind),
          f.kind? = some kind
          → kind ∈ [.grammar, .arity, .argument]
          → (fault f).exitCode = 23)
      ∧ (∀ kind : ErrorKind, (kind, (fault (.bare kind)).exitCode) ∈ bareCodes)
      ∧ ∀ text : Bytes, (fault (.other text)).exitCode = 99 := by
  refine ⟨fun line => exitCode_atLine line e, fun context => exitCode_within context e,
    exitCode_join? errors, min?_exitCode_faults e, fun _ => exitCode_fault_of_no_kind,
    fun _ _ => exitCode_fault, ?_, mem_bareCodes, fun _ => exitCode_fault_of_no_kind rfl⟩
  intro f kind known member
  rw [exitCode_fault known]
  simp only [List.mem_cons, List.not_mem_nil, or_false] at member
  rcases member with rfl | rfl | rfl <;> rfl

end Error

end IppXml
