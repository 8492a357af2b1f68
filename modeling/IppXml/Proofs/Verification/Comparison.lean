import IppXml.Verification.Issue
import Mathlib.Data.List.Basic

/-! What a comparison finds.

A comparison goes down from documents to instructions and their arguments, and stops early
where the rest would say nothing. At each level it finds nothing exactly if there is nothing
to find.
-/

namespace IppXml

theorem argumentMismatches_eq_nil_iff (opcode : Bytes) {position : Nat}
    {wants gots : List Argument} (h : wants.length = gots.length)
    : argumentMismatches opcode position wants gots = [] ↔ wants = gots := by
  induction wants generalizing position gots with
  | nil => simp [argumentMismatches, List.length_eq_zero_iff.mp h.symm]
  | cons want wants ih =>
      cases gots with
      | nil => exact absurd h (by simp)
      | cons got gots =>
          rw [argumentMismatches]
          by_cases same : want = got
          · simp [same, ih (Nat.succ.inj h)]
          · simp [same]

/-- Opcodes, numbers of arguments and arguments are compared one after the other, and one of
them differs if the instructions do not agree.
-/
theorem contentMismatches_eq_nil_iff {want got : Instruction}
    : contentMismatches want got = [] ↔ want.opcode = got.opcode ∧ want.args = got.args := by
  rw [contentMismatches, ← Instruction.agrees_iff]
  by_cases agree : want.agrees got = true
  · simp [agree]
  · rw [if_neg agree]
    refine ⟨fun nothing => ?_, fun given => absurd given agree⟩
    split at nothing
    · exact absurd nothing (by simp)
    next opcode =>
      split at nothing
      · exact absurd nothing (by simp)
      next length =>
        have args := (argumentMismatches_eq_nil_iff want.opcode (not_not.mp length)).mp nothing
        exact Instruction.agrees_iff.mpr ⟨not_not.mp opcode, args⟩

theorem instructionMismatches_eq_nil_iff {place : Nat} {want got : Instruction}
    : instructionMismatches place want got = []
      ↔ got.order = place ∧ want.opcode = got.opcode ∧ want.args = got.args := by
  rw [instructionMismatches, List.append_eq_nil_iff, contentMismatches_eq_nil_iff]
  by_cases order : got.order = place <;> simp [order]

/-- The issues of a comparison are the differences at each place that both lists reach, by
induction over both.
-/
theorem mem_compareFrom {place : Nat} {wants gots : List Instruction} {issue : Issue}
    : issue ∈ compareFrom place wants gots
      ↔ ∃ (k : Nat) (want got : Instruction) (mismatch : Mismatch),
          wants[k]? = some want
          ∧ gots[k]? = some got
          ∧ mismatch ∈ instructionMismatches (place + k) want got
          ∧ issue = mismatch.issue (place + k : Nat) := by
  induction wants generalizing place gots with
  | nil => simp [compareFrom]
  | cons first wants ih =>
      cases gots with
      | nil => simp [compareFrom]
      | cons found gots =>
          rw [compareFrom, List.mem_append, List.mem_map, ih]
          constructor
          · intro given
            rcases given with ⟨mismatch, member, rfl⟩ | later
            · exact ⟨0, first, found, mismatch, rfl, rfl, member, rfl⟩
            · obtain ⟨k, want, got, mismatch, wanted, gotten, member, same⟩ := later
              rw [Nat.add_assoc, Nat.add_comm 1] at member same
              exact ⟨k + 1, want, got, mismatch, wanted, gotten, member, same⟩
          · intro given
            obtain ⟨k, want, got, mismatch, wanted, gotten, member, same⟩ := given
            cases k with
            | zero =>
                cases wanted
                cases gotten
                exact Or.inl ⟨mismatch, member, same.symm⟩
            | succ k =>
                rw [Nat.add_comm k, ← Nat.add_assoc] at member same
                exact Or.inr ⟨k, want, got, mismatch, wanted, gotten, member, same⟩

/-- Where two lists both reach, the instructions there are as wanted. -/
theorem compareFrom_eq_nil_iff {place : Nat} {wants gots : List Instruction}
    : compareFrom place wants gots = []
      ↔ ∀ (k : Nat) (want got : Instruction),
          wants[k]? = some want
          → gots[k]? = some got
          → got.order = k + place ∧ want.opcode = got.opcode ∧ want.args = got.args := by
  rw [List.eq_nil_iff_forall_not_mem]
  constructor
  · intro nothing k want got wanted gotten
    have none : instructionMismatches (place + k) want got = [] := by
      rw [List.eq_nil_iff_forall_not_mem]
      intro mismatch member
      exact nothing _ (mem_compareFrom.mpr ⟨k, want, got, mismatch, wanted, gotten, member, rfl⟩)
    obtain ⟨order, content⟩ := instructionMismatches_eq_nil_iff.mp none
    exact ⟨by omega, content⟩
  · intro given issue member
    obtain ⟨k, want, got, mismatch, wanted, gotten, found, _⟩ := mem_compareFrom.mp member
    obtain ⟨order, content⟩ := given k want got wanted gotten
    have none : instructionMismatches (place + k) want got = [] :=
      instructionMismatches_eq_nil_iff.mpr ⟨by omega, content⟩
    rw [none] at found
    exact List.not_mem_nil found

theorem compareInstructions_eq_nil_iff {want got : List Instruction}
    : compareInstructions want got = []
      ↔ want.length = got.length
        ∧ ∀ (k : Nat) (i j : Instruction),
            want[k]? = some i
            → got[k]? = some j
            → j.order = k + 1 ∧ i.opcode = j.opcode ∧ i.args = j.args := by
  rw [compareInstructions, List.append_eq_nil_iff, compareFrom_eq_nil_iff]
  by_cases length : want.length = got.length <;> simp [length]

/-- Instructions that are wanted in their own order are those of the document exactly if
there is no issue.
-/
theorem compareInstructions_eq_nil_iff_eq {want got : List Instruction}
    (numbered : ∀ (k : Nat) (i : Instruction), want[k]? = some i → i.order = k + 1)
    : compareInstructions want got = [] ↔ got = want := by
  rw [compareInstructions_eq_nil_iff]
  constructor
  · intro given
    obtain ⟨length, same⟩ := given
    refine List.ext_getElem length.symm ?_
    intro k inGot inWant
    have wanted := List.getElem?_eq_getElem inWant
    obtain ⟨order, opcode, args⟩ := same k _ _ wanted (List.getElem?_eq_getElem inGot)
    exact Instruction.ext (order.trans (numbered k _ wanted).symm) opcode.symm args.symm
  · intro same
    subst same
    refine ⟨rfl, ?_⟩
    intro k i j wanted gotten
    rw [wanted] at gotten
    cases gotten
    exact ⟨numbered k i wanted, rfl, rfl⟩

/-- The issues of two lists: one about their lengths if these differ, and the differences at
each place.
-/
theorem mem_compareInstructions {want got : List Instruction} {issue : Issue}
    : issue ∈ compareInstructions want got
      ↔ want.length ≠ got.length
          ∧ issue = (Mismatch.count want.length got.length).issue (-1)
        ∨ issue ∈ compareFrom 1 want got := by
  rw [compareInstructions, List.mem_append]
  by_cases length : want.length = got.length <;> simp [length]

/-- A comparison finds differences only. -/
theorem type_of_mem_compareInstructions {want got : List Instruction} {issue : Issue}
    (h : issue ∈ compareInstructions want got)
    : issue.type = mismatchIssue := by
  rcases mem_compareInstructions.mp h with ⟨_, rfl⟩ | inside
  · rfl
  · obtain ⟨_, _, _, _, _, _, _, rfl⟩ := mem_compareFrom.mp inside
    rfl

-----------------------------------------------------------------------------------------
-- Where issues are
-----------------------------------------------------------------------------------------

/-- An issue is about the lengths, or about a place that both lists reach. -/
theorem order_of_mem_compareInstructions {want got : List Instruction} {issue : Issue}
    (h : issue ∈ compareInstructions want got)
    : issue.order = -1
      ∨ ∃ k : Nat, k < want.length ∧ k < got.length ∧ issue.order = k + 1 := by
  rcases mem_compareInstructions.mp h with ⟨_, rfl⟩ | inside
  · exact Or.inl rfl
  · obtain ⟨k, i, j, mismatch, wanted, gotten, _, rfl⟩ := mem_compareFrom.mp inside
    refine Or.inr ⟨k, (List.getElem?_eq_some_iff.mp wanted).1,
      (List.getElem?_eq_some_iff.mp gotten).1, ?_⟩
    show ((1 + k : Nat) : Int) = k + 1
    omega

/-- There is an issue about the whole document exactly if the lengths differ. -/
theorem exists_order_neg_one_iff {want got : List Instruction}
    : (∃ issue ∈ compareInstructions want got, issue.order = -1)
      ↔ want.length ≠ got.length := by
  constructor
  · intro given
    obtain ⟨issue, member, order⟩ := given
    rcases mem_compareInstructions.mp member with ⟨differ, _⟩ | inside
    · exact differ
    · obtain ⟨k, _, _, _, _, _, _, rfl⟩ := mem_compareFrom.mp inside
      have place : ((1 + k : Nat) : Int) = -1 := order
      omega
  · intro differ
    exact ⟨_, mem_compareInstructions.mpr (Or.inl ⟨differ, rfl⟩), rfl⟩

/-- There is an issue about a place that both lists reach exactly if the instruction there is
not as wanted.
-/
theorem exists_order_place_iff {want got : List Instruction} {k : Nat} {i j : Instruction}
    (wanted : want[k]? = some i) (gotten : got[k]? = some j)
    : (∃ issue ∈ compareInstructions want got, issue.order = k + 1)
      ↔ ¬ (j.order = k + 1 ∧ i.opcode = j.opcode ∧ i.args = j.args) := by
  have place : j.order = k + 1 ∧ i.opcode = j.opcode ∧ i.args = j.args
      ↔ instructionMismatches (1 + k) i j = [] := by
    rw [instructionMismatches_eq_nil_iff, Nat.add_comm 1]
    rfl
  rw [place]
  constructor
  · intro given
    obtain ⟨issue, member, order⟩ := given
    rcases mem_compareInstructions.mp member with ⟨_, rfl⟩ | inside
    · have whole : (-1 : Int) = k + 1 := order
      omega
    · obtain ⟨l, _, _, mismatch, wanted', gotten', found, rfl⟩ := mem_compareFrom.mp inside
      have same : ((1 + l : Nat) : Int) = k + 1 := order
      obtain rfl : l = k := by omega
      rw [wanted] at wanted'
      rw [gotten] at gotten'
      cases wanted'
      cases gotten'
      exact List.ne_nil_of_mem found
  · intro differ
    obtain ⟨mismatch, member⟩ := List.exists_mem_of_ne_nil _ differ
    refine ⟨mismatch.issue (1 + k : Nat), mem_compareInstructions.mpr (Or.inr ?_), ?_⟩
    · exact mem_compareFrom.mpr ⟨k, i, j, mismatch, wanted, gotten, member, rfl⟩
    · show ((1 + k : Nat) : Int) = k + 1
      omega

/-- A comparison is sound, complete and localised. Instructions agree if they have the same
opcode and the same arguments. There is no issue exactly if the lists are equally long and
each instruction carries its place as its order and agrees with the one wanted there. Else
there is one for the whole document exactly if the lengths differ, and one for a place that
both lists reach exactly if the instruction there is not as wanted. All issues are
mismatches, and there are none for other places.
-/
theorem compareInstructions_localised (want got : List Instruction)
    : (∀ i j : Instruction,
        i.agrees j = true ↔ i.opcode = j.opcode ∧ i.args = j.args)
      ∧ (compareInstructions want got = []
        ↔ want.length = got.length
          ∧ ∀ (k : Nat) (i j : Instruction),
              want[k]? = some i
              → got[k]? = some j
              → j.order = k + 1 ∧ i.opcode = j.opcode ∧ i.args = j.args)
      ∧ ((∃ issue ∈ compareInstructions want got, issue.order = -1)
        ↔ want.length ≠ got.length)
      ∧ (∀ (k : Nat) (i j : Instruction),
          want[k]? = some i
          → got[k]? = some j
          → ((∃ issue ∈ compareInstructions want got, issue.order = k + 1)
            ↔ ¬ (j.order = k + 1 ∧ i.opcode = j.opcode ∧ i.args = j.args)))
      ∧ ∀ issue ∈ compareInstructions want got,
          issue.type = mismatchIssue
          ∧ (issue.order = -1
            ∨ ∃ k : Nat, k < want.length ∧ k < got.length ∧ issue.order = k + 1) := by
  refine ⟨fun _ _ => Instruction.agrees_iff, compareInstructions_eq_nil_iff,
    exists_order_neg_one_iff, ?_, ?_⟩
  · intro k i j wanted gotten
    exact exists_order_place_iff wanted gotten
  · intro issue member
    exact ⟨type_of_mem_compareInstructions member, order_of_mem_compareInstructions member⟩

end IppXml
