import IppXml.Proofs.Text.Decoding
import IppXml.Text.Case
import IppXml.Token

/-! Upper case is final: the upper case of a character has no other upper case, and a text
that a document can carry is still one in upper case.

Both are facts about the table of runs. Sets of code points are numbers here, with a bit
for each member, so that the table is checked by a single operation on numbers.
-/

namespace IppXml

open IppXml.Text

-----------------------------------------------------------------------------------------
-- Where the runs of the table lead
-----------------------------------------------------------------------------------------

/-- The number whose bits are the given code points. -/
def Text.codeSet (codes : List Nat) : Nat :=
  codes.foldr (fun n set => 1 <<< n ||| set) 0

theorem testBit_codeSet {codes : List Nat} {n : Nat}
    : (codeSet codes).testBit n = true ↔ n ∈ codes := by
  induction codes with
  | nil => simp [codeSet]
  | cons m codes ih =>
      rw [codeSet, List.foldr_cons, ← codeSet, Nat.testBit_or, Bool.or_eq_true, ih,
        List.mem_cons, Nat.one_shiftLeft, Nat.testBit_two_pow, decide_eq_true_eq]
      exact or_congr_left eq_comm

/-- As many code points as the run moves, with its stride, from the given one on. -/
def Text.CaseRun.codesFrom (start : Nat) (run : CaseRun) : List Nat :=
  List.range' start ((run.hi - run.lo) / run.stride + 1) run.stride

/-- A code point that a run moves is as far from the run's first one as where it is moved
to is from the run's target.
-/
theorem Text.CaseRun.mem_codesFrom {run : CaseRun} {n : Nat} (start : Nat)
    (h : run.covers n = true)
    : start + (n - run.lo) ∈ run.codesFrom start := by
  simp only [CaseRun.covers, Bool.and_eq_true, decide_eq_true_eq, beq_iff_eq] at h
  obtain ⟨⟨low, high⟩, step⟩ := h
  rw [CaseRun.codesFrom, List.mem_range']
  refine ⟨(n - run.lo) / run.stride, ?_, ?_⟩
  · have quotient := Nat.div_le_div_right (c := run.stride) (Nat.sub_le_sub_right high run.lo)
    omega
  · rw [Nat.mul_div_cancel' (Nat.dvd_of_mod_eq_zero step)]

/-- No run begins or goes on where one leads. -/
theorem upperRuns_final
    : codeSet (upperRuns.flatMap fun run => run.codesFrom run.target)
        &&& codeSet (upperRuns.flatMap fun run => run.codesFrom run.lo)
      = 0 := by
  decide +kernel

/-- The run leads to code points that a document can carry. -/
def Text.CaseRun.isXml (run : CaseRun) : Bool :=
  (0x20 ≤ run.target && run.target + (run.hi - run.lo) ≤ 0xD7FF)
    || (0xE000 ≤ run.target && run.target + (run.hi - run.lo) ≤ 0xFFFD)
    || (0x10000 ≤ run.target && run.target + (run.hi - run.lo) ≤ 0x10FFFF)

theorem upperRuns_isXml
    : upperRuns.all CaseRun.isXml = true := by
  decide +kernel

/-- A code point is in no run, or a run moves it. -/
theorem mapCode_cases (n : Nat)
    : (mapCode upperRuns n = n ∧ ∀ run ∈ upperRuns, run.covers n = false)
      ∨ ∃ run ∈ upperRuns,
          run.covers n = true ∧ mapCode upperRuns n = run.target + (n - run.lo) := by
  cases found : upperRuns.find? (fun run => run.covers n) with
  | none =>
      refine Or.inl ⟨by simp only [mapCode, found], ?_⟩
      intro run member
      exact Bool.eq_false_iff.mpr (List.find?_eq_none.mp found run member)
  | some run =>
      have covered : run.covers n = true := by simpa using List.find?_some found
      exact Or.inr
        ⟨run, List.mem_of_find?_eq_some found, covered, by simp only [mapCode, found]⟩

/-- Moving a code point a second time leaves it where it is. -/
theorem mapCode_mapCode (n : Nat)
    : mapCode upperRuns (mapCode upperRuns n) = mapCode upperRuns n := by
  rcases mapCode_cases n with ⟨same, _⟩ | ⟨run, member, covered, moved⟩
  · rw [same, same]
  rcases mapCode_cases (mapCode upperRuns n) with ⟨same, _⟩ | ⟨other, member', covered', _⟩
  · exact same
  · -- the second run would move what the first one leads to
    have target : mapCode upperRuns n ∈ upperRuns.flatMap fun run => run.codesFrom run.target :=
      List.mem_flatMap.mpr ⟨run, member, moved ▸ run.mem_codesFrom run.target covered⟩
    have source : mapCode upperRuns n ∈ upperRuns.flatMap fun run => run.codesFrom run.lo := by
      have bound : other.lo ≤ mapCode upperRuns n := by
        simp only [CaseRun.covers, Bool.and_eq_true, decide_eq_true_eq] at covered'
        exact covered'.1.1
      have inside := other.mem_codesFrom other.lo covered'
      rw [Nat.add_sub_cancel' bound] at inside
      exact List.mem_flatMap.mpr ⟨other, member', inside⟩
    have shared := congrArg (Nat.testBit · (mapCode upperRuns n)) upperRuns_final
    simp only [Nat.testBit_and, testBit_codeSet.mpr target, testBit_codeSet.mpr source,
      Nat.zero_testBit, Bool.and_true] at shared
    exact Bool.noConfusion shared

-----------------------------------------------------------------------------------------
-- Characters and texts in upper case
-----------------------------------------------------------------------------------------

/-- The bounds that characters of a document keep, as the reader checks them. -/
theorem isXmlChar_iff {c : Char}
    : isXmlChar c = true
      ↔ c.toNat = 0x09 ∨ c.toNat = 0x0A ∨ c.toNat = 0x0D
        ∨ (0x20 ≤ c.toNat ∧ c.toNat ≤ 0xD7FF) ∨ (0xE000 ≤ c.toNat ∧ c.toNat ≤ 0xFFFD)
        ∨ 0x10000 ≤ c.toNat := by
  simp [isXmlChar, or_assoc]

/-- The upper case of a character has the code that the table gives. -/
theorem toNat_upperChar (c : Char)
    : (upperChar c).toNat = mapCode upperRuns c.toNat := by
  rcases mapCode_cases c.toNat with ⟨same, _⟩ | ⟨run, member, covered, moved⟩
  · rw [upperChar, same, Char.ofNat_toNat]
  · have xml := List.all_eq_true.mp upperRuns_isXml run member
    simp only [CaseRun.covers, CaseRun.isXml, Bool.and_eq_true, Bool.or_eq_true,
      decide_eq_true_eq] at xml covered
    refine toNat_ofNat_of_valid ?_
    rw [moved]
    simp only [Nat.isValidChar]
    omega

theorem upperChar_upperChar (c : Char)
    : upperChar (upperChar c) = upperChar c := by
  rw [upperChar, toNat_upperChar, mapCode_mapCode]
  rfl

theorem isXmlChar_upperChar {c : Char} (h : isXmlChar c = true)
    : isXmlChar (upperChar c) = true := by
  rcases mapCode_cases c.toNat with ⟨same, _⟩ | ⟨run, member, covered, moved⟩
  · rwa [upperChar, same, Char.ofNat_toNat]
  · have xml := List.all_eq_true.mp upperRuns_isXml run member
    simp only [CaseRun.covers, CaseRun.isXml, Bool.and_eq_true, Bool.or_eq_true,
      decide_eq_true_eq] at xml covered
    rw [isXmlChar_iff, toNat_upperChar, moved]
    omega

/-- Upper case of a text is final. -/
theorem upper_upper (text : Bytes)
    : upper (upper text) = upper text := by
  rw [upper, upper, chars_ofChars, List.map_map]
  congr 1
  exact List.map_congr_left fun c _ => upperChar_upperChar c

end IppXml
