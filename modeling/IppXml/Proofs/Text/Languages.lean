import Mathlib.Computability.Language

/-! Languages that are put together from classes of items.

A pattern is a language: classes of single items, sequences, alternatives and repetitions of
them. What a pattern says is read off item by item. The one pattern with an argument to it is
that of marked texts: splitting a text into items and escapes comes to the same as asking for
digits behind each mark, because a digit is no mark.
-/

namespace IppXml

open scoped Computability

variable {α : Type} {cls digit : α → Prop} {l : Language α} {x mark : α} {text rest : List α}

/-- The texts of one item out of the class. -/
def oneOf (cls : α → Prop) : Language α :=
  {text | ∃ x, cls x ∧ text = [x]}

/-- The texts of one or more parts out of the language. -/
def atLeastOnce (l : Language α) : Language α :=
  l * l∗

theorem mem_oneOf_mul
    : text ∈ oneOf cls * l ↔ ∃ x rest, cls x ∧ rest ∈ l ∧ text = x :: rest := by
  rw [Language.mem_mul]
  constructor
  · rintro ⟨_, ⟨x, inClass, rfl⟩, rest, member, rfl⟩
    exact ⟨x, rest, inClass, member, rfl⟩
  · rintro ⟨x, rest, inClass, member, rfl⟩
    exact ⟨[x], ⟨x, inClass, rfl⟩, rest, member, rfl⟩

/-- An item begins such a text if it is in the class. -/
theorem cons_mem_oneOf_mul
    : x :: rest ∈ oneOf cls * l ↔ cls x ∧ rest ∈ l := by
  rw [mem_oneOf_mul]
  constructor
  · rintro ⟨_, _, inClass, member, same⟩
    obtain ⟨rfl, rfl⟩ := List.cons.inj same
    exact ⟨inClass, member⟩
  · rintro ⟨inClass, member⟩
    exact ⟨x, rest, inClass, member, rfl⟩

/-- A repetition is over, or goes on behind one part. -/
theorem mem_kstar_iff
    : text ∈ l∗ ↔ text = [] ∨ text ∈ l * l∗ := by
  rw [← Language.mem_one, ← Language.mem_add, Language.one_add_self_mul_kstar_eq_kstar]

/-- Repeated items of a class are texts of the class, by induction over the text. -/
theorem mem_kstar_oneOf
    : text ∈ (oneOf cls)∗ ↔ ∀ x ∈ text, cls x := by
  induction text with
  | nil => simp [Language.nil_mem_kstar]
  | cons x rest ih =>
      rw [mem_kstar_iff, cons_mem_oneOf_mul, ih, List.forall_mem_cons]
      simp

theorem mem_atLeastOnce_oneOf
    : text ∈ atLeastOnce (oneOf cls) ↔ text ≠ [] ∧ ∀ x ∈ text, cls x := by
  cases text with
  | nil =>
      rw [atLeastOnce, mem_oneOf_mul]
      simp
  | cons x rest =>
      rw [atLeastOnce, cons_mem_oneOf_mul, mem_kstar_oneOf, List.forall_mem_cons]
      simp

-----------------------------------------------------------------------------------------
-- Texts with escapes
-----------------------------------------------------------------------------------------

/-- Sequences of items other than the mark and of escapes, which are the mark and three
digits.
-/
def escaped (mark : α) (digit : α → Prop) : Language α :=
  (oneOf (· ≠ mark) + oneOf (· = mark) * (oneOf digit * (oneOf digit * oneOf digit)))∗

/-- The text begins with three digits. -/
def BeginsWithDigits (digit : α → Prop) (text : List α) : Prop :=
  ∃ d₁ d₂ d₃ rest, (digit d₁ ∧ digit d₂ ∧ digit d₃) ∧ text = d₁ :: d₂ :: d₃ :: rest

theorem nil_mem_escaped
    : [] ∈ escaped mark digit :=
  Language.nil_mem_kstar _

/-- The first part of an escaped text is an item or an escape. -/
theorem cons_mem_escaped_iff
    : x :: rest ∈ escaped mark digit
      ↔ x ≠ mark ∧ rest ∈ escaped mark digit
        ∨ x = mark
          ∧ ∃ d₁ d₂ d₃ more,
              (digit d₁ ∧ digit d₂ ∧ digit d₃)
              ∧ more ∈ escaped mark digit
              ∧ rest = d₁ :: d₂ :: d₃ :: more := by
  rw [escaped, mem_kstar_iff, add_mul, Language.mem_add, mul_assoc, mul_assoc, mul_assoc,
    cons_mem_oneOf_mul, cons_mem_oneOf_mul]
  simp only [mem_oneOf_mul, reduceCtorEq, false_or]
  refine or_congr Iff.rfl (and_congr Iff.rfl ?_)
  constructor
  · rintro ⟨d₁, _, first, ⟨d₂, _, second, ⟨d₃, more, third, member, rfl⟩, rfl⟩, rfl⟩
    exact ⟨d₁, d₂, d₃, more, ⟨first, second, third⟩, member, rfl⟩
  · rintro ⟨d₁, d₂, d₃, more, ⟨first, second, third⟩, member, rfl⟩
    exact ⟨d₁, _, first, ⟨d₂, _, second, ⟨d₃, more, third, member, rfl⟩, rfl⟩, rfl⟩

/-- Items other than the mark in front make no difference. -/
theorem append_mem_escaped (plain : mark ∉ text)
    : text ++ rest ∈ escaped mark digit ↔ rest ∈ escaped mark digit := by
  induction text with
  | nil => rfl
  | cons x text ih =>
      rw [List.mem_cons, not_or] at plain
      rw [List.cons_append, cons_mem_escaped_iff, ih plain.2]
      simp [Ne.symm plain.1]

/-- An escaped text stays one behind its first item, which is a mark only in front of three
digits. Witness: digits are no marks, so what is behind an escape is escaped exactly if it is
escaped with the digits in front.
-/
theorem cons_mem_escaped (unmarked : ∀ d, digit d → d ≠ mark)
    : x :: rest ∈ escaped mark digit
      ↔ rest ∈ escaped mark digit ∧ (x = mark → BeginsWithDigits digit rest) := by
  have behind {d : α} {more : List α} (h : digit d)
      : d :: more ∈ escaped mark digit ↔ more ∈ escaped mark digit := by
    have plain : mark ∉ [d] := by simpa using Ne.symm (unmarked d h)
    exact append_mem_escaped plain
  rw [cons_mem_escaped_iff]
  constructor
  · rintro (⟨plain, member⟩ | ⟨marked, d₁, d₂, d₃, more, digits, member, rfl⟩)
    · exact ⟨member, fun marked => absurd marked plain⟩
    · obtain ⟨first, second, third⟩ := digits
      refine ⟨?_, fun _ => ⟨d₁, d₂, d₃, more, ⟨first, second, third⟩, rfl⟩⟩
      rwa [behind first, behind second, behind third]
  · rintro ⟨member, followed⟩
    by_cases marked : x = mark
    · obtain ⟨d₁, d₂, d₃, more, ⟨first, second, third⟩, rfl⟩ := followed marked
      rw [behind first, behind second, behind third] at member
      exact Or.inr ⟨marked, d₁, d₂, d₃, more, ⟨first, second, third⟩, member, rfl⟩
    · exact Or.inl ⟨marked, member⟩

end IppXml
