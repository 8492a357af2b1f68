/-! Sorting by insertion. Equal items keep their sequence. -/

namespace IppXml

variable {α : Type}

/-- Inserts an item in front of the first one it is not above. -/
def insertSorted (le : α → α → Bool) (x : α) : List α → List α
  | [] => [x]
  | y :: ys => if le x y then x :: y :: ys else y :: insertSorted le x ys

/-- The items in ascending sequence. -/
def sortBy (le : α → α → Bool) (xs : List α) : List α :=
  xs.foldr (insertSorted le) []

theorem insertSorted_perm (le : α → α → Bool) (x : α) (ys : List α)
    : (insertSorted le x ys).Perm (x :: ys) := by
  induction ys with
  | nil => exact .refl _
  | cons y ys ih =>
      rw [insertSorted]
      split
      · exact .refl _
      · exact (ih.cons y).trans (.swap x y ys)

/-- Sorting loses and adds nothing. -/
theorem sortBy_perm (le : α → α → Bool) (xs : List α)
    : (sortBy le xs).Perm xs := by
  induction xs with
  | nil => exact .refl _
  | cons x xs ih => exact (insertSorted_perm le x _).trans (ih.cons x)

/-- Sorting leaves a list alone that is sorted. -/
theorem sortBy_eq_self {le : α → α → Bool} {xs : List α}
    (h : xs.Pairwise fun x y => le x y = true)
    : sortBy le xs = xs := by
  induction xs with
  | nil => rfl
  | cons x xs ih =>
      obtain ⟨least, sorted⟩ := List.pairwise_cons.mp h
      have step : sortBy le (x :: xs) = insertSorted le x (sortBy le xs) := rfl
      rw [step, ih sorted]
      cases xs with
      | nil => rfl
      | cons y ys => rw [insertSorted, if_pos (least y (by simp))]

theorem insertSorted_pairwise {le : α → α → Bool} (x : α) {ys : List α}
    (total : ∀ x y, le x y = true ∨ le y x = true)
    (trans : ∀ x y z, le x y = true → le y z = true → le x z = true)
    (h : ys.Pairwise fun x y => le x y = true)
    : (insertSorted le x ys).Pairwise fun x y => le x y = true := by
  induction ys with
  | nil => exact List.pairwise_singleton _ x
  | cons y ys ih =>
      obtain ⟨least, sorted⟩ := List.pairwise_cons.mp h
      rw [insertSorted]
      split
      · next below =>
          refine .cons ?_ h
          intro z member
          rcases List.mem_cons.mp member with rfl | later
          · exact below
          · exact trans x y z below (least z later)
      · next above =>
          refine .cons ?_ (ih sorted)
          intro z member
          rcases List.mem_cons.mp ((insertSorted_perm le x ys).mem_iff.mp member) with rfl | later
          · exact (total y z).resolve_right above
          · exact least z later

/-- Sorting sorts, by insertion after insertion. -/
theorem sortBy_pairwise {le : α → α → Bool} (xs : List α)
    (total : ∀ x y, le x y = true ∨ le y x = true)
    (trans : ∀ x y z, le x y = true → le y z = true → le x z = true)
    : (sortBy le xs).Pairwise fun x y => le x y = true := by
  induction xs with
  | nil => exact .nil
  | cons x xs ih => exact insertSorted_pairwise x total trans ih

end IppXml
