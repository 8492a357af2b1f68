/-! Lists read piece by piece.

A reader looks at the head of a list, names what it finds there and says how many items it
takes. Characters in a byte string and tokens in a document are both read this way. The
recursion is on the list itself: the items a piece has taken are stepped over one by one.
-/

namespace IppXml.Text

variable {α β : Type}

/-- Steps over `skip` items and then reads pieces; a piece takes at least one item. -/
def piecesAfter (first : α → List α → β × Nat) : (skip : Nat) → List α → List β
  | _, [] => []
  | skip + 1, _ :: xs => piecesAfter first skip xs
  | 0, x :: xs => (first x xs).1 :: piecesAfter first ((first x xs).2 - 1) xs

/-- The pieces of a list, where `first` reads the piece at the head and its length. -/
def pieces (first : α → List α → β × Nat) (xs : List α) : List β :=
  piecesAfter first 0 xs

@[simp] theorem pieces_nil (first : α → List α → β × Nat)
    : pieces first [] = [] := by
  rfl

theorem piecesAfter_eq_drop (first : α → List α → β × Nat) (skip : Nat) (xs : List α)
    : piecesAfter first skip xs = pieces first (xs.drop skip) := by
  induction skip generalizing xs with
  | zero => rfl
  | succ skip ih =>
      cases xs with
      | nil => rfl
      | cons x xs => simpa [piecesAfter] using ih xs

theorem pieces_cons (first : α → List α → β × Nat) (x : α) (xs : List α)
    : pieces first (x :: xs)
        = (first x xs).1 :: pieces first (xs.drop ((first x xs).2 - 1)) := by
  rw [← piecesAfter_eq_drop]
  rfl

/-- A piece that takes exactly `x :: taken` is read off, and reading goes on behind it. -/
theorem pieces_append {first : α → List α → β × Nat} {x : α} {taken rest : List α} {y : β}
    (h : first x (taken ++ rest) = (y, taken.length + 1))
    : pieces first (x :: taken ++ rest) = y :: pieces first rest := by
  rw [List.cons_append, pieces_cons, h]
  simp

/-- Every piece is read somewhere in the list. -/
theorem exists_of_mem_piecesAfter {first : α → List α → β × Nat} {skip : Nat} {xs : List α}
    {y : β} (h : y ∈ piecesAfter first skip xs)
    : ∃ x rest, y = (first x rest).1 := by
  induction xs generalizing skip with
  | nil => simp [piecesAfter] at h
  | cons x xs ih =>
      cases skip with
      | succ skip => exact ih h
      | zero =>
          rcases List.mem_cons.mp h with head | tail
          · exact ⟨x, xs, head⟩
          · exact ih tail

end IppXml.Text
