import IppXml.Command.Convert
import Mathlib.Data.List.Infix

/-! What arguments leave behind on a command line.

Reading adds to a command line and takes nothing away. Where all flags are switches, an
argument either leaves something there or is passed over, and those passed over are known
by their beginning.
-/

namespace IppXml.CommandLine

/-- The argument is a cluster of letters that is passed over. -/
def IsPassedOver (arg : Bytes) : Prop :=
  utf8 "-test." <+: arg

instance (arg : Bytes) : Decidable (IsPassedOver arg) :=
  inferInstanceAs (Decidable (_ <+: _))

/-- Something has been read: a flag, another argument, or two dashes alone. -/
def IsMarked (line : CommandLine) : Prop :=
  line.flags ≠ [] ∨ line.positionals ≠ [] ∨ line.dashed = true

/-- What has been read stays, and the flags that are added are known. -/
structure Grows (known : List Flag) (line next : CommandLine) : Prop where
  flags
    : ∃ added,
        next.flags = line.flags ++ added ∧ ∀ entry ∈ added, ∃ flag ∈ known, entry.1 = flag.name
  positionals : line.positionals <+: next.positionals
  dashed : line.dashed = true → next.dashed = true

theorem Grows.refl (known : List Flag) (line : CommandLine)
    : Grows known line line :=
  ⟨⟨[], by simp⟩, List.prefix_rfl, id⟩

theorem Grows.trans {known : List Flag} {line next last : CommandLine}
    (first : Grows known line next) (second : Grows known next last)
    : Grows known line last := by
  obtain ⟨⟨added, extended, names⟩, positionals, dashed⟩ := first
  obtain ⟨⟨more, extended', names'⟩, positionals', dashed'⟩ := second
  refine ⟨⟨added ++ more, ?_, ?_⟩, positionals.trans positionals', fun d => dashed' (dashed d)⟩
  · rw [extended', extended, List.append_assoc]
  · intro entry member
    rcases List.mem_append.mp member with before | after
    · exact names entry before
    · exact names' entry after

theorem Grows.isMarked {known : List Flag} {line next : CommandLine}
    (h : Grows known line next) (marked : line.IsMarked)
    : next.IsMarked := by
  obtain ⟨added, extended, _⟩ := h.flags
  rcases marked with flags | positionals | dashed
  · exact Or.inl fun empty => flags (List.append_eq_nil_iff.mp (extended ▸ empty)).1
  · refine Or.inr (Or.inl fun empty => positionals ?_)
    have shorter := h.positionals
    rw [empty] at shorter
    exact List.prefix_nil.mp shorter
  · exact Or.inr (Or.inr (h.dashed dashed))

-----------------------------------------------------------------------------------------
-- One argument
-----------------------------------------------------------------------------------------

section Switches

variable {known : List Flag} {line next : CommandLine}

/-- A flag that is given a value is marked. -/
theorem grows_assign {flag : Flag} {value : Bytes} (member : flag ∈ known)
    (h : line.assign flag value = .ok next)
    : Grows known line next ∧ next.IsMarked := by
  have added (entry : FlagValue) (same : { line with flags := line.flags ++ [(flag.name, entry)] }
      = next) : Grows known line next ∧ next.IsMarked := by
    subst same
    refine ⟨⟨⟨[(flag.name, entry)], rfl, ?_⟩, List.prefix_rfl, id⟩, Or.inl (by simp)⟩
    intro other single
    exact ⟨flag, member, congrArg Prod.fst (List.mem_singleton.mp single)⟩
  rw [assign] at h
  split at h
  · exact added _ (Except.ok.inj h)
  split at h
  · exact added _ (Except.ok.inj h)
  · exact absurd h (by simp)

variable {pending : Option Pending}

theorem grows_of_map_assign {flag : Flag} {value : Bytes} (member : flag ∈ known)
    (h : (line.assign flag value).map (·, none) = .ok (next, pending))
    : pending = none ∧ Grows known line next ∧ next.IsMarked := by
  cases assigned : line.assign flag value with
  | error fault => simp [assigned, Except.map] at h
  | ok other =>
      rw [assigned] at h
      cases h
      exact ⟨rfl, grows_assign member assigned⟩

/-- A cluster of switches is marked letter by letter, up to a rest that is passed over. -/
theorem grows_readLetters (switches : ∀ flag ∈ known, flag.kind = .switch) {letters : Bytes}
    (h : readLetters known line letters = .ok (next, pending))
    : pending = none
      ∧ Grows known line next
      ∧ (letters ≠ [] → ¬ utf8 "test." <+: letters → next.IsMarked) := by
  induction letters generalizing line with
  | nil =>
      cases h
      exact ⟨rfl, Grows.refl _ _, fun nonempty => absurd rfl nonempty⟩
  | cons letter rest ih =>
      rw [readLetters] at h
      split at h
      next passed =>
        cases h
        refine ⟨rfl, Grows.refl _ _, fun _ visible => ?_⟩
        exact absurd (List.isPrefixOf_iff_prefix.mp passed) visible
      next visible =>
        split at h
        · exact absurd h (by simp)
        next flag found =>
          have member : flag ∈ known := List.mem_of_find?_eq_some found
          split at h
          · obtain ⟨free, grows, marked⟩ := grows_of_map_assign member h
            exact ⟨free, grows, fun _ _ => marked⟩
          rw [if_pos (switches flag member)] at h
          split at h
          · exact absurd h (by simp)
          next middle assigned =>
            obtain ⟨first, marked⟩ := grows_assign member assigned
            obtain ⟨free, second, _⟩ := ih h
            exact ⟨free, first.trans second, fun _ _ => second.isMarked marked⟩

theorem grows_readLong (switches : ∀ flag ∈ known, flag.kind = .switch) {arg : Bytes}
    (h : readLong known line arg = .ok (next, pending))
    : pending = none ∧ Grows known line next ∧ next.IsMarked := by
  rw [readLong] at h
  dsimp only at h
  split at h
  · exact absurd h (by simp)
  split at h
  · exact absurd h (by simp)
  next flag found =>
    have member : flag ∈ known := List.mem_of_find?_eq_some found
    split at h
    · exact grows_of_map_assign member h
    · exact grows_of_map_assign member h
    next text =>
      rw [switches flag member] at text
      exact FlagKind.noConfusion text

/-- One argument of a command line: reading goes on behind it, or it is two dashes and ends
the reading. It marks the command line unless it is passed over.
-/
theorem readFrom_cons (switches : ∀ flag ∈ known, flag.kind = .switch) {arg : Bytes}
    {rest : List Bytes} {result : CommandLine}
    (h : readFrom known none line (arg :: rest) = .ok result)
    : ∃ next,
        Grows known line next
        ∧ (¬ IsPassedOver arg → next.IsMarked)
        ∧ (readFrom known none next rest = .ok result ∨ next = result ∧ next.IsMarked) := by
  rw [readFrom] at h
  split at h
  next positional =>
    refine ⟨{ line with positionals := line.positionals ++ [arg] },
      ⟨⟨[], by simp⟩, List.prefix_append _ _, id⟩, fun _ => ?_, Or.inl h⟩
    exact Or.inr (Or.inl (by simp))
  next flagged =>
    split at h
    · have marked : result.IsMarked := by
        cases h
        exact Or.inr (Or.inr rfl)
      refine ⟨result, ?_, fun _ => marked, Or.inr ⟨rfl, marked⟩⟩
      cases h
      exact ⟨⟨[], by simp⟩, List.prefix_append _ _, fun _ => rfl⟩
    dsimp only at h
    split at h
    · exact absurd h (by simp)
    next next pending step =>
      split at step
      · obtain ⟨rfl, grows, marked⟩ := grows_readLong switches step
        exact ⟨next, grows, fun _ => marked, Or.inl h⟩
      · obtain ⟨rfl, grows, marked⟩ := grows_readLetters switches step
        refine ⟨next, grows, fun visible => ?_, Or.inl h⟩
        -- the argument has a dash in front and is not a dash alone
        rw [isPositional, Bool.or_eq_true, decide_eq_true_eq, decide_eq_true_eq, not_or,
          not_not] at flagged
        obtain ⟨dashed, long⟩ := flagged
        obtain ⟨letters, rfl⟩ := List.head?_eq_some_iff.mp dashed
        refine marked ?_ fun passed => visible ?_
        · intro empty
          rw [List.tail_cons] at empty
          exact long (by simp [empty])
        · obtain ⟨more, same⟩ := passed
          exact ⟨more, congrArg (dash :: ·) same⟩

end Switches

-----------------------------------------------------------------------------------------
-- All arguments
-----------------------------------------------------------------------------------------

variable {known : List Flag} {line result : CommandLine} {args : List Bytes}

theorem grows_readFrom (switches : ∀ flag ∈ known, flag.kind = .switch)
    (h : readFrom known none line args = .ok result)
    : Grows known line result := by
  induction args generalizing line with
  | nil =>
      cases h
      exact Grows.refl _ _
  | cons arg rest ih =>
      obtain ⟨next, grows, _, more | ⟨rfl, _⟩⟩ := readFrom_cons switches h
      · exact grows.trans (ih more)
      · exact grows

/-- An argument that is not passed over leaves its mark, wherever it stands. -/
theorem isMarked_of_readFrom (switches : ∀ flag ∈ known, flag.kind = .switch)
    (h : readFrom known none line args = .ok result)
    (visible : ∃ arg ∈ args, ¬ IsPassedOver arg)
    : result.IsMarked := by
  induction args generalizing line with
  | nil =>
      obtain ⟨arg, member, _⟩ := visible
      exact absurd member List.not_mem_nil
  | cons arg rest ih =>
      obtain ⟨next, _, marks, more | ⟨rfl, marked⟩⟩ := readFrom_cons switches h
      · by_cases passed : IsPassedOver arg
        · obtain ⟨other, member, seen⟩ := visible
          rcases List.mem_cons.mp member with rfl | later
          · exact absurd passed seen
          · exact ih more ⟨other, later, seen⟩
        · exact (grows_readFrom switches more).isMarked (marks passed)
      · exact marked

/-- Arguments that are passed over leave the command line as it is. -/
theorem readFrom_of_passedOver (h : ∀ arg ∈ args, IsPassedOver arg)
    : readFrom known none line args = .ok line := by
  induction args with
  | nil => rfl
  | cons arg rest ih =>
      obtain ⟨more, rfl⟩ := h arg (by simp)
      exact ih fun other member => h other (by simp [member])

end IppXml.CommandLine
