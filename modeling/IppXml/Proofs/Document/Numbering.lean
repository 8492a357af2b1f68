import IppXml.Proofs.Document.NormalForm
import IppXml.Proofs.Session.Runs

/-! The order numbers of documents that instructions are added to.

An instruction that is added gets its place as its order, while a decoded document keeps the
orders it was written with, which may have gaps. Nothing that is stored changes, and orders
stay positive. They keep increasing exactly if the document was numbered by place before, and
stay different exactly if none of its orders is a place that is filled later.
-/

namespace IppXml

namespace Document

/-- The order numbers of a document, in the sequence of its instructions. -/
def orders (doc : Document) : List Int :=
  doc.instructions.map Instruction.order

instance (doc : Document) : Decidable doc.IsNumbered :=
  inferInstanceAs (Decidable (doc.orders = _))

/-- Adds instructions one after the other. -/
def pushAll (doc : Document) (more : List Instruction) : Document :=
  more.foldl push doc

/-- Documents before instructions are added to them: an empty one, or one that was decoded. -/
inductive Begun : Document → Prop
  | empty (language : Bytes) : Begun (.empty language)
  | decoded {set : InstructionSet} {input : Bytes} {doc : Document}
    (accepted : Document.decode set input = .ok doc)
    : Begun doc

-----------------------------------------------------------------------------------------
-- Added instructions
-----------------------------------------------------------------------------------------

@[simp] theorem length_orders (doc : Document)
    : doc.orders.length = doc.size := by
  simp [orders, size]

theorem orders_push (doc : Document) (i : Instruction)
    : (doc.push i).orders = doc.orders ++ [(doc.size : Int) + 1] := by
  simp [orders, numbered]

theorem pushAll_append (doc : Document) (more later : List Instruction)
    : doc.pushAll (more ++ later) = (doc.pushAll more).pushAll later := by
  rw [pushAll, List.foldl_append]
  rfl

/-- What is stored stays where it is, by induction over the instructions added. -/
theorem prefix_pushAll (doc : Document) (more : List Instruction)
    : doc.instructions <+: (doc.pushAll more).instructions := by
  induction more generalizing doc with
  | nil => exact List.prefix_refl _
  | cons i more ih =>
      have stored : doc.instructions <+: (doc.push i).instructions := by
        rw [instructions_push]
        exact List.prefix_append _ _
      exact stored.trans (ih (doc.push i))

/-- Instructions are numbered by the places they get, by induction over them. -/
theorem orders_pushAll (doc : Document) (more : List Instruction)
    : (doc.pushAll more).orders
      = doc.orders ++ (List.range' (doc.size + 1) more.length).map Int.ofNat := by
  induction more generalizing doc with
  | nil => simp [pushAll]
  | cons i more ih =>
      have first : (doc.push i).pushAll more = doc.pushAll (i :: more) := rfl
      rw [← first, ih, orders_push, size_push, List.length_cons, List.range'_succ]
      simp

theorem mem_places {first count : Nat} {n : Int}
    : n ∈ (List.range' first count).map Int.ofNat ↔ first ≤ n ∧ n < first + count := by
  rw [List.mem_map]
  constructor
  · intro given
    obtain ⟨place, inside, rfl⟩ := given
    rw [List.mem_range'_1] at inside
    simp only [Int.ofNat_eq_natCast]
    omega
  · intro bounds
    refine ⟨n.toNat, ?_, ?_⟩
    · rw [List.mem_range'_1]
      omega
    · simp only [Int.ofNat_eq_natCast]
      omega

theorem pairwise_places (first count : Nat)
    : ((List.range' first count).map Int.ofNat).Pairwise (· < ·) := by
  have increasing : (List.range' first count).Pairwise (· < ·) := List.pairwise_lt_range'
  exact List.pairwise_map.mpr (increasing.imp Int.ofNat_lt.mpr)

-----------------------------------------------------------------------------------------
-- Documents that are numbered by place
-----------------------------------------------------------------------------------------

theorem isNumbered_empty (language : Bytes)
    : (empty language).IsNumbered := by
  rfl

/-- Orders that count from one go on to do so, by induction over the instructions added. -/
theorem IsNumbered.pushAll {doc : Document} (h : doc.IsNumbered) (more : List Instruction)
    : (doc.pushAll more).IsNumbered := by
  induction more generalizing doc with
  | nil => exact h
  | cons i more ih => exact ih (isNumbered_push h i)

theorem IsNumbered.increasing {doc : Document} (h : doc.IsNumbered)
    : doc.orders.Pairwise (· < ·) := by
  rw [orders, h]
  exact pairwise_places _ _

/-- Increasing numbers that fit into so many places fill them, by induction over the numbers:
each is at least its place, and there is no room above.
-/
theorem eq_places_of_increasing {numbers : List Int} {first : Nat}
    (low : ∀ n ∈ numbers, (first : Int) ≤ n)
    (high : ∀ n ∈ numbers, n < first + numbers.length)
    (increasing : numbers.Pairwise (· < ·))
    : numbers = (List.range' first numbers.length).map Int.ofNat := by
  induction numbers generalizing first with
  | nil => rfl
  | cons n numbers ih =>
      obtain ⟨above, rest⟩ := List.pairwise_cons.mp increasing
      rw [List.forall_mem_cons] at low high
      have tail : numbers = (List.range' (first + 1) numbers.length).map Int.ofNat := by
        refine ih ?_ ?_ rest
        · intro m member
          have less := above m member
          omega
        · intro m member
          have bound := high.2 m member
          rw [List.length_cons] at bound
          omega
      have head : n = first := by
        cases numbers with
        | nil =>
            have bound := high.1
            simp only [List.length_cons, List.length_nil] at bound
            omega
        | cons m numbers =>
            rw [List.length_cons, List.range'_succ, List.map_cons] at tail
            have next : m = Int.ofNat (first + 1) := (List.cons.inj tail).1
            have less := above m (by simp)
            simp only [Int.ofNat_eq_natCast] at next
            omega
      rw [List.length_cons, List.range'_succ, List.map_cons, ← tail, head]
      rfl

-----------------------------------------------------------------------------------------
-- Documents with gaps
-----------------------------------------------------------------------------------------

/-- A document begins with positive and increasing orders. -/
theorem Begun.orders_increasing {doc : Document} (h : doc.Begun)
    : (∀ n ∈ doc.orders, 1 ≤ n) ∧ doc.orders.Pairwise (· < ·) := by
  cases h with
  | empty language => exact ⟨fun _ member => absurd member List.not_mem_nil, .nil⟩
  | decoded accepted =>
      have normal := Document.isNormal_of_decode accepted
      refine ⟨?_, List.pairwise_map.mpr normal.sorted⟩
      intro n member
      obtain ⟨i, inside, rfl⟩ := List.mem_map.mp member
      exact (normal.instructions i inside).order.1

/-- Added instructions keep the orders increasing exactly if the document is numbered by
place: the first of them has to be behind all others.
-/
theorem increasing_pushAll_iff {doc : Document} {more : List Instruction}
    (positive : ∀ n ∈ doc.orders, 1 ≤ n) (increasing : doc.orders.Pairwise (· < ·))
    : (doc.pushAll more).orders.Pairwise (· < ·) ↔ more = [] ∨ doc.IsNumbered := by
  constructor
  · intro ordered
    cases more with
    | nil => exact Or.inl rfl
    | cons i more =>
        rw [orders_pushAll, List.pairwise_append] at ordered
        have first : (doc.size : Int) + 1
            ∈ (List.range' (doc.size + 1) (i :: more).length).map Int.ofNat := by
          rw [mem_places, List.length_cons]
          omega
        have inside : ∀ n ∈ doc.orders, n < (1 : Nat) + doc.orders.length := by
          intro n member
          have less := ordered.2.2 n member _ first
          rw [length_orders]
          omega
        have full := eq_places_of_increasing positive inside increasing
        rw [length_orders] at full
        exact Or.inr full
  · rintro (rfl | numbered)
    · exact increasing
    · exact (numbered.pushAll more).increasing

/-- Added instructions keep the orders different exactly if none of the orders before is one
of the places that they get.
-/
theorem nodup_pushAll_iff {doc : Document} {more : List Instruction}
    (increasing : doc.orders.Pairwise (· < ·))
    : (doc.pushAll more).orders.Nodup
      ↔ ∀ n ∈ doc.orders, ¬ (doc.size < n ∧ n ≤ doc.size + more.length) := by
  have before : doc.orders.Nodup := increasing.imp Int.ne_of_lt
  have added : ((List.range' (doc.size + 1) more.length).map Int.ofNat).Nodup :=
    (pairwise_places _ _).imp Int.ne_of_lt
  rw [orders_pushAll, List.nodup_append]
  constructor
  · intro given n member bounds
    refine given.2.2 n member n ?_ rfl
    rw [mem_places]
    omega
  · intro apart
    refine ⟨before, added, ?_⟩
    intro n member m place same
    subst same
    rw [mem_places] at place
    exact apart n member (by omega)

/-- The orders of a document that was begun, empty or decoded, and that instructions were
added to. They are positive, and nothing that was stored has changed at any time. Where each
instruction had its place as its order, as in an empty document, the orders increase. Where a
decoded document has gaps, its orders increase only as long as nothing is added, and no order
occurs twice exactly if none of them is the place of an instruction added.
-/
theorem orders_of_begun {doc : Document} (begun : doc.Begun) (more : List Instruction)
    : (∀ n ∈ (doc.pushAll more).orders, 1 ≤ n)
      ∧ (∀ earlier later,
          more = earlier ++ later
          → (doc.pushAll earlier).instructions <+: (doc.pushAll more).instructions)
      ∧ ((doc.pushAll more).orders.Pairwise (· < ·) ↔ more = [] ∨ doc.IsNumbered)
      ∧ ((doc.pushAll more).orders.Nodup
        ↔ ∀ n ∈ doc.orders, ¬ (doc.size < n ∧ n ≤ doc.size + more.length))
      ∧ ∀ language, doc = .empty language → doc.IsNumbered := by
  obtain ⟨positive, increasing⟩ := begun.orders_increasing
  refine ⟨?_, ?_, increasing_pushAll_iff positive increasing, nodup_pushAll_iff increasing, ?_⟩
  · intro n member
    rw [orders_pushAll, List.mem_append, mem_places] at member
    rcases member with stored | added
    · exact positive n stored
    · omega
  · rintro earlier later rfl
    rw [pushAll_append]
    exact prefix_pushAll _ later
  · rintro language rfl
    exact isNumbered_empty language

end Document

/-- The loose document has a gap in front of its only order. Three more instructions leave it
in front of smaller orders, but none of them gets the same.
-/
theorem orders_of_begun_looseDocument
    : looseDocument.Begun
      ∧ (looseDocument.pushAll (List.replicate 3 ⟨0, "BREAK", []⟩)).orders.Nodup
      ∧ ¬ (looseDocument.pushAll (List.replicate 3 ⟨0, "BREAK", []⟩)).orders.Pairwise (· < ·) := by
  have decoded : Document.decode ippcode24 looseText = .ok looseDocument := by decide +kernel
  have begun : looseDocument.Begun := .decoded decoded
  obtain ⟨_, _, increase, differ, _⟩ :=
    Document.orders_of_begun begun (List.replicate 3 ⟨0, "BREAK", []⟩)
  refine ⟨begun, differ.mpr (by decide), ?_⟩
  rw [increase]
  exact not_or.mpr ⟨by simp, by decide⟩

/-- A document with a single instruction that is numbered two. -/
def gapText : Bytes :=
  "<program language='IPPcode24'><instruction order='2' opcode='BREAK'/></program>"

/-- What the document with the gap says. -/
def gapDocument : Document :=
  { language := "IPPcode24", instructions := [{ order := 2, opcode := "BREAK", args := [] }] }

/-- An instruction that is added to a decoded document can repeat one of its orders. -/
theorem push_repeats_order
    : Document.decode ippcode24 gapText = .ok gapDocument
      ∧ (gapDocument.push ⟨0, "BREAK", []⟩).orders = [2, 2]
      ∧ ¬ (gapDocument.push ⟨0, "BREAK", []⟩).orders.Nodup := by
  have decoded : Document.decode ippcode24 gapText = .ok gapDocument := by decide +kernel
  exact ⟨decoded, by decide, by decide⟩

end IppXml
