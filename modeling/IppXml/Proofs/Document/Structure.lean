import IppXml.Proofs.Document.NormalForm
import Mathlib.Data.List.Nodup

/-! The structure that documents have to have.

`RawProgram.IsDeclared` says which raw programs are documents of an instruction set, without
the checks of the decoder and their sequence: names, numbers and arguments as a reader of the
format would list them. The decoder accepts exactly these, and what it returns holds one
instruction for each element, by their orders.
-/

namespace IppXml

-----------------------------------------------------------------------------------------
-- The declared structure
-----------------------------------------------------------------------------------------

/-- Between its blanks, the order attribute is an optional sign and digits of the number,
which is positive and has 64 bits.
-/
def RawInstruction.HasOrder (raw : RawInstruction) (n : Int) : Prop :=
  SpellsInteger (trim raw.order) n ∧ 1 ≤ n ∧ n ≤ 0x7FFFFFFFFFFFFFFF

/-- The elements are, in some sequence, those of all positions once each, and each has a type
and, between its blanks, a value of that type.
-/
structure RawInstruction.HasArguments (raw : RawInstruction) (arity : Nat) : Prop where
  names
    : (raw.args.map RawArgument.name).Perm
        ((List.range' 1 arity).map fun (position : Nat) => argumentElement position)
  typed : ∀ a ∈ raw.args, a.type ≠ []
  valid : ∀ a ∈ raw.args, ∀ position, (a.toArgument position).isValid = true

/-- The element is an instruction of the set. -/
structure RawInstruction.IsDeclared (set : InstructionSet) (raw : RawInstruction) : Prop where
  name : raw.name = "instruction"
  order : ∃ n, raw.HasOrder n
  arguments
    : ∃ signature,
        set.lookup? (upper raw.opcode) = some signature ∧ raw.HasArguments signature.length

/-- The root is a program of the set, and the orders of its instructions are different
numbers.
-/
structure RawProgram.IsDeclared (set : InstructionSet) (raw : RawProgram) : Prop where
  name : raw.name = "program"
  language : raw.language = set.name
  children : ∀ child ∈ raw.children, child.IsDeclared set
  orders
    : raw.children.Pairwise fun x y => ∀ m n, x.HasOrder m → y.HasOrder n → m ≠ n

/-- The instruction is what the element describes: each argument has the type and the trimmed
text of the element with its position, and all positions are there in sequence.
-/
structure RawInstruction.Describes (set : InstructionSet) (raw : RawInstruction)
    (i : Instruction) : Prop where
  order : raw.HasOrder i.order
  opcode : i.opcode = upper raw.opcode
  positions
    : ∃ signature,
        set.lookup? i.opcode = some signature
        ∧ i.args.map Argument.position = (List.range' 1 signature.length).map Int.ofNat
  args
    : ∀ a ∈ i.args,
        ∃ element ∈ raw.args,
          element.name = argumentElement a.position
          ∧ a.type = element.type
          ∧ a.value = trim element.text

-----------------------------------------------------------------------------------------
-- Lists in step with each other
-----------------------------------------------------------------------------------------

section InStep

variable {α β : Type} {R : α → β → Prop} {xs : List α} {ys : List β}

theorem exists_forall₂ (h : ∀ x ∈ xs, ∃ y, R x y)
    : ∃ ys, List.Forall₂ R xs ys := by
  induction xs with
  | nil => exact ⟨[], .nil⟩
  | cons x xs ih =>
      obtain ⟨y, related⟩ := h x (by simp)
      obtain ⟨ys, rest⟩ := ih fun other member => h other (by simp [member])
      exact ⟨y :: ys, .cons related rest⟩

theorem exists_of_forall₂_left {x : α} (h : List.Forall₂ R xs ys) (member : x ∈ xs)
    : ∃ y ∈ ys, R x y :=
  exists_of_forall₂_right h.flip member

/-- What holds between any two of a list holds in another form between any two of a list in
step with it.
-/
theorem pairwise_of_forall₂ {P : α → α → Prop} {Q : β → β → Prop}
    (h : List.Forall₂ R xs ys) (pairwise : xs.Pairwise P)
    (transfer : ∀ {x x' y y'}, R x y → R x' y' → P x x' → Q y y')
    : ys.Pairwise Q := by
  induction h with
  | nil => exact .nil
  | cons related rest ih =>
      obtain ⟨first, others⟩ := List.pairwise_cons.mp pairwise
      refine .cons ?_ (ih others)
      intro y member
      obtain ⟨x, inside, held⟩ := exists_of_forall₂_right rest member
      exact transfer related held (first x inside)

end InStep

-----------------------------------------------------------------------------------------
-- Arguments
-----------------------------------------------------------------------------------------

theorem argumentElement_injective
    : Function.Injective argumentElement :=
  fun _ _ same => decimal_injective (List.append_cancel_left same)

theorem argumentPosition?_eq_some {name : Bytes} {position : Nat}
    : argumentPosition? name = some position
      ↔ (1 ≤ position ∧ position ≤ maxArguments) ∧ name = argumentElement position := by
  constructor
  · intro found
    have named := List.find?_some found
    exact ⟨argumentPosition?_bounds found, (of_decide_eq_true named).symm⟩
  · intro given
    obtain ⟨⟨low, high⟩, rfl⟩ := given
    exact argumentPosition?_argumentElement low high

theorem RawArgument.Holds.name_eq {arity : Nat} {raw : RawArgument} {a : Argument}
    (h : raw.Holds arity a)
    : raw.name = argumentElement a.position := by
  obtain ⟨position, named, _, rfl, _⟩ := h
  exact (argumentPosition?_eq_some.mp named).2

/-- Elements are named after the positions of the arguments they hold. -/
theorem map_name_of_holds {arity : Nat} {raws : List RawArgument} {found : List Argument}
    (h : List.Forall₂ (RawArgument.Holds arity) raws found)
    : raws.map RawArgument.name = (found.map Argument.position).map argumentElement := by
  rw [List.map_map, ← List.forall₂_eq_eq_eq, List.forall₂_map_left_iff,
    List.forall₂_map_right_iff]
  exact h.imp fun _ _ holds => holds.name_eq

theorem nodup_positions (arity : Nat)
    : ((List.range' 1 arity).map Int.ofNat).Nodup :=
  List.Nodup.map (fun _ _ same => Int.ofNat.inj same) List.nodup_range'

/-- The names of all positions are those of elements that hold one argument for each
position.
-/
theorem perm_position_of_found {arity : Nat} {raws : List RawArgument}
    {found args : List Argument} (held : List.Forall₂ (RawArgument.Holds arity) raws found)
    (distinct : found.Pairwise fun a b => a.position ≠ b.position)
    (complete : List.Forall₂
      (fun (position : Nat) a => found.find? (·.position = (position : Int)) = some a)
      (List.range' 1 arity) args)
    : (found.map Argument.position).Perm ((List.range' 1 arity).map Int.ofNat) := by
  refine (List.perm_ext_iff_of_nodup (List.pairwise_map.mpr distinct)
    (nodup_positions arity)).mpr ?_
  intro place
  constructor
  · intro member
    obtain ⟨a, inside, rfl⟩ := List.mem_map.mp member
    obtain ⟨raw, _, position, named, bound, rfl, _⟩ := exists_of_forall₂_right held inside
    refine List.mem_map.mpr ⟨position, ?_, rfl⟩
    have low := (argumentPosition?_bounds named).1
    rw [List.mem_range'_1]
    omega
  · intro member
    obtain ⟨position, inside, rfl⟩ := List.mem_map.mp member
    obtain ⟨a, _, first⟩ := exists_of_forall₂_left complete inside
    have named := List.find?_some first
    exact List.mem_map.mpr
      ⟨a, List.mem_of_find?_eq_some first, of_decide_eq_true named⟩

/-- The checks of an instruction's elements find all arguments exactly if the elements are
those declared. Only so many elements have names as are told apart.
-/
theorem RawInstruction.hasArguments_iff {raw : RawInstruction} {arity : Nat}
    (few : arity ≤ maxArguments)
    : raw.HasArguments arity
      ↔ ∃ found args,
          List.Forall₂ (RawArgument.Holds arity) raw.args found
          ∧ found.Pairwise (fun a b => a.position ≠ b.position)
          ∧ List.Forall₂
              (fun (position : Nat) a => found.find? (·.position = (position : Int)) = some a)
              (List.range' 1 arity) args := by
  constructor
  · intro declared
    have holds : ∀ a ∈ raw.args, ∃ arg, a.Holds arity arg := by
      intro a member
      have listed := declared.names.mem_iff.mp (List.mem_map_of_mem member)
      obtain ⟨position, inside, named⟩ := List.mem_map.mp listed
      rw [List.mem_range'_1] at inside
      have known := argumentPosition?_eq_some.mpr ⟨⟨inside.1, by omega⟩, named.symm⟩
      exact ⟨_, position, known, by omega, rfl, declared.valid a member position⟩
    obtain ⟨found, held⟩ := exists_forall₂ holds
    have names := declared.names
    rw [map_name_of_holds held] at names
    have unique := List.Nodup.map argumentElement_injective (nodup_positions arity)
    rw [List.map_map] at unique
    have distinct := List.Nodup.of_map _ (names.nodup_iff.mpr unique)
    have complete : ∀ position ∈ List.range' 1 arity,
        ∃ a, found.find? (·.position = (position : Int)) = some a := by
      intro position inside
      have listed := names.mem_iff.mpr (List.mem_map_of_mem inside)
      obtain ⟨place, known, same⟩ := List.mem_map.mp listed
      obtain ⟨a, member, rfl⟩ := List.mem_map.mp known
      rw [← Option.isSome_iff_exists, List.find?_isSome]
      exact ⟨a, member, decide_eq_true (argumentElement_injective same)⟩
    obtain ⟨args, all⟩ := exists_forall₂ complete
    exact ⟨found, args, held, List.pairwise_map.mp distinct, all⟩
  · intro given
    obtain ⟨found, args, held, distinct, complete⟩ := given
    have valid : ∀ a ∈ raw.args, ∀ position, (a.toArgument position).isValid = true := by
      intro a member position
      obtain ⟨arg, _, place, _, _, rfl, valid⟩ := exists_of_forall₂_left held member
      exact valid
    refine ⟨?_, fun a member => Argument.type_ne_nil_of_isValid (valid a member 1), valid⟩
    rw [map_name_of_holds held]
    refine ((perm_position_of_found held distinct complete).map argumentElement).trans ?_
    rw [List.map_map]
    exact .refl _

-----------------------------------------------------------------------------------------
-- Instructions
-----------------------------------------------------------------------------------------

theorem RawInstruction.hasOrder_iff {raw : RawInstruction} {n : Int}
    : raw.HasOrder n ↔ readInteger? (trim raw.order) = some n ∧ 1 ≤ n := by
  rw [RawInstruction.HasOrder, readInteger?_eq_some, inInt64, Bool.and_eq_true,
    decide_eq_true_eq, decide_eq_true_eq]
  constructor
  · intro given
    exact ⟨⟨given.1, by omega, by omega⟩, given.2.1⟩
  · intro given
    exact ⟨given.1.1, given.2, by omega⟩

/-- An attribute gives one order at most. -/
theorem RawInstruction.HasOrder.unique {raw : RawInstruction} {m n : Int}
    (h : raw.HasOrder m) (h' : raw.HasOrder n)
    : m = n := by
  have read := (RawInstruction.hasOrder_iff.mp h).1
  rw [(RawInstruction.hasOrder_iff.mp h').1] at read
  exact (Option.some.inj read).symm

/-- An element holds an instruction exactly if it is declared. -/
theorem RawInstruction.isDeclared_iff {set : InstructionSet} {raw : RawInstruction}
    (narrow : ∀ entry ∈ set.entries, entry.2.length ≤ maxArguments)
    : raw.IsDeclared set ↔ ∃ i, raw.Holds set i := by
  have few {opcode : Bytes} {signature : Signature}
      (known : set.lookup? opcode = some signature) : signature.length ≤ maxArguments :=
    narrow _ (InstructionSet.mem_of_lookup? known)
  constructor
  · intro declared
    obtain ⟨name, ⟨n, order⟩, signature, known, arguments⟩ := declared
    obtain ⟨found, args, held, distinct, complete⟩ :=
      (hasArguments_iff (few known)).mp arguments
    exact ⟨{ order := n, opcode := upper raw.opcode, args }, {
      name,
      order := hasOrder_iff.mp order,
      opcode := rfl,
      args := ⟨signature, found, known, held, distinct, complete⟩ }⟩
  · intro given
    obtain ⟨i, holds⟩ := given
    obtain ⟨signature, found, known, held, distinct, complete⟩ := holds.args
    exact {
      name := holds.name,
      order := ⟨i.order, hasOrder_iff.mpr holds.order⟩,
      arguments := ⟨signature, holds.opcode ▸ known,
        (hasArguments_iff (few known)).mpr ⟨found, i.args, held, distinct, complete⟩⟩ }

theorem RawInstruction.Holds.describes {set : InstructionSet} {raw : RawInstruction}
    {i : Instruction} (h : raw.Holds set i)
    : raw.Describes set i := by
  obtain ⟨signature, found, known, held, _, complete⟩ := h.args
  refine {
    order := hasOrder_iff.mpr h.order,
    opcode := h.opcode,
    positions := ⟨signature, known, map_position_of_find? complete⟩,
    args := ?_ }
  intro a member
  obtain ⟨place, _, first⟩ := exists_of_forall₂_right complete member
  obtain ⟨element, inside, holds⟩ :=
    exists_of_forall₂_right held (List.mem_of_find?_eq_some first)
  have named := holds.name_eq
  obtain ⟨position, _, _, rfl, _⟩ := holds
  exact ⟨element, inside, named, rfl, rfl⟩

-----------------------------------------------------------------------------------------
-- Programs
-----------------------------------------------------------------------------------------

/-- A raw program is a document exactly if it is declared. -/
theorem RawProgram.isDeclared_iff {set : InstructionSet} {raw : RawProgram}
    (narrow : ∀ entry ∈ set.entries, entry.2.length ≤ maxArguments)
    : raw.IsDeclared set ↔ ∃ doc, raw.toDocument set = .ok doc := by
  constructor
  · intro declared
    obtain ⟨instructions, held⟩ := exists_forall₂ fun child member =>
      (RawInstruction.isDeclared_iff narrow).mp (declared.children child member)
    have distinct : instructions.Pairwise fun i j => i.order ≠ j.order := by
      refine pairwise_of_forall₂ held declared.orders ?_
      intro x y i j holds holds' differ
      exact differ _ _ holds.describes.order holds'.describes.order
    exact ⟨_, RawProgram.toDocument_eq_ok.mpr
      ⟨declared.name, declared.language, instructions, held, distinct, rfl⟩⟩
  · intro given
    obtain ⟨doc, checked⟩ := given
    obtain ⟨name, language, instructions, held, distinct, _⟩ :=
      RawProgram.toDocument_eq_ok.mp checked
    refine ⟨name, language, ?_, ?_⟩
    · intro child member
      obtain ⟨i, _, holds⟩ := exists_of_forall₂_left held member
      exact (RawInstruction.isDeclared_iff narrow).mpr ⟨i, holds⟩
    · refine pairwise_of_forall₂ held.flip distinct ?_
      intro i j x y holds holds' differ m n order order' same
      apply differ
      rw [holds.describes.order.unique order, holds'.describes.order.unique order', same]

/-- The decoder accepts exactly the declared structure, and its document lists what the
elements describe: one instruction for each, in the sequence of their orders.
-/
theorem Document.decode_iff_isDeclared {set : InstructionSet} {input : Bytes}
    {raw : RawProgram} (narrow : ∀ entry ∈ set.entries, entry.2.length ≤ maxArguments)
    (read : RawProgram.read? input = some raw)
    : ((∃ doc, Document.decode set input = .ok doc) ↔ raw.IsDeclared set)
      ∧ ∀ doc,
          Document.decode set input = .ok doc
          → doc.language = set.name
            ∧ doc.instructions.Pairwise (fun i j => i.order < j.order)
            ∧ ∃ described,
                List.Forall₂ (RawInstruction.Describes set) raw.children described
                ∧ doc.instructions.Perm described := by
  have decoded (doc : Document)
      : Document.decode set input = .ok doc ↔ raw.toDocument set = .ok doc := by
    rw [Document.decode_eq_ok]
    simp [read]
  refine ⟨?_, ?_⟩
  · rw [RawProgram.isDeclared_iff narrow]
    exact exists_congr decoded
  · intro doc accepted
    have normal := Document.isNormal_of_decode accepted
    obtain ⟨_, _, instructions, held, _, rfl⟩ :=
      RawProgram.toDocument_eq_ok.mp ((decoded doc).mp accepted)
    exact ⟨rfl, normal.sorted, instructions, held.imp fun _ _ holds => holds.describes,
      sortBy_perm _ _⟩

/-- The elements of the loose document. -/
def looseRaw : RawProgram :=
  {
    name := "program",
    language := "IPPcode24",
    children :=
      [
        {
          name := "instruction",
          order := "+07",
          opcode := "Not",
          args := [⟨"arg2", "bool", "true\n"⟩, ⟨"arg1", "var", "GF@x"⟩]
        }
      ]
  }

theorem decode_iff_isDeclared_looseText
    : RawProgram.read? looseText = some looseRaw
      ∧ looseRaw.IsDeclared ippcode24
      ∧ Document.decode ippcode24 looseText = .ok looseDocument
      ∧ ∃ described,
          List.Forall₂ (RawInstruction.Describes ippcode24) looseRaw.children described
          ∧ looseDocument.instructions.Perm described := by
  have narrow : ∀ entry ∈ ippcode24.entries, entry.2.length ≤ maxArguments := by
    decide +kernel
  have read : RawProgram.read? looseText = some looseRaw := by decide +kernel
  have decoded : Document.decode ippcode24 looseText = .ok looseDocument := by decide +kernel
  obtain ⟨accepts, lists⟩ := Document.decode_iff_isDeclared narrow read
  exact ⟨read, accepts.mp ⟨_, decoded⟩, decoded, (lists _ decoded).2.2⟩

end IppXml
