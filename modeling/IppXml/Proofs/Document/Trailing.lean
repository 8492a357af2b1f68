import IppXml.Proofs.Document.Outcomes
import IppXml.Proofs.Xml.Extent
import IppXml.Proofs.Xml.WellFormed

/-! What may follow a document.

The decoder leaves its input at the tag that ends the root, so it accepts a document with
anything behind it, markup or not. Format errors are about what stands in front of that tag:
there is one exactly if no beginning of the input ends with the tag of a root.
-/

namespace IppXml

open Xml.Node (EndsWithRoot)

/-- Decoding sees no more of the input than its root. -/
theorem Document.decode_eq_of_read? (set : InstructionSet) {input other : Bytes}
    (h : Xml.Node.read? input = Xml.Node.read? other)
    : Document.decode set input = Document.decode set other := by
  rw [Document.decode, Document.decode, RawProgram.read?, RawProgram.read?, h]

/-- A failure in the shape of a document is no format error. -/
theorem Failure.IsShape.isKind_format {e : Error} (h : (Failure.error e).IsShape)
    : e.isKind .format = false := by
  obtain ⟨fault, same⟩ := h
  cases same
  rfl

/-- Input is a format error exactly if it has no root. -/
theorem Document.isKind_format_iff (set : InstructionSet) (input : Bytes)
    : (∃ e, Document.decode set input = .error (.error e) ∧ e.isKind .format = true)
      ↔ Xml.Node.read? input = none := by
  constructor
  · rintro ⟨e, failed, format⟩
    cases read : Xml.Node.read? input with
    | none => rfl
    | some root =>
        have raw : RawProgram.read? input = some (RawProgram.ofNode root) := by
          rw [RawProgram.read?, read, Option.map_some]
        rw [Document.decode_of_read? set raw] at failed
        rcases RawProgram.toDocument_eq_error failed with shape | ⟨defect, _⟩
        · rw [shape.isKind_format] at format
          exact Bool.noConfusion format
        · exact Failure.noConfusion defect
  · intro unreadable
    have raw : RawProgram.read? input = none := by
      rw [RawProgram.read?, unreadable, Option.map_none]
    exact ⟨_, Document.decode_of_unreadable set raw, rfl⟩

/-- Decoding stops at the tag that ends the root. Whatever follows the tag, the outcome is the
same; and the input is a format error exactly if no beginning of it ends with such a tag.
-/
theorem Document.decode_stops_at_root (set : InstructionSet) (input : Bytes)
    : (∀ root,
        EndsWithRoot input root
        → ∀ more, Document.decode set (input ++ more) = Document.decode set input)
      ∧ ((∃ e, Document.decode set input = .error (.error e) ∧ e.isKind .format = true)
        ↔ ∀ front tail root, input = front ++ tail → ¬ EndsWithRoot front root) := by
  constructor
  · intro root ends more
    apply Document.decode_eq_of_read?
    rw [Xml.Node.read?_append more ends.read, ends.read]
  · rw [Document.isKind_format_iff, Option.eq_none_iff_forall_ne_some]
    constructor
    · intro rootless front tail root same ends
      exact rootless root (Xml.Node.read?_eq_some_iff.mpr ⟨front, tail, same, ends⟩)
    · intro endless root read
      obtain ⟨front, tail, same, ends⟩ := Xml.Node.read?_eq_some_iff.mp read
      exact endless front tail root same ends

/-- A document without instructions. -/
def bareText : Bytes :=
  "<program language='IPPcode24'></program>"

/-- What cannot stand behind the root of a well-formed document: a text, an end tag and a second
root.
-/
def trailingTexts : List Bytes :=
  ["text", "</program>", "<program/>"]

/-- A document is accepted with a text, a stray end tag or a second root behind it. -/
theorem decode_bareText_append
    : (∃ root, EndsWithRoot bareText root)
      ∧ Document.decode ippcode24 bareText = .ok (.empty "IPPcode24")
      ∧ ∀ tail ∈ trailingTexts,
          (Xml.markup tail).all Xml.Markup.isMisc = false
          ∧ Document.decode ippcode24 (bareText ++ tail) = .ok (.empty "IPPcode24") := by
  refine ⟨?_, by decide +kernel, by decide +kernel⟩
  have read : (Xml.Node.read? bareText).isSome = true := by decide +kernel
  have last : (Xml.Node.ofMarkup? (Xml.markup bareText).dropLast).isNone = true := by
    decide +kernel
  obtain ⟨root, found⟩ := Option.isSome_iff_exists.mp read
  exact ⟨root, found, Option.isNone_iff_eq_none.mp last⟩

end IppXml
