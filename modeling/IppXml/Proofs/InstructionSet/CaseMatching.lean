import IppXml.Ippcode24
import IppXml.Proofs.Document.Structure
import IppXml.Proofs.Instruction.Spelling

/-! Opcodes as they are written.

Opcodes are compared in upper case, and the upper case of a character outside of ASCII can be
an ASCII letter: that of the long s is an S and that of the dotless i is an I. There are no
others. Main statement: the texts that match an opcode of IPPcode24 are those that differ from
it in the case of ASCII letters only, once these two characters are read as S and I.
-/

namespace IppXml

open IppXml.Text

/-- The byte in upper case if it is an ASCII letter. -/
def asciiUpper (b : UInt8) : UInt8 :=
  if 0x61 ≤ b && b ≤ 0x7A then b - 0x20 else b

/-- The texts have the same number of bytes, and differ in the case of ASCII letters only. -/
def SameButCase (text other : Bytes) : Prop :=
  text.map asciiUpper = other.map asciiUpper

instance (text other : Bytes) : Decidable (SameButCase text other) :=
  inferInstanceAs (Decidable (text.map asciiUpper = other.map asciiUpper))

/-- The character, with an S for a long s and an I for a dotless i. -/
def plainLetter (c : Char) : Char :=
  if c = 'ſ' then 'S' else if c = 'ı' then 'I' else c

/-- The text, with an S for each long s and an I for each dotless i. -/
def plainLetters (text : Bytes) : Bytes :=
  ofChars ((chars text).map plainLetter)

-----------------------------------------------------------------------------------------
-- Characters with an ASCII character for their upper case
-----------------------------------------------------------------------------------------

/-- The runs that lead into ASCII are those of the letters, of the dotless i and of the long
s.
-/
theorem upperRuns_ascii
    : upperRuns.all (fun run =>
        0x80 ≤ run.target || run.hi < 0x80 || (run.lo == 0x131 && run.hi == 0x131)
          || (run.lo == 0x17F && run.hi == 0x17F))
      = true := by
  decide +kernel

theorem mapCode_ascii
    : ∀ n < 0x80, mapCode upperRuns n = (asciiUpper (UInt8.ofNat n)).toNat := by
  decide +kernel

/-- Only ASCII characters, the dotless i and the long s have an ASCII upper case. -/
theorem code_of_mapCode_ascii {n : Nat} (h : mapCode upperRuns n < 0x80)
    : n < 0x80 ∨ n = 0x131 ∨ n = 0x17F := by
  rcases mapCode_cases n with ⟨same, _⟩ | ⟨run, member, covered, moved⟩
  · exact Or.inl (same ▸ h)
  · have led := List.all_eq_true.mp upperRuns_ascii run member
    simp only [CaseRun.covers, Bool.or_eq_true, Bool.and_eq_true, decide_eq_true_eq,
      beq_iff_eq] at led covered
    omega

theorem asciiUpper_lt {b : UInt8}
    : asciiUpper b < 0x80 ↔ b < 0x80 := by
  rw [asciiUpper]
  split
  · next letter =>
      simp only [Bool.and_eq_true, decide_eq_true_eq, UInt8.le_iff_toNat_le,
        UInt8.reduceToNat] at letter
      simp only [UInt8.lt_iff_toNat_lt, UInt8.toNat_sub, UInt8.reduceToNat]
      omega
  · exact Iff.rfl

theorem ofNat_lt_ascii {n : Nat} (h : n < 0x80)
    : UInt8.ofNat n < 0x80 := by
  rw [UInt8.lt_iff_toNat_lt, UInt8.toNat_ofNat']
  exact Nat.lt_of_le_of_lt (Nat.mod_le _ _) h

/-- If the plain letter is in ASCII, the upper case is its ASCII upper case. -/
theorem toNat_upperChar_of_plainLetter {c : Char} (h : (plainLetter c).toNat < 0x80)
    : (upperChar c).toNat = (asciiUpper (UInt8.ofNat (plainLetter c).toNat)).toNat := by
  rw [toNat_upperChar]
  rw [plainLetter] at h ⊢
  split at h
  · next long =>
      subst long
      decide +kernel
  split at h
  · next dotless =>
      subst dotless
      decide +kernel
  · next short dotted =>
      rw [if_neg short, if_neg dotted]
      exact mapCode_ascii c.toNat h

/-- The upper case of a character is in ASCII exactly if its plain letter is. -/
theorem upperChar_ascii_iff {c : Char}
    : (upperChar c).toNat < 0x80 ↔ (plainLetter c).toNat < 0x80 := by
  constructor
  · intro ascii
    rw [toNat_upperChar] at ascii
    rw [plainLetter]
    split
    · decide
    split
    · decide
    next short dotted =>
      rcases code_of_mapCode_ascii ascii with small | dotless | long
      · exact small
      · exact absurd (Char.toNat_inj.mp dotless) dotted
      · exact absurd (Char.toNat_inj.mp long) short
  · intro ascii
    rw [toNat_upperChar_of_plainLetter ascii]
    exact UInt8.lt_iff_toNat_lt.mp (asciiUpper_lt.mpr (ofNat_lt_ascii ascii))

-----------------------------------------------------------------------------------------
-- Texts with an ASCII text for their upper case
-----------------------------------------------------------------------------------------

/-- The characters of an ASCII text are those of its bytes. -/
theorem chars_ascii {text : Bytes} (h : ∀ b ∈ text, b < 0x80)
    : ∀ c ∈ chars text, c.toNat < 0x80 := by
  intro c member
  rw [chars, runes_ascii h, List.map_map] at member
  obtain ⟨b, inside, rfl⟩ := List.mem_map.mp member
  have bound := UInt8.lt_iff_toNat_lt.mp (h b inside)
  change (Char.ofNat b.toNat).toNat < 0x80
  rw [toNat_ofNat_of_valid (Or.inl (Nat.lt_trans bound (by decide)))]
  exact bound

theorem ofChars_ascii_iff {cs : List Char}
    : (∀ b ∈ ofChars cs, b < 0x80) ↔ ∀ c ∈ cs, c.toNat < 0x80 := by
  constructor
  · intro ascii
    have small := chars_ascii ascii
    rwa [chars_ofChars] at small
  · intro ascii b member
    rw [ofChars_ascii ascii] at member
    obtain ⟨c, inside, rfl⟩ := List.mem_map.mp member
    exact ofNat_lt_ascii (ascii c inside)

/-- A text of ASCII characters has no stray bytes, so it is their encoding. -/
theorem ofChars_chars {text : Bytes} (h : ∀ c ∈ chars text, c.toNat < 0x80)
    : ofChars (chars text) = text := by
  have whole : ∀ r ∈ runes text, r.isChar = true := by
    intro r member
    cases r with
    | char c => rfl
    | stray b =>
        have small : Rune.replacement.toNat < 0x80 := h _ (List.mem_map_of_mem member)
        exact absurd small (by decide)
  obtain ⟨cs, encoded, _⟩ := exists_ofChars_of_isChar whole
  rw [encoded, chars_ofChars]

/-- The upper case of a text whose plain letters are in ASCII is their ASCII upper case. -/
theorem upper_eq_map_asciiUpper {text : Bytes}
    (h : ∀ c ∈ chars text, (plainLetter c).toNat < 0x80)
    : upper text = (plainLetters text).map asciiUpper := by
  have plain : ∀ d ∈ (chars text).map plainLetter, d.toNat < 0x80 :=
    List.forall_mem_map.mpr h
  have moved : ∀ d ∈ (chars text).map upperChar, d.toNat < 0x80 :=
    List.forall_mem_map.mpr fun c member => upperChar_ascii_iff.mpr (h c member)
  rw [upper, plainLetters, ofChars_ascii plain, ofChars_ascii moved, List.map_map,
    List.map_map, List.map_map]
  apply List.map_congr_left
  intro c member
  rw [Function.comp_apply, Function.comp_apply, Function.comp_apply,
    toNat_upperChar_of_plainLetter (h c member), UInt8.ofNat_toNat]

/-- The text is in ASCII and has no letters in lower case. -/
structure IsAsciiName (name : Bytes) : Prop where
  ascii : ∀ b ∈ name, b < 0x80
  upper : name.map asciiUpper = name

theorem SameButCase.ascii {text name : Bytes} (h : SameButCase text name)
    (named : IsAsciiName name)
    : ∀ b ∈ text, b < 0x80 := by
  rw [SameButCase, named.upper] at h
  intro b member
  apply asciiUpper_lt.mp
  apply named.ascii
  rw [← h]
  exact List.mem_map_of_mem member

/-- A text has an ASCII name for its upper case exactly if its plain letters differ from the
name in case only.
-/
theorem upper_eq_iff_sameButCase {text name : Bytes} (named : IsAsciiName name)
    : upper text = name ↔ SameButCase (plainLetters text) name := by
  constructor
  · intro same
    have moved : ∀ d ∈ (chars text).map upperChar, d.toNat < 0x80 := by
      apply ofChars_ascii_iff.mp
      rw [← same] at named
      exact named.ascii
    have plain : ∀ c ∈ chars text, (plainLetter c).toNat < 0x80 := fun c member =>
      upperChar_ascii_iff.mp (moved _ (List.mem_map_of_mem member))
    rw [SameButCase, named.upper, ← upper_eq_map_asciiUpper plain, same]
  · intro same
    have plain : ∀ d ∈ (chars text).map plainLetter, d.toNat < 0x80 :=
      ofChars_ascii_iff.mp (same.ascii named)
    rw [upper_eq_map_asciiUpper (List.forall_mem_map.mp plain)]
    rwa [SameButCase, named.upper] at same

theorem plainLetter_eq_self {c : Char} (long : c ≠ 'ſ') (dotless : c ≠ 'ı')
    : plainLetter c = c := by
  rw [plainLetter, if_neg long, if_neg dotless]

/-- A text with such an upper case differs from it in case only exactly if it has no long s
and no dotless i.
-/
theorem sameButCase_iff {text name : Bytes} (named : IsAsciiName name)
    (same : SameButCase (plainLetters text) name)
    : SameButCase text name ↔ 'ſ' ∉ chars text ∧ 'ı' ∉ chars text := by
  constructor
  · intro direct
    have small := chars_ascii (direct.ascii named)
    exact ⟨fun member => absurd (small _ member) (by decide),
      fun member => absurd (small _ member) (by decide)⟩
  · intro absent
    obtain ⟨long, dotless⟩ := absent
    have unchanged : (chars text).map plainLetter = chars text := by
      refine (List.map_congr_left ?_).trans (List.map_id _)
      intro c member
      exact plainLetter_eq_self (fun s => long (s ▸ member)) (fun s => dotless (s ▸ member))
    have plain : ∀ d ∈ (chars text).map plainLetter, d.toNat < 0x80 :=
      ofChars_ascii_iff.mp (same.ascii named)
    rw [unchanged] at plain
    rwa [plainLetters, unchanged, ofChars_chars plain] at same

-----------------------------------------------------------------------------------------
-- The opcodes of IPPcode24
-----------------------------------------------------------------------------------------

theorem isAsciiName_of_mem_opcodes {name : Bytes} (h : name ∈ ippcode24.opcodes)
    : IsAsciiName name := by
  have names : ∀ name ∈ ippcode24.entries.map Prod.fst,
      (∀ b ∈ name, b < 0x80) ∧ name.map asciiUpper = name := by
    decide +kernel
  obtain ⟨ascii, upper⟩ := names name (InstructionSet.mem_opcodes.mp h)
  exact ⟨ascii, upper⟩

/-- The text matches the registered opcode: its plain letters differ from the opcode in case
only, and so does the text as it stands, if it has neither a long s nor a dotless i.
-/
structure WrittenFor (opcode written : Bytes) : Prop where
  registered : opcode ∈ ippcode24.opcodes
  plain : SameButCase (plainLetters written) opcode
  asciiOnly : SameButCase written opcode ↔ 'ſ' ∉ chars written ∧ 'ı' ∉ chars written

theorem writtenFor_upper {written : Bytes} (h : upper written ∈ ippcode24.opcodes)
    : WrittenFor (upper written) written := by
  have named := isAsciiName_of_mem_opcodes h
  have plain := (upper_eq_iff_sameButCase named).mp rfl
  exact ⟨h, plain, sameButCase_iff named plain⟩

/-- Opcodes of IPPcode24 match in any case of ASCII letters, and besides only with a long s
for an S or a dotless i for an I. A text is found exactly if it is such a spelling of one of
the 35 opcodes. So every line that is an instruction and every element of a document begins
with a spelling of its opcode, and the spelling differs from the opcode in the case of ASCII
letters only, exactly if it holds neither of the two characters.
-/
theorem ippcode24_opcodes_written (text input : Bytes) (tokens : List Bytes)
    : ippcode24.opcodes.length = 35
      ∧ ((ippcode24.lookup? text).isSome = true
          ↔ ∃ opcode ∈ ippcode24.opcodes, SameButCase (plainLetters text) opcode)
      ∧ (∀ i,
          Instruction.ofTokens ippcode24 tokens = .ok i
          → ∃ written values, tokens = written :: values ∧ WrittenFor i.opcode written)
      ∧ ∀ raw doc,
          RawProgram.read? input = some raw
          → Document.decode ippcode24 input = .ok doc
          → ∀ child ∈ raw.children,
              ∃ i ∈ doc.instructions, WrittenFor i.opcode child.opcode := by
  refine ⟨by decide +kernel, ?_, ?_, ?_⟩
  · constructor
    · intro found
      have registered := InstructionSet.isSome_lookup?.mp found
      exact ⟨_, registered, (writtenFor_upper registered).plain⟩
    · intro given
      obtain ⟨opcode, registered, same⟩ := given
      have named := isAsciiName_of_mem_opcodes registered
      have spelled := (upper_eq_iff_sameButCase named).mpr same
      exact InstructionSet.isSome_lookup?.mpr (spelled ▸ registered)
  · intro i accepted
    obtain ⟨written, values, signature, rfl, known, _, _, rfl⟩ :=
      Instruction.ofTokens_eq_ok.mp accepted
    rw [InstructionSet.lookup?_upper] at known
    exact ⟨written, values, rfl, writtenFor_upper (InstructionSet.upper_mem_opcodes known)⟩
  · intro raw doc read decoded child member
    obtain ⟨other, same, checked⟩ := Document.decode_eq_ok.mp decoded
    rw [read] at same
    cases same
    obtain ⟨_, _, instructions, held, _, rfl⟩ := RawProgram.toDocument_eq_ok.mp checked
    obtain ⟨i, inside, holds⟩ := exists_of_forall₂_left held member
    obtain ⟨signature, _, known, _⟩ := holds.args
    refine ⟨i, (sortBy_perm _ _).mem_iff.mpr inside, ?_⟩
    rw [holds.opcode] at known ⊢
    rw [InstructionSet.lookup?_upper] at known
    exact writtenFor_upper (InstructionSet.upper_mem_opcodes known)

/-- Two spellings that match and differ from every opcode in more than the case of ASCII
letters: a line with a dotless i and a document with a long s are accepted.
-/
theorem dotlessWrite_longPushFrame
    : Instruction.ofTokens ippcode24 ["wrıte", "GF@x"]
        = .ok { order := 0, opcode := "WRITE", args := [⟨1, "var", "GF@x"⟩] }
      ∧ Document.decode ippcode24
          ("<program language=\"IPPcode24\">"
            ++ "<instruction order=\"1\" opcode=\"puſhframe\"/></program>")
        = .ok { language := "IPPcode24",
                instructions := [{ order := 1, opcode := "PUSHFRAME", args := [] }] }
      ∧ ∀ opcode ∈ ippcode24.opcodes,
          ¬ SameButCase "wrıte" opcode ∧ ¬ SameButCase "puſhframe" opcode := by
  refine ⟨by decide +kernel, by decide +kernel, ?_⟩
  have apart : ∀ opcode ∈ ippcode24.entries.map Prod.fst,
      ¬ SameButCase "wrıte" opcode ∧ ¬ SameButCase "puſhframe" opcode := by
    decide +kernel
  intro opcode registered
  exact apart opcode (InstructionSet.mem_opcodes.mp registered)

end IppXml
