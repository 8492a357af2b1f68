import IppXml.Line
import IppXml.Proofs.Text.Decoding
import Mathlib.Data.List.TakeWhile

/-! Words, trimmed texts and lines.

Words hold no blanks, trimming a second time changes nothing, and the runes of a text are
those of its lines with line feeds between them. A source that is blank as a whole is
therefore blank line by line.
-/

namespace IppXml

-----------------------------------------------------------------------------------------
-- Trimmed texts
-----------------------------------------------------------------------------------------

/-- What begins like a list without leading blanks has no leading blanks either. -/
theorem dropWhile_eq_self_of_isPrefix {α : Type} {p : α → Bool} {xs ys : List α}
    (h : ys <+: xs.dropWhile p)
    : ys.dropWhile p = ys := by
  cases ys with
  | nil => rfl
  | cons y ys =>
      obtain ⟨rest, split⟩ := h
      have head := List.head?_dropWhile_not p xs
      rw [← split] at head
      exact List.dropWhile_cons_of_neg (by simpa using head)

theorem trimRunes_isInfix (rs : List Rune)
    : trimRunes rs <:+: rs := by
  have right := List.dropWhile_suffix Rune.isBlank (l := (rs.dropWhile Rune.isBlank).reverse)
  have left := List.reverse_prefix.mpr right
  rw [List.reverse_reverse] at left
  exact left.isInfix.trans (List.dropWhile_suffix _).isInfix

theorem trimRunes_trimRunes (rs : List Rune)
    : trimRunes (trimRunes rs) = trimRunes rs := by
  have right := List.dropWhile_suffix Rune.isBlank (l := (rs.dropWhile Rune.isBlank).reverse)
  have left := List.reverse_prefix.mpr right
  rw [List.reverse_reverse] at left
  have head : (trimRunes rs).dropWhile Rune.isBlank = trimRunes rs :=
    dropWhile_eq_self_of_isPrefix left
  have last : (trimRunes rs).reverse.dropWhile Rune.isBlank = (trimRunes rs).reverse := by
    rw [trimRunes, List.reverse_reverse]
    exact dropWhile_eq_self_of_isPrefix List.prefix_rfl
  rw [trimRunes, head, last, List.reverse_reverse]

/-- The runes of a trimmed text are those of the text without the blanks at its ends. -/
theorem runes_trim (text : Bytes)
    : runes (trim text) = trimRunes (runes text) :=
  runes_ofRunes_of_isInfix (trimRunes_isInfix _)

/-- Trimming a second time changes nothing. -/
theorem trim_trim (text : Bytes)
    : trim (trim text) = trim text := by
  rw [trim, runes_trim, trimRunes_trimRunes]
  rfl

/-- A text without blanks is trimmed already. -/
theorem trim_eq_self {text : Bytes} (h : ∀ r ∈ runes text, r.isBlank = false)
    : trim text = text := by
  have keep {rs : List Rune} (hrs : ∀ r ∈ rs, r.isBlank = false)
      : rs.dropWhile Rune.isBlank = rs := by
    cases rs with
    | nil => rfl
    | cons r rs => exact List.dropWhile_cons_of_neg (by simp [hrs r (by simp)])
  have reversed : ∀ r ∈ (runes text).reverse, r.isBlank = false :=
    fun r member => h r (List.mem_reverse.mp member)
  rw [trim, trimRunes, keep h, keep reversed, List.reverse_reverse, ofRunes_runes]

-----------------------------------------------------------------------------------------
-- Words
-----------------------------------------------------------------------------------------

/-- The first part of a split: the runes up to the first blank. -/
theorem splitBlank_ne_nil (rs : List Rune)
    : splitBlank rs ≠ [] := by
  cases rs with
  | nil => simp [splitBlank]
  | cons r rs =>
      rw [splitBlank]
      split
      · simp
      · split <;> simp

/-- A part that runes are split into at blanks is a run of them without blanks. The first
part begins where the runes begin.
-/
theorem splitBlank_spec (rs : List Rune)
    : (∀ part ∈ splitBlank rs, part <:+: rs ∧ ∀ r ∈ part, r.isBlank = false)
      ∧ ∀ part ∈ (splitBlank rs).head?, part <+: rs := by
  induction rs with
  | nil => simp [splitBlank]
  | cons r rs ih =>
      obtain ⟨parts, first⟩ := ih
      have later {part : List Rune} (member : part ∈ splitBlank rs)
          : part <:+: r :: rs ∧ ∀ x ∈ part, x.isBlank = false :=
        ⟨(parts part member).1.trans (List.suffix_cons r rs).isInfix, (parts part member).2⟩
      by_cases blank : r.isBlank = true
      · simp only [splitBlank, blank, if_true]
        refine ⟨?_, by simp⟩
        intro part member
        rcases List.mem_cons.mp member with rfl | member
        · simp
        · exact later member
      · cases tail : splitBlank rs with
        | nil => exact absurd tail (splitBlank_ne_nil rs)
        | cons word rest =>
            simp only [splitBlank, blank, tail, Bool.false_eq_true, if_false]
            have begins : r :: word <+: r :: rs :=
              (List.prefix_cons_inj r).mpr (first word (by simp [tail]))
            have plain : ∀ x ∈ r :: word, x.isBlank = false := by
              intro x member
              rcases List.mem_cons.mp member with rfl | member
              · simpa using blank
              · exact (parts word (by simp [tail])).2 x member
            refine ⟨?_, by simpa using begins⟩
            intro part member
            rcases List.mem_cons.mp member with rfl | member
            · exact ⟨begins.isInfix, plain⟩
            · exact later (by simp [tail, member])

/-- A word is not empty, and none of its runes is blank. -/
theorem runes_of_mem_words {text word : Bytes} (h : word ∈ words text)
    : word ≠ [] ∧ ∀ r ∈ runes word, r ∈ runes text ∧ r.isBlank = false := by
  obtain ⟨part, kept, rfl⟩ := List.mem_map.mp h
  obtain ⟨member, nonempty⟩ := List.mem_filter.mp kept
  obtain ⟨inside, plain⟩ := (splitBlank_spec (runes text)).1 part member
  have decoded := runes_ofRunes_of_isInfix inside
  refine ⟨?_, ?_⟩
  · intro empty
    rw [empty] at decoded
    exact absurd decoded.symm (by simpa using nonempty)
  · intro r hr
    rw [decoded] at hr
    exact ⟨inside.subset hr, plain r hr⟩

theorem eq_nil_of_runes_eq_nil {text : Bytes} (h : runes text = [])
    : text = [] := by
  rw [← ofRunes_runes text, h]
  rfl

/-- A blank text is the encoding of white space characters. -/
theorem isBlank_iff_exists_ofChars {text : Bytes}
    : isBlank text = true ↔ ∃ cs, text = ofChars cs ∧ ∀ c ∈ cs, isBlankChar c = true := by
  constructor
  · intro blank
    have all := List.all_eq_true.mp blank
    obtain ⟨cs, encoded, _⟩ := exists_ofChars_of_isChar fun r member => by
      cases r with
      | char c => rfl
      | stray b => exact Bool.noConfusion (all (.stray b) member)
    refine ⟨cs, encoded, ?_⟩
    rw [encoded, isBlank, runes_ofChars] at blank
    simpa [Rune.isBlank] using blank
  · intro given
    obtain ⟨cs, rfl, blank⟩ := given
    rw [isBlank, runes_ofChars]
    simpa [Rune.isBlank] using blank

/-- A blank text has no words. -/
theorem words_eq_nil {text : Bytes} (h : isBlank text = true)
    : words text = [] := by
  rw [List.eq_nil_iff_forall_not_mem]
  intro word member
  obtain ⟨nonempty, runesOf⟩ := runes_of_mem_words member
  cases decoded : runes word with
  | nil => exact nonempty (eq_nil_of_runes_eq_nil decoded)
  | cons r rs =>
      obtain ⟨inside, plain⟩ := runesOf r (by simp [decoded])
      rw [List.all_eq_true.mp h r inside] at plain
      exact Bool.noConfusion plain

/-- No rune of a token is blank. -/
theorem runes_of_mem_lineTokens {line token : Bytes} (h : token ∈ lineTokens line)
    : ∀ r ∈ runes token, r.isBlank = false :=
  fun r member => ((runes_of_mem_words h).2 r member).2

-----------------------------------------------------------------------------------------
-- Lines
-----------------------------------------------------------------------------------------

theorem runes_intercalate_lineFeed (lines : List Bytes)
    : runes ([0x0A].intercalate lines)
      = [Rune.char '\n'].intercalate (lines.map runes) := by
  induction lines with
  | nil => rfl
  | cons line rest ih =>
      cases rest with
      | nil => simp
      | cons next rest =>
          rw [List.intercalate_cons_cons, List.map_cons, List.map_cons,
            List.intercalate_cons_cons, ← List.map_cons, ← ih, List.append_assoc]
          simpa using runes_append_ascii (by decide : (0x0A : UInt8) < 0x80) line _

/-- The runes of a text are those of its lines, with line feeds between them. -/
theorem runes_lines (text : Bytes)
    : runes text = [Rune.char '\n'].intercalate ((Bytes.lines text).map runes) := by
  rw [← runes_intercalate_lineFeed, Bytes.lines, List.intercalate_splitOn]

theorem mem_intercalate_of_mem {α : Type} {separator part : List α} {parts : List (List α)}
    {x : α} (h : part ∈ parts) (member : x ∈ part)
    : x ∈ separator.intercalate parts := by
  induction parts with
  | nil => exact absurd h List.not_mem_nil
  | cons first rest ih =>
      cases rest with
      | nil =>
          rw [List.mem_singleton.mp h] at member
          simpa using member
      | cons next rest =>
          rw [List.intercalate_cons_cons]
          rcases List.mem_cons.mp h with rfl | h
          · simp [member]
          · exact List.mem_append_right _ (ih h)

/-- Every line of a blank text is blank. -/
theorem isBlank_of_mem_lines {text line : Bytes} (h : isBlank text = true)
    (member : line ∈ Bytes.lines text)
    : isBlank line = true := by
  rw [isBlank, List.all_eq_true] at h ⊢
  intro r hr
  apply h
  rw [runes_lines]
  exact mem_intercalate_of_mem (List.mem_map_of_mem member) hr

/-- Nothing is lost of a line without a comment sign. -/
theorem lineTokens_of_not_mem {line : Bytes} (h : commentSign ∉ line)
    : lineTokens line = words line := by
  have whole : withoutComment line = line := by
    apply List.takeWhile_eq_self_iff.mpr
    intro b member
    rw [decide_eq_true_eq]
    exact fun same => h (same ▸ member)
  rw [lineTokens, whole]

theorem commentSign_not_mem_of_isBlank {text : Bytes} (h : isBlank text = true)
    : commentSign ∉ text := by
  intro member
  obtain ⟨before, after, rfl⟩ := List.append_of_mem member
  rw [isBlank, runes_append_ascii (by decide)] at h
  simp [commentSign, Rune.isBlank, isBlankChar] at h

/-- A blank line has no comment and no tokens. -/
theorem lineTokens_eq_nil {line : Bytes} (h : isBlank line = true)
    : lineTokens line = [] := by
  rw [lineTokens_of_not_mem (commentSign_not_mem_of_isBlank h), words_eq_nil h]

end IppXml
