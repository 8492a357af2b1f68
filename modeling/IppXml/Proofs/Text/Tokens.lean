import IppXml.Proofs.Text.Case
import IppXml.Proofs.Text.Words

/-! Which texts are tokens, and how lines of tokens are read.

A token is not empty and holds neither white space nor the comment sign. Tokens with spaces
between them are read as the tokens they are, and the upper case of a token is a token: no
character has white space or the comment sign for its upper case.
-/

namespace IppXml

open IppXml.Text

-----------------------------------------------------------------------------------------
-- Words behind each other
-----------------------------------------------------------------------------------------

/-- A blank ends what is split before it and begins what is split behind it. -/
theorem splitBlank_append {blank : Rune} (left right : List Rune) (h : blank.isBlank = true)
    : splitBlank (left ++ blank :: right) = splitBlank left ++ splitBlank right := by
  induction left with
  | nil => simp [splitBlank, h]
  | cons r left ih =>
      rw [List.cons_append, splitBlank, splitBlank, ih]
      split
      · rfl
      · cases split : splitBlank left with
        | nil => exact absurd split (splitBlank_ne_nil left)
        | cons word rest => rfl

/-- A white space character ends the words before it. -/
theorem words_append_blankChar {c : Char} (blank : isBlankChar c = true) (text rest : Bytes)
    : words (text ++ (String.utf8EncodeChar c ++ rest)) = words text ++ words rest := by
  have ends : (Rune.char c).isBlank = true := blank
  rw [words, runes_append_encodeChar, splitBlank_append _ _ ends, List.filter_append,
    List.map_append]
  rfl

/-- An ASCII blank ends the words before it. -/
theorem words_append_blank {b : UInt8} (ascii : b < 0x80)
    (blank : (Rune.char (Char.ofNat b.toNat)).isBlank = true) (text rest : Bytes)
    : words (text ++ b :: rest) = words text ++ words rest := by
  have split := words_append_blankChar blank text rest
  rwa [encodeChar_ofNat_byte ascii] at split

theorem splitBlank_of_forall {rs : List Rune} (h : ∀ r ∈ rs, r.isBlank = false)
    : splitBlank rs = [rs] := by
  induction rs with
  | nil => rfl
  | cons r rs ih =>
      have plain := h r (by simp)
      rw [splitBlank, ih fun x member => h x (by simp [member])]
      simp [plain]

/-- A text without blanks is a single word. -/
theorem words_eq_singleton {text : Bytes} (nonempty : text ≠ [])
    (h : ∀ r ∈ runes text, r.isBlank = false)
    : words text = [text] := by
  have decoded : runes text ≠ [] := fun empty => nonempty (eq_nil_of_runes_eq_nil empty)
  simp [words, splitBlank_of_forall h, decoded, ofRunes_runes]

-----------------------------------------------------------------------------------------
-- Tokens
-----------------------------------------------------------------------------------------

/-- An ASCII byte stands in a text exactly if its character does. -/
theorem mem_iff_char_mem_runes {b : UInt8} {text : Bytes} (h : b < 0x80)
    : b ∈ text ↔ Rune.char (Char.ofNat b.toNat) ∈ runes text := by
  constructor
  · intro member
    obtain ⟨before, after, rfl⟩ := List.append_of_mem member
    simp [runes_append_ascii h]
  · intro member
    rw [← ofRunes_runes text, ofRunes, List.mem_flatMap]
    exact ⟨_, member, by simp [Rune.bytes, encodeChar_ofNat_byte h]⟩

/-- The text can be a token of a line. -/
structure IsToken (token : Bytes) : Prop where
  nonempty : token ≠ []
  visible : ∀ r ∈ runes token, r.isBlank = false
  uncommented : commentSign ∉ token

theorem isToken_of_mem_lineTokens {line token : Bytes} (h : token ∈ lineTokens line)
    : IsToken token := by
  obtain ⟨nonempty, inLine⟩ := runes_of_mem_words h
  refine ⟨nonempty, fun r member => (inLine r member).2, ?_⟩
  intro sign
  have ascii : commentSign < 0x80 := by decide
  have before := (inLine _ ((mem_iff_char_mem_runes ascii).mp sign)).1
  rw [← mem_iff_char_mem_runes ascii] at before
  simpa using List.mem_takeWhile_imp before

theorem lineFeed_not_mem_of_isToken {token : Bytes} (h : IsToken token)
    : 0x0A ∉ token := by
  intro member
  have blank := h.visible _ ((mem_iff_char_mem_runes (by decide)).mp member)
  exact absurd blank (by decide)

/-- What stands in joined texts stands in one of them or in the separator. -/
theorem mem_of_mem_join {separator : Bytes} {texts : List Bytes} {b : UInt8}
    (h : b ∈ Bytes.join separator texts)
    : b ∈ separator ∨ ∃ text ∈ texts, b ∈ text := by
  rw [Bytes.join] at h
  induction texts with
  | nil => exact absurd h List.not_mem_nil
  | cons text texts ih =>
      cases texts with
      | nil => exact Or.inr ⟨text, by simp, by simpa using h⟩
      | cons next texts =>
          rw [List.intercalate_cons_cons, List.mem_append, List.mem_append] at h
          rcases h with (head | between) | tail
          · exact Or.inr ⟨text, by simp, head⟩
          · exact Or.inl between
          · rcases ih tail with between | ⟨other, member, inside⟩
            · exact Or.inl between
            · exact Or.inr ⟨other, by simp [member], inside⟩

/-- Joined tokens are split into the same words, by induction over the tokens. -/
theorem words_join {tokens : List Bytes} (h : ∀ token ∈ tokens, IsToken token)
    : words (Bytes.join " " tokens) = tokens := by
  rw [Bytes.join]
  induction tokens with
  | nil => rfl
  | cons token tokens ih =>
      have first := h token (by simp)
      have alone := words_eq_singleton first.nonempty first.visible
      cases tokens with
      | nil => simpa using alone
      | cons next tokens =>
          have space : utf8 " " = [0x20] := rfl
          have rest := ih fun other member => h other (by simp [member])
          rw [List.intercalate_cons_cons, List.append_assoc]
          rw [space] at rest ⊢
          rw [List.singleton_append, words_append_blank (by decide) (by decide), alone, rest]
          rfl

/-- A line of tokens with spaces between them is read as these tokens. -/
theorem lineTokens_join {tokens : List Bytes} (h : ∀ token ∈ tokens, IsToken token)
    : lineTokens (Bytes.join " " tokens) = tokens := by
  rw [lineTokens_of_not_mem, words_join h]
  intro member
  rcases mem_of_mem_join member with space | ⟨token, listed, inside⟩
  · exact absurd space (by decide)
  · exact (h token listed).uncommented inside

theorem lineFeed_not_mem_join {tokens : List Bytes} (h : ∀ token ∈ tokens, IsToken token)
    : 0x0A ∉ Bytes.join " " tokens := by
  intro member
  rcases mem_of_mem_join member with space | ⟨token, listed, inside⟩
  · exact absurd space (by decide)
  · exact lineFeed_not_mem_of_isToken (h token listed) inside

-----------------------------------------------------------------------------------------
-- Tokens in upper case
-----------------------------------------------------------------------------------------

/-- Whether the character may stand in a token. -/
def isTokenChar (c : Char) : Bool :=
  !isBlankChar c && c ≠ '#'

/-- Runs lead to characters that may stand in tokens. -/
theorem upperRuns_isTokenChar
    : (upperRuns.flatMap fun run => run.codesFrom run.target).all
        (fun n => isTokenChar (Char.ofNat n))
      = true := by
  decide +kernel

theorem isTokenChar_upperChar {c : Char} (h : isTokenChar c = true)
    : isTokenChar (upperChar c) = true := by
  rcases mapCode_cases c.toNat with ⟨same, _⟩ | ⟨run, member, covered, moved⟩
  · rwa [upperChar, same, Char.ofNat_toNat]
  · rw [upperChar, moved]
    exact List.all_eq_true.mp upperRuns_isTokenChar _
      (List.mem_flatMap.mpr ⟨run, member, run.mem_codesFrom run.target covered⟩)

theorem IsToken.isTokenChar {token : Bytes} (h : IsToken token)
    : ∀ c ∈ chars token, isTokenChar c = true := by
  intro c member
  obtain ⟨r, decoded, rfl⟩ := List.mem_map.mp member
  cases r with
  | stray b =>
      change IppXml.isTokenChar Rune.replacement = true
      decide
  | char c =>
      have blank : isBlankChar c = false := h.visible _ decoded
      have sign : c ≠ '#' := by
        intro same
        subst same
        exact h.uncommented ((mem_iff_char_mem_runes (by decide)).mpr decoded)
      simp [IppXml.isTokenChar, Rune.toChar, blank, sign]

/-- The upper case of a token is a token. -/
theorem IsToken.upper {token : Bytes} (h : IsToken token)
    : IsToken (upper token) := by
  have decoded : runes (IppXml.upper token) = ((chars token).map upperChar).map .char :=
    runes_ofChars _
  have allowed : ∀ c ∈ (chars token).map upperChar, IppXml.isTokenChar c = true := by
    intro c member
    obtain ⟨d, inside, rfl⟩ := List.mem_map.mp member
    exact isTokenChar_upperChar (h.isTokenChar d inside)
  simp only [IppXml.isTokenChar, Bool.and_eq_true, Bool.not_eq_true', decide_eq_true_eq]
    at allowed
  refine ⟨?_, ?_, ?_⟩
  · intro empty
    rw [empty] at decoded
    exact h.nonempty (eq_nil_of_runes_eq_nil (by simpa [chars] using decoded.symm))
  · rw [decoded]
    intro r member
    obtain ⟨c, inside, rfl⟩ := List.mem_map.mp member
    exact (allowed c inside).1
  · rw [mem_iff_char_mem_runes (by decide), decoded]
    intro member
    obtain ⟨c, inside, same⟩ := List.mem_map.mp member
    exact (allowed c inside).2 (Rune.char.inj same)

end IppXml
