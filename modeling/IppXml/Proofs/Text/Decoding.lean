import IppXml.Text.Rune

/-! Decoding undoes encoding, and a text may be cut without changing its runes wherever a
character begins.

A text begins with the encoding of a character, or with a stray byte that begins no
encoding. `runesInduction` states this reading once; the facts about runes below are
inductions along it.
-/

namespace IppXml

-----------------------------------------------------------------------------------------
-- Encoded characters
-----------------------------------------------------------------------------------------

/-- A byte that can only stand inside the encoding of a character, not at its head. -/
def isContinuation (b : UInt8) : Bool :=
  0x80 ≤ b && b < 0xC0

theorem toNat_le_lastCode (c : Char)
    : c.toNat ≤ 0x10FFFF := by
  have valid := c.valid
  simp only [UInt32.isValidChar, Nat.isValidChar] at valid
  change c.val.toNat ≤ _
  omega

theorem toNat_ofNat_of_valid {n : Nat} (h : n.isValidChar)
    : (Char.ofNat n).toNat = n := by
  have char : Char.ofNat n = Char.ofNatAux n h := dif_pos h
  rw [char]
  rfl

/-- An ASCII character is encoded as its code alone. -/
theorem encodeChar_ascii {c : Char} (h : c.toNat < 0x80)
    : String.utf8EncodeChar c = [UInt8.ofNat c.toNat] := by
  have small : c.val.toNat ≤ 0x7F := Nat.le_of_lt_succ h
  simp only [String.utf8EncodeChar, small, if_true]
  rfl

/-- An ASCII byte is the encoding of the character with its code. -/
theorem encodeChar_ofNat_byte {b : UInt8} (h : b < 0x80)
    : String.utf8EncodeChar (Char.ofNat b.toNat) = [b] := by
  have bound : b.toNat < 0x80 := UInt8.lt_iff_toNat_lt.mp h
  have code : (Char.ofNat b.toNat).toNat = b.toNat :=
    toNat_ofNat_of_valid (Or.inl (by omega))
  rw [encodeChar_ascii (by omega), code]
  simp

theorem ofChars_ascii {cs : List Char} (h : ∀ c ∈ cs, c.toNat < 0x80)
    : ofChars cs = cs.map fun c => UInt8.ofNat c.toNat := by
  induction cs with
  | nil => rfl
  | cons c cs ih =>
      rw [ofChars, List.flatMap_cons, encodeChar_ascii (h c (by simp)), ← ofChars,
        ih (fun x hx => h x (by simp [hx]))]
      rfl

/-- The head of an encoding spells the code of the character, whatever follows it.
Witness: the four lengths of an encoding, each with its own arithmetic of the code.
-/
theorem headCode_of_encodeChar {c : Char} {b : UInt8} {bs : Bytes} (rest : Bytes)
    (h : String.utf8EncodeChar c = b :: bs)
    : headCode b (bs ++ rest) = c.toNat := by
  have bound : c.val.toNat ≤ 0x10FFFF := toNat_le_lastCode c
  change _ = c.val.toNat
  simp only [String.utf8EncodeChar] at h
  generalize c.val.toNat = code at bound h
  split at h
  · obtain ⟨rfl, rfl⟩ := List.cons.inj h
    simp only [headCode, UInt8.lt_iff_toNat_lt, UInt8.toNat_ofNat', UInt8.reduceToNat]
    rw [if_pos (by omega)]
    omega
  split at h
  · obtain ⟨rfl, rfl⟩ := List.cons.inj h
    simp only [headCode, UInt8.lt_iff_toNat_lt, UInt8.toNat_ofNat', UInt8.reduceToNat,
      List.cons_append, List.getD_cons_zero]
    rw [if_neg (by omega), if_pos (by omega)]
    omega
  split at h
  · obtain ⟨rfl, rfl⟩ := List.cons.inj h
    simp only [headCode, UInt8.lt_iff_toNat_lt, UInt8.toNat_ofNat', UInt8.reduceToNat,
      List.cons_append, List.getD_cons_zero, List.getD_cons_succ]
    rw [if_neg (by omega), if_neg (by omega), if_pos (by omega)]
    omega
  · obtain ⟨rfl, rfl⟩ := List.cons.inj h
    simp only [headCode, UInt8.lt_iff_toNat_lt, UInt8.toNat_ofNat', UInt8.reduceToNat,
      List.cons_append, List.getD_cons_zero, List.getD_cons_succ]
    rw [if_neg (by omega), if_neg (by omega), if_neg (by omega)]
    omega

/-- The bytes of an encoding behind its head are continuation bytes. -/
theorem isContinuation_of_mem_encodeChar {c : Char} {b x : UInt8} {bs : Bytes}
    (h : String.utf8EncodeChar c = b :: bs) (member : x ∈ bs)
    : isContinuation x = true := by
  have low (n : Nat) : isContinuation (UInt8.ofNat (n % 64 + 128)) = true := by
    simp only [isContinuation, UInt8.le_iff_toNat_le, UInt8.lt_iff_toNat_lt,
      UInt8.toNat_ofNat', UInt8.reduceToNat, Bool.and_eq_true, decide_eq_true_eq]
    omega
  simp only [String.utf8EncodeChar] at h
  repeat' split at h
  all_goals
    obtain ⟨rfl, rfl⟩ := List.cons.inj h
    simp only [List.mem_cons, List.not_mem_nil, or_false] at member
  · rw [member]
    exact low _
  · rcases member with rfl | rfl <;> exact low _
  · rcases member with rfl | rfl | rfl <;> exact low _

/-- The head of an encoding is no continuation byte, one case for each length. -/
theorem isContinuation_head_encodeChar {c : Char} {b : UInt8} {bs : Bytes}
    (h : String.utf8EncodeChar c = b :: bs)
    : isContinuation b = false := by
  have bound : c.val.toNat ≤ 0x10FFFF := toNat_le_lastCode c
  simp only [String.utf8EncodeChar] at h
  generalize c.val.toNat = code at bound h
  repeat' split at h
  all_goals
    obtain ⟨rfl, rfl⟩ := List.cons.inj h
    simp only [isContinuation, UInt8.le_iff_toNat_le, UInt8.lt_iff_toNat_lt,
      UInt8.toNat_ofNat', UInt8.reduceToNat, Bool.and_eq_false_iff, decide_eq_false_iff_not]
    omega

-----------------------------------------------------------------------------------------
-- Reading runes from the head
-----------------------------------------------------------------------------------------

/-- The encoding of a character is read off as that character. -/
theorem runes_encodeChar_append (c : Char) (rest : Bytes)
    : runes (String.utf8EncodeChar c ++ rest) = .char c :: runes rest := by
  cases code : String.utf8EncodeChar c with
  | nil => exact absurd code (utf8EncodeChar_ne_nil c)
  | cons b bs =>
      have head : headRune b (bs ++ rest) = (.char c, bs.length + 1) := by
        have spelled : Char.ofNat (headCode b (bs ++ rest)) = c := by
          rw [headCode_of_encodeChar rest code, Char.ofNat_toNat]
        simp [headRune, spelled, code]
      exact Text.pieces_append head

/-- The byte begins no encoding of a character, given what follows it. -/
def IsStray (b : UInt8) (rest : Bytes) : Prop :=
  ∀ c : Char, ¬ String.utf8EncodeChar c <+: b :: rest

/-- A byte that begins no encoding is read off as a stray byte. -/
theorem runes_cons_of_isStray {b : UInt8} {rest : Bytes} (h : IsStray b rest)
    : runes (b :: rest) = .stray b :: runes rest := by
  have head : headRune b rest = (.stray b, 1) := by
    have fails := h (Char.ofNat (headCode b rest))
    rw [← List.isPrefixOf_iff_prefix] at fails
    simp only [headRune, fails, Bool.false_eq_true, if_false]
  have read := Text.pieces_cons headRune b rest
  rw [head] at read
  exact read

/-- Every text is read rune by rune: what holds of the empty text, and of a text whenever
it holds behind its first rune, holds of all texts.
-/
theorem runesInduction {motive : Bytes → Prop} (nil : motive [])
    (char : ∀ c rest, motive rest → motive (String.utf8EncodeChar c ++ rest))
    (stray : ∀ b rest, IsStray b rest → motive rest → motive (b :: rest)) (text : Bytes)
    : motive text := by
  -- the rest behind a rune is shorter, so the induction is on the length
  induction hn : text.length using Nat.strongRecOn generalizing text with
  | ind n ih =>
      cases text with
      | nil => exact nil
      | cons b bs =>
          by_cases begins : ∃ c, String.utf8EncodeChar c <+: b :: bs
          · obtain ⟨c, rest, split⟩ := begins
            rw [← split]
            refine char c rest (ih rest.length ?_ rest rfl)
            have positive := List.length_pos_iff.mpr (utf8EncodeChar_ne_nil c)
            have total := congrArg List.length split
            simp only [List.length_append] at total
            omega
          · refine stray b bs (fun c hc => begins ⟨c, hc⟩) (ih bs.length ?_ bs rfl)
            rw [← hn]
            simp

/-- Encoded characters are read off in sequence. -/
theorem runes_ofChars_append (cs : List Char) (rest : Bytes)
    : runes (ofChars cs ++ rest) = cs.map .char ++ runes rest := by
  induction cs with
  | nil => rfl
  | cons c cs ih =>
      simp only [ofChars, List.flatMap_cons, List.append_assoc, List.map_cons,
        List.cons_append] at ih ⊢
      rw [runes_encodeChar_append, ih]

@[simp] theorem runes_nil
    : runes [] = [] := by
  rfl

/-- Decoding undoes encoding. -/
@[simp] theorem runes_ofChars (cs : List Char)
    : runes (ofChars cs) = cs.map .char := by
  simpa using runes_ofChars_append cs []

@[simp] theorem chars_ofChars (cs : List Char)
    : chars (ofChars cs) = cs := by
  simp [chars, Rune.toChar, Function.comp_def]

/-- An encoding that reaches beyond a text has a continuation byte right behind it. -/
theorem isContinuation_of_prefix_append {c : Char} {b x : UInt8} {bs rest : Bytes}
    (reaches : String.utf8EncodeChar c <+: b :: bs ++ x :: rest)
    (longer : ¬ String.utf8EncodeChar c <+: b :: bs)
    : isContinuation x = true := by
  have short : b :: bs <+: String.utf8EncodeChar c := by
    rcases Nat.le_total (String.utf8EncodeChar c).length (b :: bs).length with le | le
    · exact absurd (List.prefix_of_prefix_length_le reaches (List.prefix_append ..) le) longer
    · exact List.prefix_of_prefix_length_le (List.prefix_append ..) reaches le
  obtain ⟨tail, code⟩ := short
  cases tail with
  | nil =>
      rw [List.append_nil] at code
      exact absurd (code ▸ List.prefix_rfl) longer
  | cons y tail =>
      rw [← code, List.prefix_append_right_inj, List.cons_prefix_cons] at reaches
      rw [← reaches.1]
      exact isContinuation_of_mem_encodeChar code.symm (by simp)

/-- Texts are decoded separately if the second does not begin inside a character.
Witness: a stray byte of the first text stays stray, by the bytes that an encoding needs.
-/
theorem runes_append {text rest : Bytes}
    (boundary : ∀ b ∈ rest.head?, isContinuation b = false)
    : runes (text ++ rest) = runes text ++ runes rest := by
  induction text using runesInduction with
  | nil => rfl
  | char c text ih =>
      rw [List.append_assoc, runes_encodeChar_append, runes_encodeChar_append, ih]
      rfl
  | stray b text hb ih =>
      have stays : IsStray b (text ++ rest) := by
        intro c reaches
        cases rest with
        | nil => exact hb c (by simpa using reaches)
        | cons x rest =>
            have continued := isContinuation_of_prefix_append reaches (hb c)
            rw [boundary x (by simp)] at continued
            exact Bool.noConfusion continued
      rw [List.cons_append, runes_cons_of_isStray stays, runes_cons_of_isStray hb, ih]
      rfl

theorem runes_cons_ascii {b : UInt8} (h : b < 0x80) (rest : Bytes)
    : runes (b :: rest) = .char (Char.ofNat b.toNat) :: runes rest := by
  have read := runes_encodeChar_append (Char.ofNat b.toNat) rest
  rwa [encodeChar_ofNat_byte h] at read

/-- An encoded character ends what is before it: both sides are decoded separately. -/
theorem runes_append_encodeChar (text : Bytes) (c : Char) (rest : Bytes)
    : runes (text ++ (String.utf8EncodeChar c ++ rest))
      = runes text ++ .char c :: runes rest := by
  cases code : String.utf8EncodeChar c with
  | nil => exact absurd code (utf8EncodeChar_ne_nil c)
  | cons b bs =>
      have outside := isContinuation_head_encodeChar code
      rw [runes_append (by simpa using outside), ← code, runes_encodeChar_append]

/-- An ASCII byte ends what is before it. -/
theorem runes_append_ascii {b : UInt8} (h : b < 0x80) (text rest : Bytes)
    : runes (text ++ b :: rest)
      = runes text ++ .char (Char.ofNat b.toNat) :: runes rest := by
  have read := runes_append_encodeChar text (Char.ofNat b.toNat) rest
  rwa [encodeChar_ofNat_byte h] at read

/-- An ASCII text has one character for each byte. -/
theorem runes_ascii {text : Bytes} (h : ∀ b ∈ text, b < 0x80)
    : runes text = text.map fun b => .char (Char.ofNat b.toNat) := by
  induction text with
  | nil => rfl
  | cons b bs ih =>
      rw [runes_cons_ascii (h b (by simp)), ih (fun x hx => h x (by simp [hx]))]
      rfl

-----------------------------------------------------------------------------------------
-- Texts made of runes
-----------------------------------------------------------------------------------------

@[simp] theorem ofRunes_append (rs more : List Rune)
    : ofRunes (rs ++ more) = ofRunes rs ++ ofRunes more := by
  simp [ofRunes]

@[simp] theorem ofRunes_map_char (cs : List Char)
    : ofRunes (cs.map .char) = ofChars cs := by
  simp [ofRunes, ofChars, List.flatMap_map, Rune.bytes]

/-- What stands behind the first rune of a decoded text is decoded as it was. -/
theorem runes_ofRunes_tail {r : Rune} {rs : List Rune}
    (h : runes (ofRunes (r :: rs)) = r :: rs)
    : runes (ofRunes rs) = rs := by
  cases r with
  | char c =>
      change runes (String.utf8EncodeChar c ++ ofRunes rs) = _ at h
      rw [runes_encodeChar_append] at h
      exact (List.cons.inj h).2
  | stray b =>
      change runes (b :: ofRunes rs) = _ at h
      by_cases begins : ∃ c, String.utf8EncodeChar c <+: b :: ofRunes rs
      · obtain ⟨c, rest, split⟩ := begins
        rw [← split, runes_encodeChar_append] at h
        exact Rune.noConfusion (List.cons.inj h).1
      · rw [runes_cons_of_isStray (fun c hc => begins ⟨c, hc⟩)] at h
        exact (List.cons.inj h).2

/-- The first runes of a decoded text are decoded as they were, by induction over them: a
byte that begins no encoding begins none either when less follows it.
-/
theorem runes_ofRunes_left {rs more : List Rune}
    (h : runes (ofRunes (rs ++ more)) = rs ++ more)
    : runes (ofRunes rs) = rs := by
  induction rs with
  | nil => rfl
  | cons r rs ih =>
      have tail := ih (runes_ofRunes_tail h)
      cases r with
      | char c =>
          change runes (String.utf8EncodeChar c ++ ofRunes rs) = _
          rw [runes_encodeChar_append, tail]
      | stray b =>
          change runes (b :: ofRunes (rs ++ more)) = _ at h
          have alone : IsStray b (ofRunes rs) := by
            intro c hc
            have reaches : String.utf8EncodeChar c <+: b :: ofRunes (rs ++ more) := by
              rw [ofRunes_append]
              exact hc.trans (List.prefix_append (b :: ofRunes rs) (ofRunes more))
            obtain ⟨rest, split⟩ := reaches
            rw [← split, runes_encodeChar_append] at h
            exact Rune.noConfusion (List.cons.inj h).1
          change runes (b :: ofRunes rs) = _
          rw [runes_cons_of_isStray alone, tail]

/-- A run of runes out of a text is decoded as it was. -/
theorem runes_ofRunes_of_isInfix {text : Bytes} {rs : List Rune} (h : rs <:+: runes text)
    : runes (ofRunes rs) = rs := by
  obtain ⟨before, after, split⟩ := h
  have whole : runes (ofRunes (before ++ (rs ++ after))) = before ++ (rs ++ after) := by
    rw [← List.append_assoc, split, ofRunes_runes]
  clear split
  induction before with
  | nil => exact runes_ofRunes_left whole
  | cons r before ih => exact ih (runes_ofRunes_tail whole)

/-- Runes without stray bytes are the encoding of their characters. -/
theorem exists_ofChars_of_isChar {text : Bytes}
    (h : ∀ r ∈ runes text, r.isChar = true)
    : ∃ cs, text = ofChars cs ∧ runes text = cs.map .char := by
  have plain : runes text = (chars text).map .char := by
    rw [chars, List.map_map]
    refine (List.map_id' _).symm.trans (List.map_congr_left ?_)
    intro r member
    cases r with
    | char c => rfl
    | stray b => exact absurd (h _ member) (by simp [Rune.isChar])
  refine ⟨chars text, ?_, plain⟩
  rw [← ofRunes_map_char, ← plain, ofRunes_runes]

end IppXml
