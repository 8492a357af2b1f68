import IppXml.Proofs.Text.Tokens

/-! Layouts of token lists.

A layout of tokens is a line that shows them in sequence: white space of any kind may stand
in front and behind, some has to stand between neighbours, and a comment may follow. The
tokens may be any bytes, also fragments of characters. Main statement: the tokens of a line
are those that it is a layout of, and every line is a layout of its tokens.
-/

namespace IppXml

/-- The text shows the tokens in sequence, each with white space behind it. Only the last
one may have none.
-/
inductive Spread : List Bytes → Bytes → Prop
  | nil : Spread [] []
  | cons {token gap rest : Bytes} {tokens : List Bytes} (first : IsToken token)
    (blank : isBlank gap = true) (apart : gap = [] → tokens = []) (later : Spread tokens rest)
    : Spread (token :: tokens) (token ++ (gap ++ rest))

/-- The text shows the tokens, and white space may stand in front of them. -/
def Indented (tokens : List Bytes) (text : Bytes) : Prop :=
  ∃ front body, isBlank front = true ∧ Spread tokens body ∧ text = front ++ body

/-- The line shows the tokens, and a comment of any bytes may follow them. -/
def IsLayout (tokens : List Bytes) (line : Bytes) : Prop :=
  ∃ text comment,
    Indented tokens text
    ∧ (comment = [] ∨ ∃ remark, comment = commentSign :: remark)
    ∧ line = text ++ comment

-----------------------------------------------------------------------------------------
-- A layout is read as its tokens
-----------------------------------------------------------------------------------------

theorem ofChars_cons (c : Char) (cs : List Char)
    : ofChars (c :: cs) = String.utf8EncodeChar c ++ ofChars cs := by
  rfl

/-- White space in front of a text adds no words. -/
theorem words_blank_append {gap : Bytes} (blank : isBlank gap = true) (rest : Bytes)
    : words (gap ++ rest) = words rest := by
  obtain ⟨cs, rfl, blanks⟩ := isBlank_iff_exists_ofChars.mp blank
  clear blank
  induction cs with
  | nil => rfl
  | cons c cs ih =>
      obtain ⟨head, tail⟩ := List.forall_mem_cons.mp blanks
      have split := words_append_blankChar head [] (ofChars cs ++ rest)
      rw [ofChars_cons, List.append_assoc]
      exact split.trans (ih tail)

/-- White space behind a token ends it, whatever the last bytes of the token and the first
ones of the rest are.
-/
theorem words_token_append {token gap : Bytes} (h : IsToken token)
    (blank : isBlank gap = true) (nonempty : gap ≠ []) (rest : Bytes)
    : words (token ++ (gap ++ rest)) = token :: words rest := by
  obtain ⟨cs, rfl, blanks⟩ := isBlank_iff_exists_ofChars.mp blank
  cases cs with
  | nil => exact absurd rfl nonempty
  | cons c cs =>
      obtain ⟨head, tail⟩ := List.forall_mem_cons.mp blanks
      have behind := isBlank_iff_exists_ofChars.mpr ⟨cs, rfl, tail⟩
      rw [ofChars_cons, List.append_assoc, words_append_blankChar head,
        words_eq_singleton h.nonempty h.visible, words_blank_append behind]
      rfl

/-- Tokens with white space between them are the words of the text, by induction over the
tokens.
-/
theorem Spread.words_eq {tokens : List Bytes} {text : Bytes} (h : Spread tokens text)
    : words text = tokens := by
  induction h with
  | nil => rfl
  | @cons token gap rest tokens first blank apart later ih =>
      by_cases last : gap = []
      · cases apart last
        cases later
        simpa [last] using words_eq_singleton first.nonempty first.visible
      · rw [words_token_append first blank last, ih]

theorem Spread.commentSign_not_mem {tokens : List Bytes} {text : Bytes}
    (h : Spread tokens text)
    : commentSign ∉ text := by
  induction h with
  | nil => exact List.not_mem_nil
  | cons first blank apart later ih =>
      intro member
      rcases List.mem_append.mp member with inside | member
      · exact first.uncommented inside
      rcases List.mem_append.mp member with between | behind
      · exact commentSign_not_mem_of_isBlank blank between
      · exact ih behind

/-- What stands in front of a comment is left of a line. -/
theorem withoutComment_append {text comment : Bytes} (plain : commentSign ∉ text)
    (begins : comment = [] ∨ ∃ remark, comment = commentSign :: remark)
    : withoutComment (text ++ comment) = text := by
  have kept : ∀ b ∈ text, decide (b ≠ commentSign) = true := by
    intro b member
    rw [decide_eq_true_eq]
    exact fun same => plain (same ▸ member)
  rw [withoutComment, List.takeWhile_append_of_pos kept]
  rcases begins with rfl | ⟨remark, rfl⟩ <;> simp

theorem IsLayout.lineTokens_eq {tokens : List Bytes} {line : Bytes} (h : IsLayout tokens line)
    : lineTokens line = tokens := by
  obtain ⟨text, comment, ⟨front, body, blank, spread, rfl⟩, begins, rfl⟩ := h
  have plain : commentSign ∉ front ++ body := by
    intro member
    rcases List.mem_append.mp member with inFront | inBody
    · exact commentSign_not_mem_of_isBlank blank inFront
    · exact spread.commentSign_not_mem inBody
  rw [lineTokens, withoutComment_append plain begins, words_blank_append blank,
    spread.words_eq]

-----------------------------------------------------------------------------------------
-- Every line is a layout
-----------------------------------------------------------------------------------------

theorem isToken_of_runes_eq_cons {token rest : Bytes} {r : Rune}
    (decoded : runes token = r :: runes rest) (visible : r.isBlank = false)
    (later : ∀ s ∈ runes rest, s.isBlank = false) (plain : commentSign ∉ token)
    : IsToken token := by
  refine ⟨?_, ?_, plain⟩
  · intro empty
    rw [empty] at decoded
    exact absurd decoded (by simp)
  · rw [decoded]
    exact List.forall_mem_cons.mpr ⟨visible, later⟩

/-- A visible rune in front of an indented text begins its first token, or is a token of its
own if white space follows it. The rune has to be read in front of any beginning of the text.
-/
theorem Indented.cons_visible {tokens : List Bytes} {rest : Bytes} {r : Rune}
    (h : Indented tokens rest) (visible : r.isBlank = false)
    (reads : ∀ text more, rest = text ++ more → runes (r.bytes ++ text) = r :: runes text)
    (plain : commentSign ∉ r.bytes ++ rest)
    : ∃ more, Indented more (r.bytes ++ rest) := by
  obtain ⟨front, body, blank, spread, rfl⟩ := h
  by_cases apart : front = [] → tokens = []
  · have alone : IsToken r.bytes := by
      have decoded := reads [] _ rfl
      rw [List.append_nil] at decoded
      refine isToken_of_runes_eq_cons decoded visible (by simp) ?_
      exact fun member => plain (List.mem_append_left _ member)
    exact ⟨r.bytes :: tokens, [], _, rfl, .cons alone blank apart spread, rfl⟩
  · rw [Classical.not_imp] at apart
    obtain ⟨rfl, nonempty⟩ := apart
    cases spread with
    | nil => exact absurd rfl nonempty
    | @cons token gap rest tokens first gapBlank gapApart later =>
        have longer : IsToken (r.bytes ++ token) := by
          refine isToken_of_runes_eq_cons (reads token _ rfl) visible first.visible ?_
          intro member
          apply plain
          rw [List.nil_append, ← List.append_assoc]
          exact List.mem_append_left _ member
        have spread := Spread.cons longer gapBlank gapApart later
        exact ⟨(r.bytes ++ token) :: tokens, [], _, rfl, spread, by simp⟩

/-- A byte that begins no character begins none either when less follows it. -/
theorem IsStray.of_append {b : UInt8} {text more : Bytes} (h : IsStray b (text ++ more))
    : IsStray b text := by
  intro c begins
  exact h c (begins.trans (List.prefix_append (b :: text) more))

/-- Every text without a comment sign is a layout of some tokens, rune by rune. -/
theorem exists_indented {text : Bytes} (plain : commentSign ∉ text)
    : ∃ tokens, Indented tokens text := by
  induction text using runesInduction with
  | nil => exact ⟨[], [], [], rfl, .nil, rfl⟩
  | char c rest ih =>
      obtain ⟨tokens, given⟩ := ih fun member => plain (List.mem_append_right _ member)
      cases blank : isBlankChar c with
      | true =>
          obtain ⟨front, body, frontBlank, spread, rfl⟩ := given
          have indented : isBlank (String.utf8EncodeChar c ++ front) = true := by
            rw [isBlank, runes_encodeChar_append, List.all_cons, Bool.and_eq_true]
            exact ⟨blank, frontBlank⟩
          exact ⟨tokens, _, body, indented, spread, by simp⟩
      | false =>
          have visible : (Rune.char c).isBlank = false := blank
          have reads (text more : Bytes) (_ : rest = text ++ more)
              : runes ((Rune.char c).bytes ++ text) = .char c :: runes text :=
            runes_encodeChar_append c text
          exact given.cons_visible visible reads plain
  | stray b rest stray ih =>
      obtain ⟨tokens, given⟩ := ih fun member => plain (List.mem_cons_of_mem b member)
      have reads (text more : Bytes) (split : rest = text ++ more)
          : runes ((Rune.stray b).bytes ++ text) = .stray b :: runes text := by
        rw [split] at stray
        exact runes_cons_of_isStray stray.of_append
      exact given.cons_visible rfl reads plain

/-- Every line is a layout of some tokens: what stands in front of the first comment sign has
one, and the rest is the comment.
-/
theorem exists_isLayout (line : Bytes)
    : ∃ tokens, IsLayout tokens line := by
  have plain : commentSign ∉ withoutComment line := by
    intro member
    simpa using List.mem_takeWhile_imp member
  obtain ⟨tokens, indented⟩ := exists_indented plain
  refine ⟨tokens, withoutComment line, line.dropWhile (· ≠ commentSign), indented, ?_,
    List.takeWhile_append_dropWhile.symm⟩
  cases rest : line.dropWhile (· ≠ commentSign) with
  | nil => exact Or.inl rfl
  | cons b remark =>
      have stops := List.head?_dropWhile_not (· ≠ commentSign) line
      rw [rest] at stops
      have same : b = commentSign := by simpa using stops
      exact Or.inr ⟨remark, by rw [same]⟩

-----------------------------------------------------------------------------------------
-- The tokens of a line
-----------------------------------------------------------------------------------------

/-- Reading a line recovers exactly the tokens that it is a layout of. The tokens of a line
are never empty and hold neither white space nor the comment sign; they are the given ones
exactly if the line is a layout of these; and joined with single spaces they are read again.
-/
theorem lineTokens_recovers_layouts
    : (∀ line, ∀ token ∈ lineTokens line, IsToken token)
      ∧ (∀ tokens line, lineTokens line = tokens ↔ IsLayout tokens line)
      ∧ ∀ line, lineTokens (Bytes.join " " (lineTokens line)) = lineTokens line := by
  refine ⟨fun line token => isToken_of_mem_lineTokens, ?_, ?_⟩
  · intro tokens line
    constructor
    · intro read
      obtain ⟨others, layout⟩ := exists_isLayout line
      rw [← read, layout.lineTokens_eq]
      exact layout
    · exact IsLayout.lineTokens_eq
  · intro line
    exact lineTokens_join fun token => isToken_of_mem_lineTokens

/-- A line with a no-break space in front, the bytes `E2 80` and `A8` as tokens, an em space
between them, no white space behind them, and a comment that begins with a stray byte.
-/
def fragmentLine : Bytes :=
  [0xC2, 0xA0] ++ ([0xE2, 0x80] ++ ([0xE2, 0x80, 0x83] ++ ([0xA8] ++ ([] ++ []))))
    ++ [commentSign, 0x85, 0x20]

/-- The bytes of both tokens would be the line separator U+2028 without the space between
them.
-/
theorem lineTokens_recovers_layouts_fragments
    : IsLayout [[0xE2, 0x80], [0xA8]] fragmentLine
      ∧ lineTokens fragmentLine = [[0xE2, 0x80], [0xA8]]
      ∧ isBlank [0xE2, 0x80, 0xA8] = true := by
  have first : IsToken [0xE2, 0x80] := ⟨by decide, by decide, by decide⟩
  have second : IsToken [0xA8] := ⟨by decide, by decide, by decide⟩
  have spread : Spread [[0xE2, 0x80], [0xA8]]
      ([0xE2, 0x80] ++ ([0xE2, 0x80, 0x83] ++ ([0xA8] ++ ([] ++ [])))) := by
    refine .cons first (by decide) (fun empty => absurd empty (by decide)) ?_
    exact .cons second rfl (fun _ => rfl) .nil
  have layout : IsLayout [[0xE2, 0x80], [0xA8]] fragmentLine :=
    ⟨_, _, ⟨[0xC2, 0xA0], _, by decide, spread, rfl⟩, Or.inr ⟨[0x85, 0x20], rfl⟩, rfl⟩
  exact ⟨layout, (lineTokens_recovers_layouts.2.1 _ _).mpr layout, by decide⟩

end IppXml
