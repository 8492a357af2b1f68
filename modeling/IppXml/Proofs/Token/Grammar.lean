import IppXml.Proofs.Text.Languages
import IppXml.Proofs.Token.Validity
import IppXml.Sorting

/-! The grammar of tokens as languages of bytes.

The languages are written down with alphabets and patterns alone. Each check of the lexer
decides one of them, and the category of a token is that of the language it is in. Variables,
constants and identifiers have no token in common, so it makes no difference in which sequence
they are tried; only type names are identifiers too.
-/

namespace IppXml

open Token
open scoped Computability

-----------------------------------------------------------------------------------------
-- The languages
-----------------------------------------------------------------------------------------

namespace Grammar

/-- The text alone. -/
def word (text : Bytes) : Language UInt8 :=
  {text}

/-- One byte of the alphabet. -/
def among (alphabet : Bytes) : Language UInt8 :=
  oneOf (· ∈ alphabet)

def letters : Bytes := "ABCDEFGHIJKLMNOPQRSTUVWXYZabcdefghijklmnopqrstuvwxyz"

def signs : Bytes := "_-&%*!?"

def digits : Bytes := "0123456789"

/-- A letter of the alphabet, and then letters of the alphabet and digits. -/
def identifiers (alphabet : Bytes) : Language UInt8 :=
  among alphabet * (among (alphabet ++ digits))∗

def variableTokens : Language UInt8 :=
  (word "GF" + word "LF" + word "TF") * (word "@" * identifiers (letters ++ signs))

/-- The identifiers of labels. Names of types are among them. -/
def labels : Language UInt8 :=
  identifiers (letters ++ signs ++ "$")

def typeNames : Language UInt8 :=
  word "int" + word "bool" + word "string" + word "nil"

def decimals : Language UInt8 :=
  (1 + among "+-") * atLeastOnce (among digits)

def hexadecimals : Language UInt8 :=
  word "0" * (among "xX" * atLeastOnce (among "0123456789abcdefABCDEF"))

def octals : Language UInt8 :=
  word "0" * (among "oO" * atLeastOnce (among "01234567"))

/-- Texts in which every backslash begins an escape of three digits. -/
def escapedTexts : Language UInt8 :=
  escaped backslash (· ∈ digits)

/-- The codes of the characters that XML allows. -/
def IsXmlCode (n : Nat) : Prop :=
  n = 0x9 ∨ n = 0xA ∨ n = 0xD ∨ (0x20 ≤ n ∧ n ≤ 0xD7FF) ∨ (0xE000 ≤ n ∧ n ≤ 0xFFFD)
    ∨ (0x10000 ≤ n ∧ n ≤ 0x10FFFF)

/-- Characters that XML allows, in UTF-8. -/
def xmlTexts : Language UInt8 :=
  {text | ∃ cs : List Char, text = ofChars cs ∧ ∀ c ∈ cs, IsXmlCode c.toNat}

/-- Escaped texts of characters that XML allows. -/
def stringLiterals : Language UInt8 :=
  {text | text ∈ escapedTexts ∧ text ∈ xmlTexts}

def constantTokens : Language UInt8 :=
  word "int@" * (decimals + hexadecimals + octals)
    + word "bool@" * (word "true" + word "false")
    + word "string@" * stringLiterals
    + word "nil@nil"

/-- The tokens of a category. -/
def tokens : Category → Language UInt8
  | .var => variableTokens
  | .constant => constantTokens
  | .typeName => typeNames
  | .label => labels - typeNames
  | .invalid => {token | token ∉ variableTokens + constantTokens + typeNames + labels}

-----------------------------------------------------------------------------------------
-- Alphabets
-----------------------------------------------------------------------------------------

theorem mem_word {text other : Bytes}
    : text ∈ word other ↔ text = other :=
  Iff.rfl

theorem mem_word_mul {text before : Bytes} {l : Language UInt8}
    : text ∈ word before * l ↔ ∃ rest ∈ l, text = before ++ rest := by
  rw [Language.mem_mul]
  constructor
  · rintro ⟨_, rfl, rest, member, rfl⟩
    exact ⟨rest, member, rfl⟩
  · rintro ⟨rest, member, rfl⟩
    exact ⟨before, rfl, rest, member, rfl⟩

theorem mem_among_mul {alphabet text : Bytes} {l : Language UInt8}
    : text ∈ among alphabet * l ↔ ∃ b rest, b ∈ alphabet ∧ rest ∈ l ∧ text = b :: rest :=
  mem_oneOf_mul

theorem cons_mem_among_mul {alphabet rest : Bytes} {b : UInt8} {l : Language UInt8}
    : b :: rest ∈ among alphabet * l ↔ b ∈ alphabet ∧ rest ∈ l :=
  cons_mem_oneOf_mul

/-- An alphabet lists a class of bytes if its codes, put in sequence, are those of the class. -/
theorem mem_alphabet {alphabet : Bytes} {cls : UInt8 → Bool} {b : UInt8}
    (h : sortBy Nat.ble (alphabet.map UInt8.toNat)
      = (List.range 256).filter fun n => cls (UInt8.ofNat n))
    : b ∈ alphabet ↔ cls b = true := by
  have codes := (sortBy_perm Nat.ble (alphabet.map UInt8.toNat)).mem_iff (a := b.toNat)
  rw [h, List.mem_map_of_injective fun _ _ => UInt8.toNat_inj.mp] at codes
  rw [← codes, List.mem_filter, UInt8.ofNat_toNat, List.mem_range]
  exact and_iff_right b.toNat_lt

theorem mem_digits {b : UInt8}
    : b ∈ digits ↔ isDigit b = true :=
  mem_alphabet (by decide +kernel)

theorem mem_variableLetters {b : UInt8}
    : b ∈ letters ++ signs ↔ isVariableLetter b = true :=
  mem_alphabet (by decide +kernel)

theorem mem_labelLetters {b : UInt8}
    : b ∈ letters ++ signs ++ utf8 "$" ↔ isLabelLetter b = true :=
  mem_alphabet (by decide +kernel)

theorem mem_hexDigits {b : UInt8}
    : b ∈ utf8 "0123456789abcdefABCDEF" ↔ isHexDigit b = true :=
  mem_alphabet (by decide +kernel)

theorem mem_octalDigits {b : UInt8}
    : b ∈ utf8 "01234567" ↔ isOctalDigit b = true :=
  mem_alphabet (by decide +kernel)

-----------------------------------------------------------------------------------------
-- Identifiers and variables
-----------------------------------------------------------------------------------------

theorem mem_identifiers {alphabet text : Bytes} {letter : UInt8 → Bool}
    (same : ∀ {b}, b ∈ alphabet ↔ letter b = true)
    : text ∈ identifiers alphabet ↔ isIdentifier letter text = true := by
  cases text with
  | nil =>
      rw [identifiers, mem_among_mul]
      simp [isIdentifier]
  | cons b rest =>
      rw [identifiers, cons_mem_among_mul, among, mem_kstar_oneOf]
      simp [isIdentifier, same, mem_digits]

theorem mem_labels {token : Bytes}
    : token ∈ labels ↔ isLabel token = true :=
  mem_identifiers mem_labelLetters

theorem mem_typeNames {token : Bytes}
    : token ∈ typeNames ↔ isTypeName token = true := by
  simp only [typeNames, Language.mem_add, mem_word, isTypeName, Bool.or_eq_true,
    decide_eq_true_eq]

/-- A variable is cut at its at sign, because no frame holds one. -/
theorem mem_variableTokens {token : Bytes}
    : token ∈ variableTokens ↔ isVariable token = true := by
  have frames {frame : Bytes}
      : frame ∈ word "GF" + word "LF" + word "TF" ↔ isFrame frame = true := by
    simp only [Language.mem_add, mem_word, isFrame, Bool.or_eq_true, decide_eq_true_eq]
  have sign : utf8 "@" = [atSign] := rfl
  rw [variableTokens, Language.mem_mul]
  constructor
  · rintro ⟨frame, framed, rest, named, rfl⟩
    obtain ⟨name, member, rfl⟩ := mem_word_mul.mp named
    have frame' := frames.mp framed
    have absent : atSign ∉ frame := by
      simp only [isFrame, Bool.or_eq_true, decide_eq_true_eq] at frame'
      rcases frame' with (rfl | rfl) | rfl <;> decide
    rw [sign, List.singleton_append, isVariable, Bytes.cutAt?_append name absent]
    simpa [frame'] using (mem_identifiers mem_variableLetters).mp member
  · intro h
    rw [isVariable] at h
    split at h
    · next frame name cut =>
        obtain ⟨rfl, _⟩ := Bytes.cutAt?_eq_some cut
        rw [Bool.and_eq_true] at h
        refine ⟨frame, frames.mpr h.1, atSign :: name, mem_word_mul.mpr ⟨name, ?_, rfl⟩, rfl⟩
        exact (mem_identifiers mem_variableLetters).mpr h.2
    · exact Bool.noConfusion h

-----------------------------------------------------------------------------------------
-- Constants
-----------------------------------------------------------------------------------------

theorem mem_numerals {alphabet text : Bytes} {digit : UInt8 → Bool}
    (same : ∀ {b}, b ∈ alphabet ↔ digit b = true)
    : text ∈ atLeastOnce (among alphabet) ↔ isNumeral digit text = true := by
  rw [among, mem_atLeastOnce_oneOf]
  simp [isNumeral, same]

/-- A decimal literal is a numeral, with or without a sign in front of it. -/
theorem mem_decimals {text : Bytes}
    : text ∈ decimals ↔ isDecimalLiteral text = true := by
  have numerals {rest : Bytes}
      : rest ∈ atLeastOnce (among digits) ↔ isNumeral isDigit rest = true :=
    mem_numerals mem_digits
  have sign {b : UInt8} : b ∈ utf8 "+-" ↔ b = 0x2B ∨ b = 0x2D := by
    simp [show utf8 "+-" = [0x2B, 0x2D] from rfl]
  rw [decimals, add_mul, one_mul, Language.mem_add, numerals, isDecimalLiteral]
  cases text with
  | nil =>
      rw [mem_among_mul]
      simp [isNumeral, splitSign]
  | cons b rest =>
      rw [cons_mem_among_mul, numerals, sign, splitSign]
      -- a sign is no digit, so a text with one is read in one way only
      split
      · next minus => simp [minus, isNumeral, show isDigit 0x2D = false from rfl]
      split
      · next plus => simp [plus, isNumeral, show isDigit 0x2B = false from rfl]
      · next minus plus => simp [minus, plus]

/-- A zero, a mark in either case and a numeral. -/
theorem mem_marked {mark : UInt8} {marks alphabet text : Bytes} {digit : UInt8 → Bool}
    (cases : ∀ {m}, m ∈ marks ↔ m = mark ∨ m = mark - 0x20)
    (same : ∀ {b}, b ∈ alphabet ↔ digit b = true)
    : text ∈ word "0" * (among marks * atLeastOnce (among alphabet))
      ↔ isMarkedLiteral mark digit text = true := by
  have zero : utf8 "0" = [0x30] := rfl
  simp only [mem_word_mul, mem_among_mul, mem_numerals same, cases, zero]
  constructor
  · rintro ⟨_, ⟨m, rest, marked, numeral, rfl⟩, rfl⟩
    simp [isMarkedLiteral, numeral, marked]
  · intro h
    rw [isMarkedLiteral.eq_def] at h
    split at h
    · next zero m rest =>
        simp only [Bool.and_eq_true, Bool.or_eq_true, decide_eq_true_eq] at h
        obtain ⟨⟨rfl, marked⟩, numeral⟩ := h
        exact ⟨_, ⟨m, rest, marked, numeral, rfl⟩, rfl⟩
    · exact Bool.noConfusion h

theorem mem_integers {text : Bytes}
    : text ∈ decimals + hexadecimals + octals ↔ isIntegerLiteral text = true := by
  have hexadecimal : text ∈ hexadecimals ↔ isMarkedLiteral 0x78 isHexDigit text = true :=
    mem_marked (by simp [show utf8 "xX" = [0x78, 0x58] from rfl]) mem_hexDigits
  have octal : text ∈ octals ↔ isMarkedLiteral 0x6F isOctalDigit text = true :=
    mem_marked (by simp [show utf8 "oO" = [0x6F, 0x4F] from rfl]) mem_octalDigits
  rw [Language.mem_add, Language.mem_add, mem_decimals, hexadecimal, octal, isIntegerLiteral,
    Bool.or_eq_true, Bool.or_eq_true]

/-- The lexer decides which texts are escaped, by induction along its check. -/
theorem mem_escapedTexts {text : Bytes}
    : text ∈ escapedTexts ↔ isEscaped text = true := by
  fun_induction isEscaped text with
  | case1 => exact iff_of_true nil_mem_escaped rfl
  | case2 d₁ d₂ d₃ rest ih =>
      rw [escapedTexts, cons_mem_escaped_iff, ← escapedTexts]
      simp [ih, mem_digits, and_assoc]
  | case3 rest short =>
      rw [escapedTexts, cons_mem_escaped_iff]
      refine iff_of_false ?_ (by simp)
      rintro (⟨plain, _⟩ | ⟨_, d₁, d₂, d₃, more, _, _, rfl⟩)
      · exact plain rfl
      · exact short d₁ d₂ d₃ more rfl
  | case4 b rest plain ih =>
      rw [escapedTexts, cons_mem_escaped_iff, ← escapedTexts]
      simp [plain, ih]

theorem isXmlCode_iff {c : Char}
    : IsXmlCode c.toNat ↔ isXmlChar c = true := by
  have last := toNat_le_lastCode c
  rw [isXmlChar_iff, IsXmlCode]
  omega

theorem mem_xmlTexts {text : Bytes}
    : text ∈ xmlTexts ↔ isXmlText text = true := by
  constructor
  · rintro ⟨cs, rfl, allowed⟩
    exact isXmlText_ofChars.mpr fun c member => isXmlCode_iff.mp (allowed c member)
  · intro xml
    obtain ⟨cs, rfl, allowed⟩ := exists_ofChars_of_isXmlText xml
    exact ⟨cs, rfl, fun c member => isXmlCode_iff.mpr (allowed c member)⟩

/-- A constant is the name of its type, the at sign and a value of the type. -/
theorem isConstant_iff {token : Bytes}
    : Token.isConstant token = true
      ↔ ∃ t : ArgType, t.isConstant = true
          ∧ ∃ value, t.admits value = true ∧ token = t.name ++ "@" ++ value := by
  constructor
  · intro constant
    obtain ⟨t, value, cut, known, admitted⟩ := exists_of_isConstant constant
    obtain ⟨rfl, _⟩ := Bytes.cutAt?_eq_some cut
    exact ⟨t, known, value, admitted, by simp [show utf8 "@" = [atSign] from rfl]⟩
  · rintro ⟨t, known, value, admitted, rfl⟩
    rw [isConstant_append value known, admitted]

/-- The constants of the grammar are those of the lexer, type by type. -/
theorem mem_constantTokens {token : Bytes}
    : token ∈ constantTokens ↔ Token.isConstant token = true := by
  simp only [constantTokens, Language.mem_add, mem_word_mul, mem_word]
  rw [isConstant_iff]
  constructor
  · rintro (((⟨value, integer, rfl⟩ | ⟨value, truth, rfl⟩) | ⟨value, literal, rfl⟩) | rfl)
    · exact ⟨.int, rfl, value, mem_integers.mp integer, rfl⟩
    · exact ⟨.bool, rfl, value, by simpa [ArgType.admits] using truth, rfl⟩
    · have escaped := mem_escapedTexts.mp literal.1
      have xml := mem_xmlTexts.mp literal.2
      exact ⟨.string, rfl, value, Bool.and_eq_true_iff.mpr ⟨escaped, xml⟩, rfl⟩
    · exact ⟨.nil, rfl, "nil", by decide, rfl⟩
  · rintro ⟨t, known, value, admitted, rfl⟩
    cases t with
    | var | label | type => exact Bool.noConfusion known
    | int => exact Or.inl (Or.inl (Or.inl ⟨value, mem_integers.mpr admitted, rfl⟩))
    | bool =>
        have truth : value = "true" ∨ value = "false" := by
          simpa [ArgType.admits] using admitted
        exact Or.inl (Or.inl (Or.inr ⟨value, truth, rfl⟩))
    | string =>
        obtain ⟨escaped, xml⟩ := Bool.and_eq_true_iff.mp admitted
        have literal := And.intro (mem_escapedTexts.mpr escaped) (mem_xmlTexts.mpr xml)
        exact Or.inl (Or.inr ⟨value, literal, rfl⟩)
    | nil =>
        rw [of_decide_eq_true admitted]
        exact Or.inr rfl

end Grammar

-----------------------------------------------------------------------------------------
-- Categories
-----------------------------------------------------------------------------------------

namespace Token

/-- The name in front of the at sign tells variables from constants. -/
@[grind →] theorem not_isConstant_of_isVariable {token : Bytes} (h : isVariable token = true)
    : Token.isConstant token = false := by
  rw [isVariable] at h
  rw [Token.isConstant]
  split at h
  · next frame name cut =>
      have framed := (Bool.and_eq_true_iff.mp h).1
      simp only [isFrame, Bool.or_eq_true, decide_eq_true_eq] at framed
      rcases framed with (rfl | rfl) | rfl <;> rfl
  · exact Bool.noConfusion h

/-- Identifiers hold no at sign, so they are no variables and no constants. -/
@[grind →] theorem bare_of_isLabel {token : Bytes} (h : isLabel token = true)
    : isVariable token = false ∧ Token.isConstant token = false := by
  have bare := Bytes.cutAt?_eq_none (atSign_not_mem_of_isLabel h)
  simp [isVariable, Token.isConstant, bare]

@[grind →] theorem isLabel_of_isTypeName {token : Bytes} (h : isTypeName token = true)
    : isLabel token = true := by
  simp only [isTypeName, Bool.or_eq_true, decide_eq_true_eq] at h
  rcases h with ((rfl | rfl) | rfl) | rfl <;> decide

/-- The category of a token is the one it is a token of. -/
theorem classify_eq_iff {token : Bytes} {category : Category}
    : classify token = category ↔ token ∈ Grammar.tokens category := by
  cases category with
  | invalid =>
      change _ ↔ token ∉ Grammar.variableTokens + Grammar.constantTokens + Grammar.typeNames
        + Grammar.labels
      simp only [Language.mem_add, Grammar.mem_variableTokens, Grammar.mem_constantTokens,
        Grammar.mem_typeNames, Grammar.mem_labels]
      grind [classify]
  | var => grind [classify, Grammar.tokens, Grammar.mem_variableTokens]
  | constant => grind [classify, Grammar.tokens, Grammar.mem_constantTokens]
  | typeName => grind [classify, Grammar.tokens, Grammar.mem_typeNames]
  | label =>
      simp only [Grammar.tokens, Language.mem_sub, Grammar.mem_typeNames, Grammar.mem_labels]
      grind [classify]

-----------------------------------------------------------------------------------------
-- The sequence of the patterns
-----------------------------------------------------------------------------------------

/-- The patterns of tokens, in the sequence in which the lexer tries them. -/
def patterns : List (Category × (Bytes → Bool)) :=
  [(.var, isVariable), (.constant, Token.isConstant), (.typeName, isTypeName),
    (.label, isLabel)]

/-- The category of the first pattern that a token matches. -/
def firstMatch (order : List (Category × (Bytes → Bool))) (token : Bytes) : Category :=
  ((order.find? fun pattern => pattern.2 token).map Prod.fst).getD .invalid

theorem classify_eq_firstMatch (token : Bytes)
    : classify token = firstMatch patterns token := by
  simp only [classify, firstMatch, patterns, List.find?_cons, List.find?_nil]
  cases isVariable token <;> cases Token.isConstant token <;> cases isTypeName token
    <;> cases isLabel token <;> rfl

/-- Where no two items pass a test, the sequence does not matter for the first one. -/
theorem find?_of_perm {α : Type} {p : α → Bool} {xs ys : List α} (h : xs.Perm ys)
    (unique : ∀ x ∈ xs, ∀ y ∈ xs, p x = true → p y = true → x = y)
    : ys.find? p = xs.find? p := by
  cases found : xs.find? p with
  | none =>
      rw [List.find?_eq_none] at found ⊢
      exact fun y member => found y (h.mem_iff.mpr member)
  | some x =>
      have inside := List.mem_of_find?_eq_some found
      have passes := List.find?_some found
      obtain ⟨y, first⟩ : ∃ y, ys.find? p = some y := by
        rw [← Option.isSome_iff_exists, List.find?_isSome]
        exact ⟨x, h.mem_iff.mp inside, passes⟩
      have other := h.mem_iff.mpr (List.mem_of_find?_eq_some first)
      rw [first, unique x inside y other passes (List.find?_some first)]

/-- A token that is no name of a type matches one pattern at most. -/
theorem patterns_unique {token : Bytes} (h : isTypeName token = false)
    : ∀ x ∈ patterns, ∀ y ∈ patterns, x.2 token = true → y.2 token = true → x = y := by
  simp only [patterns, List.forall_mem_cons, List.not_mem_nil, false_imp_iff, implies_true,
    and_true, h]
  grind

/-- The sequence of the patterns matters exactly for the names of types. -/
theorem firstMatch_eq_iff {token : Bytes}
    : (∀ order : List (Category × (Bytes → Bool)),
          order.Perm patterns → firstMatch order token = classify token)
      ↔ token ∉ Grammar.typeNames := by
  rw [Grammar.mem_typeNames, Bool.not_eq_true]
  constructor
  · intro same
    by_contra named
    rw [Bool.not_eq_false] at named
    have labelled : firstMatch patterns.reverse token = .label := by
      simp [firstMatch, patterns, isLabel_of_isTypeName named]
    have typed : classify token = .typeName :=
      classify_eq_iff.mpr (Grammar.mem_typeNames.mpr named)
    have contrary := same _ patterns.reverse_perm
    rw [labelled, typed] at contrary
    exact Category.noConfusion contrary
  · intro other order permuted
    rw [classify_eq_firstMatch, firstMatch, firstMatch,
      find?_of_perm permuted.symm (patterns_unique other)]

/-- The lexer decides its grammar. Every token has the category whose language it is in, and
is in no other; variables, constants and identifiers have no token in common; the sequence in
which the patterns are tried matters exactly for the names of types; and the tokens that a
label slot accepts are the labels and the names of types.
-/
theorem classify_decides_grammar (token : Bytes)
    : (∀ category, classify token = category ↔ token ∈ Grammar.tokens category)
      ∧ ¬ (token ∈ Grammar.variableTokens ∧ token ∈ Grammar.constantTokens)
      ∧ ¬ (token ∈ Grammar.variableTokens ∧ token ∈ Grammar.labels)
      ∧ ¬ (token ∈ Grammar.constantTokens ∧ token ∈ Grammar.labels)
      ∧ ((∀ order : List (Category × (Bytes → Bool)),
            order.Perm patterns → firstMatch order token = classify token)
          ↔ token ∉ Grammar.typeNames)
      ∧ (Slot.label.accepts token = true
          ↔ classify token = .label ∨ classify token = .typeName) := by
  rw [Grammar.mem_variableTokens, Grammar.mem_constantTokens, Grammar.mem_labels]
  refine ⟨fun _ => classify_eq_iff, ?_, ?_, ?_, firstMatch_eq_iff, ?_⟩
  · rintro ⟨framed, constant⟩
    rw [not_isConstant_of_isVariable framed] at constant
    exact Bool.noConfusion constant
  · rintro ⟨framed, identifier⟩
    rw [(bare_of_isLabel identifier).1] at framed
    exact Bool.noConfusion framed
  · rintro ⟨constant, identifier⟩
    rw [(bare_of_isLabel identifier).2] at constant
    exact Bool.noConfusion constant
  · rw [classify_eq_iff, classify_eq_iff, Grammar.tokens, Grammar.tokens, Language.mem_sub,
      Grammar.mem_typeNames, Grammar.mem_labels]
    constructor
    · intro identifier
      by_cases named : isTypeName token = true
      · exact Or.inr named
      · exact Or.inl ⟨identifier, named⟩
    · rintro (⟨identifier, _⟩ | named)
      · exact identifier
      · exact isLabel_of_isTypeName named

/-- A variable is found whatever is tried in front of its pattern. -/
theorem classify_decides_grammar_reversed
    : utf8 "GF@x" ∉ Grammar.typeNames
      ∧ patterns.reverse.Perm patterns
      ∧ firstMatch patterns.reverse "GF@x" = .var
      ∧ utf8 "GF@x" ∈ Grammar.tokens .var := by
  obtain ⟨decides, _, _, _, sequence, _⟩ := classify_decides_grammar "GF@x"
  have framed : classify "GF@x" = .var := by decide
  have other : utf8 "GF@x" ∉ Grammar.typeNames := by
    rw [Grammar.mem_typeNames]
    decide
  refine ⟨other, patterns.reverse_perm, ?_, (decides .var).mp framed⟩
  rw [sequence.mpr other _ patterns.reverse_perm, framed]

end Token

end IppXml
