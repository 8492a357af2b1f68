import IppXml.Document.Printer
import IppXml.Proofs.Xml.CharData
import Mathlib.Data.List.TakeWhile

/-! Tags and texts are read as the items they were written for.

Each statement allows any input behind what is read, so that the items of a document are
read off one after the other. A text alone needs to know what follows it: it goes on up to
the next tag.
-/

namespace IppXml.Xml

-----------------------------------------------------------------------------------------
-- Names
-----------------------------------------------------------------------------------------

/-- A name that is written as it is: without a namespace, and in bytes of names. -/
structure IsPlainName (name : Bytes) : Prop where
  isName : isName name = true
  bytes : ∀ b ∈ name, isNameByte b = true
  bare : colon ∉ name

theorem isPlainName_of_all {name : Bytes} (named : isName name = true)
    (bytes : name.all isNameByte = true) (bare : colon ∉ name)
    : IsPlainName name :=
  ⟨named, List.all_eq_true.mp bytes, bare⟩

theorem IsPlainName.ne_nil {name : Bytes} (h : IsPlainName name)
    : name ≠ [] := by
  intro same
  subst same
  exact Bool.noConfusion h.isName

/-- A name is read up to the first byte that does not belong to names. -/
theorem readName?_append {name : Bytes} {b : UInt8} (rest : Bytes) (h : IsPlainName name)
    (stop : isNameByte b = false)
    : readName? (name ++ b :: rest) = some (⟨[], name⟩, b :: rest) := by
  have text : readText? (name ++ b :: rest) = some (name, b :: rest) := by
    simp [readText?, List.takeWhile_append_of_pos h.bytes, List.dropWhile_append_of_pos h.bytes,
      stop, h.isName]
  have whole : Name.ofText? name = some ⟨[], name⟩ := by
    simp [Name.ofText?, List.count_eq_zero.mpr h.bare, Bytes.cutAt?_eq_none h.bare]
  simp [readName?, text, whole]

/-- A name does not begin with space or with a byte that ends a tag. -/
theorem IsPlainName.exists_cons {name : Bytes} (h : IsPlainName name)
    : ∃ b bs, name = b :: bs ∧ isNameByte b = true := by
  obtain ⟨b, bs, rfl⟩ := List.exists_cons_of_ne_nil h.ne_nil
  exact ⟨b, bs, rfl, h.bytes b (by simp)⟩

theorem skipSpace_cons {b : UInt8} (h : isSpace b = false) (rest : Bytes)
    : skipSpace (b :: rest) = b :: rest := by
  simp [skipSpace, h]

theorem isSpace_of_isNameByte {b : UInt8} (h : isNameByte b = true)
    : isSpace b = false := by
  rw [Bool.eq_false_iff]
  intro space
  simp only [isSpace, Bool.or_eq_true, decide_eq_true_eq] at space
  rcases space with ((rfl | rfl) | rfl) | rfl <;> exact Bool.noConfusion h

-----------------------------------------------------------------------------------------
-- Attributes
-----------------------------------------------------------------------------------------

/-- The attribute that is read where a key and a value were written. -/
def carriedAttribute (key value : Bytes) : Attribute :=
  { name := ⟨[], key⟩, value := carried value }

/-- The attributes that are read where these were written. -/
def carriedAttributes (attrs : List (Bytes × Bytes)) : List Attribute :=
  attrs.map fun (key, value) => carriedAttribute key value

/-- The attributes of a tag as they are written. -/
def attributesText (attrs : List (Bytes × Bytes)) : Bytes :=
  attrs.flatMap fun (key, value) => attributeText key value

theorem attributeText_append (key value rest : Bytes)
    : attributeText key value ++ rest
      = 0x20 :: (key ++ 0x3D :: 0x22 :: (escape value ++ 0x22 :: rest)) := by
  have space : utf8 " " = [0x20] := rfl
  have equals : utf8 "=\"" = [0x3D, 0x22] := rfl
  have quote : utf8 "\"" = [0x22] := rfl
  simp [attributeText, space, equals, quote]

theorem attributesText_cons (key value : Bytes) (attrs : List (Bytes × Bytes))
    : attributesText ((key, value) :: attrs)
      = attributeText key value ++ attributesText attrs := by
  rfl

theorem readAttribute?_append {key : Bytes} (value rest : Bytes) (h : IsPlainName key)
    : readAttribute? (key ++ 0x3D :: 0x22 :: (escape value ++ 0x22 :: rest))
      = some (carriedAttribute key value, rest) := by
  have name := readName?_append (0x22 :: (escape value ++ 0x22 :: rest)) h
    (by decide : isNameByte 0x3D = false)
  have equals (input : Bytes) : expect? 0x3D (skipSpace (0x3D :: input)) = some input := by
    simp [skipSpace_cons, isSpace, expect?]
  have quote (input : Bytes) : skipSpace (0x22 :: input) = 0x22 :: input :=
    skipSpace_cons (by decide) input
  simp [readAttribute?, name, equals, quote, readValue?_escape, carriedAttribute]

/-- The attributes of a tag are read up to the bracket that ends it, by induction over
them: each begins with a space and a name.
-/
theorem readTagRest?_attributes {attrs : List (Bytes × Bytes)} {limit : Nat} (rest : Bytes)
    (names : ∀ entry ∈ attrs, IsPlainName entry.1) (enough : attrs.length < limit)
    : readTagRest? limit (attributesText attrs ++ greaterThan :: rest)
      = some { attrs := carriedAttributes attrs, closed := false, rest } := by
  induction attrs generalizing limit with
  | nil =>
      cases limit with
      | zero => exact absurd enough (Nat.not_lt_zero _)
      | succ limit =>
          have bracket : skipSpace (greaterThan :: rest) = greaterThan :: rest :=
            skipSpace_cons (by decide) rest
          simp [attributesText, carriedAttributes, readTagRest?, bracket]
  | cons entry attrs ih =>
      cases limit with
      | zero => exact absurd enough (Nat.not_lt_zero _)
      | succ limit =>
          obtain ⟨key, value⟩ := entry
          have plain : IsPlainName key := names (key, value) (by simp)
          have tail := ih (fun other member => names other (by simp [member]))
            (by simpa using enough)
          have read (input : Bytes) := readAttribute?_append value input plain
          obtain ⟨b, bs, rfl, byte⟩ := plain.exists_cons
          have close : b ≠ greaterThan := by
            intro same
            subst same
            exact Bool.noConfusion byte
          have closed : b ≠ slash := by
            intro same
            subst same
            exact Bool.noConfusion byte
          have skipped (input : Bytes)
              : skipSpace (0x20 :: (b :: bs ++ input)) = b :: (bs ++ input) := by
            simpa [skipSpace, isSpace]
              using skipSpace_cons (isSpace_of_isNameByte byte) (bs ++ input)
          rw [attributesText_cons, List.append_assoc, attributeText_append, readTagRest?,
            skipped]
          simp only [List.cons_append] at read
          simp [carriedAttributes, close, closed, read, tail]

-----------------------------------------------------------------------------------------
-- Items
-----------------------------------------------------------------------------------------

/-- An item that is read completely is the first one, and reading goes on behind it. -/
theorem markup_append {b : UInt8} {taken rest : Bytes} {item : Markup}
    (h : readMarkup? b (taken ++ rest) = some (item, rest))
    : markup (b :: taken ++ rest) = item :: markup rest := by
  refine Text.pieces_append ?_
  simp only [headMarkup, h, List.length_append]
  congr 1
  omega

theorem length_le_attributesText (attrs : List (Bytes × Bytes))
    : attrs.length ≤ (attributesText attrs).length := by
  induction attrs with
  | nil => simp
  | cons entry attrs ih =>
      rw [attributesText_cons, attributeText_append]
      simp only [List.length_cons, List.length_append] at ih ⊢
      omega

/-- Behind an opening bracket, a name begins a start tag. -/
theorem readMarkup?_start {name : Bytes} (rest : Bytes) (h : IsPlainName name)
    : readMarkup? lessThan (name ++ rest) = readStart? (name ++ rest) := by
  obtain ⟨b, bs, rfl, byte⟩ := h.exists_cons
  have differs {d : UInt8} (outside : isNameByte d = false) : b ≠ d := by
    intro same
    subst same
    rw [byte] at outside
    exact Bool.noConfusion outside
  simp [readMarkup?, readBracket?, differs (by decide : isNameByte slash = false),
    differs (by decide : isNameByte 0x3F = false),
    differs (by decide : isNameByte 0x21 = false)]

/-- A start tag is read as the item with its name and its attributes. -/
theorem markup_startTag {name : Bytes} {attrs : List (Bytes × Bytes)} (rest : Bytes)
    (plain : IsPlainName name) (names : ∀ entry ∈ attrs, IsPlainName entry.1)
    : markup (startTag name attrs ++ rest)
      = .start ⟨[], name⟩ (carriedAttributes attrs) :: markup rest := by
  have text : startTag name attrs ++ rest
      = lessThan :: (name ++ (attributesText attrs ++ [greaterThan])) ++ rest := by
    have opening : utf8 "<" = [lessThan] := rfl
    have closing : utf8 ">" = [greaterThan] := rfl
    simp [startTag, opening, closing, attributesText]
  have start : readName? (name ++ (attributesText attrs ++ greaterThan :: rest))
      = some (⟨[], name⟩, attributesText attrs ++ greaterThan :: rest) := by
    cases attrs with
    | nil => exact readName?_append rest plain (by decide)
    | cons entry attrs =>
        rw [attributesText_cons, List.append_assoc, attributeText_append]
        exact readName?_append _ plain (by decide)
  have enough : attrs.length < (attributesText attrs ++ greaterThan :: rest).length + 1 := by
    have count := length_le_attributesText attrs
    rw [List.length_append]
    omega
  have tag := readTagRest?_attributes rest names enough
  rw [text]
  apply markup_append
  rw [List.append_assoc, readMarkup?_start _ plain, List.append_assoc, List.singleton_append,
    readStart?, start, Option.bind_eq_bind, Option.bind_some]
  simp only [tag]
  rfl

/-- An end tag is read as the item with its name. -/
theorem markup_endTag {name : Bytes} (rest : Bytes) (plain : IsPlainName name)
    : markup (endTag name ++ rest) = .close ⟨[], name⟩ :: markup rest := by
  have text : endTag name ++ rest = lessThan :: (slash :: (name ++ [greaterThan])) ++ rest := by
    have opening : utf8 "</" = [lessThan, slash] := rfl
    have closing : utf8 ">" = [greaterThan] := rfl
    simp [endTag, opening, closing]
  have read := readName?_append rest plain (by decide : isNameByte greaterThan = false)
  have bracket : expect? greaterThan (skipSpace (greaterThan :: rest)) = some rest := by
    rw [skipSpace_cons (by decide)]
    rfl
  rw [text]
  apply markup_append
  simp [readMarkup?, readBracket?, readClose?, read, bracket]

/-- A text is read up to the tag behind it, or up to the end. -/
theorem markup_text {text content rest : Bytes} (nonempty : text ≠ [])
    (plain : lessThan ∉ text) (read : contentText? text = some content)
    (stop : ∀ b ∈ rest.head?, b = lessThan)
    : markup (text ++ rest) = .text content :: markup rest := by
  obtain ⟨b, bs, rfl⟩ := List.exists_cons_of_ne_nil nonempty
  have first : b ≠ lessThan := fun same => plain (by simp [same])
  have inside : ∀ x ∈ bs, isTextByte x = true := by
    intro x member
    simp only [isTextByte, ne_eq, decide_eq_true_eq]
    intro same
    subst same
    exact plain (by simp [member])
  have ends : rest.takeWhile isTextByte = [] ∧ rest.dropWhile isTextByte = rest := by
    cases rest with
    | nil => exact ⟨rfl, rfl⟩
    | cons x xs =>
        rw [stop x (by simp)]
        exact ⟨rfl, rfl⟩
  apply markup_append
  rw [readMarkup?, if_neg first, List.takeWhile_append_of_pos inside,
    List.dropWhile_append_of_pos inside, ends.1, ends.2, List.append_nil, read]
  rfl

/-- Input without an opening bracket is one text, or broken, and has no element. -/
theorem Node.read?_eq_none {input : Bytes} (h : lessThan ∉ input)
    : Node.read? input = none := by
  rw [Node.read?, Node.ofMarkup?]
  cases input with
  | nil => rfl
  | cons b bs =>
      cases read : contentText? (b :: bs) with
      | some content =>
          have items : markup ((b :: bs) ++ []) = .text content :: markup [] :=
            markup_text (by simp) h read (by simp)
          rw [List.append_nil] at items
          rw [items]
          rfl
      | none =>
          have first : b ≠ lessThan := fun same => h (by simp [same])
          have all : bs.takeWhile isTextByte = bs := by
            refine List.takeWhile_eq_self_iff.mpr ?_
            intro x member
            exact decide_eq_true fun same => h (by simp [← same, member])
          have broken : headMarkup b bs = (.broken, bs.length + 1) := by
            simp [headMarkup, readMarkup?, first, all, read]
          rw [markup, Text.pieces_cons, broken]
          rfl

end IppXml.Xml
