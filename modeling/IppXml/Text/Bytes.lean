/-! Texts as byte strings.

Source programs and documents arrive as bytes that need not be UTF-8, so every text of
this library is a list of bytes. A string stands for its UTF-8 encoding wherever a text is
expected.
-/

namespace IppXml

/-- A text is any list of bytes. -/
abbrev Bytes := List UInt8

/-- The UTF-8 encoding of a string. -/
def utf8 (s : String) : Bytes :=
  s.toList.flatMap String.utf8EncodeChar

instance : Coe String Bytes := ⟨utf8⟩

namespace Bytes

/-- The parts before and after the first `separator`, if there is one. -/
def cutAt? (separator : UInt8) : Bytes → Option (Bytes × Bytes)
  | [] => none
  | b :: bs =>
      if b = separator then some ([], bs)
      else (cutAt? separator bs).map fun (before, after) => (b :: before, after)

/-- The parts before and after the first occurrence of `pattern`, if there is one. -/
def cutAround? (pattern : Bytes) : Bytes → Option (Bytes × Bytes)
  | [] => if pattern = [] then some ([], []) else none
  | b :: bs =>
      match pattern.isPrefixOf? (b :: bs) with
      | some after => some ([], after)
      | none => (cutAround? pattern bs).map fun (before, after) => (b :: before, after)

/-- Whether `pattern` occurs in the text. -/
def includes (text pattern : Bytes) : Bool :=
  (cutAround? pattern text).isSome

/-- Every occurrence of the byte `old` replaced by the text `new`. -/
def replaceByte (old : UInt8) (new : Bytes) (text : Bytes) : Bytes :=
  text.flatMap fun b => if b = old then new else [b]

/-- The texts in sequence, with `separator` between neighbours. -/
def join (separator : Bytes) (texts : List Bytes) : Bytes :=
  separator.intercalate texts

/-- The lines of a text: what stands between line feeds, the last line included. -/
def lines (text : Bytes) : List Bytes :=
  text.splitOn 0x0A

/-- The text `count` times in a row. -/
def times (count : Nat) (text : Bytes) : Bytes :=
  (List.replicate count text).flatten

end Bytes

theorem Bytes.cutAt?_eq_some {separator : UInt8} {text before after : Bytes}
    (h : text.cutAt? separator = some (before, after))
    : text = before ++ separator :: after ∧ separator ∉ before := by
  induction text generalizing before with
  | nil => simp [Bytes.cutAt?] at h
  | cons b bs ih =>
      rw [Bytes.cutAt?] at h
      split at h
      · next hb => simp_all
      · next hb =>
          obtain ⟨⟨left, right⟩, hcut, heq⟩ := Option.map_eq_some_iff.mp h
          simp only [Prod.mk.injEq] at heq
          obtain ⟨rfl, rfl⟩ := heq
          obtain ⟨rfl, hmem⟩ := ih hcut
          simp [hmem, Ne.symm hb]

theorem Bytes.cutAt?_append {separator : UInt8} {before : Bytes} (after : Bytes)
    (h : separator ∉ before)
    : Bytes.cutAt? separator (before ++ separator :: after) = some (before, after) := by
  induction before with
  | nil => simp [Bytes.cutAt?]
  | cons b bs ih =>
      simp only [List.mem_cons, not_or] at h
      simp [Bytes.cutAt?, Ne.symm h.1, ih h.2]

theorem Bytes.cutAt?_eq_none {separator : UInt8} {text : Bytes} (h : separator ∉ text)
    : text.cutAt? separator = none := by
  induction text with
  | nil => rfl
  | cons b bs ih =>
      simp only [List.mem_cons, not_or] at h
      simp [Bytes.cutAt?, Ne.symm h.1, ih h.2]

end IppXml
