import IppXml.Proofs.Text.Words

/-! Integers in decimal: which texts spell them, and that they survive being written and
read again.
-/

namespace IppXml

theorem isDigit_iff {b : UInt8}
    : isDigit b = true ↔ 0x30 ≤ b.toNat ∧ b.toNat ≤ 0x39 := by
  simp [isDigit, UInt8.le_iff_toNat_le]

theorem toNat_of_mem_toDigits {n : Nat} {c : Char} (h : c ∈ Nat.toDigits 10 n)
    : 0x30 ≤ c.toNat ∧ c.toNat ≤ 0x39 := by
  have digit := Nat.isDigit_of_mem_toDigits (by decide) (by decide) h
  simpa [Char.isDigit, UInt32.le_iff_toNat_le] using digit

/-- Digits are written as one byte each, which has the code of the digit. -/
theorem decimalNat_eq_map (n : Nat)
    : decimalNat n = (Nat.toDigits 10 n).map fun c => UInt8.ofNat c.toNat := by
  refine ofChars_ascii ?_
  intro c member
  have bounds := toNat_of_mem_toDigits member
  omega

theorem decimalNat_ne_nil (n : Nat)
    : decimalNat n ≠ [] := by
  simp [decimalNat_eq_map]

theorem isDigit_of_mem_decimalNat {n : Nat} {b : UInt8} (h : b ∈ decimalNat n)
    : isDigit b = true := by
  rw [decimalNat_eq_map] at h
  obtain ⟨c, member, rfl⟩ := List.mem_map.mp h
  have bounds := toNat_of_mem_toDigits member
  rw [isDigit_iff, UInt8.toNat_ofNat']
  omega

/-- The digits of a number spell that number. -/
theorem digitsValue_decimalNat (n : Nat)
    : digitsValue (decimalNat n) = n := by
  have step (value : Nat) : ∀ c ∈ Nat.toDigits 10 n,
      value * 10 + digitValue (UInt8.ofNat c.toNat) = 10 * value + (c.toNat - '0'.toNat) := by
    intro c member
    have bounds := toNat_of_mem_toDigits member
    have zero : '0'.toNat = 0x30 := rfl
    rw [digitValue, UInt8.toNat_ofNat', zero]
    omega
  have folded (cs : List Char) (hcs : ∀ c ∈ cs, c ∈ Nat.toDigits 10 n) (value : Nat)
      : (cs.map fun c => UInt8.ofNat c.toNat).foldl
            (fun value d => value * 10 + digitValue d) value
        = Nat.ofDigitChars 10 cs value := by
    induction cs generalizing value with
    | nil => rfl
    | cons c cs ih =>
        rw [List.map_cons, List.foldl_cons, step value c (hcs c (by simp)),
          Nat.ofDigitChars_cons, ih (fun x hx => hcs x (by simp [hx]))]
  rw [digitsValue, decimalNat_eq_map, folded _ (fun _ h => h), Nat.ofDigitChars_ten_toDigits]

theorem readDigits?_decimalNat (n : Nat)
    : readDigits? (decimalNat n) = some n := by
  have digits : (decimalNat n).all isDigit = true :=
    List.all_eq_true.mpr fun _ member => isDigit_of_mem_decimalNat member
  simp [readDigits?, decimalNat_ne_nil, digits, digitsValue_decimalNat]

/-- A text of digits has no sign. -/
theorem splitSign_of_isDigit {digits : Bytes} (h : ∀ d ∈ digits, isDigit d = true)
    : splitSign digits = (false, digits) := by
  cases digits with
  | nil => rfl
  | cons d rest =>
      have digit := isDigit_iff.mp (h d (by simp))
      have minus : d ≠ 0x2D := by
        intro same
        subst same
        simp at digit
      have plus : d ≠ 0x2B := by
        intro same
        subst same
        simp at digit
      simp [splitSign, minus, plus]

theorem splitSign_decimalNat (n : Nat)
    : splitSign (decimalNat n) = (false, decimalNat n) :=
  splitSign_of_isDigit fun _ member => isDigit_of_mem_decimalNat member

theorem readInteger?_of_sign {text digits : Bytes} {negative : Bool} {n : Nat} {value : Int}
    (sign : splitSign text = (negative, digits)) (read : readDigits? digits = some n)
    (spelled : (if negative then -(n : Int) else n) = value) (h : inInt64 value = true)
    : readInteger? text = some value := by
  subst spelled
  rw [readInteger?, sign]
  simp only [read, Option.bind_some]
  rw [if_pos h]

/-- The text is an optional sign and decimal digits, and spells the number. -/
def SpellsInteger (text : Bytes) (n : Int) : Prop :=
  ∃ sign digits,
    text = sign ++ digits
    ∧ digits ≠ []
    ∧ (∀ d ∈ digits, isDigit d = true)
    ∧ ((sign = [] ∨ sign = "+") ∧ n = digitsValue digits
      ∨ sign = "-" ∧ n = -digitsValue digits)

theorem readDigits?_eq_some {text : Bytes} {n : Nat}
    : readDigits? text = some n
      ↔ text ≠ [] ∧ (∀ d ∈ text, isDigit d = true) ∧ n = digitsValue text := by
  rw [readDigits?]
  split
  · next digits =>
      simp only [Bool.and_eq_true, decide_eq_true_eq, List.all_eq_true] at digits
      rw [Option.some.injEq]
      exact ⟨fun same => ⟨digits.1, digits.2, same.symm⟩, fun given => given.2.2.symm⟩
  · next other =>
      simp only [Bool.and_eq_true, decide_eq_true_eq, List.all_eq_true, not_and] at other
      simp only [reduceCtorEq, false_iff, not_and]
      exact fun nonempty digits => absurd digits (other nonempty)

/-- A text whose digits can be read spells the number with its sign. -/
theorem spellsInteger_of_splitSign {text digits : Bytes} {negative : Bool} {n : Nat}
    (sign : splitSign text = (negative, digits)) (read : readDigits? digits = some n)
    : SpellsInteger text (if negative then -(n : Int) else n) := by
  obtain ⟨nonempty, all, rfl⟩ := readDigits?_eq_some.mp read
  cases text with
  | nil =>
      rw [splitSign, Prod.mk.injEq] at sign
      exact absurd sign.2.symm nonempty
  | cons b bs =>
      rw [splitSign] at sign
      split at sign
      · next minus =>
          obtain ⟨rfl, rfl⟩ := Prod.mk.inj sign
          exact ⟨[b], bs, rfl, nonempty, all, Or.inr ⟨by rw [minus]; rfl, rfl⟩⟩
      split at sign
      · next plus =>
          obtain ⟨rfl, rfl⟩ := Prod.mk.inj sign
          exact ⟨[b], bs, rfl, nonempty, all, Or.inl ⟨Or.inr (by rw [plus]; rfl), rfl⟩⟩
      · obtain ⟨rfl, rfl⟩ := Prod.mk.inj sign
        exact ⟨[], b :: bs, rfl, nonempty, all, Or.inl ⟨Or.inl rfl, rfl⟩⟩

/-- A text is read as a number exactly if it spells the number and that is in range. -/
theorem readInteger?_eq_some {text : Bytes} {n : Int}
    : readInteger? text = some n ↔ SpellsInteger text n ∧ inInt64 n = true := by
  constructor
  · intro h
    rw [readInteger?] at h
    cases sign : splitSign text with
    | mk negative digits =>
        rw [sign] at h
        obtain ⟨value, read, checked⟩ := Option.bind_eq_some_iff.mp h
        have spelled := spellsInteger_of_splitSign sign read
        dsimp only at checked
        generalize (if negative then -(value : Int) else (value : Int)) = number
          at checked spelled
        by_cases fits : inInt64 number = true
        · rw [if_pos fits] at checked
          rw [← Option.some.inj checked]
          exact ⟨spelled, fits⟩
        · rw [if_neg fits] at checked
          exact absurd checked (by simp)
  · intro given
    obtain ⟨⟨sign, digits, rfl, nonempty, all, spelled⟩, fits⟩ := given
    have read := readDigits?_eq_some.mpr ⟨nonempty, all, rfl⟩
    rcases spelled with ⟨rfl | rfl, value⟩ | ⟨rfl, value⟩
    · exact readInteger?_of_sign (splitSign_of_isDigit all) read value.symm fits
    · exact readInteger?_of_sign rfl read value.symm fits
    · exact readInteger?_of_sign rfl read value.symm fits

/-- A number in the range of the library is read as it was written. -/
theorem readInteger?_decimal {n : Int} (h : inInt64 n = true)
    : readInteger? (decimal n) = some n := by
  cases n with
  | ofNat n =>
      exact readInteger?_of_sign (splitSign_decimalNat n) (readDigits?_decimalNat n) rfl h
  | negSucc n =>
      exact readInteger?_of_sign rfl (readDigits?_decimalNat (n + 1)) rfl h

theorem decimalNat_injective
    : Function.Injective decimalNat := by
  intro m n same
  rw [← digitsValue_decimalNat m, same, digitsValue_decimalNat]

theorem minus_not_mem_decimalNat (n : Nat)
    : 0x2D ∉ decimalNat n := by
  intro member
  exact absurd (isDigit_of_mem_decimalNat member) (by decide)

/-- Different numbers are written differently, also those beyond the range of reading. -/
theorem decimal_injective
    : Function.Injective decimal := by
  intro m n same
  cases m with
  | ofNat m =>
      cases n with
      | ofNat n => rw [decimalNat_injective same]
      | negSucc n =>
          change decimalNat m = 0x2D :: decimalNat (n + 1) at same
          exact absurd (same ▸ List.mem_cons_self) (minus_not_mem_decimalNat m)
  | negSucc m =>
      cases n with
      | ofNat n =>
          change 0x2D :: decimalNat (m + 1) = decimalNat n at same
          exact absurd (same ▸ List.mem_cons_self) (minus_not_mem_decimalNat n)
      | negSucc n =>
          have digits := decimalNat_injective (List.cons.inj same).2
          rw [Nat.succ.inj digits]

/-- The bytes that numbers are written with. -/
def decimalBytes : Bytes := "-0123456789"

theorem mem_decimalBytes_of_isDigit {b : UInt8} (h : isDigit b = true)
    : b ∈ decimalBytes := by
  have codes : ∀ n < 0x3A, 0x30 ≤ n → UInt8.ofNat n ∈ decimalBytes := by decide
  obtain ⟨low, high⟩ := isDigit_iff.mp h
  simpa using codes b.toNat (Nat.lt_succ_of_le high) low

/-- A number is written with digits and a minus sign. -/
theorem mem_decimal {n : Int} {b : UInt8} (h : b ∈ decimal n)
    : b ∈ decimalBytes := by
  cases n with
  | ofNat n => exact mem_decimalBytes_of_isDigit (isDigit_of_mem_decimalNat h)
  | negSucc n =>
      rcases List.mem_cons.mp h with rfl | h
      · decide
      · exact mem_decimalBytes_of_isDigit (isDigit_of_mem_decimalNat h)

/-- What holds of digits and the minus sign holds of the bytes of every number. -/
theorem all_decimal {p : UInt8 → Bool} (h : decimalBytes.all p = true) (n : Int)
    : ∀ b ∈ decimal n, p b = true :=
  fun b member => List.all_eq_true.mp h b (mem_decimal member)

/-- No rune of a number is blank. -/
theorem trim_decimal (n : Int)
    : trim (decimal n) = decimal n := by
  have bytes : ∀ b ∈ decimal n,
      (decide (b < 0x80) && !(Rune.char (Char.ofNat b.toNat)).isBlank) = true :=
    all_decimal (by decide) n
  simp only [Bool.and_eq_true, decide_eq_true_eq, Bool.not_eq_true'] at bytes
  refine trim_eq_self ?_
  rw [runes_ascii fun b member => (bytes b member).1]
  intro r member
  obtain ⟨b, written, rfl⟩ := List.mem_map.mp member
  exact (bytes b written).2

end IppXml
