import IppXml.Proofs.Xml.Tags
import Mathlib.Data.List.DropRight

/-! How far the readers of markup go.

What is read depends on the bytes that are taken for it. Markup ends with a sign of its own, so
that anything may follow it; a name or a text ends where the byte behind it does not belong to
it any more. Readers are put together as they are in markup, one behind the other.
-/

namespace IppXml.Xml

-----------------------------------------------------------------------------------------
-- Readers that end
-----------------------------------------------------------------------------------------

section Readers

variable {reads continues : Bytes → Bytes → Prop} {input middle rest : Bytes}

/-- The relation, between an input and what reading leaves of it, holds of the input and its
rest, and would hold with any other rest behind the bytes that are taken.
-/
def ReadsTo (reads : Bytes → Bytes → Prop) (input rest : Bytes) : Prop :=
  ∃ taken, taken ≠ [] ∧ input = taken ++ rest ∧ ∀ more, reads (taken ++ more) more

/-- The relation holds of the input and its rest, and would hold with any other rest that
begins with the same byte.
-/
def ReadsUpTo (reads : Bytes → Bytes → Prop) (input rest : Bytes) : Prop :=
  ∃ taken,
    input = taken ++ rest ∧ ∀ more, more.head? = rest.head? → reads (taken ++ more) more

/-- The reader returns what it has read with the rest of its input, and it would read the same in
front of any other rest: what it reads ends with a sign of its own.
-/
def Ends {α : Type} (read : Bytes → Option (α × Bytes)) : Prop :=
  ∀ ⦃input value rest⦄,
    read input = some (value, rest)
    → ReadsTo (fun input rest => read input = some (value, rest)) input rest

theorem ReadsTo.upTo (h : ReadsTo reads input rest)
    : ReadsUpTo reads input rest := by
  obtain ⟨taken, _, same, holds⟩ := h
  exact ⟨taken, same, fun more _ => holds more⟩

theorem ReadsTo.mono (h : ReadsTo reads input rest)
    (weaker : ∀ input rest, reads input rest → continues input rest)
    : ReadsTo continues input rest := by
  obtain ⟨taken, nonempty, same, holds⟩ := h
  exact ⟨taken, nonempty, same, fun more => weaker _ _ (holds more)⟩

theorem head?_append_eq {taken : Bytes} (nonempty : taken ≠ []) (more rest : Bytes)
    : (taken ++ more).head? = (taken ++ rest).head? := by
  rw [List.head?_append_of_ne_nil _ nonempty, List.head?_append_of_ne_nil _ nonempty]

/-- One reader behind another: the second ends, so the first only needs to know how the second
begins.
-/
theorem ReadsUpTo.comp (h : ReadsUpTo reads input middle) (h' : ReadsTo continues middle rest)
    : ReadsTo (fun input rest => ∃ middle, reads input middle ∧ continues middle rest)
        input rest := by
  obtain ⟨first, rfl, holds⟩ := h
  obtain ⟨second, nonempty, rfl, holds'⟩ := h'
  refine ⟨first ++ second, by simp [nonempty], by simp, ?_⟩
  intro more
  rw [List.append_assoc]
  exact ⟨second ++ more, holds _ (head?_append_eq nonempty more rest), holds' more⟩

/-- A byte in front is taken too. -/
theorem ReadsTo.cons {b : UInt8} (h : ReadsTo reads input rest)
    (step : ∀ tail rest, reads tail rest → continues (b :: tail) rest)
    : ReadsTo continues (b :: input) rest := by
  obtain ⟨taken, _, rfl, holds⟩ := h
  exact ⟨b :: taken, by simp, rfl, fun more => step _ _ (holds more)⟩

/-- The first byte is among those that are taken. -/
theorem ReadsTo.begins {b : UInt8} (h : ReadsTo reads (b :: input) rest)
    (weaker : ∀ tail rest, reads (b :: tail) rest → continues (b :: tail) rest)
    : ReadsTo continues (b :: input) rest := by
  obtain ⟨taken, nonempty, same, holds⟩ := h
  obtain ⟨x, xs, rfl⟩ := List.exists_cons_of_ne_nil nonempty
  obtain ⟨rfl, _⟩ := List.cons.inj same
  exact ⟨b :: xs, nonempty, same, fun more => weaker _ _ (holds more)⟩

theorem ReadsTo.length_lt (h : ReadsTo reads input rest)
    : rest.length < input.length := by
  obtain ⟨taken, nonempty, rfl, _⟩ := h
  have some := List.length_pos_of_ne_nil nonempty
  rw [List.length_append]
  omega

/-- The bytes of a class are taken up to the first byte outside of it. -/
theorem span_append {p : UInt8 → Bool} {more : Bytes}
    (h : more.head? = (input.dropWhile p).head?)
    : (input.takeWhile p ++ more).takeWhile p = input.takeWhile p
      ∧ (input.takeWhile p ++ more).dropWhile p = more := by
  have inside : ∀ b ∈ input.takeWhile p, p b = true := fun b => List.mem_takeWhile_imp
  have stop : more.takeWhile p = [] ∧ more.dropWhile p = more := by
    cases more with
    | nil => exact ⟨rfl, rfl⟩
    | cons b bs =>
        have outside := List.head?_dropWhile_not p input
        rw [← h] at outside
        simp [show p b = false by simpa using outside]
  rw [List.takeWhile_append_of_pos inside, List.dropWhile_append_of_pos inside, stop.1, stop.2,
    List.append_nil]
  exact ⟨rfl, rfl⟩

/-- Space in front of what is read is passed over. -/
theorem ReadsTo.skipSpace (h : ReadsTo reads (skipSpace input) rest)
    : ReadsTo (fun input rest => reads (Xml.skipSpace input) rest) input rest := by
  obtain ⟨taken, nonempty, same, holds⟩ := h
  have whole : input.takeWhile isSpace ++ Xml.skipSpace input = input :=
    List.takeWhile_append_dropWhile
  refine ⟨input.takeWhile isSpace ++ taken, by simp [nonempty], ?_, ?_⟩
  · rw [List.append_assoc, ← same, whole]
  · intro more
    have begins : (taken ++ more).head? = (input.dropWhile isSpace).head? := by
      rw [show input.dropWhile isSpace = taken ++ rest from same]
      exact head?_append_eq nonempty more rest
    rw [List.append_assoc, Xml.skipSpace, (span_append begins).2]
    exact holds more

end Readers

-----------------------------------------------------------------------------------------
-- Bytes and patterns
-----------------------------------------------------------------------------------------

theorem readsTo_expect? {b : UInt8} {input rest : Bytes} (h : expect? b input = some rest)
    : ReadsTo (fun input rest => expect? b input = some rest) input rest := by
  cases input with
  | nil => exact absurd h (by simp [expect?])
  | cons x input =>
      rw [expect?] at h
      split at h
      · next same =>
          cases h
          exact ⟨[x], by simp, rfl, fun more => by simp [expect?, same]⟩
      · exact absurd h (by simp)

theorem cutAround?_self (pattern more : Bytes)
    : Bytes.cutAround? pattern (pattern ++ more) = some ([], more) := by
  cases same : pattern ++ more with
  | nil =>
      obtain ⟨rfl, rfl⟩ := List.append_eq_nil_iff.mp same
      rfl
  | cons b bs =>
      have found : pattern.isPrefixOf? (b :: bs) = some more :=
        List.isPrefixOf?_eq_some_iff_append_eq.mpr same
      rw [Bytes.cutAround?, found]

/-- Whether a pattern is met at the beginning is settled once so many bytes are known. -/
theorem isPrefixOf?_append_eq_none {pattern taken : Bytes} (h : pattern.length ≤ taken.length)
    (more : Bytes)
    : pattern.isPrefixOf? (taken ++ more) = none ↔ ¬ pattern <+: taken := by
  rw [← Option.not_isSome_iff_eq_none, List.isSome_isPrefixOf?_eq_isPrefixOf,
    List.isPrefixOf_iff_prefix, not_iff_not]
  constructor
  · exact fun met => List.prefix_of_prefix_length_le met (List.prefix_append taken more) h
  · exact fun met => met.trans (List.prefix_append taken more)

/-- A text is cut around the first occurrence of a pattern. An occurrence is complete before
anything behind it is seen, so what follows makes no difference; by induction over the text.
-/
theorem cutAround?_spec {pattern text before after : Bytes}
    (h : Bytes.cutAround? pattern text = some (before, after))
    : text = before ++ pattern ++ after
      ∧ ∀ more, Bytes.cutAround? pattern (before ++ pattern ++ more) = some (before, more) := by
  induction text generalizing before with
  | nil =>
      rw [Bytes.cutAround?] at h
      split at h
      · next empty =>
          cases h
          exact ⟨by simp [empty], cutAround?_self pattern⟩
      · exact absurd h (by simp)
  | cons b bs ih =>
      rw [Bytes.cutAround?] at h
      split at h
      · next found =>
          cases h
          exact ⟨(List.isPrefixOf?_eq_some_iff_append_eq.mp found).symm, cutAround?_self pattern⟩
      · next missing =>
          obtain ⟨⟨front, behind⟩, cut, same⟩ := Option.map_eq_some_iff.mp h
          cases same
          obtain ⟨rfl, cuts⟩ := ih cut
          refine ⟨rfl, ?_⟩
          intro more
          -- an earlier occurrence would end within what has been cut
          have long : pattern.length ≤ (b :: (front ++ pattern)).length := by
            simp only [List.length_cons, List.length_append]
            omega
          have still : pattern.isPrefixOf? (b :: (front ++ pattern ++ more)) = none :=
            (isPrefixOf?_append_eq_none long more).mpr
              ((isPrefixOf?_append_eq_none long after).mp missing)
          rw [List.cons_append, List.cons_append, Bytes.cutAround?, still, cuts]
          rfl

theorem ends_cutAround? {pattern : Bytes} (nonempty : pattern ≠ [])
    : Ends (Bytes.cutAround? pattern) := by
  intro input before rest h
  obtain ⟨same, cuts⟩ := cutAround?_spec h
  exact ⟨before ++ pattern, by simp [nonempty], same, cuts⟩

/-- A pattern is met within bytes that hold one it does not have, or not at all. -/
theorem isPrefixOf_append {b : UInt8} {pattern taken : Bytes} (outside : b ∉ pattern)
    (member : b ∈ taken) (more : Bytes)
    : pattern.isPrefixOf (taken ++ more) = pattern.isPrefixOf taken := by
  rw [Bool.eq_iff_iff, List.isPrefixOf_iff_prefix, List.isPrefixOf_iff_prefix]
  constructor
  · intro met
    rcases List.prefix_or_prefix_of_prefix met (List.prefix_append taken more) with
      within | beyond
    · exact within
    · exact absurd (beyond.subset member) outside
  · exact fun met => met.trans (List.prefix_append taken more)

-----------------------------------------------------------------------------------------
-- Names and attributes
-----------------------------------------------------------------------------------------

theorem readsUpTo_readText? {input text rest : Bytes} (h : readText? input = some (text, rest))
    : ReadsUpTo (fun input rest => readText? input = some (text, rest)) input rest := by
  simp only [readText?] at h
  split at h
  · next named =>
      cases h
      refine ⟨_, List.takeWhile_append_dropWhile.symm, ?_⟩
      intro more begins
      have taken := span_append begins
      simp only [readText?, taken.1, taken.2, named, if_true]
  · exact absurd h (by simp)

theorem readsUpTo_readName? {input rest : Bytes} {name : Name}
    (h : readName? input = some (name, rest))
    : ReadsUpTo (fun input rest => readName? input = some (name, rest)) input rest := by
  obtain ⟨⟨text, after⟩, read, named⟩ := Option.bind_eq_some_iff.mp h
  obtain ⟨_, split, same⟩ := Option.bind_eq_some_iff.mp named
  cases same
  obtain ⟨taken, same, holds⟩ := readsUpTo_readText? read
  refine ⟨taken, same, ?_⟩
  intro more begins
  simp [readName?, holds more begins, split]

theorem ends_readValue?
    : Ends readValue? := by
  intro input value rest h
  cases input with
  | nil => exact absurd h (by simp [readValue?])
  | cons q input =>
      simp only [readValue?] at h
      split at h
      · exact absurd h (by simp)
      next quote =>
      obtain ⟨⟨raw, after⟩, found, cut⟩ := Option.bind_eq_some_iff.mp h
      dsimp only at cut
      split at cut
      · exact absurd cut (by simp)
      next plain =>
      obtain ⟨text, read, same⟩ := Option.bind_eq_some_iff.mp cut
      cases same
      obtain ⟨rfl, bare⟩ := Bytes.cutAt?_eq_some found
      refine ⟨q :: raw ++ [q], by simp, by simp, ?_⟩
      intro more
      have cuts : Bytes.cutAt? q (raw ++ q :: more) = some (raw, more) :=
        Bytes.cutAt?_append more bare
      rw [List.append_assoc, List.cons_append, List.singleton_append]
      simp only [readValue?, quote, cuts, plain, read, Option.bind_eq_bind, Option.bind_some]
      rfl

theorem ends_readAttribute?
    : Ends readAttribute? := by
  intro input attr rest h
  obtain ⟨⟨name, after⟩, named, h⟩ := Option.bind_eq_some_iff.mp h
  obtain ⟨assigned, equals, h⟩ := Option.bind_eq_some_iff.mp h
  obtain ⟨⟨value, last⟩, read, same⟩ := Option.bind_eq_some_iff.mp h
  cases same
  have assignment := (readsTo_expect? equals).skipSpace.upTo.comp
    (ends_readValue? read).skipSpace
  refine ((readsUpTo_readName? named).comp assignment).mono ?_
  rintro input rest ⟨_, first, _, second, third⟩
  simp [readAttribute?, first, second, third]

-----------------------------------------------------------------------------------------
-- Tags
-----------------------------------------------------------------------------------------

/-- What is read of a tag is the attributes and how it is closed. It takes more bytes than there
are attributes, and any limit above their number will do.
-/
structure ReadsTag (attrs : List Attribute) (closed : Bool) (input rest : Bytes) : Prop where
  size : attrs.length + rest.length < input.length
  reads
    : ∀ limit, attrs.length < limit → readTagRest? limit input = some { attrs, closed, rest }

namespace ReadsTag

theorem skipSpace {attrs : List Attribute} {closed : Bool} {input rest : Bytes}
    (h : ReadsTag attrs closed (skipSpace input) rest)
    : ReadsTag attrs closed input rest := by
  have shorter : (Xml.skipSpace input).length ≤ input.length := List.length_dropWhile_le _ _
  refine ⟨h.size.trans_le shorter, ?_⟩
  intro limit enough
  have skipped : Xml.skipSpace (Xml.skipSpace input) = Xml.skipSpace input :=
    List.dropWhile_idempotent isSpace input
  obtain ⟨limit, rfl⟩ := Nat.exists_eq_add_one_of_ne_zero (Nat.ne_zero_of_lt enough)
  have read := h.reads (limit + 1) enough
  rw [readTagRest?, skipped] at read
  rw [readTagRest?, read]

theorem bracket (rest : Bytes)
    : ReadsTag [] false (greaterThan :: rest) rest := by
  refine ⟨by simp, ?_⟩
  intro limit enough
  obtain ⟨limit, rfl⟩ := Nat.exists_eq_add_one_of_ne_zero (Nat.ne_zero_of_lt enough)
  rw [readTagRest?, skipSpace_cons (by decide)]
  rfl

theorem slash {tail rest : Bytes} (ends : expect? greaterThan tail = some rest)
    : ReadsTag [] true (slash :: tail) rest := by
  have shorter := (readsTo_expect? ends).length_lt
  refine ⟨by simp only [List.length_cons, List.length_nil]; omega, ?_⟩
  intro limit enough
  obtain ⟨limit, rfl⟩ := Nat.exists_eq_add_one_of_ne_zero (Nat.ne_zero_of_lt enough)
  rw [readTagRest?, skipSpace_cons (by decide)]
  simp [ends, (by decide : Xml.slash ≠ greaterThan)]

theorem cons {b : UInt8} {tail middle rest : Bytes} {attr : Attribute}
    {attrs : List Attribute} {closed : Bool} (visible : isSpace b = false)
    (inside : b ≠ greaterThan ∧ b ≠ Xml.slash)
    (first : readAttribute? (b :: tail) = some (attr, middle))
    (others : ReadsTag attrs closed middle rest)
    : ReadsTag (attr :: attrs) closed (b :: tail) rest := by
  have shorter := (ends_readAttribute? first).length_lt
  have size := others.size
  refine ⟨by rw [List.length_cons]; omega, ?_⟩
  intro limit enough
  obtain ⟨limit, rfl⟩ := Nat.exists_eq_add_one_of_ne_zero (Nat.ne_zero_of_lt enough)
  have read := others.reads limit (by simpa using enough)
  rw [readTagRest?, skipSpace_cons visible]
  simp [inside, first, read]

end ReadsTag

/-- The rest of a tag ends with its bracket, by induction over the limit. -/
theorem readsTo_readTagRest? {limit : Nat} {input : Bytes} {tag : TagRest}
    (h : readTagRest? limit input = some tag)
    : ReadsTo (ReadsTag tag.attrs tag.closed) input tag.rest := by
  induction limit generalizing input tag with
  | zero => exact absurd h (by simp [readTagRest?])
  | succ limit ih =>
      suffices visible : ReadsTo (ReadsTag tag.attrs tag.closed) (skipSpace input) tag.rest from
        visible.skipSpace.mono fun _ _ => ReadsTag.skipSpace
      have stop := List.head?_dropWhile_not isSpace input
      rw [readTagRest?] at h
      split at h
      · exact absurd h (by simp)
      next b after skipped =>
        rw [skipped]
        rw [show input.dropWhile isSpace = b :: after from skipped] at stop
        split at h
        · next ends =>
            cases h
            exact ⟨[b], by simp, rfl, fun more => ends ▸ ReadsTag.bracket more⟩
        next unfinished =>
        split at h
        · next ends =>
            obtain ⟨rest, bracket, same⟩ := Option.map_eq_some_iff.mp h
            cases same
            refine (readsTo_expect? bracket).cons ?_
            intro tail rest bracket
            exact ends ▸ ReadsTag.slash bracket
        · next unclosed =>
            obtain ⟨⟨attr, middle⟩, read, h⟩ := Option.bind_eq_some_iff.mp h
            obtain ⟨others, tail, same⟩ := Option.bind_eq_some_iff.mp h
            cases same
            refine ((ends_readAttribute? read).upTo.comp (ih tail)).begins ?_
            rintro tail rest ⟨middle, first, others⟩
            exact ReadsTag.cons (by simpa using stop) ⟨unfinished, unclosed⟩ first others

theorem ends_readStart?
    : Ends readStart? := by
  intro input item rest h
  obtain ⟨⟨name, after⟩, named, h⟩ := Option.bind_eq_some_iff.mp h
  obtain ⟨tag, read, same⟩ := Option.bind_eq_some_iff.mp h
  cases same
  refine ((readsUpTo_readName? named).comp (readsTo_readTagRest? read)).mono ?_
  rintro input rest ⟨middle, named, tag⟩
  have size := tag.size
  have enough := tag.reads (middle.length + 1) (by omega)
  simp [readStart?, named, enough]

theorem ends_readClose?
    : Ends readClose? := by
  intro input item rest h
  obtain ⟨⟨name, after⟩, named, h⟩ := Option.bind_eq_some_iff.mp h
  obtain ⟨last, bracket, same⟩ := Option.bind_eq_some_iff.mp h
  cases same
  refine ((readsUpTo_readName? named).comp (readsTo_expect? bracket).skipSpace).mono ?_
  rintro input rest ⟨middle, named, bracket⟩
  simp [readClose?, named, bracket]

-----------------------------------------------------------------------------------------
-- Asides and sections
-----------------------------------------------------------------------------------------

theorem ends_readInstruction?
    : Ends readInstruction? := by
  intro input item rest h
  obtain ⟨⟨target, after⟩, read, h⟩ := Option.bind_eq_some_iff.mp h
  obtain ⟨⟨data, last⟩, cut, h⟩ := Option.bind_eq_some_iff.mp h
  dsimp only at h
  split at h
  · exact absurd h (by simp)
  next supported =>
    cases h
    have ends := ends_cutAround? (by decide : utf8 "?>" ≠ []) cut
    refine ((readsUpTo_readText? read).comp ends.skipSpace).mono ?_
    rintro input rest ⟨middle, read, cut⟩
    simpa [readInstruction?, read, cut] using supported

theorem ends_readComment?
    : Ends readComment? := by
  intro input item rest h
  obtain ⟨⟨text, after⟩, cut, h⟩ := Option.bind_eq_some_iff.mp h
  obtain ⟨last, bracket, same⟩ := Option.bind_eq_some_iff.mp h
  cases same
  have ends := ends_cutAround? (by decide : utf8 "--" ≠ []) cut
  refine (ends.upTo.comp (readsTo_expect? bracket)).mono ?_
  rintro input rest ⟨middle, cut, bracket⟩
  simp [readComment?, cut, bracket]

theorem ends_readSection?
    : Ends readSection? := by
  intro input item rest h
  obtain ⟨⟨raw, after⟩, cut, h⟩ := Option.bind_eq_some_iff.mp h
  obtain ⟨text, read, same⟩ := Option.bind_eq_some_iff.mp h
  cases same
  refine (ends_cutAround? (by decide : sectionEnd ≠ []) cut).mono ?_
  intro input rest cut
  simp [readSection?, cut, read]

/-- Whether the scan of a declaration meets the opening of a comment behind a bracket. -/
def opensComment (input : Bytes) : Bool :=
  (utf8 "!--").isPrefixOf input

/-- One step of the scan of a declaration: it ends, or it goes on in a way that is settled by the
byte and by whether a comment opens behind it.
-/
theorem skipDeclaration?_cons (scan : DeclarationScan) (b : UInt8) (bs : Bytes)
    : (b = greaterThan ∧ ∀ more, skipDeclaration? scan (b :: more) = some more)
      ∨ ∃ next, ∀ more,
          opensComment more = opensComment bs
          → skipDeclaration? scan (b :: more) = skipDeclaration? next more := by
  cases scan with
  | plain depth =>
      by_cases bracket : b = greaterThan
      · cases depth with
        | zero => exact Or.inl ⟨bracket, fun more => by rw [skipDeclaration?, if_pos bracket]⟩
        | succ depth =>
            exact Or.inr ⟨.plain depth, fun more _ => by rw [skipDeclaration?, if_pos bracket]⟩
      by_cases quote : isQuote b = true
      · exact Or.inr ⟨.quoted b depth, fun more _ => by simp [skipDeclaration?, bracket, quote]⟩
      by_cases inner : b = lessThan
      · refine Or.inr ⟨if opensComment bs then .opening 3 depth else .plain (depth + 1), ?_⟩
        intro more same
        rw [← same]
        cases opens : opensComment more <;>
          simp_all [skipDeclaration?, opensComment]
      · exact Or.inr ⟨.plain depth,
          fun more _ => by simp [skipDeclaration?, bracket, quote, inner]⟩
  | quoted quote depth =>
      refine Or.inr ⟨if b = quote then .plain depth else .quoted quote depth, ?_⟩
      intro more _
      rw [skipDeclaration?]
      split <;> rfl
  | opening left depth =>
      refine Or.inr ⟨if left ≤ 1 then .comment 0 depth else .opening (left - 1) depth, ?_⟩
      intro more _
      rw [skipDeclaration?]
      split <;> rfl
  | comment dashes depth =>
      refine Or.inr ⟨if b = 0x2D then .comment (dashes + 1) depth
        else if b = greaterThan && 2 ≤ dashes then .plain depth else .comment 0 depth, ?_⟩
      intro more _
      rw [skipDeclaration?]
      split
      · rfl
      · split <;> rfl

/-- A declaration is left at the bracket that ends it, by induction over the input. The scan
looks ahead for the opening of a comment, but never beyond that bracket.
-/
theorem skipDeclaration?_spec {scan : DeclarationScan} {input rest : Bytes}
    (h : skipDeclaration? scan input = some rest)
    : ∃ taken,
        greaterThan ∈ taken
        ∧ input = taken ++ rest
        ∧ ∀ more, skipDeclaration? scan (taken ++ more) = some more := by
  induction input generalizing scan with
  | nil => exact absurd h (by simp [skipDeclaration?])
  | cons b bs ih =>
      rcases skipDeclaration?_cons scan b bs with ⟨rfl, ends⟩ | ⟨next, step⟩
      · rw [ends] at h
        cases h
        exact ⟨[greaterThan], by simp, rfl, ends⟩
      · rw [step bs rfl] at h
        obtain ⟨taken, bracket, rfl, reads⟩ := ih h
        refine ⟨b :: taken, by simp [bracket], rfl, ?_⟩
        intro more
        have ahead (tail : Bytes) : opensComment (taken ++ tail) = opensComment taken :=
          isPrefixOf_append (by decide) bracket tail
        rw [List.cons_append, step _ (by rw [ahead, ahead])]
        exact reads more

theorem readsTo_skipDeclaration? {scan : DeclarationScan} {input rest : Bytes}
    (h : skipDeclaration? scan input = some rest)
    : ReadsTo (fun input rest => skipDeclaration? scan input = some rest) input rest := by
  obtain ⟨taken, bracket, same, reads⟩ := skipDeclaration?_spec h
  exact ⟨taken, List.ne_nil_of_mem bracket, same, reads⟩

theorem ends_readBang?
    : Ends readBang? := by
  intro input item rest h
  cases input with
  | nil => exact absurd h (by simp [readBang?])
  | cons b input =>
      rw [readBang?] at h
      split at h
      · next dash =>
          obtain ⟨after, second, comment⟩ := Option.bind_eq_some_iff.mp h
          refine ((readsTo_expect? second).upTo.comp (ends_readComment? comment)).cons ?_
          rintro tail rest ⟨middle, second, comment⟩
          simp [readBang?, dash, second, comment]
      next undashed =>
      split at h
      · next bracket =>
          obtain ⟨after, opened, read⟩ := Option.bind_eq_some_iff.mp h
          have opening : ReadsTo
              (fun input rest => (utf8 "CDATA[").isPrefixOf? input = some rest) input after := by
            refine ⟨utf8 "CDATA[", by decide, ?_, ?_⟩
            · exact (List.isPrefixOf?_eq_some_iff_append_eq.mp opened).symm
            · exact fun more => List.isPrefixOf?_eq_some_iff_append_eq.mpr rfl
          refine (opening.upTo.comp (ends_readSection? read)).cons ?_
          rintro tail rest ⟨middle, opened, read⟩
          simp [readBang?, bracket, opened, read]
      · next plain =>
          obtain ⟨after, skipped, same⟩ := Option.map_eq_some_iff.mp h
          cases same
          refine (readsTo_skipDeclaration? skipped).cons ?_
          intro tail rest skipped
          simp [readBang?, undashed, plain, skipped]

/-- Everything that begins with an angle bracket ends with one. -/
theorem ends_readBracket?
    : Ends readBracket? := by
  intro input item rest h
  cases input with
  | nil => exact absurd h (by simp [readBracket?])
  | cons b input =>
      by_cases closing : b = slash
      · subst closing
        exact (ends_readClose? h).cons fun _ _ read => read
      by_cases instruction : b = 0x3F
      · subst instruction
        exact (ends_readInstruction? h).cons fun _ _ read => read
      by_cases bang : b = 0x21
      · subst bang
        exact (ends_readBang? h).cons fun _ _ read => read
      · have start (tail : Bytes) : readBracket? (b :: tail) = readStart? (b :: tail) := by
          simp [readBracket?, closing, instruction, bang]
        rw [start] at h
        refine (ends_readStart? h).begins ?_
        intro tail rest read
        rw [start, read]

end IppXml.Xml
