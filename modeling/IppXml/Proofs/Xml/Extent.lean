import IppXml.Proofs.Xml.Readers

/-! How far a document goes.

Items end by themselves, texts apart, which end in front of the next item. For a document this
means that reading stops at the tag that ends its root: whatever follows that tag is never
looked at.
-/

namespace IppXml.Xml

-----------------------------------------------------------------------------------------
-- Items
-----------------------------------------------------------------------------------------

/-- Whether the item is a text, which alone may end because something else begins. -/
def Markup.isText : Markup → Bool
  | text _ => true
  | _ => false

/-- An item ends with itself, or it is a text and ends in front of the next one. -/
theorem readMarkup?_ends {b : UInt8} {input rest : Bytes} {item : Markup}
    (h : readMarkup? b input = some (item, rest))
    : ReadsTo (fun input rest => readMarkup? b input = some (item, rest)) input rest
      ∨ item.isText = true
        ∧ ReadsUpTo (fun input rest => readMarkup? b input = some (item, rest)) input rest := by
  by_cases bracket : b = lessThan
  · have begins (tail : Bytes) : readMarkup? b tail = readBracket? tail := by
      rw [readMarkup?, if_pos bracket]
    rw [begins] at h
    exact Or.inl ((ends_readBracket? h).mono fun tail _ read => (begins tail).trans read)
  · rw [readMarkup?, if_neg bracket] at h
    obtain ⟨text, read, same⟩ := Option.bind_eq_some_iff.mp h
    cases same
    refine Or.inr ⟨rfl, _, List.takeWhile_append_dropWhile.symm, ?_⟩
    intro more begins
    have taken := span_append begins
    simp [readMarkup?, bracket, taken.1, taken.2, read]

/-- The first item of an input, and how the items go on: with those of the rest, whatever the
rest is, unless the item is a text, which needs the next item to begin as it does.
-/
theorem markup_cons {b : UInt8} {input rest : Bytes} {item : Markup}
    (h : readMarkup? b input = some (item, rest))
    : ∃ taken,
        input = taken ++ rest
        ∧ ∀ more,
            item.isText = false ∨ more.head? = rest.head?
            → markup (b :: taken ++ more) = item :: markup more := by
  rcases readMarkup?_ends h with ⟨taken, _, same, reads⟩ | ⟨text, taken, same, reads⟩
  · exact ⟨taken, same, fun more _ => markup_append (reads more)⟩
  · refine ⟨taken, same, ?_⟩
    rintro more (other | begins)
    · rw [text] at other
      exact Bool.noConfusion other
    · exact markup_append (reads more begins)

theorem markup_ne_nil {input : Bytes} (h : input ≠ [])
    : markup input ≠ [] := by
  obtain ⟨b, bs, rfl⟩ := List.exists_cons_of_ne_nil h
  rw [markup, Text.pieces_cons]
  exact List.cons_ne_nil _ _

/-- Input that does not begin with an item is broken. -/
theorem markup_broken {b : UInt8} {input : Bytes} (h : readMarkup? b input = none)
    : markup (b :: input) = [.broken] := by
  simp [markup, Text.pieces_cons, headMarkup, h]

-----------------------------------------------------------------------------------------
-- Elements
-----------------------------------------------------------------------------------------

namespace Node

/-- One item of a document: it leaves other elements open, or it is no text and settles what the
root is.
-/
theorem ofMarkupIn?_cons (stack : List OpenElement) (item : Markup)
    : (∃ next, ∀ items, ofMarkupIn? stack (item :: items) = ofMarkupIn? next items)
      ∨ item.isText = false
        ∧ ∃ result, ∀ items, ofMarkupIn? stack (item :: items) = result := by
  cases item with
  | broken => exact Or.inr ⟨rfl, none, fun items => by rw [ofMarkupIn?]⟩
  | aside => exact Or.inl ⟨stack, fun items => by rw [ofMarkupIn?]⟩
  | start name attrs =>
      exact Or.inl ⟨⟨name, attrs, []⟩ :: stack, fun items => by rw [ofMarkupIn?]⟩
  | text content =>
      cases stack with
      | nil => exact Or.inl ⟨[], fun items => rfl⟩
      | cons e outer => exact Or.inl ⟨e.add (.text content) :: outer, fun items => rfl⟩
  | leaf name attrs =>
      cases stack with
      | nil => exact Or.inr ⟨rfl, some (.element name attrs []), fun items => rfl⟩
      | cons e outer =>
          exact Or.inl ⟨e.add (.element name attrs []) :: outer, fun items => rfl⟩
  | close name =>
      match stack with
      | [] => exact Or.inr ⟨rfl, none, fun items => rfl⟩
      | [e] =>
          exact Or.inr ⟨rfl, if e.name = name then some e.toNode else none, fun items => rfl⟩
      | e :: parent :: outer =>
          by_cases same : e.name = name
          · exact Or.inl ⟨parent.add e.toNode :: outer,
              fun items => by rw [ofMarkupIn?, if_pos same]⟩
          · exact Or.inr ⟨rfl, none, fun items => by rw [ofMarkupIn?, if_neg same]⟩

/-- Inside the open elements, the input ends with the item that settles the root: the root is
found whatever follows, and it is not found before the last item.
-/
structure Settles (stack : List OpenElement) (input : Bytes) (root : Node) : Prop where
  nonempty : input ≠ []
  early : ofMarkupIn? stack (markup input).dropLast = none
  found : ∀ more, ofMarkupIn? stack (markup (input ++ more)) = some root

/-- A tag that settles the root does so by itself. -/
theorem Settles.single {stack : List OpenElement} {input : Bytes} {root : Node} {item : Markup}
    (nonempty : input ≠ []) (items : ∀ more, markup (input ++ more) = item :: markup more)
    (ends : ∀ items, ofMarkupIn? stack (item :: items) = some root)
    : Settles stack input root := by
  have alone := items []
  rw [List.append_nil] at alone
  refine ⟨nonempty, ?_, ?_⟩
  · rw [alone]
    rfl
  · intro more
    rw [items, ends]

/-- An item that leaves other elements open is passed over. -/
theorem Settles.cons {stack next : List OpenElement} {first input : Bytes} {root : Node}
    {item : Markup}
    (items : ∀ more, markup (first ++ (input ++ more)) = item :: markup (input ++ more))
    (step : ∀ items, ofMarkupIn? stack (item :: items) = ofMarkupIn? next items)
    (h : Settles next input root)
    : Settles stack (first ++ input) root := by
  have whole := items []
  rw [List.append_nil] at whole
  refine ⟨by simp [h.nonempty], ?_, ?_⟩
  · rw [whole, List.dropLast_cons_of_ne_nil (markup_ne_nil h.nonempty), step]
    exact h.early
  · intro more
    rw [List.append_assoc, items, step]
    exact h.found more

/-- A root that is found is settled by a beginning of the input, by induction over the length of
the input.
-/
theorem exists_settles {stack : List OpenElement} {input : Bytes} {root : Node}
    (h : ofMarkupIn? stack (markup input) = some root)
    : ∃ front tail, input = front ++ tail ∧ Settles stack front root := by
  induction same : input.length using Nat.strong_induction_on generalizing stack input with
  | _ size ih =>
  cases input with
  | nil => exact absurd h (by simp [markup, ofMarkupIn?])
  | cons b input =>
  cases read : readMarkup? b input with
  | none =>
      rw [markup_broken read] at h
      exact absurd h (by simp [ofMarkupIn?])
  | some found =>
      obtain ⟨item, rest⟩ := found
      obtain ⟨taken, rfl, items⟩ := markup_cons read
      rw [← List.cons_append, items rest (Or.inr rfl)] at h
      rcases ofMarkupIn?_cons stack item with ⟨next, step⟩ | ⟨tag, result, ends⟩
      · rw [step] at h
        have shorter : rest.length < size := by
          rw [← same, List.length_cons, List.length_append]
          omega
        obtain ⟨front, tail, rfl, settled⟩ := ih rest.length shorter h rfl
        -- what follows the item begins as before, so a text ends at the same place
        have begins (more : Bytes) : (front ++ more).head? = (front ++ tail).head? :=
          head?_append_eq settled.nonempty more tail
        refine ⟨b :: taken ++ front, tail, by simp, ?_⟩
        exact settled.cons (fun more => items _ (Or.inr (begins more))) step
      · rw [ends] at h
        refine ⟨b :: taken, rest, rfl, ?_⟩
        exact .single (by simp) (fun more => items more (Or.inl tag)) (h ▸ ends)

/-- Once a root has been read, nothing behind it makes a difference. -/
theorem read?_append {input : Bytes} {root : Node} (more : Bytes) (h : read? input = some root)
    : read? (input ++ more) = some root := by
  obtain ⟨front, tail, rfl, settled⟩ := exists_settles h
  rw [List.append_assoc]
  exact settled.found (tail ++ more)

/-- The input ends with the tag that ends its root: the root is read, and without the last item
it would not be.
-/
structure EndsWithRoot (input : Bytes) (root : Node) : Prop where
  read : read? input = some root
  last : ofMarkup? (markup input).dropLast = none

/-- A document is read up to the tag that ends its root, and there is no root without such a
tag.
-/
theorem read?_eq_some_iff {input : Bytes} {root : Node}
    : read? input = some root
      ↔ ∃ front tail, input = front ++ tail ∧ EndsWithRoot front root := by
  constructor
  · intro read
    obtain ⟨front, tail, same, settled⟩ := exists_settles read
    have alone := settled.found []
    rw [List.append_nil] at alone
    exact ⟨front, tail, same, alone, settled.early⟩
  · rintro ⟨front, tail, rfl, ends⟩
    exact read?_append tail ends.read

end Node

end IppXml.Xml
