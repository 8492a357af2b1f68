import IppXml.Text.Blank
import IppXml.Text.Style
import IppXml.Text.Width

/-! Texts broken into lines of a given width.

A word that does not fit is broken where the line is full. A style that is on at the end
of a line is switched off there and on again at the start of the next.
-/

namespace IppXml

/-- What has been written of a text that is broken into lines: finished lines and the last
one, with the number of columns it counts for.
-/
structure Wrapped where
  finished : List Bytes := []
  line : Bytes := []
  used : Nat := 0

namespace Wrapped

/-- Begins a new line in the style that the sequence switches on. -/
def newLine (w : Wrapped) (style : Bytes) : Wrapped :=
  let ended := if style = [] then w.line else w.line ++ resetStyle
  { finished := w.finished ++ [ended], line := style, used := 0 }

/-- Adds a text that counts for so many columns. -/
def add (w : Wrapped) (text : Bytes) (count : Nat) : Wrapped :=
  { w with line := w.line ++ text, used := w.used + count }

/-- All lines. -/
def lines (w : Wrapped) : List Bytes :=
  w.finished ++ [w.line]

end Wrapped

/-- A word under way, character by character: the sequence that was begun last, and
whether it is still under way. Any sequence ends with the letter `m` here.
-/
structure Spelling where
  wrapped : Wrapped
  sequence : Bytes
  inside : Bool := false

namespace Spelling

/-- Behind the letter that ends a sequence; one that switches everything off is forgotten.
-/
def close (s : Spelling) : Spelling :=
  let sequence := if s.sequence = resetStyle then [] else s.sequence
  { s with sequence, inside := false }

/-- Adds a character of a sequence, which counts for no columns. -/
def addHidden (s : Spelling) (c : Char) : Spelling :=
  let text := String.utf8EncodeChar c
  let begun := if c = escapeSign then [] else s.sequence
  let next : Spelling :=
    { wrapped := s.wrapped.add text 0, sequence := begun ++ text, inside := true }
  if c = 'm' then next.close else next

/-- Adds a character outside of sequences. A new line begins where the last one is exactly
full; a wide character can step over that, and the line then goes on.
-/
def addShown (width : Nat) (s : Spelling) (c : Char) : Spelling :=
  let w := if s.wrapped.used = width then s.wrapped.newLine s.sequence else s.wrapped
  { s with wrapped := w.add (String.utf8EncodeChar c) (charWidth c) }

/-- Adds a character. -/
def addChar (width : Nat) (s : Spelling) (c : Char) : Spelling :=
  if s.inside || c = escapeSign then s.addHidden c else s.addShown width c

end Spelling

namespace Wrapped

/-- Adds a word, in one piece if it fits, in the style that the sequence switches on. -/
def addWord (width : Nat) (w : Wrapped) (style word : Bytes) : Wrapped :=
  let w := if 0 < w.used then w.add " " 1 else w
  if w.used + columns word ≤ width then w.add word (columns word)
  else
    let start : Spelling := { wrapped := w, sequence := style }
    ((chars word).foldl (Spelling.addChar width) start).wrapped

/-- The text with the style switched off at its end, if one was ever on. -/
def finish (w : Wrapped) (style : Bytes) : Wrapped :=
  if style = [] || resetStyle.isSuffixOf w.line then w else w.add resetStyle 0

/-- Adds words, with a new line where a word fills its line and others follow. The style
is the last one that was not empty behind a word.
-/
def addWords (width : Nat) : Wrapped → Style → (style : Bytes) → List Bytes → Wrapped
  | w, _, style, [] => w.finish style
  | w, codes, style, word :: rest =>
      let codes := codes.applyText word
      let style := if codes.text = [] then style else codes.text
      let w := w.addWord width style word
      let w := if w.used = width && rest ≠ [] then w.newLine style else w
      addWords width w codes style rest

end Wrapped

/-- A line broken into lines of the given width. -/
def wrapLine (width : Nat) (line : Bytes) : List Bytes :=
  (Wrapped.addWords width {} {} [] (words line)).lines

/-- The lines of a text, broken if the text as a whole is wider than the given width. -/
def wrap (width : Nat) (text : Bytes) : List Bytes :=
  if columns text ≤ width then Bytes.lines text
  else (Bytes.lines text).flatMap (wrapLine width)

end IppXml
