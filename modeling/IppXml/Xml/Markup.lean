import IppXml.Xml.CharData
import IppXml.Xml.Name

/-! The items a document is made of: tags, texts, and what is set aside (comments,
processing instructions and declarations).

Reading goes on to the end of the input. Where the input stops being markup there is one
last item that says so; who has found an element before it need not look at it.
-/

namespace IppXml.Xml

/-- An attribute of an element. -/
structure Attribute where
  name : Name
  value : Bytes
deriving DecidableEq

/-- An item of a document. -/
inductive Markup where
  | start (name : Name) (attrs : List Attribute)
  /-- An element that is closed by its own tag. -/
  | leaf (name : Name) (attrs : List Attribute)
  | close (name : Name)
  | text (content : Bytes)
  /-- A comment, a processing instruction or a declaration. -/
  | aside
  /-- Input that is no markup. -/
  | broken
deriving DecidableEq

/-- The opening angle bracket. -/
def lessThan : UInt8 := 0x3C

/-- The closing angle bracket. -/
def greaterThan : UInt8 := 0x3E

/-- The slash. -/
def slash : UInt8 := 0x2F

/-- Whether the byte is a single or double quote. -/
def isQuote (b : UInt8) : Bool :=
  b = 0x22 || b = 0x27

/-- Reads an attribute value in quotes. -/
def readValue? : Bytes → Option (Bytes × Bytes)
  | [] => none
  | q :: input => do
      if !isQuote q then none
      let (raw, rest) ← Bytes.cutAt? q input
      if raw.contains lessThan then none
      let value ← charData? true raw
      return (value, rest)

/-- Reads a name, an equals sign and a value. -/
def readAttribute? (input : Bytes) : Option (Attribute × Bytes) := do
  let (name, rest) ← readName? input
  let rest ← expect? 0x3D (skipSpace rest)
  let (value, rest) ← readValue? (skipSpace rest)
  return (⟨name, value⟩, rest)

/-- What is read of a start tag behind its name. -/
structure TagRest where
  attrs : List Attribute
  closed : Bool
  rest : Bytes

/-- Reads attributes up to the end of a tag; no tag has more of them than `limit`. -/
def readTagRest? : (limit : Nat) → Bytes → Option TagRest
  | 0, _ => none
  | limit + 1, input =>
      match skipSpace input with
      | [] => none
      | b :: after =>
          if b = greaterThan then some { attrs := [], closed := false, rest := after }
          else if b = slash then
            (expect? greaterThan after).map fun rest =>
              { attrs := [], closed := true, rest }
          else do
            let (attr, rest) ← readAttribute? (b :: after)
            let tag ← readTagRest? limit rest
            return { tag with attrs := attr :: tag.attrs }

/-- Reads a start tag behind its opening bracket. -/
def readStart? (input : Bytes) : Option (Markup × Bytes) := do
  let (name, rest) ← readName? input
  let tag ← readTagRest? (rest.length + 1) rest
  return (if tag.closed then .leaf name tag.attrs else .start name tag.attrs, tag.rest)

/-- Reads an end tag behind its slash. -/
def readClose? (input : Bytes) : Option (Markup × Bytes) := do
  let (name, rest) ← readName? input
  let rest ← expect? greaterThan (skipSpace rest)
  return (.close name, rest)

/-- The value in quotes that follows the pattern, after stepping over `skip` bytes; empty
if there is none. Where no quote follows, the search goes on behind the byte that does.
-/
def declaredFrom (pattern : Bytes) : (skip : Nat) → Bytes → Bytes
  | _, [] => []
  | skip + 1, _ :: bs => declaredFrom pattern skip bs
  | 0, b :: bs =>
      match pattern.isPrefixOf? (b :: bs) with
      | some (q :: tail) =>
          if isQuote q then ((Bytes.cutAt? q tail).map Prod.fst).getD []
          else declaredFrom pattern pattern.length bs
      | some [] => []
      | none => declaredFrom pattern 0 bs

/-- The value that the XML declaration gives to a parameter. -/
def declared (parameter declaration : Bytes) : Bytes :=
  declaredFrom (parameter ++ "=") 0 declaration

/-- The byte in lower case, if it is an ASCII letter. -/
def lowerByte (b : UInt8) : UInt8 :=
  if 0x41 ≤ b && b ≤ 0x5A then b + 0x20 else b

/-- Whether the XML declaration names version 1.0 and UTF-8, as far as it names them. -/
def isSupported (declaration : Bytes) : Bool :=
  let version := declared "version" declaration
  let encoding := declared "encoding" declaration
  (version = [] || version = "1.0") && (encoding = [] || encoding.map lowerByte = "utf-8")

/-- Reads a processing instruction behind its question mark. -/
def readInstruction? (input : Bytes) : Option (Markup × Bytes) := do
  let (target, rest) ← readText? input
  let (data, rest) ← Bytes.cutAround? "?>" (skipSpace rest)
  if target = "xml" && !isSupported data then none
  return (.aside, rest)

/-- Reads a comment behind its opening. Two dashes may only stand at its end. -/
def readComment? (input : Bytes) : Option (Markup × Bytes) := do
  let (_, rest) ← Bytes.cutAround? "--" input
  let rest ← expect? greaterThan rest
  return (.aside, rest)

/-- Reads a section of unparsed character data behind its opening. -/
def readSection? (input : Bytes) : Option (Markup × Bytes) := do
  let (raw, rest) ← Bytes.cutAround? sectionEnd input
  let text ← charData? false raw
  return (.text text, rest)

/-- Where a scan of a declaration stands. -/
inductive DeclarationScan where
  /-- Outside of quotes and comments, inside so many angle brackets. -/
  | plain (depth : Nat)
  | quoted (quote : UInt8) (depth : Nat)
  /-- In the opening of a comment, with so many bytes of it to come. -/
  | opening (left depth : Nat)
  /-- In a comment, behind so many dashes. -/
  | comment (dashes depth : Nat)
deriving DecidableEq

/-- The input behind a declaration. Angle brackets are balanced; those in quotes and
comments do not count.
-/
def skipDeclaration? : DeclarationScan → Bytes → Option Bytes
  | _, [] => none
  | .plain depth, b :: bs =>
      if b = greaterThan then
        match depth with
        | 0 => some bs
        | depth + 1 => skipDeclaration? (.plain depth) bs
      else if isQuote b then skipDeclaration? (.quoted b depth) bs
      else if b = lessThan then
        if (utf8 "!--").isPrefixOf bs then skipDeclaration? (.opening 3 depth) bs
        else skipDeclaration? (.plain (depth + 1)) bs
      else skipDeclaration? (.plain depth) bs
  | .quoted quote depth, b :: bs =>
      if b = quote then skipDeclaration? (.plain depth) bs
      else skipDeclaration? (.quoted quote depth) bs
  | .opening left depth, _ :: bs =>
      if left ≤ 1 then skipDeclaration? (.comment 0 depth) bs
      else skipDeclaration? (.opening (left - 1) depth) bs
  | .comment dashes depth, b :: bs =>
      if b = 0x2D then skipDeclaration? (.comment (dashes + 1) depth) bs
      else if b = greaterThan && 2 ≤ dashes then skipDeclaration? (.plain depth) bs
      else skipDeclaration? (.comment 0 depth) bs

/-- Reads a comment, a section or a declaration behind its exclamation mark. -/
def readBang? : Bytes → Option (Markup × Bytes)
  | [] => none
  | b :: input =>
      if b = 0x2D then (expect? 0x2D input).bind readComment?
      else if b = 0x5B then ((utf8 "CDATA[").isPrefixOf? input).bind readSection?
      else (skipDeclaration? (.plain 0) input).map fun rest => (.aside, rest)

/-- Reads markup behind its opening bracket. -/
def readBracket? : Bytes → Option (Markup × Bytes)
  | [] => none
  | b :: input =>
      if b = slash then readClose? input
      else if b = 0x3F then readInstruction? input
      else if b = 0x21 then readBang? input
      else readStart? (b :: input)

/-- Whether the byte belongs to a text and not to markup. -/
def isTextByte (b : UInt8) : Bool :=
  b ≠ lessThan

/-- Reads the item that a non-empty input begins with. -/
def readMarkup? (b : UInt8) (input : Bytes) : Option (Markup × Bytes) :=
  if b = lessThan then readBracket? input
  else do
    let text ← contentText? (b :: input.takeWhile isTextByte)
    return (.text text, input.dropWhile isTextByte)

/-- The item that a non-empty input begins with and the number of bytes it takes. -/
def headMarkup (b : UInt8) (input : Bytes) : Markup × Nat :=
  match readMarkup? b input with
  | some (item, rest) => (item, input.length + 1 - rest.length)
  | none => (.broken, input.length + 1)

/-- The items of a document. -/
def markup (input : Bytes) : List Markup :=
  Text.pieces headMarkup input

end IppXml.Xml
