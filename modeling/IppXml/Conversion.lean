import IppXml.Document.Printer
import IppXml.Session
import IppXml.Stream

/-! Conversions of whole sources. -/

namespace IppXml

namespace Converter

/-- The document of a source program, and what happened on the way. -/
def parse (c : Converter) (source : Source) : List Event × Except Error Document :=
  match source.failure? with
  | some reason => ([], .error (.fault (.unreadable reason)))
  | none =>
      if isBlank source.content then ([], .error (.fault (.bare .emptyInput)))
      else
        match Progress.feedAll c .awaitHeader ((Bytes.lines source.content).zipIdx 1) with
        | (events, .error e) => (events, .error e)
        | (events, .ok progress) =>
            match progress.finish c with
            | .error e => (events, .error e)
            | .ok doc => (events ++ [.finished doc.size], .ok doc)

end Converter

/-- The course of a conversion: what happened, the writes that were tried, and the result.
-/
structure Conversion where
  events : List Event
  writes : List Bytes
  result : Except Error Unit

/-- Converts a source program and writes its document in one piece. Nothing is written if
the source has an error.
-/
def Converter.convert (c : Converter) (source : Source) (sink : Sink) : Conversion :=
  match c.parse source with
  | (events, .error e) => { events, writes := [], result := .error e }
  | (events, .ok doc) =>
      {
        events,
        writes := [doc.render c.indent],
        result :=
          match sink.failure? with
          | some reason => .error (.fault (.unwritable reason))
          | none => .ok ()
      }

theorem Converter.writes_convert (c : Converter) (source : Source) (sink : Sink)
    : (c.convert source sink).writes
      = match (c.parse source).2 with
        | .error _ => []
        | .ok doc => [doc.render c.indent] := by
  rw [Converter.convert]
  rcases c.parse source with ⟨events, e | doc⟩ <;> rfl

theorem Converter.result_convert (c : Converter) (source : Source) (sink : Sink)
    : (c.convert source sink).result
      = match (c.parse source).2, sink.failure? with
        | .error e, _ => .error e
        | .ok _, some reason => .error (.fault (.unwritable reason))
        | .ok _, none => .ok () := by
  rw [Converter.convert]
  rcases c.parse source with ⟨events, e | doc⟩
  · rfl
  · cases sink.failure? <;> rfl

/-- A conversion succeeds exactly if the source has a document and it can be written. -/
theorem Converter.result_convert_eq_ok {c : Converter} {source : Source} {sink : Sink}
    : (c.convert source sink).result = .ok ()
      ↔ (∃ doc, (c.parse source).2 = .ok doc) ∧ sink.failure? = none := by
  rw [Converter.result_convert]
  cases (c.parse source).2 <;> cases sink.failure? <;> simp

end IppXml
