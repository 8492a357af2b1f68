import IppXml.Text.Bytes

/-! Inputs that may fail while they are read, and outputs that may refuse what is written.
-/

namespace IppXml

/-- An input: its content, and why reading fails behind it, if it does. -/
structure Source where
  content : Bytes
  failure? : Option Bytes := none
deriving DecidableEq

/-- An output: why every write to it fails, if it does. -/
structure Sink where
  failure? : Option Bytes := none
deriving DecidableEq

/-- What an output holds after the given writes. A write that fails stores nothing. -/
def Sink.stored (sink : Sink) (writes : List Bytes) : Bytes :=
  if sink.failure?.isSome then [] else writes.flatten

end IppXml
