import IppXml.Document
import IppXml.Error
import IppXml.Ippcode24

/-! Converters: an instruction set, a header line, and how documents are indented. -/

namespace IppXml

/-- The line that IPPcode24 programs begin with. -/
def defaultHeader : Bytes := ".IPPcode24"

/-- The indentation of documents unless another one is chosen. -/
def defaultIndent : Bytes := "\t"

/-- A converter from source programs to documents. Its name appears in the log only. -/
structure Converter where
  name : Bytes
  set : InstructionSet
  header : Bytes
  indent : Bytes

/-- The choices a converter is made from. -/
structure ConverterOptions where
  set? : Option InstructionSet := some ippcode24
  header : Bytes := defaultHeader
  indent : Bytes := defaultIndent

/-- Makes a converter. It is a defect to choose no instruction set or an empty header. -/
def ConverterOptions.build (options : ConverterOptions) (name : Bytes)
    : Except Defect Converter :=
  match options.set? with
  | none => .error .noInstructionSet
  | some set =>
      if options.header = [] then .error .noHeader
      else .ok { name, set, header := options.header, indent := options.indent }

end IppXml
