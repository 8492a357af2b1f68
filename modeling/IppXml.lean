import IppXml.Main
import IppXml.Proofs.Conversion.RoundTrip
import IppXml.Proofs.Instruction.Printing
import IppXml.Proofs.Conversion.Canonical
import IppXml.Proofs.Session.Runs
import IppXml.Proofs.Document.Structure
import IppXml.Proofs.Command.ExitCodes
import IppXml.Proofs.Command.Arguments
import IppXml.Proofs.Command.Converting
import IppXml.Proofs.Verification.Listing
import IppXml.Proofs.Command.Verdict
import IppXml.Proofs.Slot.Suitability
import IppXml.Proofs.Document.Numbering
import IppXml.Proofs.Document.Trailing
import IppXml.Proofs.Instruction.Escapes
import IppXml.Proofs.Document.Reordering
import IppXml.Proofs.Document.Respelling
import IppXml.Proofs.Instruction.Rejection
import IppXml.Proofs.Text.Layouts
import IppXml.Proofs.InstructionSet.CaseMatching
import IppXml.Proofs.InstructionSet.Registry
import IppXml.Proofs.Error.Causes
