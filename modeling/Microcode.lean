import Microcode.CommandLine.Run
import Microcode.Instruction.Encode
import Microcode.Listing.Columns
import Microcode.Listing.Cursor
import Microcode.Listing.Delivery
import Microcode.Service.Dispatch
import Microcode.Symbol.Entries
import Microcode.Main
import Microcode.Proofs.Concatenation
import Microcode.Proofs.DecodeImage
import Microcode.Proofs.ListingReadBack
import Microcode.Proofs.Relocation
import Microcode.Proofs.HexSpellings
import Microcode.Proofs.SessionRuns
import Microcode.Proofs.RequestOutcomes
import Microcode.Proofs.RunOutcomes
import Microcode.Proofs.ByteSpellings
import Microcode.Proofs.FrontEnds
import Microcode.Proofs.HexLanguage
import Microcode.Proofs.TargetsInBuffer
import Microcode.Proofs.PrintStyles
import Microcode.Proofs.RunEndings
import Microcode.Proofs.FieldReadings
import Microcode.Proofs.SinkRefusals
import Microcode.Proofs.SymbolRuns
