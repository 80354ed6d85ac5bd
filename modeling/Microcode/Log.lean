import Microcode.Bits
import Microcode.Symbol
import Microcode.Text.CodePoint
import Microcode.Text.Numeral

/-!
# Log events

What the library has to report while it works, in the order in which it happens.
An event is data; its severity, the component that speaks and the wording are
functions of it. Whether an event is shown is decided by whoever collects it.
-/

namespace Microcode.Log

/-- How severe an event is. -/
inductive Level where
  | debug
  | info
  | warning
  | error
  deriving DecidableEq

namespace Level

/-- The severity in capitals. -/
def name : Level → String
  | .debug => "DEBUG"
  | .info => "INFO"
  | .warning => "WARNING"
  | .error => "ERROR"

/-- The position in the order of severity. -/
def rank : Level → Nat
  | .debug => 0
  | .info => 1
  | .warning => 2
  | .error => 3

end Level

/-- Something worth reporting. -/
inductive Event where
  /-- A word that is no instruction. -/
  | unsupportedWord (word address : Int)
  /-- An instruction refers to a symbol. -/
  | symbolDiscovered (symbol : Symbol)
  /-- A buffer has been decoded and its symbols are known. -/
  | bufferDecoded (words symbols : Nat)
  /-- A line of a machine code listing is no hexadecimal word. -/
  | lineRejected (line : Nat) (reason : Text)
  /-- A liveness request. -/
  | pinged
  /-- The first few lines of a request, quoted. -/
  | machineCodeReceived (lines : String)
  | bytesReceived (count : Nat) (address : Int)
  | requestRejected (reason : String)
  /-- The beginning of a listing that answers a request. -/
  | requestAnswered (beginning : String)
  | requestFailed (reason : String)
  | fileRead (count : Nat) (path : String) (address : Int)
  | runFailed (reason : String)
  deriving DecidableEq

namespace Event

/-- The severity of an event. -/
def level : Event → Level
  | .unsupportedWord .. | .symbolDiscovered .. | .bufferDecoded .. | .pinged
  | .machineCodeReceived .. | .bytesReceived .. | .requestAnswered .. => .debug
  | .fileRead .. => .info
  | .lineRejected .. | .requestRejected .. => .warning
  | .requestFailed .. | .runFailed .. => .error

/-- The component that reports an event. -/
def component : Event → String
  | .unsupportedWord .. => "rspdisasm.rsp_decoder"
  | .symbolDiscovered .. => "rspdisasm.rsp_symbols"
  | .bufferDecoded .. | .lineRejected .. => "rspdisasm.rsp_disassembler"
  | .pinged | .machineCodeReceived .. | .bytesReceived .. | .requestRejected ..
  | .requestAnswered .. | .requestFailed .. => "rspdisasm.app"
  | .fileRead .. | .runFailed .. => "rspdisasm.cli"

/-- The wording of an event, apart from text that it passes on. -/
def announcement : Event → String
  | .unsupportedWord word address =>
    "Unsupported word 0x" ++ Text.Numeral.word word ++ " at 0x" ++ Text.Numeral.word address
      ++ " (opcode=0x" ++ Text.Numeral.paddedLowerHex 2 (Bits.field 26 6 word).toNat ++ ")"
  | .symbolDiscovered symbol =>
    "Discovered " ++ symbol.kind.tag ++ " symbol " ++ symbol.name
  | .bufferDecoded words symbols =>
    "Decoded " ++ Text.Numeral.decimal words ++ " words, "
      ++ Text.Numeral.decimal symbols ++ " symbols referenced"
  | .lineRejected line _ => "Rejected machine code line " ++ Text.Numeral.decimal line ++ ": "
  | .pinged => "Ping endpoint called"
  | .machineCodeReceived lines => "Received machine code for disassembly: " ++ lines
  | .bytesReceived count address =>
    "Received " ++ Text.Numeral.decimal count ++ " bytes for disassembly at 0x"
      ++ Text.Numeral.word address
  | .requestRejected reason => "Disassembly rejected: " ++ reason
  | .requestAnswered beginning => "Disassembly result: " ++ beginning ++ "..."
  | .requestFailed reason => "Error during disassembly: " ++ reason
  | .fileRead count path address =>
    "Disassembling " ++ Text.Numeral.decimal count ++ " bytes from " ++ path ++ " at vram 0x"
      ++ Text.Numeral.word address
  | .runFailed reason => reason

/-- The wording of an event. -/
def message (event : Event) : Text :=
  .ofString event.announcement ++
    match event with
    | .lineRejected _ reason => reason
    | _ => []

/-- The line that records an event. -/
def text (event : Event) : Text :=
  .ofString (event.level.name ++ " " ++ event.component ++ ": ") ++ event.message

end Event

/-- The events that are at least as severe as a threshold. -/
def above (threshold : Level) (events : List Event) : List Event :=
  events.filter fun event => threshold.rank ≤ event.level.rank

end Microcode.Log
