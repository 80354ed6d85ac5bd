import Microcode.HexWord
import Microcode.Listing

/-!
# Sessions

A session lists buffers and machine code in one print style. Machine code is a list
of lines, each of which is blank or holds one hexadecimal word. Either all words are
listed or none: if a line is refused the listing is empty, and every refused line is
recorded with its number. The session keeps the records of its last machine code run.
-/

namespace Microcode

/-- A refused line of machine code. Lines are counted from one, blank ones included. -/
structure LineRecord where
  line : Nat
  cause : HexWord.HexWordError
  deriving DecidableEq

/-- The wording of a record. -/
def LineRecord.message (record : LineRecord) : Text :=
  Text.ofString "Invalid hex format/value: " ++ record.cause.message

/-- The answer to a machine code run. -/
structure MachineCodeListing where
  text : String
  records : List LineRecord
  deriving DecidableEq

namespace MachineCode

/-- Whether a line holds nothing. -/
def isBlankLine (line : Text) : Bool := (Text.strip line).isEmpty

/-- The words of lines whose first has a given number, and the records of the refused
ones. -/
def readFrom (number : Nat) : List Text → List Int × List LineRecord
  | [] => ([], [])
  | line :: rest =>
    let (words, records) := readFrom (number + 1) rest
    if isBlankLine line then (words, records)
    else
      match HexWord.parse line with
      | .ok word => (word :: words, records)
      | .error cause => (words, ⟨number, cause⟩ :: records)

/-- The words of lines, and the records of the refused ones. -/
def read (lines : List Text) : List Int × List LineRecord := readFrom 1 lines

/-- What is reported about refused lines. -/
def recordEvents (records : List LineRecord) : List Log.Event :=
  records.map fun record => .lineRejected record.line record.cause.message

end MachineCode

/-- A print style and the records of the last machine code run. -/
structure Session where
  style : PrintStyle := {}
  records : List LineRecord := []
  deriving DecidableEq

namespace Session

/-- Lists a buffer. The session stays as it is. -/
def listBytes (session : Session) (data : List UInt8) (base : Int) :
    Except Unaligned String :=
  Listing.text session.style data base

/-- Lists machine code. -/
def listMachineCode (session : Session) (lines : List Text) (base : Int) :
    Except Unaligned MachineCodeListing :=
  let (words, records) := MachineCode.read lines
  if records.isEmpty then do
    return ⟨← session.listBytes (Listing.bytes words) base, []⟩
  else return ⟨"", records⟩

/-- The session after a machine code run. -/
def afterMachineCode (session : Session) (lines : List Text) : Session :=
  { session with records := (MachineCode.read lines).2 }

/-- What is reported during a machine code run. -/
def machineCodeEvents (lines : List Text) (base : Int) : List Log.Event :=
  let (words, records) := MachineCode.read lines
  if records.isEmpty then Listing.events (Listing.bytes words) base
  else MachineCode.recordEvents records

/-- What a session can be asked. -/
inductive Call where
  /-- List machine code. -/
  | machineCode (lines : List Text) (base : Int)
  /-- List a buffer. -/
  | bytes (data : List UInt8) (base : Int)
  /-- Read one word. -/
  | word (line : Text)
  deriving DecidableEq

/-- What a session answers. -/
inductive Answer where
  | listing (listing : MachineCodeListing)
  | text (text : String)
  | word (word : Int)
  | unaligned (cause : Unaligned)
  | badWord (cause : HexWord.HexWordError)
  deriving DecidableEq

/-- The answer to a call. -/
def answer (session : Session) : Call → Answer
  | .machineCode lines base =>
    match session.listMachineCode lines base with
    | .ok listing => .listing listing
    | .error cause => .unaligned cause
  | .bytes data base =>
    match session.listBytes data base with
    | .ok text => .text text
    | .error cause => .unaligned cause
  | .word line =>
    match HexWord.parse line with
    | .ok word => .word word
    | .error cause => .badWord cause

/-- The session after a call. Only machine code runs leave a trace. -/
def after (session : Session) : Call → Session
  | .machineCode lines _ => session.afterMachineCode lines
  | .bytes .. => session
  | .word .. => session

/-- What is reported during a call. -/
def callEvents : Call → List Log.Event
  | .machineCode lines base => machineCodeEvents lines base
  | .bytes data base => Listing.events data base
  | .word .. => []

/-- The answers to a sequence of calls, each with the session after it. -/
def run (session : Session) : List Call → List (Answer × Session)
  | [] => []
  | call :: rest => (session.answer call, session.after call) :: (session.after call).run rest

end Session

end Microcode
