import Microcode.Json.Value
import Microcode.Session
import Microcode.Text.HexBytes
import Microcode.Text.IntegerLiteral

/-!
# Requests for a listing

A request is a JSON object. It names its input under `machine_code`, a list of
hexadecimal words, or under `data`, a text of hexadecimal bytes; the first takes
precedence. `vaddr` gives the address of the first word, as an integer or as a text
that is an integer literal. `reg_names` and `armips_cop0_names` set the print style
by their truth.

Every JSON value, and the absence of one, is answered: with a listing, or with the
first reason in the order shape, address, input.
-/

namespace Microcode.Service

/-- Why an address is refused. -/
inductive AddressError where
  /-- A truth value is no address. -/
  | boolean
  | literal (cause : Text.IntegerLiteral.LiteralError)
  deriving DecidableEq

/-- The wording of a refused address. -/
def AddressError.message : AddressError → String
  | .boolean => "expected an integer or a hex string"
  | .literal cause => cause.message

/-- The address that a value denotes; null denotes the default. -/
def address (default : Int) : Json.Value → Except AddressError Int
  | .null => .ok default
  | .bool _ => .error .boolean
  | .integer value => .ok value
  | other => (Text.IntegerLiteral.parse other.text).mapError .literal

/-- Why a request is refused. -/
inductive Refusal where
  /-- The body is no object, or names no input. -/
  | missingInput
  | badAddress (cause : AddressError)
  /-- The machine code is not a list of strings. -/
  | badMachineCode
  /-- Some lines of the machine code are no words. -/
  | rejectedLines (records : List LineRecord)
  | badData (cause : Text.HexBytes.HexBytesError)
  | unaligned (cause : Unaligned)
  /-- An error where none is expected. -/
  | unexpected (reason : String)
  deriving DecidableEq

/-- The status of a refused request. -/
def Refusal.status : Refusal → Nat
  | .unexpected _ => 500
  | _ => 400

/-- A record of one message. -/
def messageRecord (message : String) : Json.Value := .record [("message", .ofString message)]

/-- A refused line as a record. -/
def lineRecord (record : LineRecord) : Json.Value :=
  .record [("line", .integer record.line), ("message", .string record.message)]

/-- The records of a refused request. -/
def Refusal.records : Refusal → List Json.Value
  | .missingInput => [messageRecord
      "Missing 'data' (hex string) or 'machine_code' (list of hex strings) key in request."]
  | .badAddress cause => [messageRecord ("Invalid 'vaddr': " ++ cause.message)]
  | .badMachineCode => [messageRecord
      "Invalid 'machine_code' key (must be list of hex strings)."]
  | .rejectedLines records => records.map lineRecord
  | .badData cause => [messageRecord ("Invalid hex data: " ++ cause.message)]
  | .unaligned cause => [messageRecord cause.message]
  | .unexpected reason => [messageRecord
      ("Internal server error during disassembly: " ++ reason)]

/-- Whether a refusal still shows an empty listing. -/
def Refusal.showsListing : Refusal → Bool
  | .rejectedLines _ | .unaligned _ => true
  | _ => false

/-- The body that reports a listing and records. -/
def listingBody (text : String) (records : List Json.Value) : Json.Value :=
  .record [("assembly_code", .ofString text), ("errors", .array records)]

/-- The body that answers a refused request. -/
def Refusal.body (refusal : Refusal) : Json.Value :=
  if refusal.showsListing then listingBody "" refusal.records
  else .record [("errors", .array refusal.records)]

/-- The members of a request. -/
abbrev Members := List (Text × Json.Value)

/-- The print style that a request asks for. What it does not mention counts as true. -/
def style (members : Members) : PrintStyle where
  registerNames := ((Json.Value.member? "reg_names" members).map Json.Value.isTruthy).getD true
  numberedSystemNames :=
    ((Json.Value.member? "armips_cop0_names" members).map Json.Value.isTruthy).getD true

/-- The address that a request asks for, modulo `2 ^ 32`. -/
def requestAddress (members : Members) : Except Refusal Int :=
  match address Listing.defaultAddress ((Json.Value.member? "vaddr" members).getD .null) with
  | .ok value => .ok (value % 0x100000000)
  | .error cause => .error (.badAddress cause)

/-- The string in a value. -/
def string? : Json.Value → Option Text
  | .string text => some text
  | _ => none

/-- The strings in a list of strings. -/
def strings? : Json.Value → Option (List Text)
  | .array items => items.mapM string?
  | _ => none

/-- What a request asks to be listed. -/
inductive Input where
  | machineCode (lines : List Text)
  | bytes (data : List UInt8)
  deriving DecidableEq

/-- The input of a request. Machine code takes precedence over data. -/
def input (members : Members) : Except Refusal Input :=
  match Json.Value.member? "machine_code" members, Json.Value.member? "data" members with
  | some value, _ =>
    match strings? value with
    | some lines => .ok (.machineCode lines)
    | none => .error .badMachineCode
  | none, some value =>
    match Text.HexBytes.parse value.text with
    | .ok data => .ok (.bytes data)
    | .error cause => .error (.badData cause)
  | none, none => .error .missingInput

/-- The members of a request that names an input. -/
def members? : Option Json.Value → Option Members
  | some (.object members) =>
    if (Json.Value.member? "data" members).isSome
        || (Json.Value.member? "machine_code" members).isSome then
      some members
    else none
  | _ => none

/-- What a request comes down to. -/
structure Job where
  style : PrintStyle
  base : Int
  input : Input
  deriving DecidableEq

/-- The job of a request. -/
def job (body : Option Json.Value) : Except Refusal Job :=
  match members? body with
  | none => .error .missingInput
  | some members => do
    let base ← requestAddress members
    return ⟨style members, base, ← input members⟩

/-- The listing that a job asks for. -/
def Job.listing (job : Job) : Except Refusal String :=
  let session : Session := { style := job.style }
  match job.input with
  | .machineCode lines =>
    match session.listMachineCode lines job.base with
    | .error cause => .error (.unexpected cause.message)
    | .ok listing =>
      if listing.records.isEmpty then .ok listing.text
      else .error (.rejectedLines listing.records)
  | .bytes data => (session.listBytes data job.base).mapError .unaligned

/-- What is reported while a job is done. -/
def Job.events (job : Job) : List Log.Event :=
  match job.input with
  | .machineCode lines =>
    .machineCodeReceived (Json.Value.array ((lines.take 5).map .string)).literal
      :: Session.machineCodeEvents lines job.base ++
        match Session.listMachineCode { style := job.style } lines job.base with
        | .ok _ => []
        | .error cause => [.requestFailed cause.message]
  | .bytes data =>
    .bytesReceived data.length job.base :: Listing.events data job.base ++
      match Listing.text job.style data job.base with
      | .ok text => [.requestAnswered (String.ofList (text.toList.take 100))]
      | .error cause => [.requestRejected cause.message]

/-- The listing that a request asks for. -/
def listing (body : Option Json.Value) : Except Refusal String := do
  (← job body).listing

/-- What is reported while a request is answered. -/
def events (body : Option Json.Value) : List Log.Event :=
  match job body with
  | .ok job => job.events
  | .error _ => []

end Microcode.Service
