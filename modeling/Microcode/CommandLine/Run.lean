import Microcode.CommandLine.Arguments
import Microcode.CommandLine.FileTree
import Microcode.Listing.Delivery

/-!
# Running the command line

A run reads a slice of a file and lists it, on the output stream or in another file.
The output stream gets the listing piece by piece. An output file gets it at once, and is
not opened before the listing is complete.

What the system allows is a parameter of a run: which files can be opened, which writes are
refused, which positions a file has and how much memory there is.

Some errors are reported and end the run with code one. Others are not handled: options
that are set to nothing, and arguments that the system cannot represent.
-/

namespace Microcode.CommandLine

/-- An error that a run reports. -/
inductive Failure where
  /-- A file cannot be opened. -/
  | unopened (cause : FileError) (path : String)
  /-- Something cannot be done to an open file. -/
  | refused (cause : FileError)
  /-- The file ends too early, or the size is not a count. -/
  | shortRead (size offset : Int) (path : String) (count : Nat)
  | unaligned (cause : Unaligned)
  deriving DecidableEq

/-- The wording of a reported error. -/
def Failure.message : Failure → String
  | .unopened cause path => cause.messageAt path
  | .refused cause => cause.message
  | .shortRead size offset path count =>
    "expected " ++ Text.Numeral.decimal size ++ " bytes at offset 0x"
      ++ Text.Numeral.upperHex offset ++ " of " ++ path ++ ", got " ++ Text.Numeral.decimal count
  | .unaligned cause => cause.message

/-- An error that a run does not handle. -/
inductive Fault where
  /-- The input is set to nothing. -/
  | blankInput
  /-- The offset is set to nothing. -/
  | blankOffset
  /-- The size is set to nothing. -/
  | blankSize
  /-- The address is set to nothing. -/
  | blankAddress
  /-- A path holds the character that ends paths. -/
  | embeddedNull
  /-- The offset does not fit into 64 bits. -/
  | offsetOutOfRange
  /-- The size does not fit into 64 bits. -/
  | sizeOutOfRange
  /-- The size is negative and is not minus one. -/
  | negativeSize
  /-- The size leaves no room for a buffer's header. -/
  | bufferTooLarge
  /-- There is not enough memory for a buffer. -/
  | outOfMemory
  deriving DecidableEq

/-- The wording of an error that is not handled. -/
def Fault.message : Fault → String
  | .blankInput => "expected str, bytes or os.PathLike object, not list"
  | .blankOffset => "'list' object cannot be interpreted as an integer"
  | .blankSize => "argument should be integer or None, not 'list'"
  | .blankAddress => "unsupported format string passed to list.__format__"
  | .embeddedNull => "embedded null byte"
  | .offsetOutOfRange => "cannot fit 'int' into an offset-sized integer"
  | .sizeOutOfRange => "cannot fit 'int' into an index-sized integer"
  | .negativeSize => "read length must be non-negative or -1"
  | .bufferTooLarge => "byte string is too large"
  | .outOfMemory => ""

/-- What can go wrong in a run. -/
inductive RunError where
  | failure (cause : Failure)
  | fault (cause : Fault)
  deriving DecidableEq

/-- The value that an option is set to. -/
def Setting.get {α : Type} (blank : Fault) : Setting α → Except RunError α
  | .value found => .ok found
  | .blank => .error (.fault blank)

/-- Whether an integer fits into 64 bits. -/
def fitsInt64 (value : Int) : Bool := -0x8000000000000000 ≤ value && value < 0x8000000000000000

/-- The greatest size of a buffer. -/
def bufferLimit : Int := 0x7FFFFFFFFFFFFFDE

/-- What a system has room for. Positions depend on the file system of the input file, and
memory on the machine and on what else it does. Memory is asked for once, for the bytes
that are to be read; what becomes of them later is taken to fit. -/
structure Limits where
  /-- The greatest position in a file. -/
  lastPosition : Int
  /-- The least size of a buffer for which there is not enough memory. -/
  memory : Int
  /-- A file has a start. -/
  start : 0 ≤ lastPosition
  /-- Positions fit into 64 bits. -/
  representable : lastPosition < 0x8000000000000000
  /-- There is some memory. -/
  room : 0 < memory
  /-- No buffer is larger than the greatest one. -/
  bounded : memory ≤ bufferLimit + 1

/-- A file system whose files end below 16 TiB, and 32 GiB of memory. -/
def Limits.usual : Limits where
  lastPosition := 0xFFFFFFFF000
  memory := 0x800000000
  start := by decide
  representable := by decide
  room := by decide
  bounded := by decide

/-- Checks that a position can be looked for. A device has no positions of its own and
accepts all that fit into 64 bits. -/
def checkOffset (limits : Limits) (store : Store) (offset : Int) : Except RunError Unit :=
  if !fitsInt64 offset then .error (.fault .offsetOutOfRange)
  else
    match store with
    | .device _ => .ok ()
    | .file _ =>
      if 0 ≤ offset ∧ offset ≤ limits.lastPosition then .ok ()
      else .error (.failure (.refused .invalidArgument))

/-- Checks that a number of bytes can be asked for. -/
def checkSize (limits : Limits) (size : Int) : Except RunError Unit :=
  if !fitsInt64 size then .error (.fault .sizeOutOfRange)
  else if size < -1 then .error (.fault .negativeSize)
  else if bufferLimit < size then .error (.fault .bufferTooLarge)
  else if limits.memory ≤ size then .error (.fault .outOfMemory)
  else .ok ()

/-- The bytes behind an offset, as many as are asked for. A size of minus one asks for
all of them. -/
def Store.bytes (store : Store) (offset size : Int) : Except RunError (List UInt8) :=
  match store with
  | .file content =>
    let behind := content.drop offset.toNat
    .ok (if size = -1 then behind else behind.take size.toNat)
  | .device .null => .ok []
  | .device _ =>
    if size = -1 then .error (.fault .outOfMemory) else .ok (List.replicate size.toNat 0)

/-- The print style that arguments ask for. -/
def Arguments.style (arguments : Arguments) : PrintStyle where
  registerNames := !arguments.numericRegisters
  numberedSystemNames := !arguments.vendorNames

/-- The output file that arguments name. No name at all is none. -/
def Arguments.outputFile? (arguments : Arguments) : Option String :=
  match arguments.output with
  | some (.value path) => if path = "" then none else some path
  | _ => none

/-- The result of opening a file at a path, given what the system says of it. The
system is not asked about a path with the character that ends paths. -/
def opened {α : Type} (path : String) (answer : Except FileError α) : Except RunError α :=
  if path.toList.contains (Char.ofNat 0) then .error (.fault .embeddedNull)
  else answer.mapError fun cause => .failure (.unopened cause path)

/-- What the system answers to a run that opens a file for reading or for writing, that
writes to an open file or to the output stream, or that asks for a position or for memory. -/
structure Files where
  input : String → Except FileError Store
  output : String → Except FileError Unit
  write : String → String → Except FileError Unit
  /-- The refusal of a call to the output stream, if the call is refused. -/
  print : Nat → Option FileError
  limits : Limits

/-- What a run lists. -/
structure Slice where
  /-- The path of the file. -/
  path : String
  data : List UInt8
  /-- The address of the first word, as it is given. -/
  vram : Int
  deriving DecidableEq

/-- What arguments ask to be listed. -/
def Arguments.slice (arguments : Arguments) (files : Files) : Except RunError Slice := do
  let path ← arguments.input.get .blankInput
  let store ← opened path (files.input path)
  let offset ← arguments.offset.get .blankOffset
  checkOffset files.limits store offset
  let size ← arguments.size.get .blankSize
  checkSize files.limits size
  let data ← store.bytes offset size
  if (data.length : Int) ≠ size then
    throw (.failure (.shortRead size offset path data.length))
  return ⟨path, data, ← arguments.vram.get .blankAddress⟩

namespace Slice

/-- The address of the first word. -/
def base (slice : Slice) : Int := slice.vram % 0x100000000

/-- The listing of a slice. -/
def listing (slice : Slice) (style : PrintStyle) : Except RunError String :=
  (Listing.text style slice.data slice.base).mapError fun cause => .failure (.unaligned cause)

/-- What is reported while a slice is listed. -/
def events (slice : Slice) : List Log.Event :=
  .fileRead slice.data.length slice.path slice.vram :: Listing.events slice.data slice.base

end Slice

/-- How a run ends. -/
inductive Ending where
  /-- With an exit code. -/
  | code (number : Nat)
  /-- With an error that is not handled. -/
  | fault (cause : Fault)
  deriving DecidableEq

/-- The ending and the last reports of a run that went wrong. -/
def RunError.ending : RunError → Ending × List Log.Event
  | .failure cause => (.code 1, [.runFailed cause.message])
  | .fault cause => (.fault cause, [])

/-- What a run does. -/
structure Outcome where
  ending : Ending
  /-- What is reported, in order. -/
  events : List Log.Event
  /-- What the output stream has accepted. -/
  printed : String := ""
  /-- The path of the file that is opened for writing, and the text that it is given. -/
  written : Option (String × String) := none
  deriving DecidableEq

/-- The outcome of a run that goes wrong after some reports. -/
def Outcome.ofError (events : List Log.Event) (error : RunError) : Outcome :=
  { ending := error.ending.1, events := events ++ error.ending.2 }

/-- What a run does that prints a slice. The output stream keeps the pieces that it has
accepted before it refused one. -/
def Slice.print (slice : Slice) (style : PrintStyle) (files : Files) : Outcome :=
  match Listing.deliver files.print style slice.data slice.base with
  | .error cause => .ofError slice.events (.failure (.unaligned cause))
  | .ok delivery =>
    let printed := String.join delivery.accepted
    match delivery.refusal with
    | none => { ending := .code 0, events := slice.events, printed }
    | some cause => { Outcome.ofError slice.events (.failure (.refused cause)) with printed }

/-- What a run does that writes a slice to the file at a path. A file that is opened has
lost its old content, even if it then refuses the new one. -/
def Slice.write (slice : Slice) (style : PrintStyle) (files : Files) (path : String) : Outcome :=
  match slice.listing style with
  | .error error => .ofError slice.events error
  | .ok text =>
    match opened path (files.output path) with
    | .error error => .ofError slice.events error
    | .ok () =>
      let written := some (path, text)
      match files.write path text with
      | .error cause => { Outcome.ofError slice.events (.failure (.refused cause)) with written }
      | .ok () => { ending := .code 0, events := slice.events, written }

/-- What a run does. -/
def Arguments.outcome (arguments : Arguments) (files : Files) : Outcome :=
  match arguments.slice files with
  | .error error => .ofError [] error
  | .ok slice =>
    match arguments.outputFile? with
    | none => slice.print arguments.style files
    | some path => slice.write arguments.style files path

/-- The tree after a text is written to the file at a path. -/
def FileTree.store (tree : FileTree) (path text : String) : Except FileError FileTree := do
  tree.write (← tree.place path) text.toUTF8.toList

/-- What a system with the files of a tree answers to a run, if its streams accept every
write. -/
def FileTree.files (tree : FileTree) (limits : Limits := .usual) : Files where
  input := tree.read
  output path := (tree.place path).map fun _ => ()
  write path text := (tree.store path text).map fun _ => ()
  print _ := none
  limits

/-- The tree after a run whose output file, once it is open, takes what it is given. A file
that cannot be opened is left as it is. -/
def Outcome.applyTo (outcome : Outcome) (tree : FileTree) : FileTree :=
  match outcome.written with
  | none => tree
  | some (path, text) => (tree.store path text).toOption.getD tree

/-- The least severe reports that are shown. -/
def Arguments.threshold (arguments : Arguments) : Log.Level :=
  if arguments.verbose then .debug else .info

/-- The reports that a run shows, one a line. -/
def Arguments.shown (arguments : Arguments) (events : List Log.Event) : String :=
  unlines ((Log.above arguments.threshold events).map fun event => event.text.shown)

end Microcode.CommandLine
