import Microcode.CommandLine.Run

/-!
# The program

Reads the arguments, asks the file system about the files they name, and carries out
what the run decides.
-/

namespace Microcode.Main

open Microcode.CommandLine

/-- The number and wording of a system error. -/
def fileError (error : IO.Error) : FileError :=
  match error with
  | .noFileOrDirectory .. => .noSuchEntry
  | .inappropriateType _ number details =>
    if number = 20 then .notDirectory
    else if number = 21 then .isDirectory
    else ⟨number.toNat, details⟩
  | .resourceExhausted .. => .noSpace
  | .permissionDenied _ number _ => ⟨number.toNat, "Permission denied"⟩
  | other => ⟨5, toString other⟩

/-- What the system opens for reading at a path. Devices are not read here, since some
of them have no end. -/
def readFile (path : String) : IO (Except FileError Store) := do
  match FileTree.read { entries := usualEntries } path with
  | .ok (.device device) => return .ok (.device device)
  | _ =>
    try
      return .ok (.file (← IO.FS.readBinFile path).toList)
    catch error => return .error (fileError error)

/-- The files of a run whose output file takes everything. -/
def willing (content : Except FileError Store) : Files where
  input _ := content
  output _ := .ok ()
  write _ _ := .ok ()
  print _ := none
  limits := .usual

/-- Writes a text to an open file. -/
def fill (handle : IO.FS.Handle) (text : String) : IO (Except FileError Unit) := do
  try
    handle.putStr text
    handle.flush
    return .ok ()
  catch error => return .error (fileError error)

/-- Opens the file at a path for writing and writes a text to it. The answers to both
steps are kept apart. -/
def writeFile (path text : String) : IO (Except FileError Unit × Except FileError Unit) := do
  try
    let handle ← IO.FS.Handle.mk path .write
    return (.ok (), ← fill handle text)
  catch error => return (.error (fileError error), .ok ())

/-- The content of the input file that arguments name. -/
def readInput (arguments : Arguments) : IO (Except FileError Store) :=
  match arguments.input with
  | .value path => readFile path
  | .blank => return .error .noSuchEntry

/-- Carries out a run. If the file that it writes cannot be opened or filled, the run is
decided again in the knowledge of that. -/
def perform (arguments : Arguments) : IO Outcome := do
  let files := willing (← readInput arguments)
  let intended := arguments.outcome files
  match intended.written with
  | none => return intended
  | some (path, text) =>
    let (opening, writing) ← writeFile path text
    return arguments.outcome { files with output := fun _ => opening, write := fun _ _ => writing }

end Microcode.Main

open Microcode.CommandLine in
/-- Lists a slice of a file. -/
def main (arguments : List String) : IO UInt32 := do
  match Arguments.parse arguments with
  | .error exit =>
    IO.print exit.output
    IO.eprint exit.errorOutput
    return exit.status.toUInt32
  | .ok arguments =>
    let outcome ← Microcode.Main.perform arguments
    IO.eprint (arguments.shown outcome.events)
    match outcome.ending with
    | .code number =>
      IO.print outcome.printed
      return number.toUInt32
    | .fault cause =>
      IO.eprintln cause.message
      return 1
