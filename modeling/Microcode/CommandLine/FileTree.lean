import Microcode.Text.Numeral
import Microcode.Text.Quoted

/-!
# Files

A file tree lists files, devices and directories by their locations, which are the
names that lead to them from the root. Paths are resolved name by name, from the root or
from the working directory. Every name but the last must lead into a directory, and a
slash at the end asks for a directory.

`usualEntries` holds what a run can rely on outside of its working directory.
-/

namespace Microcode.CommandLine

/-- Why the system does not do something: its error number and the wording of it. -/
structure FileError where
  number : Nat
  description : String
  deriving DecidableEq

namespace FileError

/-- Nothing has the path. -/
def noSuchEntry : FileError := ⟨2, "No such file or directory"⟩

/-- Something on the way is a file. -/
def notDirectory : FileError := ⟨20, "Not a directory"⟩

/-- The path leads to a directory. -/
def isDirectory : FileError := ⟨21, "Is a directory"⟩

/-- A file has no such position. -/
def invalidArgument : FileError := ⟨22, "Invalid argument"⟩

/-- There is no room for what is written. -/
def noSpace : FileError := ⟨28, "No space left on device"⟩

/-- A name, or the whole path, is longer than the system accepts. -/
def nameTooLong : FileError := ⟨36, "File name too long"⟩

/-- The wording of an error about an open file. -/
def message (error : FileError) : String :=
  "[Errno " ++ Text.Numeral.decimal error.number ++ "] " ++ error.description

/-- The wording of an error about a path that is not opened. -/
def messageAt (error : FileError) (path : String) : String :=
  error.message ++ ": " ++ Text.quotedString path

end FileError

/-- Names that lead from the root to a file, a device or a directory. -/
abbrev Location := List String

/-- A file that the system makes up. -/
inductive Device where
  /-- Holds nothing, and what is written to it vanishes. -/
  | null
  /-- Holds zeros without end, and what is written to it vanishes. -/
  | zero
  /-- Holds zeros without end, and has no room for anything. -/
  | full
  deriving DecidableEq

/-- What can be opened. -/
inductive Store where
  | file (content : List UInt8)
  | device (device : Device)
  deriving DecidableEq

/-- What has a location. -/
inductive Node where
  | store (store : Store)
  | directory
  deriving DecidableEq

/-- Files, devices and directories. -/
structure FileTree where
  entries : List (Location × Node) := []
  /-- Where paths begin that do not begin with a slash. -/
  workingDirectory : Location := []
  deriving DecidableEq

/-- Directories and devices that every system has. -/
def usualEntries : List (Location × Node) :=
  let directories : List Location :=
    ["bin", "boot", "etc", "home", "lib", "lib64", "media", "mnt", "opt", "proc", "root", "run",
      "sbin", "srv", "sys", "tmp", "usr", "var"].map ([·]) ++ [["dev", "pts"], ["dev", "shm"]]
  let devices : List (String × Device) := [("null", .null), ("zero", .zero), ("full", .full)]
  directories.map (·, .directory)
    ++ devices.map fun (name, device) => (["dev", name], .store (.device device))

namespace FileTree

/-- What has a location. Everything on the way to an entry is a directory. -/
def get? (tree : FileTree) (location : Location) : Option Node :=
  match tree.entries.lookup location with
  | some node => some node
  | none =>
    if location = [] ∨ tree.entries.any fun (other, _) => location.isPrefixOf other then
      some .directory
    else none

/-- The tree with a file of the given content in place of what was there. -/
def insert (tree : FileTree) (location : Location) (content : List UInt8) : FileTree :=
  let node := Node.store (.file content)
  let entries :=
    if (tree.entries.lookup location).isSome then
      tree.entries.map fun (other, kept) => (other, if other = location then node else kept)
    else tree.entries ++ [(location, node)]
  { tree with entries }

/-- The greatest length of a name in bytes. -/
def nameLimit : Nat := 255

/-- The greatest length of a path in bytes. -/
def pathLimit : Nat := 4095

/-- Where a name leads to from a directory. The directory above the root is the root. -/
def step (location : Location) (name : String) : Except FileError Location :=
  if name = "." then .ok location
  else if name = ".." then .ok location.dropLast
  else if nameLimit < name.utf8ByteSize then .error .nameTooLong
  else .ok (location ++ [name])

/-- The directory that a name leads to from a directory. -/
def enter (tree : FileTree) (location : Location) (name : String) : Except FileError Location := do
  let next ← step location name
  match tree.get? next with
  | some .directory => .ok next
  | some (.store _) => .error .notDirectory
  | none => .error .noSuchEntry

/-- The directory that names lead to, one after the other. -/
def enterAll (tree : FileTree) (location : Location) : List String → Except FileError Location
  | [] => .ok location
  | name :: rest => do tree.enterAll (← tree.enter location name) rest

/-- The names in a path. -/
def names (path : String) : List String :=
  ((path.toList.splitOn '/').map String.ofList).filter (· ≠ "")

/-- Whether a path asks for a directory. -/
def asksForDirectory (path : String) : Bool := path.toList.getLast? = some '/'

/-- The directory in which the last name of a path is looked up. A path of no
characters leads nowhere. -/
def parent (tree : FileTree) (path : String) : Except FileError Location :=
  if path.isEmpty then .error .noSuchEntry
  else if pathLimit < path.utf8ByteSize then .error .nameTooLong
  else
    let start := if path.toList.head? = some '/' then [] else tree.workingDirectory
    tree.enterAll start (names path).dropLast

/-- The last name of a path. The root stands for itself. -/
def lastName (path : String) : String := (names path).getLastD "."

/-- What is opened for reading at a path. -/
def read (tree : FileTree) (path : String) : Except FileError Store := do
  let location ← step (← tree.parent path) (lastName path)
  match tree.get? location with
  | none => .error .noSuchEntry
  | some .directory => .error .isDirectory
  | some (.store store) => if asksForDirectory path then .error .notDirectory else .ok store

/-- The location of the file that is opened for writing at a path. It need not exist,
but a directory is never written, whether it exists or not. -/
def place (tree : FileTree) (path : String) : Except FileError Location := do
  let parent ← tree.parent path
  if asksForDirectory path then .error .isDirectory
  else
    let location ← step parent (lastName path)
    if tree.get? location = some .directory then .error .isDirectory else .ok location

/-- The tree after bytes are written to what has a location. A file takes all of them, and
so does a device, unless it is the one that has no room. -/
def write (tree : FileTree) (location : Location) (content : List UInt8) :
    Except FileError FileTree :=
  match tree.get? location with
  | some (.store (.device .full)) => if content.isEmpty then .ok tree else .error .noSpace
  | some (.store (.device _)) => .ok tree
  | _ => .ok (tree.insert location content)

end FileTree

end Microcode.CommandLine
