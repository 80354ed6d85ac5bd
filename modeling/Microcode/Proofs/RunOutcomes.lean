import Microcode.Proofs.ListingReadBack
import Microcode.Proofs.SinkRefusals
import Microcode.Proofs.WrittenFiles

/-!
# Outcomes of a run

A run reads a slice, lists it and delivers the listing, in this order, and the first step
that fails ends it. Nothing is printed and no file is opened for writing before the last
step. So if streams accept what they are given, a run that does not end with code zero has
no effect but its reports. A run that does has read as many bytes as it was asked for, whole
words, and their listing is all that it prints, or the whole content of the file that it
writes.

Of a file the bytes lie behind an offset that is not negative. A device has no positions, so
it accepts every offset that fits into 64 bits; and one that is written keeps nothing.
-/

namespace Microcode.CommandLine

section Steps

/-- An option has a value exactly if it is set to one. -/
theorem Setting.get_eq_ok_iff {α : Type} (blank : Fault) (setting : Setting α) (value : α) :
    setting.get blank = .ok value ↔ setting = .value value := by
  cases setting <;> simp [Setting.get]

/-- A file is opened exactly if the system opens it, and its path has no character that
ends paths. -/
theorem opened_eq_ok_iff {α : Type} (path : String) (answer : Except FileError α) (value : α) :
    opened path answer = .ok value ↔ Char.ofNat 0 ∉ path.toList ∧ answer = .ok value := by
  rw [opened]
  split
  case isTrue null => simp_all
  case isFalse clear => simp_all [mapError_eq_ok_iff]

/-- An integer fits into 64 bits exactly if it lies in their range. -/
theorem fitsInt64_iff (value : Int) :
    fitsInt64 value = true ↔ -0x8000000000000000 ≤ value ∧ value < 0x8000000000000000 := by
  rw [fitsInt64, Bool.and_eq_true, decide_eq_true_eq, decide_eq_true_eq]

/-- The positions of a file are natural numbers up to a limit. -/
theorem checkOffset_file_iff (limits : Limits) (content : List UInt8) (offset : Int) :
    checkOffset limits (.file content) offset = .ok () ↔
      0 ≤ offset ∧ offset ≤ limits.lastPosition := by
  have fits (bounds : 0 ≤ offset ∧ offset ≤ limits.lastPosition) : fitsInt64 offset = true := by
    have representable := limits.representable
    rw [fitsInt64_iff]
    omega
  rw [checkOffset]
  by_cases bounds : 0 ≤ offset ∧ offset ≤ limits.lastPosition
  · simp [fits bounds, bounds]
  · cases fitsInt64 offset <;> simp [bounds]

/-- An offset that is accepted fits into 64 bits, whatever is read. -/
theorem fits_of_checkOffset {limits : Limits} {store : Store} {offset : Int}
    (accepted : checkOffset limits store offset = .ok ()) : fitsInt64 offset = true := by
  cases fits : fitsInt64 offset with
  | true => rfl
  | false => simp [checkOffset, fits] at accepted

/-- A buffer's size is a natural number below a limit. Minus one can be asked for, too. -/
theorem checkSize_eq_ok_iff (limits : Limits) (size : Int) :
    checkSize limits size = .ok () ↔ -1 ≤ size ∧ size < limits.memory := by
  have bounded := limits.bounded
  have fits (bounds : -1 ≤ size ∧ size < limits.memory) : fitsInt64 size = true := by
    rw [bufferLimit] at bounded
    rw [fitsInt64_iff]
    omega
  rw [checkSize]
  by_cases bounds : -1 ≤ size ∧ size < limits.memory
  · have notNegative : ¬ size < -1 := by omega
    have notLarge : ¬ bufferLimit < size := by omega
    have inMemory : ¬ limits.memory ≤ size := by omega
    simp [fits bounds, notNegative, notLarge, inMemory, bounds]
  · cases fitsInt64 size
    case false => simp [bounds]
    case true =>
      by_cases negative : size < -1
      · simp [negative, bounds]
      · have outOfMemory : limits.memory ≤ size := by omega
        by_cases large : bufferLimit < size <;> simp [negative, large, outOfMemory, bounds]

end Steps

section Slices

/-- The bytes that a store has at an offset, as many as are asked for. -/
def Store.Holds (store : Store) (offset size : Int) (data : List UInt8) : Prop :=
  match store with
  | .file content => 0 ≤ offset ∧ data = (content.drop offset.toNat).take size.toNat
  | .device .null => data = []
  | .device _ => data = List.replicate size.toNat 0

/-- A slice that is read as arguments ask for it. -/
structure Arguments.Reads (arguments : Arguments) (files : Files) (store : Store)
    (offset size : Int) (slice : Slice) : Prop where
  isPath : arguments.input = .value slice.path
  isOpen : opened slice.path (files.input slice.path) = .ok store
  isOffset : arguments.offset = .value offset
  seek : checkOffset files.limits store offset = .ok ()
  isSize : arguments.size = .value size
  room : checkSize files.limits size = .ok ()
  bytes : store.bytes offset size = .ok slice.data
  whole : (slice.data.length : Int) = size
  isAddress : arguments.vram = .value slice.vram

/-- A slice is the result of arguments exactly if every step of reading it succeeds. -/
theorem Arguments.slice_eq_ok_iff (arguments : Arguments) (files : Files) (slice : Slice) :
    arguments.slice files = .ok slice ↔
      ∃ store offset size, arguments.Reads files store offset size slice := by
  constructor
  · intro result
    simp only [Arguments.slice, bind_eq_ok_iff, Setting.get_eq_ok_iff] at result
    obtain ⟨path, isPath, store, isOpen, offset, isOffset, _, seek, size, isSize, _, room, data,
      bytes, rest⟩ := result
    split at rest
    case isTrue => cases rest
    case isFalse whole =>
      simp only [bind_eq_ok_iff, Setting.get_eq_ok_iff] at rest
      obtain ⟨vram, isAddress, same⟩ := rest
      cases same
      exact ⟨store, offset, size, isPath, isOpen, isOffset, seek, isSize, room, bytes,
        Classical.not_not.mp whole, isAddress⟩
  · rintro ⟨store, offset, size, reads⟩
    simp only [Arguments.slice, bind_eq_ok_iff, Setting.get_eq_ok_iff]
    refine ⟨_, reads.isPath, store, reads.isOpen, offset, reads.isOffset, (), reads.seek, size,
      reads.isSize, (), reads.room, _, reads.bytes, ?_⟩
    rw [if_neg (Classical.not_not.mpr reads.whole)]
    simp only [bind_eq_ok_iff, Setting.get_eq_ok_iff]
    exact ⟨_, reads.isAddress, rfl⟩

/-- The bytes that are read are those that the store holds. -/
theorem Arguments.Reads.holds {arguments : Arguments} {files : Files} {store : Store}
    {offset size : Int} {slice : Slice} (reads : arguments.Reads files store offset size slice) :
    store.Holds offset size slice.data := by
  have count : size ≠ -1 := by
    have whole := reads.whole
    omega
  have bytes := reads.bytes
  cases store with
  | file content =>
    have bounds := (checkOffset_file_iff _ content offset).mp reads.seek
    rw [Store.bytes, if_neg count] at bytes
    exact ⟨bounds.1, (Except.ok.inj bytes).symm⟩
  | device device =>
    cases device with
    | null => exact (Except.ok.inj bytes).symm
    | zero | full =>
      simp only [Store.bytes, if_neg count] at bytes
      exact (Except.ok.inj bytes).symm

end Slices

section Deliveries

/-- An output stream that accepts every call has printed the listing, if there is one. -/
theorem Slice.print_eq (slice : Slice) (style : PrintStyle) {files : Files}
    (accepts : ∀ call, files.print call = none) :
    slice.print style files =
      match slice.listing style with
      | .error error => .ofError slice.events error
      | .ok text => { ending := .code 0, events := slice.events, printed := text } := by
  rw [Slice.print, Slice.listing, Listing.text, Listing.deliver]
  cases Listing.lines style slice.data slice.base with
  | error cause => rfl
  | ok lines =>
    simp only [Except.map, Except.mapError, Listing.deliverFrom_complete _ fun _ _ => accepts _,
      Listing.join_pieces]

/-- What became of a text that was given to a file: a device has taken it and nothing has
changed, or the file has the text for its whole content and nothing else has changed. -/
def Delivered (tree : FileTree) (path text : String) (after : FileTree) : Prop :=
  ∃ location, tree.place path = .ok location ∧
    ((∃ device, tree.get? location = some (.store (.device device)) ∧ after = tree) ∨
      ((∀ device, tree.get? location ≠ some (.store (.device device))) ∧
        tree.Rewritten location text.toUTF8.toList after ∧
        after.read path = .ok (.file text.toUTF8.toList)))

variable {tree : FileTree} {path : String} {location : Location}

/-- Storing at a path that can be written is writing to its location. -/
theorem store_of_place (placed : tree.place path = .ok location) (text : String) :
    tree.store path text = tree.write location text.toUTF8.toList := by
  rw [FileTree.store, placed]
  rfl

/-- The device without room stays as it is, whatever it is given. -/
theorem store_full (placed : tree.place path = .ok location)
    (full : tree.get? location = some (.store (.device .full))) (text : String) :
    (tree.store path text).toOption.getD tree = tree := by
  rw [store_of_place placed, FileTree.write, full]
  dsimp only
  split <;> rfl

/-- A text that is given to an open file is delivered. -/
theorem delivered_of_place (placed : tree.place path = .ok location) (text : String) :
    Delivered tree path text ((tree.store path text).toOption.getD tree) := by
  obtain ⟨-, -, -, -, noDirectory⟩ := (FileTree.place_eq_ok_iff _ _ _).mp placed
  refine ⟨location, placed, ?_⟩
  by_cases full : tree.get? location = some (.store (.device .full))
  · exact .inl ⟨.full, full, store_full placed full text⟩
  · obtain ⟨after, written⟩ :=
      (tree.exists_write_iff location text.toUTF8.toList).mpr fun isFull => absurd isFull full
    rw [store_of_place placed, written]
    rcases FileTree.write_cases noDirectory written with onDevice | ⟨noDevice, rewritten⟩
    · exact .inl onDevice
    · exact .inr ⟨noDevice, rewritten, rewritten.read placed⟩

end Deliveries

section Effects

/-- A system that opens the files of a tree, and whose streams accept every write: the output
stream every call, and an open file what it is given. Only the device without room may
refuse. -/
structure Files.Serves (files : Files) (tree : FileTree) : Prop where
  input : ∀ path, files.input path = tree.read path
  output : ∀ path, files.output path = (tree.place path).map fun _ => ()
  write : ∀ path text location, tree.place path = .ok location →
    tree.get? location ≠ some (.store (.device .full)) → files.write path text = .ok ()
  print : ∀ call, files.print call = none

/-- The files of a tree are served as the tree says, whatever the limits. -/
theorem FileTree.serves_files (tree : FileTree) (limits : Limits) :
    (tree.files limits).Serves tree where
  input _ := rfl
  output _ := rfl
  write path text location placed notFull := by
    obtain ⟨after, written⟩ :=
      (tree.exists_write_iff location text.toUTF8.toList).mpr fun full => absurd full notFull
    have stored := (store_of_place placed text).trans written
    exact (map_eq_ok_iff _ _ _).mpr ⟨after, stored, rfl⟩
  print _ := rfl

/-- What a run with code zero has done. -/
structure Completed (tree : FileTree) (arguments : Arguments) (outcome : Outcome) (store : Store)
    (offset size vram : Int) (data : List UInt8) (text : String) : Prop where
  /-- It has read the input file that the arguments name. -/
  input : ∃ path, arguments.input = .value path ∧ tree.read path = .ok store
  settings : arguments.offset = .value offset ∧ arguments.size = .value size ∧
    arguments.vram = .value vram
  /-- It has read as many bytes as were asked for, whole words. -/
  whole : 0 ≤ size ∧ size % 4 = 0 ∧ (data.length : Int) = size
  /-- They stand at the offset. -/
  held : store.Holds offset size data
  /-- The offset fits into 64 bits, also where the input has no positions. -/
  representable : -0x8000000000000000 ≤ offset ∧ offset < 0x8000000000000000
  listed : Listing.text arguments.style data (vram % 0x100000000) = .ok text
  /-- Without an output file the listing is printed and nothing is written. -/
  printed : arguments.outputFile? = none → outcome.printed = text ∧ outcome.applyTo tree = tree
  /-- With an output file nothing is printed and the listing is delivered to it. -/
  delivered : ∀ output, arguments.outputFile? = some output →
    outcome.printed = "" ∧ Delivered tree output text (outcome.applyTo tree)

variable {tree : FileTree} {files : Files} {arguments : Arguments}

/-- A slice that is read and listed completes a run that delivers the listing. -/
theorem Arguments.Reads.completed {store : Store} {offset size : Int} {slice : Slice}
    {text : String} {outcome : Outcome} (serves : files.Serves tree)
    (reads : arguments.Reads files store offset size slice)
    (listed : slice.listing arguments.style = .ok text)
    (printed : arguments.outputFile? = none → outcome.printed = text ∧ outcome.applyTo tree = tree)
    (delivered : ∀ output, arguments.outputFile? = some output →
      outcome.printed = "" ∧ Delivered tree output text (outcome.applyTo tree)) :
    Completed tree arguments outcome store offset size slice.vram slice.data text := by
  have isText := (mapError_eq_ok_iff _ _ _).mp listed
  have aligned := Listing.aligned_of_text isText
  have count := reads.whole
  have found := ((opened_eq_ok_iff _ _ _).mp reads.isOpen).2
  constructor
  case input => exact ⟨_, reads.isPath, (serves.input _).symm.trans found⟩
  case settings => exact ⟨reads.isOffset, reads.isSize, reads.isAddress⟩
  case whole => omega
  case held => exact reads.holds
  case representable => exact (fitsInt64_iff offset).mp (fits_of_checkOffset reads.seek)
  case listed => exact isText
  case printed => exact printed
  case delivered => exact delivered

/-- A run that goes wrong, with code one or with a fault, and has done nothing. -/
structure Outcome.Idle (outcome : Outcome) (tree : FileTree) : Prop where
  ending : outcome.ending = .code 1 ∨ ∃ fault, outcome.ending = .fault fault
  printed : outcome.printed = ""
  unchanged : outcome.applyTo tree = tree

/-- An error before the last step leaves a run idle. -/
theorem Outcome.Idle.ofError (tree : FileTree) (events : List Log.Event) (error : RunError) :
    (Outcome.ofError events error).Idle tree := by
  cases error with
  | failure cause => exact ⟨.inl rfl, rfl, rfl⟩
  | fault cause => exact ⟨.inr ⟨cause, rfl⟩, rfl, rfl⟩

/-- A slice is written to a file that takes its listing, or else nothing is done: only the
device without room is opened and refuses a text, and it stays as it is. -/
theorem Slice.write_cases (serves : files.Serves tree) (slice : Slice) (style : PrintStyle)
    (path : String) :
    (∃ text, slice.listing style = .ok text ∧ (slice.write style files path).ending = .code 0 ∧
      (slice.write style files path).printed = "" ∧
      Delivered tree path text ((slice.write style files path).applyTo tree)) ∨
    (slice.write style files path).Idle tree := by
  rw [Slice.write]
  cases listed : slice.listing style with
  | error error => exact .inr (.ofError tree slice.events error)
  | ok text =>
    dsimp only
    cases isOpen : opened path (files.output path) with
    | error error => exact .inr (.ofError tree slice.events error)
    | ok =>
      have answer := ((opened_eq_ok_iff _ _ _).mp isOpen).2
      rw [serves.output, map_eq_ok_iff] at answer
      obtain ⟨location, placed, -⟩ := answer
      dsimp only
      cases written : files.write path text with
      | ok => exact .inl ⟨text, rfl, rfl, rfl, delivered_of_place placed text⟩
      | error cause =>
        -- Every other place accepts the text, so the refusal tells where it went.
        have full : tree.get? location = some (.store (.device .full)) := by
          by_contra notFull
          rw [serves.write path text location placed notFull] at written
          cases written
        exact .inr ⟨.inl rfl, rfl, store_full placed full text⟩

/-- If streams accept what they are given, a run ends with code zero and has delivered its
listing and done nothing else, or it goes wrong and has done nothing. -/
theorem outcome_atomic (tree : FileTree) (files : Files) (arguments : Arguments)
    (serves : files.Serves tree) :
    ((arguments.outcome files).ending = .code 0 ∧
      ∃ store offset size vram data text,
        Completed tree arguments (arguments.outcome files) store offset size vram data text) ∨
    (arguments.outcome files).Idle tree := by
  rw [Arguments.outcome]
  cases sliced : arguments.slice files with
  | error error => exact .inr (.ofError tree [] error)
  | ok slice =>
    obtain ⟨store, offset, size, reads⟩ := (arguments.slice_eq_ok_iff _ slice).mp sliced
    dsimp only
    cases output : arguments.outputFile? with
    | none =>
      dsimp only
      rw [slice.print_eq _ serves.print]
      cases listed : slice.listing arguments.style with
      | error error => exact .inr (.ofError tree slice.events error)
      | ok text =>
        refine .inl ⟨rfl, store, offset, size, slice.vram, slice.data, text, ?_⟩
        exact reads.completed serves listed (fun _ => ⟨rfl, rfl⟩) (by simp [output])
    | some path =>
      rcases slice.write_cases serves arguments.style path with
        ⟨text, listed, ending, silent, delivered⟩ | idle
      · refine .inl ⟨ending, store, offset, size, slice.vram, slice.data, text, ?_⟩
        apply reads.completed serves listed (by simp [output])
        intro other same
        cases output.symm.trans same
        exact ⟨silent, delivered⟩
      · exact .inr idle

/-- A run that writes into its own input file, and one that asks for three bytes. The first
completes, with the listing for the whole content of the file. The second changes nothing. -/
theorem input_overwritten_or_kept :
    let tree : FileTree := { entries := [(["rom.bin"], .store (.file [0, 0, 0, 0]))] }
    let files := tree.files .usual
    let arguments (size : Int) : Arguments :=
      { input := .value "rom.bin", output := some (.value "rom.bin"), size := .value size }
    files.Serves tree ∧
      ((arguments 4).outcome files).ending = .code 0 ∧
      Delivered tree "rom.bin" "/* 84000000 00000000 */\tnop\n"
        (((arguments 4).outcome files).applyTo tree) ∧
      ((arguments 3).outcome files).Idle tree := by
  intro tree files arguments
  have serves : files.Serves tree := tree.serves_files .usual
  have whole : ((arguments 4).outcome files).ending = .code 0 := by decide +kernel
  have odd : ((arguments 3).outcome files).ending = .code 1 := by decide +kernel
  refine ⟨serves, whole, ?_, ?_⟩
  · obtain ⟨-, store, offset, size, vram, data, text, completed⟩ | idle :=
      outcome_atomic tree files (arguments 4) serves
    · obtain ⟨path, ⟨⟩, found⟩ := completed.input
      obtain ⟨⟨⟩, ⟨⟩, ⟨⟩⟩ := completed.settings
      have content : tree.read "rom.bin" = .ok (.file [0, 0, 0, 0]) := by decide +kernel
      cases content.symm.trans found
      obtain ⟨-, rfl⟩ := completed.held
      have value : Listing.text (arguments 4).style [0, 0, 0, 0] 0x84000000 =
          .ok "/* 84000000 00000000 */\tnop\n" := by rfl
      cases value.symm.trans completed.listed
      exact (completed.delivered "rom.bin" rfl).2
    · have other := idle.ending
      simp [whole] at other
  · obtain ⟨other, -⟩ | idle := outcome_atomic tree files (arguments 3) serves
    · cases odd.symm.trans other
    · exact idle

/-- The zeros before the start of a device are listed without complaint, so that a run with
code zero need not have an offset that is not negative. -/
theorem device_accepts_negative_offset :
    ¬ ∀ (tree : FileTree) (files : Files) (arguments : Arguments) (offset : Int),
      files.Serves tree → (arguments.outcome files).ending = .code 0 →
        arguments.offset = .value offset → 0 ≤ offset := by
  intro refuted
  let tree : FileTree := { entries := usualEntries }
  let arguments : Arguments :=
    { input := .value "/dev/zero", offset := .value (-4), size := .value 4 }
  have completes : (arguments.outcome (tree.files .usual)).ending = .code 0 := by decide +kernel
  have serves := tree.serves_files .usual
  exact absurd (refuted tree _ arguments (-4) serves completes rfl) (by decide)

end Effects

end Microcode.CommandLine
