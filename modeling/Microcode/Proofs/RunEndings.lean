import Microcode.Proofs.RunOutcomes

/-!
# How a run ends

The steps of a run are taken in order, and the first one that fails decides how the run ends.
Most failures are reported and give code one. Some are not handled, so that there is no code
and no report.

If the input is a file, the integers and the limits of the system decide. An offset that does
not fit into 64 bits is not handled, but one that does and is no position of a file is. Of the
sizes at a position, those below minus one and those for which there is no memory are not
handled, but minus one is, and so is every other size that reaches behind the end of the file.
What remains is listed if it is whole words.
-/

namespace Microcode.CommandLine

section Faults

end Faults

section Endings

/-- Opens the file at a path and writes a text to it. -/
def Files.store (files : Files) (path text : String) : Except RunError Unit := do
  opened path (files.output path)
  (files.write path text).mapError fun cause => .failure (.refused cause)

/-- The listing that a run comes to. -/
def Arguments.listing (arguments : Arguments) (files : Files) : Except RunError String := do
  let slice ← arguments.slice files
  slice.listing arguments.style

end Endings

section Outputs

/-- A slice has a listing exactly if it is whole words. -/
theorem Slice.exists_listing_iff (slice : Slice) (style : PrintStyle) :
    (∃ text, slice.listing style = .ok text) ↔ slice.data.length % 4 = 0 := by
  simp only [listing, mapError_eq_ok_iff]
  constructor
  · rintro ⟨text, result⟩
    exact Listing.aligned_of_text result
  · intro aligned
    exact ⟨_, Listing.text_of_aligned style slice.data slice.base aligned⟩

end Outputs

section FileRuns

/-- Arguments that name a file for input, with integers for the offset, the size and the
address. -/
structure Arguments.OfFile (arguments : Arguments) (tree : FileTree) (content : List UInt8)
    (offset size : Int) : Prop where
  input : ∃ path, arguments.input = .value path ∧ Char.ofNat 0 ∉ path.toList ∧
    tree.read path = .ok (.file content)
  offset : arguments.offset = .value offset
  size : arguments.size = .value size
  address : ∃ vram, arguments.vram = .value vram

/-- The bytes that a file gives, as many as are asked for or as there are. -/
def givenBytes (content : List UInt8) (offset size : Int) : List UInt8 :=
  let behind := content.drop offset.toNat
  if size = -1 then behind else behind.take size.toNat

/-- A file gives as many bytes as are asked for exactly if it has them. -/
theorem length_givenBytes_iff (content : List UInt8) {offset : Int} (size : Int)
    (position : 0 ≤ offset) :
    ((givenBytes content offset size).length : Int) = size ↔
      0 ≤ size ∧ (size = 0 ∨ offset + size ≤ content.length) := by
  rw [givenBytes]
  by_cases all : size = -1
  · simp only [all, if_true, List.length_drop]
    omega
  · simp only [all, if_false, List.length_take, List.length_drop]
    omega

/-- The bytes that are asked for can be looked for, fit into memory, and stand in the file. -/
structure Available (limits : Limits) (content : List UInt8) (offset size : Int) : Prop where
  position : 0 ≤ offset ∧ offset ≤ limits.lastPosition
  room : 0 ≤ size ∧ size < limits.memory
  present : size = 0 ∨ offset + size ≤ content.length

/-- The file gives as many bytes as are asked for if they are available. -/
theorem Available.length_givenBytes {limits : Limits} {content : List UInt8} {offset size : Int}
    (available : Available limits content offset size) :
    ((givenBytes content offset size).length : Int) = size :=
  (length_givenBytes_iff content size available.position.1).mpr
    ⟨available.room.1, available.present⟩

/-- The output takes the listing of so many bytes: if a file is named, it can be opened, and it
is not the device without room, unless nothing is listed. -/
def Arguments.Delivers (arguments : Arguments) (tree : FileTree) (size : Int) : Prop :=
  ∀ output, arguments.outputFile? = some output → Char.ofNat 0 ∉ output.toList ∧
    ∃ location, tree.place output = .ok location ∧
      (tree.get? location = some (.store (.device .full)) → size = 0)

variable {arguments : Arguments} {tree : FileTree} {limits : Limits} {content : List UInt8}
  {offset size : Int}

/-- The steps of reading a slice of a file. -/
theorem Arguments.OfFile.slice_eq (ofFile : arguments.OfFile tree content offset size)
    (limits : Limits) : ∃ path vram, arguments.slice (tree.files limits) =
      checkOffset limits (.file content) offset >>= fun _ => checkSize limits size >>= fun _ =>
        if ((givenBytes content offset size).length : Int) ≠ size then
          .error (.failure (.shortRead size offset path (givenBytes content offset size).length))
        else .ok ⟨path, givenBytes content offset size, vram⟩ := by
  obtain ⟨path, isPath, clear, found⟩ := ofFile.input
  obtain ⟨vram, isAddress⟩ := ofFile.address
  have isOpen : opened path ((tree.files limits).input path) = .ok (.file content) :=
    (opened_eq_ok_iff _ _ _).mpr ⟨clear, found⟩
  refine ⟨path, vram, ?_⟩
  rw [slice, isPath, ofFile.offset, ofFile.size, isAddress]
  simp only [Setting.get, isOpen, bind, Except.bind]
  rfl

/-- A slice of a file is read exactly if its bytes are available. -/
theorem Arguments.OfFile.slice_eq_ok_iff (ofFile : arguments.OfFile tree content offset size)
    (limits : Limits) : ∃ path vram, ∀ slice, arguments.slice (tree.files limits) = .ok slice ↔
      Available limits content offset size ∧
        slice = ⟨path, givenBytes content offset size, vram⟩ := by
  obtain ⟨path, vram, steps⟩ := ofFile.slice_eq limits
  refine ⟨path, vram, ?_⟩
  intro slice
  simp only [steps, bind_eq_ok_iff, Unique.exists_iff, PUnit.default_eq_unit,
    checkOffset_file_iff, checkSize_eq_ok_iff]
  constructor
  · rintro ⟨position, room, result⟩
    split at result
    case isTrue => cases result
    case isFalse whole =>
      have count := (length_givenBytes_iff content size position.1).mp (not_not.mp whole)
      cases result
      exact ⟨⟨position, ⟨count.1, room.2⟩, count.2⟩, rfl⟩
  · rintro ⟨available, rfl⟩
    have room := available.room
    refine ⟨available.position, by omega, ?_⟩
    rw [if_neg (not_not.mpr available.length_givenBytes)]

/-- There is a listing exactly if the bytes are available and whole words. -/
theorem Arguments.OfFile.exists_listing_iff
    (ofFile : arguments.OfFile tree content offset size) (limits : Limits) :
    (∃ text, arguments.listing (tree.files limits) = .ok text) ↔
      Available limits content offset size ∧ size % 4 = 0 := by
  obtain ⟨path, vram, sliced⟩ := ofFile.slice_eq_ok_iff limits
  simp only [listing, bind_eq_ok_iff, sliced]
  constructor
  · rintro ⟨text, _, ⟨available, rfl⟩, listed⟩
    have aligned := (Slice.exists_listing_iff _ _).mp ⟨text, listed⟩
    have count := available.length_givenBytes
    dsimp only at aligned
    exact ⟨available, by omega⟩
  · rintro ⟨available, whole⟩
    have count := available.length_givenBytes
    obtain ⟨text, listed⟩ :=
      (Slice.exists_listing_iff ⟨path, givenBytes content offset size, vram⟩ arguments.style).mpr
        (by dsimp only; omega)
    exact ⟨text, _, ⟨available, rfl⟩, listed⟩

end FileRuns

end Microcode.CommandLine
