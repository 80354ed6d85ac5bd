import Microcode.Proofs.PrintedForms
import Microcode.Proofs.SignificantBits

/-!
# The rows of the opcode map

A word that is not zero is an instruction exactly if it stands in one of eight rows. A
row lists primary opcodes and puts a condition on further fields, all by number and
without the tables that decoding searches. No word stands in two rows, so the order in
which rows are tried is of no consequence, and addresses play no part.

Each row names the fields that select an operation in it. The row and the numbers in
these fields give the mnemonic and the shape of the decoded instruction; everything else
in the word only supplies operands.
-/

namespace Microcode.Instruction

open Bits

/-- The rows of the opcode map. -/
inductive OpcodeRow where
  /-- Operations on registers, by function number. -/
  | register
  /-- Branches on a sign, by the second register field. -/
  | signBranch
  /-- Jumps, branches and immediates, each with a primary opcode of its own. -/
  | standalone
  /-- Moves of coprocessor 0, by the first register field. -/
  | system
  /-- Moves of coprocessor 2, by the first register field. -/
  | vectorTransfer
  /-- Vector operations, by function number. -/
  | vectorOperation
  /-- Scalar loads and stores, each with a primary opcode of its own. -/
  | loadStore
  /-- Vector loads and stores, by addressing mode. -/
  | vectorLoadStore
  deriving DecidableEq

namespace OpcodeRow

section Statement

/-- The primary opcodes of a row. -/
def opcodes : OpcodeRow → List Nat
  | .register => [0x00]
  | .signBranch => [0x01]
  | .standalone => [0x02, 0x03, 0x04, 0x05, 0x06, 0x07, 0x08, 0x09, 0x0A, 0x0B, 0x0C, 0x0D,
      0x0E, 0x0F]
  | .system => [0x10]
  | .vectorTransfer => [0x12]
  | .vectorOperation => [0x12]
  | .loadStore => [0x20, 0x21, 0x23, 0x24, 0x25, 0x27, 0x28, 0x29, 0x2B]
  | .vectorLoadStore => [0x32, 0x3A]

/-- The function numbers of register operations. -/
def registerFunctions : List Nat := [0x00, 0x02, 0x03, 0x04, 0x06, 0x07, 0x08, 0x09, 0x0D,
  0x20, 0x21, 0x22, 0x23, 0x24, 0x25, 0x26, 0x27, 0x2A, 0x2B]

/-- The function numbers of vector operations. -/
def vectorFunctions : List Nat := [0x00, 0x01, 0x02, 0x03, 0x04, 0x05, 0x06, 0x07, 0x08, 0x09,
  0x0A, 0x0B, 0x0C, 0x0D, 0x0E, 0x0F, 0x10, 0x11, 0x13, 0x14, 0x15, 0x1D, 0x20, 0x21, 0x22, 0x23,
  0x24, 0x25, 0x26, 0x27, 0x28, 0x29, 0x2A, 0x2B, 0x2C, 0x2D, 0x30, 0x31, 0x32, 0x33, 0x34, 0x35,
  0x36, 0x37]

/-- What a row requires of a word beyond its primary opcode. -/
def Condition (word : Int) : OpcodeRow → Prop
  | .register => (field 0 6 word).toNat ∈ registerFunctions
  | .signBranch => (field 16 5 word).toNat ∈ [0x00, 0x01, 0x10, 0x11]
  | .standalone => True
  | .system => (field 21 5 word).toNat ∈ [0x00, 0x04] ∧ field 15 1 word = 0
  | .vectorTransfer => field 0 11 word = 0 ∧
      ((field 21 5 word).toNat ∈ [0x00, 0x04] ∨
        (field 21 5 word).toNat ∈ [0x02, 0x06] ∧ (field 11 5 word).toNat < 3)
  | .vectorOperation => field 0 11 word ≠ 0 ∧
      ((field 0 6 word).toNat = 0x37 ∨
        (field 0 6 word).toNat ∈ vectorFunctions ∧ (field 21 4 word).toNat ≠ 1)
  | .loadStore => True
  | .vectorLoadStore => (field 11 5 word).toNat < 12

instance (word : Int) : (row : OpcodeRow) → Decidable (row.Condition word)
  | .register => inferInstanceAs (Decidable (_ ∈ registerFunctions))
  | .signBranch => inferInstanceAs (Decidable (_ ∈ [0x00, 0x01, 0x10, 0x11]))
  | .standalone | .loadStore => inferInstanceAs (Decidable True)
  | .system => inferInstanceAs (Decidable (_ ∈ [0x00, 0x04] ∧ field 15 1 word = 0))
  | .vectorTransfer =>
    inferInstanceAs (Decidable (field 0 11 word = 0 ∧
      (_ ∈ [0x00, 0x04] ∨ _ ∈ [0x02, 0x06] ∧ _ < 3)))
  | .vectorOperation =>
    inferInstanceAs (Decidable (field 0 11 word ≠ 0 ∧ (_ = 0x37 ∨ _ ∈ vectorFunctions ∧ _ ≠ 1)))
  | .vectorLoadStore => inferInstanceAs (Decidable (_ < 12))

/-- A word stands in a row. -/
def Accepts (row : OpcodeRow) (word : Int) : Prop :=
  (field 26 6 word).toNat ∈ row.opcodes ∧ row.Condition word

instance (row : OpcodeRow) (word : Int) : Decidable (row.Accepts word) :=
  inferInstanceAs (Decidable (_ ∧ _))

/-- The fields that select an operation of a row, each as its lowest bit and its width:
the primary opcode, and in most rows one field more. -/
def selectorFields : OpcodeRow → List (Nat × Nat)
  | .register => [(26, 6), (0, 6)]
  | .signBranch => [(26, 6), (16, 5)]
  | .standalone => [(26, 6)]
  | .system => [(26, 6), (21, 5)]
  | .vectorTransfer => [(26, 6), (21, 5)]
  | .vectorOperation => [(26, 6), (0, 6)]
  | .loadStore => [(26, 6)]
  | .vectorLoadStore => [(26, 6), (11, 5)]

/-- The numbers in the fields that select an operation of a row. -/
def selectors (row : OpcodeRow) (word : Int) : List Nat :=
  row.selectorFields.map fun position => (field position.1 position.2 word).toNat

end Statement

section Exclusion

/-- Two rows share a primary opcode only if they are the two rows of coprocessor 2. -/
theorem eq_or_vector_of_mem_opcodes (row other : OpcodeRow) :
    ∀ opcode ∈ row.opcodes, opcode ∈ other.opcodes →
      row = other ∨ row = .vectorTransfer ∧ other = .vectorOperation ∨
        row = .vectorOperation ∧ other = .vectorTransfer := by
  cases row <;> cases other <;> decide

/-- No word stands in two rows: the two rows of coprocessor 2 are told apart by the low
eleven bits. -/
theorem Accepts.unique {row other : OpcodeRow} {word : Int} (accepted : row.Accepts word)
    (alsoAccepted : other.Accepts word) : row = other := by
  obtain ⟨opcode, condition⟩ := accepted
  obtain ⟨otherOpcode, otherCondition⟩ := alsoAccepted
  rcases eq_or_vector_of_mem_opcodes row other _ opcode otherOpcode with
    same | ⟨rfl, rfl⟩ | ⟨rfl, rfl⟩
  · exact same
  · exact absurd condition.1 otherCondition.1
  · exact absurd otherCondition.1 condition.1

end Exclusion

section Numbers

/-- The rows in which the words of a group stand. -/
def ofGroup : Opcode.Group → List OpcodeRow
  | .register => [.register]
  | .signBranch => [.signBranch]
  | .jump _ => [.standalone]
  | .branchTwo _ => [.standalone]
  | .branchOne _ => [.standalone]
  | .immediate _ _ => [.standalone]
  | .loadUpper => [.standalone]
  | .system => [.system]
  | .vector => [.vectorTransfer, .vectorOperation]
  | .loadStore _ => [.loadStore]
  | .vectorLoadStore _ => [.vectorLoadStore]

/-- The opcode of a selected group is listed in exactly the rows of the group. -/
theorem mem_opcodes_iff {word : Int} {group : Opcode.Group}
    (selected : Selects 26 6 word Opcode.groups group) (row : OpcodeRow) :
    (field 26 6 word).toNat ∈ row.opcodes ↔ row ∈ ofGroup group := by
  have table : ∀ entry ∈ Opcode.groups, entry.1 ∈ row.opcodes ↔ row ∈ ofGroup entry.2 := by
    cases row <;> decide
  exact table _ selected

/-- Every opcode of a row selects a group of the row. -/
theorem exists_group {row : OpcodeRow} {word : Int}
    (listed : (field 26 6 word).toNat ∈ row.opcodes) :
    ∃ group, Selects 26 6 word Opcode.groups group ∧ row ∈ ofGroup group := by
  have table : ∀ opcode ∈ row.opcodes, opcode ∈ Opcode.groups.map Prod.fst := by
    cases row <;> decide
  obtain ⟨⟨number, group⟩, member, same⟩ := List.mem_map.mp (table _ listed)
  have selected : Selects 26 6 word Opcode.groups group := by
    rw [Selects, ← same]
    exact member
  exact ⟨group, selected, (mem_opcodes_iff selected row).mp listed⟩

/-- A field selects something exactly if its number is one of the table's. -/
theorem exists_selects_iff {α : Type} (bit size : Nat) (word : Int) (table : List (Nat × α)) :
    (∃ operation, Selects bit size word table operation) ↔
      (field bit size word).toNat ∈ table.map Prod.fst := by
  simp only [Selects, List.mem_map, Prod.exists, exists_and_right, exists_eq_right]

/-- The numbers of a table that are listed select something. -/
theorem exists_selects {α : Type} {bit size : Nat} {word : Int} {numbers : List Nat}
    (table : List (Nat × α)) (listed : (field bit size word).toNat ∈ numbers)
    (known : ∀ number ∈ numbers, number ∈ table.map Prod.fst) :
    ∃ operation, Selects bit size word table operation :=
  (exists_selects_iff bit size word table).mpr (known _ listed)

end Numbers

section Operands

/-- Five bits name a system register exactly if the topmost of them is clear. -/
theorem exists_systemRegister_iff (word : Int) :
    (∃ register, SystemRegister.atBit? 11 word = some register) ↔ field 15 1 word = 0 := by
  have joined : ((field 11 5 word).toNat : Int) =
      (field 11 4 word).toNat + weight 4 * (field 15 1 word).toNat := toNat_field_join 11 4 1 word
  have lower := toNat_field_lt 11 4 word
  have width : (weight 4 : Int) = 16 := rfl
  rw [width] at joined lower
  have clear : field 15 1 word = 0 ↔ (field 15 1 word).toNat = 0 := BitVec.toNat_inj.symm
  have small : (field 15 1 word).toNat = 0 ↔ ((field 11 5 word).toNat : Int) < 16 := by omega
  rw [clear, small, SystemRegister.atBit?, SystemRegister.ofInt?]
  simp

/-- Five bits name a vector control register exactly if their number is below three. -/
theorem exists_vectorControl_iff (word : Int) :
    (∃ register, VectorControl.atBit? 11 word = some register) ↔
      (field 11 5 word).toNat < 3 := by
  have small : (field 11 5 word).toNat < 3 ↔ ((field 11 5 word).toNat : Int) < 3 := by omega
  rw [small, VectorControl.atBit?, VectorControl.ofInt?]
  simp

/-- Four bits denote a lane selector exactly if their number is not one. -/
theorem exists_laneSelector_iff (word : Int) :
    (∃ lanes, LaneSelector.atBit? 21 word = some lanes) ↔ (field 21 4 word).toNat ≠ 1 := by
  have table : ∀ value : Fin 16,
      (LaneSelector.ofField? value.val).isSome = true ↔ value.val ≠ 1 := by
    decide
  rw [← Option.isSome_iff_exists]
  exact table (field 21 4 word).toFin

end Operands

section Operations

/-- The mnemonic and the shape that the selectors of a row give. -/
def form? : OpcodeRow → List Nat → Option (String × Shape)
  | .register, [_, function] => (Opcode.registerOperations.lookup function).map registerForm
  | .signBranch, [_, condition] => (Opcode.signBranches.lookup condition).map (·, .branchOne)
  | .standalone, [opcode] | .loadStore, [opcode] => do
    let group ← Opcode.groups.lookup opcode
    (groupForms group).head?
  | .system, [_, direction] => (Opcode.systemMoves.lookup direction).map (·, .systemMove)
  | .vectorTransfer, [_, direction] =>
    (Opcode.vectorTransfers.lookup direction).map transferForm
  | .vectorOperation, [_, function] => (Opcode.vectorOperations.lookup function).map vectorForm
  | .vectorLoadStore, [opcode, mode] => do
    let .vectorLoadStore direction ← Opcode.groups.lookup opcode | none
    let (letter, _) ← Opcode.addressModes.lookup mode
    return (direction ++ letter ++ "v", .vectorLoadStore)
  | _, _ => none

/-- The word of a rule stands in a row, and the row's selectors give the mnemonic and the
shape of what the rule denotes. -/
theorem accepts_of_denotes {word address : Int} {instruction : Instruction}
    (denoted : Denotes word address instruction) :
    ∃ row : OpcodeRow, row.Accepts word ∧
      row.form? (row.selectors word) = some (instruction.head, instruction.shape) := by
  cases denoted with
  | shiftByAmount group operation | threeRegister group operation | jumpRegister group operation
  | jumpLinkRegister group operation | breakpoint group operation =>
    refine ⟨.register, ⟨(mem_opcodes_iff group _).mpr (by decide), ?_⟩, ?_⟩
    · exact (exists_selects_iff 0 6 word Opcode.registerOperations).mp ⟨_, operation⟩
    · change (Opcode.registerOperations.lookup _).map registerForm = _
      rw [(lookup_iff_selects _ Opcode.registerOperations_one_to_one.1 _ _ _ _).mpr operation]
      rfl
  | signBranch group condition =>
    refine ⟨.signBranch, ⟨(mem_opcodes_iff group _).mpr (by decide), ?_⟩, ?_⟩
    · exact (exists_selects_iff 16 5 word Opcode.signBranches).mp ⟨_, condition⟩
    · change (Opcode.signBranches.lookup _).map _ = _
      rw [(lookup_iff_selects _ Opcode.signBranches_one_to_one.1 _ _ _ _).mpr condition]
      rfl
  | jump group | branchTwo group | branchOne group | immediate group | loadUpper group =>
    refine ⟨.standalone, ⟨(mem_opcodes_iff group _).mpr List.mem_cons_self, trivial⟩, ?_⟩
    change (Opcode.groups.lookup _).bind _ = _
    rw [(lookup_iff_selects _ Opcode.groups_one_to_one.1 _ _ _ _).mpr group]
    rfl
  | loadStore group =>
    refine ⟨.loadStore, ⟨(mem_opcodes_iff group _).mpr List.mem_cons_self, trivial⟩, ?_⟩
    change (Opcode.groups.lookup _).bind _ = _
    rw [(lookup_iff_selects _ Opcode.groups_one_to_one.1 _ _ _ _).mpr group]
    rfl
  | systemMove group direction register =>
    refine ⟨.system, ⟨(mem_opcodes_iff group _).mpr (by decide), ?_, ?_⟩, ?_⟩
    · exact (exists_selects_iff 21 5 word Opcode.systemMoves).mp ⟨_, direction⟩
    · exact (exists_systemRegister_iff word).mp ⟨_, register⟩
    · change (Opcode.systemMoves.lookup _).map _ = _
      rw [(lookup_iff_selects _ Opcode.systemMoves_one_to_one.1 _ _ _ _).mpr direction]
      rfl
  | vectorMove group low direction =>
    have table : ∀ row ∈ Opcode.vectorTransfers, ∀ name, row.2 = .data name →
        row.1 ∈ [0x00, 0x04] := by
      simp [Opcode.vectorTransfers]
    refine ⟨.vectorTransfer, ⟨(mem_opcodes_iff group _).mpr (by decide), low, .inl ?_⟩, ?_⟩
    · exact table _ direction _ rfl
    · change (Opcode.vectorTransfers.lookup _).map transferForm = _
      rw [(lookup_iff_selects _ Opcode.vectorTransfers_one_to_one.1 _ _ _ _).mpr direction]
      rfl
  | controlMove group low direction register =>
    have table : ∀ row ∈ Opcode.vectorTransfers, ∀ name, row.2 = .control name →
        row.1 ∈ [0x02, 0x06] := by
      simp [Opcode.vectorTransfers]
    refine ⟨.vectorTransfer, ⟨(mem_opcodes_iff group _).mpr (by decide), low, .inr ⟨?_, ?_⟩⟩, ?_⟩
    · exact table _ direction _ rfl
    · exact (exists_vectorControl_iff word).mp ⟨_, register⟩
    · change (Opcode.vectorTransfers.lookup _).map transferForm = _
      rw [(lookup_iff_selects _ Opcode.vectorTransfers_one_to_one.1 _ _ _ _).mpr direction]
      rfl
  | vectorNop group compute operation =>
    have table : ∀ row ∈ Opcode.vectorOperations, row.2 = .nop → row.1 = 0x37 := by decide
    refine ⟨.vectorOperation, ⟨(mem_opcodes_iff group _).mpr (by decide), compute, .inl ?_⟩, ?_⟩
    · exact table _ operation rfl
    · change (Opcode.vectorOperations.lookup _).map vectorForm = _
      rw [(lookup_iff_selects _ Opcode.vectorOperations_one_to_one.1 _ _ _ _).mpr operation]
      rfl
  | vectorCompute group compute operation selector
  | vectorScalar group compute operation selector =>
    refine ⟨.vectorOperation, ⟨(mem_opcodes_iff group _).mpr (by decide), compute,
      .inr ⟨?_, ?_⟩⟩, ?_⟩
    · exact (exists_selects_iff 0 6 word Opcode.vectorOperations).mp ⟨_, operation⟩
    · exact (exists_laneSelector_iff word).mp ⟨_, selector⟩
    · change (Opcode.vectorOperations.lookup _).map vectorForm = _
      rw [(lookup_iff_selects _ Opcode.vectorOperations_one_to_one.1 _ _ _ _).mpr operation]
      rfl
  | vectorLoadStore group mode =>
    have table : ∀ row ∈ Opcode.addressModes, row.1 < 12 := by decide
    refine ⟨.vectorLoadStore, ⟨(mem_opcodes_iff group _).mpr List.mem_cons_self, ?_⟩, ?_⟩
    · exact table _ mode
    · change (Opcode.groups.lookup _).bind _ = _
      rw [(lookup_iff_selects _ Opcode.groups_one_to_one.1 _ _ _ _).mpr group]
      change (Opcode.addressModes.lookup _).bind _ = _
      rw [(lookup_iff_selects _ Opcode.addressModes_distinct _ _ _ _).mpr mode]
      rfl

/-- A word in the row of vector transfers denotes one. -/
theorem exists_vectorTransfer {word : Int} (address : Int)
    (group : Selects 26 6 word Opcode.groups .vector)
    (condition : OpcodeRow.vectorTransfer.Condition word) :
    ∃ instruction, Denotes word address instruction := by
  have dataMove : ∀ number ∈ [0x00, 0x04], ∃ name,
      (number, Opcode.VectorTransfer.data name) ∈ Opcode.vectorTransfers := by
    simp [Opcode.vectorTransfers]
  have controlMove : ∀ number ∈ [0x02, 0x06], ∃ name,
      (number, Opcode.VectorTransfer.control name) ∈ Opcode.vectorTransfers := by
    simp [Opcode.vectorTransfers]
  obtain ⟨low, listed | ⟨listed, below⟩⟩ := condition
  · obtain ⟨mnemonic, direction⟩ := dataMove _ listed
    exact ⟨_, .vectorMove group low direction⟩
  · obtain ⟨mnemonic, direction⟩ := controlMove _ listed
    obtain ⟨control, register⟩ := (exists_vectorControl_iff word).mpr below
    exact ⟨_, .controlMove group low direction register⟩

/-- A word in the row of vector operations denotes one. -/
theorem exists_vectorOperation {word : Int} (address : Int)
    (group : Selects 26 6 word Opcode.groups .vector)
    (condition : OpcodeRow.vectorOperation.Condition word) :
    ∃ instruction, Denotes word address instruction := by
  obtain ⟨compute, empty | ⟨listed, notOne⟩⟩ := condition
  · have operation : Selects 0 6 word Opcode.vectorOperations .nop := by
      rw [Selects, empty]
      decide
    exact ⟨_, .vectorNop group compute operation⟩
  · obtain ⟨lanes, selector⟩ := (exists_laneSelector_iff word).mpr notOne
    obtain ⟨operation, selected⟩ := exists_selects Opcode.vectorOperations listed
      (by decide)
    cases operation with
    | nop => exact ⟨_, .vectorNop group compute selected⟩
    | scalar mnemonic => exact ⟨_, .vectorScalar group compute selected selector⟩
    | compute mnemonic => exact ⟨_, .vectorCompute group compute selected selector⟩

/-- Every word of a row denotes an instruction, whatever the address. -/
theorem Accepts.exists_denotes {row : OpcodeRow} {word : Int} (accepted : row.Accepts word)
    (address : Int) : ∃ instruction, Denotes word address instruction := by
  obtain ⟨listed, condition⟩ := accepted
  obtain ⟨group, selected, ofRow⟩ := exists_group listed
  cases group with
  | register =>
    obtain rfl := List.mem_singleton.mp ofRow
    obtain ⟨operation, chosen⟩ := exists_selects Opcode.registerOperations condition
      (by decide)
    cases operation with
    | shiftByAmount mnemonic => exact ⟨_, .shiftByAmount selected chosen⟩
    | jumpRegister => exact ⟨_, .jumpRegister selected chosen⟩
    | jumpLinkRegister => exact ⟨_, .jumpLinkRegister selected chosen⟩
    | breakpoint => exact ⟨_, .breakpoint selected chosen⟩
    | threeRegister mnemonic => exact ⟨_, .threeRegister selected chosen⟩
  | signBranch =>
    obtain rfl := List.mem_singleton.mp ofRow
    obtain ⟨mnemonic, chosen⟩ := exists_selects Opcode.signBranches condition (by decide)
    exact ⟨_, .signBranch selected chosen⟩
  | jump mnemonic => exact ⟨_, .jump selected⟩
  | branchTwo mnemonic => exact ⟨_, .branchTwo selected⟩
  | branchOne mnemonic => exact ⟨_, .branchOne selected⟩
  | immediate mnemonic logical => exact ⟨_, .immediate selected⟩
  | loadUpper => exact ⟨_, .loadUpper selected⟩
  | system =>
    obtain rfl := List.mem_singleton.mp ofRow
    obtain ⟨mnemonic, direction⟩ := exists_selects Opcode.systemMoves condition.1
      (by decide)
    obtain ⟨rd, register⟩ := (exists_systemRegister_iff word).mpr condition.2
    exact ⟨_, .systemMove selected direction register⟩
  | vector =>
    rcases List.mem_cons.mp ofRow with rfl | later
    · exact exists_vectorTransfer address selected condition
    · obtain rfl := List.mem_singleton.mp later
      exact exists_vectorOperation address selected condition
  | loadStore mnemonic => exact ⟨_, .loadStore selected⟩
  | vectorLoadStore direction =>
    obtain rfl := List.mem_singleton.mp ofRow
    obtain ⟨⟨letter, unit⟩, mode⟩ := exists_selects Opcode.addressModes
      (List.mem_range.mpr condition) (by decide)
    exact ⟨_, .vectorLoadStore selected mode⟩

/-- A word denotes an instruction exactly if it stands in a row. The address does not
matter. -/
theorem exists_denotes_iff (word address : Int) :
    (∃ instruction, Denotes word address instruction) ↔ ∃ row : OpcodeRow, row.Accepts word := by
  constructor
  · rintro ⟨instruction, denoted⟩
    obtain ⟨row, accepted, -⟩ := accepts_of_denotes denoted
    exact ⟨row, accepted⟩
  · rintro ⟨row, accepted⟩
    exact accepted.exists_denotes address

/-- The selectors of a word's row give the mnemonic and the shape of what it denotes. -/
theorem Accepts.form?_eq {row : OpcodeRow} {word address : Int} {instruction : Instruction}
    (accepted : row.Accepts word) (denoted : Denotes word address instruction) :
    row.form? (row.selectors word) = some (instruction.head, instruction.shape) := by
  obtain ⟨other, alsoAccepted, form⟩ := accepts_of_denotes denoted
  rw [accepted.unique alsoAccepted]
  exact form

end Operations

section MachineWords

/-- A word stands in the rows of its low 32 bits. -/
theorem accepts_machineWord (row : OpcodeRow) (word : Int) :
    row.Accepts (machineWord word) ↔ row.Accepts word := by
  cases row <;> simp (disch := decide) only [Accepts, Condition, field_machineWord]

/-- The selectors of a word are those of its low 32 bits. -/
theorem selectors_machineWord (row : OpcodeRow) (word : Int) :
    row.selectors (machineWord word) = row.selectors word := by
  cases row <;>
    simp (disch := decide) only [selectors, selectorFields, List.map_cons, List.map_nil,
      field_machineWord]

/-- A word of a row that is not zero is decoded by a rule. -/
theorem Accepts.denotes_decode {row : OpcodeRow} {word : Int} (accepted : row.Accepts word)
    (nonzero : machineWord word ≠ 0) (address : Int) :
    Denotes (machineWord word) address (decode word address) := by
  obtain ⟨instruction, denoted⟩ :=
    ((accepts_machineWord row word).mpr accepted).exists_denotes address
  rw [denoted.decode_eq nonzero]
  exact denoted

end MachineWords

end OpcodeRow

/-- The low 32 bits of a word are its remainder. -/
theorem machineWord_eq_emod (word : Int) : machineWord word = word % 0x100000000 := by
  have reading := toNat_field 0 32 word
  rw [weight_zero, Int.ediv_one] at reading
  exact reading

/-- A word is kept as no instruction exactly if it is not zero and stands in no row. -/
theorem decode_eq_unsupported_iff (word address kept : Int) :
    decode word address = .unsupported kept ↔
      kept = machineWord word ∧ machineWord word ≠ 0 ∧ ∀ row : OpcodeRow, ¬ row.Accepts word := by
  rcases decode_cases word address with ⟨zero, empty⟩ | ⟨nonzero, denoted⟩ |
    ⟨nonzero, none, unknown⟩
  · simp [zero, empty]
  · obtain ⟨row, accepted, -⟩ := OpcodeRow.accepts_of_denotes denoted
    have stands := (row.accepts_machineWord word).mp accepted
    constructor
    · intro same
      rw [same] at denoted
      exact nomatch denoted
    · rintro ⟨-, -, unlisted⟩
      exact absurd stands (unlisted row)
  · rw [unknown]
    constructor
    · intro same
      cases same
      refine ⟨rfl, nonzero, ?_⟩
      intro row accepted
      obtain ⟨instruction, denoted⟩ :=
        ((row.accepts_machineWord word).mpr accepted).exists_denotes address
      exact none instruction denoted
    · rintro ⟨rfl, -, -⟩
      rfl

/-- What the opcode map says of decoding a word at an address. -/
structure FollowsOpcodeMap (word address : Int) : Prop where
  /-- The word is no instruction exactly if it is not zero and stands in no row. -/
  rejected : decode word address = .unsupported (word % 0x100000000) ↔
    word % 0x100000000 ≠ 0 ∧ ∀ row : OpcodeRow, ¬ row.Accepts word
  /-- A word that is no instruction is kept as it stands. -/
  kept : ∀ other, decode word address = .unsupported other → other = word % 0x100000000
  /-- The word does not stand in two rows. -/
  exclusive : ∀ row other : OpcodeRow, row.Accepts word → other.Accepts word → row = other
  /-- An instruction that is not zero stands in exactly one row. -/
  accepted : word % 0x100000000 ≠ 0 → (∀ other, decode word address ≠ .unsupported other) →
    ∃! row : OpcodeRow, row.Accepts word
  /-- The row and its selectors give the mnemonic and the shape. -/
  formed : ∀ row : OpcodeRow, word % 0x100000000 ≠ 0 → row.Accepts word →
    row.form? (row.selectors word) =
      some ((decode word address).head, (decode word address).shape)
  /-- Another word of the row with the same selectors has the same shape and mnemonic, at any
  address. -/
  selected : ∀ (row : OpcodeRow) (other otherAddress : Int), word % 0x100000000 ≠ 0 →
    other % 0x100000000 ≠ 0 → row.Accepts word → row.Accepts other →
    row.selectors word = row.selectors other →
    (decode word address).shape = (decode other otherAddress).shape ∧
      (decode word address).head = (decode other otherAddress).head

/-- Decoding follows the opcode map on every word and at every address. -/
theorem decode_follows_opcode_map (word address : Int) : FollowsOpcodeMap word address := by
  have low := machineWord_eq_emod
  have formed (row : OpcodeRow) {word : Int} (address : Int) (nonzero : machineWord word ≠ 0)
      (accepted : row.Accepts word) : row.form? (row.selectors word) =
        some ((decode word address).head, (decode word address).shape) := by
    rw [← row.selectors_machineWord]
    exact ((row.accepts_machineWord word).mpr accepted).form?_eq
      (accepted.denotes_decode nonzero address)
  constructor
  case rejected =>
    rw [← low, decode_eq_unsupported_iff]
    exact and_iff_right rfl
  case kept =>
    intro other result
    rw [← low]
    exact ((decode_eq_unsupported_iff word address other).mp result).1
  case exclusive =>
    intro row other accepted alsoAccepted
    exact accepted.unique alsoAccepted
  case accepted =>
    intro nonzero known
    rw [← low] at nonzero
    have stands : ∃ row : OpcodeRow, row.Accepts word := by
      by_contra unlisted
      rw [not_exists] at unlisted
      exact known _ ((decode_eq_unsupported_iff word address _).mpr ⟨rfl, nonzero, unlisted⟩)
    obtain ⟨row, accepted⟩ := stands
    exact ⟨row, accepted, fun other alsoAccepted => alsoAccepted.unique accepted⟩
  case formed =>
    intro row nonzero accepted
    rw [← low] at nonzero
    exact formed row address nonzero accepted
  case selected =>
    intro row other otherAddress nonzero otherNonzero accepted otherAccepted same
    rw [← low] at nonzero otherNonzero
    have form := formed row address nonzero accepted
    rw [same, formed row otherAddress otherNonzero otherAccepted] at form
    obtain ⟨heads, shapes⟩ := Prod.mk.inj (Option.some.inj form)
    exact ⟨shapes.symm, heads.symm⟩

/-- The lane field one denotes no lanes, so it makes a vector operation no instruction.
The empty operation has no lanes and accepts it. -/
theorem lane_one_only_in_empty_operation :
    decode 0x4A200001 0 = .unsupported 0x4A200001 ∧ decode 0x4A200037 0 = .vectorNop := by
  refine ⟨(decode_follows_opcode_map 0x4A200001 0).rejected.mpr ⟨by decide, ?_⟩, by rfl⟩
  intro row
  cases row <;> decide

end Microcode.Instruction
