import Microcode.Proofs.EncodedWords
import Microcode.Proofs.OpcodeRows

/-!
# The instructions that words denote

The type of instructions is wider than what words decode to. `Encodable` says in numbers
and names which instructions some word denotes at an address, without reference to
decoding. Two restrictions come from coprocessor 2, where a word whose low eleven bits are
zero is a move: moves reach the first byte of a vector register only, and the operation
with function number zero cannot write the first vector register, for its word would be
a move.

What a word denotes is encodable, because fields supply numbers of their own width.
Conversely the word that an encodable instruction is encoded to denotes it, except that
the shift without effect is encoded to zero. Another word, with a bit in the field that
shifts ignore, denotes that one.
-/

namespace Microcode.Instruction

open Bits

section Statement

/-- A vector register that exists. -/
def VectorExists (register : VectorRegister) : Prop := 0 ≤ register.index ∧ register.index < 32

/-- The number of lane selectors in a group. -/
def groupSize : LaneGroup → Int
  | .whole => 1
  | .quarter => 2
  | .half => 4
  | .single => 8

/-- A lane selector whose index lies in its group. -/
def LanesExist (lanes : LaneSelector) : Prop :=
  0 ≤ lanes.index ∧ lanes.index < groupSize lanes.group

instance (lanes : LaneSelector) : Decidable (LanesExist lanes) :=
  inferInstanceAs (Decidable (_ ∧ _))

/-- A number of sixteen bits with a sign. -/
def SignedHalf (value : Int) : Prop := -0x8000 ≤ value ∧ value < 0x8000

/-- A place that a jump at an address reaches: a word of the same segment. -/
def JumpTarget (address : Int) (target : Symbol) : Prop :=
  target.kind = .subroutine ∧ 0 ≤ target.address ∧ target.address < 0x100000000 ∧
    target.address % 4 = 0 ∧ target.address / 0x10000000 = address / 0x10000000 % 16

/-- A place that a branch at an address reaches: a signed count of words from the
following instruction. -/
def BranchTarget (address : Int) (target : Symbol) : Prop :=
  target.kind = .branchTarget ∧ ∃ count, SignedHalf count ∧
    target.address = (address + 4 + 4 * count) % 0x100000000

/-- The operations on three registers. -/
def threeRegisterNames : List String := ["sllv", "srlv", "srav", "add", "addu", "sub", "subu",
  "and", "or", "xor", "nor", "slt", "sltu"]

/-- The operations with an immediate. -/
def immediateNames (logical : Bool) : List String :=
  if logical then ["andi", "ori", "xori"] else ["addi", "addiu", "slti", "sltiu"]

/-- The scalar loads and stores. -/
def loadStoreNames : List String := ["lb", "lh", "lw", "lbu", "lhu", "lwu", "sb", "sh", "sw"]

/-- The vector operations on whole registers. -/
def vectorComputeNames : List String := ["vmulf", "vmulu", "vrndp", "vmulq", "vmudl", "vmudm",
  "vmudn", "vmudh", "vmacf", "vmacu", "vrndn", "vmacq", "vmadl", "vmadm", "vmadn", "vmadh", "vadd",
  "vsub", "vabs", "vaddc", "vsubc", "vsar", "vlt", "veq", "vne", "vge", "vcl", "vch", "vcr", "vmrg",
  "vand", "vnand", "vor", "vnor", "vxor", "vnxor", "vrcph"]

/-- The vector operations that write one lane. -/
def vectorScalarNames : List String := ["vrcp", "vrcpl", "vmov", "vrsq", "vrsql", "vrsqh"]

/-- The letters of the addressing modes and the units in which they count offsets. -/
def vectorAccessUnits : List (String × Int) := [("b", 1), ("s", 2), ("l", 4), ("d", 8), ("q", 16),
  ("r", 16), ("p", 8), ("u", 8), ("h", 16), ("f", 16), ("w", 16), ("t", 16)]

/-- The instructions that some word denotes at an address. -/
def Encodable (address : Int) : Instruction → Prop
  | .nop => True
  | .unsupported word => 0 < word ∧ word < 0x100000000 ∧ ∀ row : OpcodeRow, ¬ row.Accepts word
  | .shiftByAmount mnemonic _ _ amount =>
    mnemonic ∈ ["sll", "srl", "sra"] ∧ 0 ≤ amount ∧ amount < 32
  | .threeRegister mnemonic _ _ _ => mnemonic ∈ threeRegisterNames
  | .jumpRegister _ => True
  | .jumpLinkRegister _ _ => True
  | .breakpoint code => 0 ≤ code ∧ code < 0x100000
  | .jump mnemonic target => mnemonic ∈ ["j", "jal"] ∧ JumpTarget address target
  | .branchTwo mnemonic _ _ target => mnemonic ∈ ["beq", "bne"] ∧ BranchTarget address target
  | .branchOne mnemonic _ target =>
    mnemonic ∈ ["blez", "bgtz", "bltz", "bgez", "bltzal", "bgezal"] ∧ BranchTarget address target
  | .immediate mnemonic _ _ value logical =>
    mnemonic ∈ immediateNames logical ∧ SignedHalf value
  | .loadUpper _ value => 0 ≤ value ∧ value < 0x10000
  | .loadStore mnemonic _ _ offset => mnemonic ∈ loadStoreNames ∧ SignedHalf offset
  | .systemMove mnemonic _ _ => mnemonic ∈ ["mfc0", "mtc0"]
  | .vectorMove mnemonic _ vs byte => mnemonic ∈ ["mfc2", "mtc2"] ∧ VectorExists vs ∧ byte = 0
  | .controlMove mnemonic _ _ => mnemonic ∈ ["cfc2", "ctc2"]
  | .vectorNop => True
  | .vectorCompute mnemonic vd vs vt lanes =>
    mnemonic ∈ vectorComputeNames ∧ VectorExists vd ∧ VectorExists vs ∧ VectorExists vt ∧
      LanesExist lanes ∧ ¬ (mnemonic = "vmulf" ∧ vd = ⟨0⟩)
  | .vectorScalar mnemonic vd lane vt lanes =>
    mnemonic ∈ vectorScalarNames ∧ VectorExists vd ∧ (0 ≤ lane ∧ lane < 32) ∧ VectorExists vt ∧
      LanesExist lanes
  | .vectorLoadStore mnemonic vt byte _ offset =>
    VectorExists vt ∧ (0 ≤ byte ∧ byte < 16) ∧ ∃ direction ∈ ["l", "s"],
      ∃ access ∈ vectorAccessUnits, mnemonic = direction ++ access.1 ++ "v" ∧
        ∃ count, -64 ≤ count ∧ count < 64 ∧ offset = count * access.2

end Statement

section Names

/-- What a field selects is an operation of the table. -/
theorem Selects.named {α : Type} {bit size : Nat} {word : Int} {table : List (Nat × α)}
    {operation : α} (selected : Selects bit size word table operation) :
    operation ∈ table.map Prod.snd :=
  List.mem_map.mpr ⟨_, selected, rfl⟩

-- For each shape, the names listed above are those that its table selects.

theorem shift_named_iff (mnemonic : String) :
    .shiftByAmount mnemonic ∈ Opcode.registerOperations.map Prod.snd ↔
      mnemonic ∈ ["sll", "srl", "sra"] := by
  simp [Opcode.registerOperations]

theorem threeRegister_named_iff (mnemonic : String) :
    .threeRegister mnemonic ∈ Opcode.registerOperations.map Prod.snd ↔
      mnemonic ∈ threeRegisterNames := by
  simp [Opcode.registerOperations, threeRegisterNames]

theorem jump_named_iff (mnemonic : String) :
    .jump mnemonic ∈ Opcode.groups.map Prod.snd ↔ mnemonic ∈ ["j", "jal"] := by
  simp [Opcode.groups]

theorem branchTwo_named_iff (mnemonic : String) :
    .branchTwo mnemonic ∈ Opcode.groups.map Prod.snd ↔ mnemonic ∈ ["beq", "bne"] := by
  simp [Opcode.groups]

theorem branchOne_named_iff (mnemonic : String) :
    .branchOne mnemonic ∈ Opcode.groups.map Prod.snd ↔ mnemonic ∈ ["blez", "bgtz"] := by
  simp [Opcode.groups]

theorem signBranch_named_iff (mnemonic : String) :
    mnemonic ∈ Opcode.signBranches.map Prod.snd ↔
      mnemonic ∈ ["bltz", "bgez", "bltzal", "bgezal"] := by
  simp [Opcode.signBranches]

theorem immediate_named_iff (mnemonic : String) (logical : Bool) :
    .immediate mnemonic logical ∈ Opcode.groups.map Prod.snd ↔
      mnemonic ∈ immediateNames logical := by
  cases logical <;> simp [Opcode.groups, immediateNames]

theorem loadStore_named_iff (mnemonic : String) :
    .loadStore mnemonic ∈ Opcode.groups.map Prod.snd ↔ mnemonic ∈ loadStoreNames := by
  simp [Opcode.groups, loadStoreNames]

theorem vectorLoadStore_named_iff (direction : String) :
    .vectorLoadStore direction ∈ Opcode.groups.map Prod.snd ↔ direction ∈ ["l", "s"] := by
  simp [Opcode.groups]

theorem data_named_iff (mnemonic : String) :
    .data mnemonic ∈ Opcode.vectorTransfers.map Prod.snd ↔ mnemonic ∈ ["mfc2", "mtc2"] := by
  simp [Opcode.vectorTransfers]

theorem control_named_iff (mnemonic : String) :
    .control mnemonic ∈ Opcode.vectorTransfers.map Prod.snd ↔ mnemonic ∈ ["cfc2", "ctc2"] := by
  simp [Opcode.vectorTransfers]

theorem compute_named_iff (mnemonic : String) :
    .compute mnemonic ∈ Opcode.vectorOperations.map Prod.snd ↔ mnemonic ∈ vectorComputeNames := by
  simp [Opcode.vectorOperations, vectorComputeNames]

theorem scalar_named_iff (mnemonic : String) :
    .scalar mnemonic ∈ Opcode.vectorOperations.map Prod.snd ↔ mnemonic ∈ vectorScalarNames := by
  simp [Opcode.vectorOperations, vectorScalarNames]

end Names

section Fields

/-- Two neighbouring empty fields are an empty field. -/
theorem field_join_eq_zero {bit lower upper : Nat} {word : Int} (low : field bit lower word = 0)
    (high : field (bit + lower) upper word = 0) : field bit (lower + upper) word = 0 := by
  apply BitVec.eq_of_toNat_eq
  have joined := toNat_field_join bit lower upper word
  rw [low, high] at joined
  simpa using joined

/-- Five bits name a vector register that exists. -/
theorem vectorExists_atBit (bit : Nat) (word : Int) :
    VectorExists (VectorRegister.atBit bit word) :=
  ⟨Int.natCast_nonneg _, toNat_field_lt bit 5 word⟩

/-- Four bits denote lanes that exist, if they denote any. -/
theorem lanesExist_of_atBit? {bit : Nat} {word : Int} {lanes : LaneSelector}
    (read : LaneSelector.atBit? bit word = some lanes) : LanesExist lanes := by
  have table : ∀ value : Fin 16, ∀ lanes ∈ LaneSelector.ofField? value.val, LanesExist lanes := by
    decide
  exact table (field bit 4 word).toFin lanes read

/-- Lanes that exist are denoted by their field. -/
theorem ofField?_laneField {lanes : LaneSelector} (existing : LanesExist lanes) :
    LaneSelector.ofField? (laneField lanes) = some lanes := by
  have table : ∀ group, ∀ index : Fin (groupSize group).toNat,
      LaneSelector.ofField? (laneField ⟨group, index.val⟩) = some ⟨group, index.val⟩ := by
    intro group
    cases group <;> decide
  obtain ⟨group, index⟩ := lanes
  obtain ⟨natural, inside⟩ : 0 ≤ index ∧ index < groupSize group := existing
  lift index to Nat using natural
  exact table group ⟨index, by omega⟩

/-- The field of lanes that exist has four bits. -/
theorem laneField_bounds {lanes : LaneSelector} (existing : LanesExist lanes) :
    0 ≤ laneField lanes ∧ laneField lanes < 16 := by
  obtain ⟨group, index⟩ := lanes
  cases group <;> simp only [LanesExist, groupSize] at existing <;> simp only [laneField] <;> omega

/-- Lanes that exist are read back from a field that holds theirs. -/
theorem lanes_of_field {bit : Nat} {word : Int} {lanes : LaneSelector} (existing : LanesExist lanes)
    (held : field bit 4 word = field 0 4 (laneField lanes)) :
    LaneSelector.atBit? bit word = some lanes := by
  obtain ⟨natural, fits⟩ := laneField_bounds existing
  rw [LaneSelector.atBit?, toNat_of_field held natural fits, ofField?_laneField existing]

/-- Sixteen bits with a sign. -/
theorem signedHalf_field (word : Int) : SignedHalf (field 0 16 word).toInt :=
  ⟨BitVec.le_toInt _, BitVec.toInt_lt⟩

/-- A signed number of sixteen bits is read back. -/
theorem half_of_field {bit : Nat} {word value : Int} (half : SignedHalf value)
    (held : field bit 16 word = field 0 16 value) : (field bit 16 word).toInt = value := by
  obtain ⟨lower, upper⟩ := half
  have width : (weight 16 : Int) = 65536 := rfl
  apply toInt_of_field held
  · rw [width]
    omega
  · rw [width]
    omega

/-- A jump reaches a word of its own segment. -/
theorem jumpTarget_ofJump (word address : Int) :
    JumpTarget address (Symbol.ofJump word address) := by
  have bound : ((field 0 26 word).toNat : Int) < 0x4000000 := toNat_field_lt 0 26 word
  rw [JumpTarget, ofJump_address]
  refine ⟨rfl, ?_, ?_, ?_, ?_⟩ <;> omega

/-- A branch reaches a signed count of words. -/
theorem branchTarget_ofBranch (word address : Int) :
    BranchTarget address (Symbol.ofBranch word address) :=
  ⟨rfl, _, signedHalf_field word, rfl⟩

/-- The vector operation with function number zero. -/
theorem vmulf_iff {word : Int} {mnemonic : String}
    (operation : Selects 0 6 word Opcode.vectorOperations (.compute mnemonic)) :
    mnemonic = "vmulf" ↔ field 0 6 word = 0 := by
  have table : ∀ row ∈ Opcode.vectorOperations, ∀ name, row.2 = .compute name →
      (name = "vmulf" ↔ row.1 = 0) := by
    simp [Opcode.vectorOperations]
  have zero : (field 0 6 word).toNat = 0 ↔ field 0 6 word = 0 := BitVec.toNat_inj (y := 0)
  exact (table _ operation mnemonic rfl).trans zero

/-- Operations that write one lane have numbers other than zero, so their words are never
moves. -/
theorem vectorScalar_compute {word : Int} {mnemonic : String}
    (operation : Selects 0 6 word Opcode.vectorOperations (.scalar mnemonic)) :
    field 0 11 word ≠ 0 := by
  have table : ∀ row ∈ Opcode.vectorOperations, ∀ name, row.2 = .scalar name → row.1 ≠ 0 := by
    simp [Opcode.vectorOperations]
  intro low
  apply table _ operation mnemonic rfl
  rw [empty_field low 0 6 (by decide)]
  rfl

/-- The addressing modes fit into their field. -/
theorem addressModes_fit : ∀ row ∈ Opcode.addressModes, row.1 < weight 5 := by decide

/-- The first vector register has the number zero. -/
theorem firstVector_iff (bit : Nat) (word : Int) :
    VectorRegister.atBit bit word = ⟨0⟩ ↔ field bit 5 word = 0 := by
  rw [VectorRegister.atBit, VectorRegister.mk.injEq, ← BitVec.toNat_inj]
  exact Int.natCast_eq_zero

end Fields

section Directions

/-- What a word denotes is encodable. -/
theorem Denotes.encodable {word address : Int} {instruction : Instruction}
    (denoted : Denotes word address instruction) : Encodable address instruction := by
  cases denoted with
  | shiftByAmount group operation =>
    exact ⟨(shift_named_iff _).mp operation.named, Int.natCast_nonneg _, toNat_field_lt 6 5 word⟩
  | threeRegister group operation => exact (threeRegister_named_iff _).mp operation.named
  | jumpRegister group operation | jumpLinkRegister group operation => trivial
  | breakpoint group operation => exact ⟨Int.natCast_nonneg _, toNat_field_lt 6 20 word⟩
  | signBranch group condition =>
    refine ⟨?_, branchTarget_ofBranch word address⟩
    exact List.mem_append_right ["blez", "bgtz"] ((signBranch_named_iff _).mp condition.named)
  | jump group => exact ⟨(jump_named_iff _).mp group.named, jumpTarget_ofJump word address⟩
  | branchTwo group =>
    exact ⟨(branchTwo_named_iff _).mp group.named, branchTarget_ofBranch word address⟩
  | branchOne group =>
    refine ⟨?_, branchTarget_ofBranch word address⟩
    exact List.mem_append_left ["bltz", "bgez", "bltzal", "bgezal"]
      ((branchOne_named_iff _).mp group.named)
  | immediate group => exact ⟨(immediate_named_iff _ _).mp group.named, signedHalf_field word⟩
  | loadUpper group => exact ⟨Int.natCast_nonneg _, toNat_field_lt 0 16 word⟩
  | loadStore group => exact ⟨(loadStore_named_iff _).mp group.named, signedHalf_field word⟩
  | systemMove group direction register => exact direction.named
  | vectorMove group low direction =>
    have first : ((field 7 4 word).toNat : Int) = 0 := by
      rw [empty_field low 7 4 (by decide)]
      rfl
    exact ⟨(data_named_iff _).mp direction.named, vectorExists_atBit 11 word, first⟩
  | controlMove group low direction register => exact (control_named_iff _).mp direction.named
  | vectorNop group compute operation => trivial
  | vectorCompute group compute operation selector =>
    refine ⟨(compute_named_iff _).mp operation.named, vectorExists_atBit 6 word,
      vectorExists_atBit 11 word, vectorExists_atBit 16 word, lanesExist_of_atBit? selector, ?_⟩
    -- With both fields empty the word would be a move.
    rintro ⟨function, register⟩
    exact compute (field_join_eq_zero ((vmulf_iff operation).mp function)
      ((firstVector_iff 6 word).mp register))
  | vectorScalar group compute operation selector =>
    exact ⟨(scalar_named_iff _).mp operation.named, vectorExists_atBit 6 word,
      ⟨Int.natCast_nonneg _, toNat_field_lt 11 5 word⟩, vectorExists_atBit 16 word,
      lanesExist_of_atBit? selector⟩
  | vectorLoadStore group mode =>
    exact ⟨vectorExists_atBit 16 word, ⟨Int.natCast_nonneg _, toNat_field_lt 7 4 word⟩, _,
      (vectorLoadStore_named_iff _).mp group.named, _, mode.named, rfl, _,
      BitVec.le_toInt (field 0 7 word), BitVec.toInt_lt, rfl⟩

/-- The word of an encodable branch on one register denotes it: the name tells whether the
branch has an opcode of its own. -/
theorem denotes_branchOne {word address : Int} {mnemonic : String} {rs : GeneralRegister}
    {target : Symbol}
    (encodable : Encodable address (.branchOne mnemonic rs target))
    (fields : Reads 0 word (encodedFields address (.branchOne mnemonic rs target))) :
    Denotes word address (.branchOne mnemonic rs target) := by
  obtain ⟨named, kind, count, ⟨lower, upper⟩, place⟩ := encodable
  by_cases listed : (Opcode.signBranches.any fun row => row.2 = mnemonic) = true
  · simp only [encodedFields, listed, if_true] at fields
    obtain ⟨countField, conditionField, rsField, opcode, -⟩ := fields
    have condition := selects_of_field Opcode.signBranches_one_to_one (by decide)
      (by simpa using listed) conditionField
    rw [← branch_of_field kind place lower upper countField, ← general_of_field rsField]
    exact .signBranch (selects_group (by decide) opcode) condition
  · simp only [encodedFields, listed, Bool.false_eq_true, if_false] at fields
    obtain ⟨countField, -, rsField, opcode, -⟩ := fields
    have proper : mnemonic ∈ ["blez", "bgtz"] := by
      rcases List.mem_append.mp (show mnemonic ∈ ["blez", "bgtz"] ++ _ from named) with
        own | shared
      · exact own
      · exact absurd (by simpa using (signBranch_named_iff mnemonic).mpr shared) listed
    rw [← branch_of_field kind place lower upper countField, ← general_of_field rsField]
    exact .branchOne (selects_group ((branchOne_named_iff _).mpr proper) opcode)

/-- The word of an encodable vector move denotes it. Only the first byte leaves the low
eleven bits empty. -/
theorem denotes_vectorMove {word address : Int} {mnemonic : String} {rt : GeneralRegister}
    {vs : VectorRegister} {byte : Int}
    (encodable : Encodable address (.vectorMove mnemonic rt vs byte))
    (fields : Reads 0 word (encodedFields address (.vectorMove mnemonic rt vs byte))) :
    Denotes word address (.vectorMove mnemonic rt vs byte) := by
  obtain ⟨named, ⟨natural, fits⟩, first⟩ := encodable
  obtain ⟨lowField, byteField, vsField, rtField, directionField, opcode, -⟩ := fields
  rw [field_of_zero] at lowField
  rw [first, field_of_zero] at byteField
  have direction := selects_of_field Opcode.vectorTransfers_one_to_one (by decide)
    ((data_named_iff _).mpr named) directionField
  have byteRead : ((field 7 4 word).toNat : Int) = byte := by
    rw [first, byteField]
    rfl
  rw [← general_of_field rtField, ← vector_of_field natural fits vsField, ← byteRead]
  exact .vectorMove (selects_group (by decide) opcode) (field_join_eq_zero lowField byteField)
    direction

/-- The word of an encodable vector operation denotes it, for it is no move. -/
theorem denotes_vectorCompute {word address : Int} {mnemonic : String} {vd vs vt : VectorRegister}
    {lanes : LaneSelector}
    (encodable : Encodable address (.vectorCompute mnemonic vd vs vt lanes))
    (fields : Reads 0 word (encodedFields address (.vectorCompute mnemonic vd vs vt lanes))) :
    Denotes word address (.vectorCompute mnemonic vd vs vt lanes) := by
  obtain ⟨named, ⟨vdLow, vdHigh⟩, ⟨vsLow, vsHigh⟩, ⟨vtLow, vtHigh⟩, existing, notMove⟩ := encodable
  obtain ⟨function, vdField, vsField, vtField, laneField, -, opcode, -⟩ := fields
  have operation := selects_of_field Opcode.vectorOperations_one_to_one (by decide)
    ((compute_named_iff _).mpr named) function
  have vdRead := vector_of_field vdLow vdHigh vdField
  have compute : field 0 11 word ≠ 0 := by
    intro low
    apply notMove
    rw [← vdRead]
    exact ⟨(vmulf_iff operation).mpr (empty_field low 0 6 (by decide)),
      (firstVector_iff 6 word).mpr (empty_field low 6 5 (by decide))⟩
  rw [← vdRead, ← vector_of_field vsLow vsHigh vsField, ← vector_of_field vtLow vtHigh vtField]
  exact .vectorCompute (selects_group (by decide) opcode) compute operation
    (lanes_of_field existing laneField)

/-- The word of an encodable operation on one lane denotes it. -/
theorem denotes_vectorScalar {word address : Int} {mnemonic : String} {vd vt : VectorRegister}
    {lane : Int} {lanes : LaneSelector}
    (encodable : Encodable address (.vectorScalar mnemonic vd lane vt lanes))
    (fields : Reads 0 word (encodedFields address (.vectorScalar mnemonic vd lane vt lanes))) :
    Denotes word address (.vectorScalar mnemonic vd lane vt lanes) := by
  obtain ⟨named, ⟨vdLow, vdHigh⟩, ⟨natural, fits⟩, ⟨vtLow, vtHigh⟩, existing⟩ := encodable
  obtain ⟨function, vdField, positionField, vtField, laneField, -, opcode, -⟩ := fields
  have operation := selects_of_field Opcode.vectorOperations_one_to_one (by decide)
    ((scalar_named_iff _).mpr named) function
  rw [← vector_of_field vdLow vdHigh vdField, ← toNat_of_field positionField natural fits,
    ← vector_of_field vtLow vtHigh vtField]
  exact .vectorScalar (selects_group (by decide) opcode) (vectorScalar_compute operation)
    operation (lanes_of_field existing laneField)

/-- The word of an encodable vector load or store denotes it. -/
theorem denotes_vectorLoadStore {word address : Int} {mnemonic : String} {vt : VectorRegister}
    {byte : Int} {base : GeneralRegister} {offset : Int}
    (encodable : Encodable address (.vectorLoadStore mnemonic vt byte base offset))
    (fields : Reads 0 word
      (encodedFields address (.vectorLoadStore mnemonic vt byte base offset))) :
    Denotes word address (.vectorLoadStore mnemonic vt byte base offset) := by
  obtain ⟨⟨vtLow, vtHigh⟩, ⟨natural, fits⟩, direction, directed, ⟨letter, unit⟩, access, rfl, count,
    lower, upper, rfl⟩ := encodable
  obtain ⟨⟨mode, _⟩, member, rfl⟩ := List.mem_map.mp
    (show _ ∈ Opcode.addressModes.map Prod.snd from access)
  have found := vectorAccesses_lookup directed member
  simp only [encodedFields, found] at fields
  obtain ⟨offsetField, byteField, modeField, vtField, baseField, opcode, -⟩ := fields
  have modeRead := toNat_of_field modeField (Int.natCast_nonneg mode)
    (Int.ofNat_lt.mpr (addressModes_fit _ member))
  have selected : Selects 11 5 word Opcode.addressModes (letter, unit) := by
    rw [Selects, Int.ofNat_inj.mp modeRead]
    exact member
  rw [Int.mul_ediv_cancel _ (unit_nonzero selected)] at offsetField
  have width : (weight 7 : Int) = 128 := rfl
  have countRead : (field 0 7 word).toInt = count := by
    apply toInt_of_field offsetField <;> rw [width] <;> omega
  rw [← vector_of_field vtLow vtHigh vtField, ← toNat_of_field byteField natural fits,
    ← general_of_field baseField, ← countRead]
  exact .vectorLoadStore (selects_group ((vectorLoadStore_named_iff _).mpr directed) opcode)
    selected

/-- The word of an encodable instruction denotes it. In each case the fields of the word
hold what was put there, so the instruction is the one that a rule reads off the word. -/
theorem denotes_encode (address : Int) (instruction : Instruction)
    (encodable : Encodable address instruction) (proper : instruction ≠ .nop)
    (known : ∀ word, instruction ≠ .unsupported word) :
    Denotes (encode address instruction) address instruction := by
  have fields := reads_encode address instruction
  generalize encode address instruction = word at fields ⊢
  cases instruction with
  | nop => exact absurd rfl proper
  | unsupported word => exact absurd rfl (known word)
  | shiftByAmount mnemonic rd rt amount =>
    obtain ⟨named, natural, fits⟩ := encodable
    obtain ⟨function, amountField, rdField, rtField, -, opcode, -⟩ := fields
    have group := selects_group (by decide) opcode
    have operation := selects_of_field Opcode.registerOperations_one_to_one (by decide)
      ((shift_named_iff _).mpr named) function
    rw [← general_of_field rdField, ← general_of_field rtField,
      ← toNat_of_field amountField natural fits]
    exact .shiftByAmount group operation
  | threeRegister mnemonic rd rs rt =>
    obtain ⟨function, -, rdField, rtField, rsField, opcode, -⟩ := fields
    have group := selects_group (by decide) opcode
    have operation := selects_of_field Opcode.registerOperations_one_to_one (by decide)
      ((threeRegister_named_iff _).mpr encodable) function
    rw [← general_of_field rdField, ← general_of_field rsField, ← general_of_field rtField]
    exact .threeRegister group operation
  | jumpRegister rs =>
    obtain ⟨function, -, rsField, opcode, -⟩ := fields
    have group := selects_group (by decide) opcode
    have operation := selects_of_field Opcode.registerOperations_one_to_one (by decide)
      (by decide) function
    rw [← general_of_field rsField]
    exact .jumpRegister group operation
  | jumpLinkRegister rd rs =>
    obtain ⟨function, -, rdField, -, rsField, opcode, -⟩ := fields
    have group := selects_group (by decide) opcode
    have operation := selects_of_field Opcode.registerOperations_one_to_one (by decide)
      (by decide) function
    rw [← general_of_field rdField, ← general_of_field rsField]
    exact .jumpLinkRegister group operation
  | breakpoint code =>
    obtain ⟨natural, fits⟩ := encodable
    obtain ⟨function, codeField, opcode, -⟩ := fields
    have group := selects_group (by decide) opcode
    have operation := selects_of_field Opcode.registerOperations_one_to_one (by decide)
      (by decide) function
    rw [← toNat_of_field codeField natural fits]
    exact .breakpoint group operation
  | jump mnemonic target =>
    obtain ⟨named, kind, -, -, aligned, segment⟩ := encodable
    obtain ⟨index, opcode, -⟩ := fields
    rw [← jump_of_field kind aligned segment index]
    exact .jump (selects_group ((jump_named_iff _).mpr named) opcode)
  | branchTwo mnemonic rs rt target =>
    obtain ⟨named, kind, count, ⟨lower, upper⟩, place⟩ := encodable
    obtain ⟨countField, rtField, rsField, opcode, -⟩ := fields
    rw [← branch_of_field kind place lower upper countField, ← general_of_field rsField,
      ← general_of_field rtField]
    exact .branchTwo (selects_group ((branchTwo_named_iff _).mpr named) opcode)
  | branchOne mnemonic rs target => exact denotes_branchOne encodable fields
  | immediate mnemonic rt rs value logical =>
    obtain ⟨named, half⟩ := encodable
    obtain ⟨valueField, rtField, rsField, opcode, -⟩ := fields
    rw [← general_of_field rtField, ← general_of_field rsField, ← half_of_field half valueField]
    exact .immediate (selects_group ((immediate_named_iff _ _).mpr named) opcode)
  | loadUpper rt value =>
    obtain ⟨natural, fits⟩ := encodable
    obtain ⟨valueField, rtField, -, opcode, -⟩ := fields
    rw [← general_of_field rtField, ← toNat_of_field valueField natural fits]
    exact .loadUpper (selects_group (by decide) opcode)
  | loadStore mnemonic rt base offset =>
    obtain ⟨named, half⟩ := encodable
    obtain ⟨offsetField, rtField, baseField, opcode, -⟩ := fields
    rw [← general_of_field rtField, ← general_of_field baseField, ← half_of_field half offsetField]
    exact .loadStore (selects_group ((loadStore_named_iff _).mpr named) opcode)
  | systemMove mnemonic rt rd =>
    obtain ⟨-, rdField, rtField, directionField, opcode, -⟩ := fields
    have direction := selects_of_field Opcode.systemMoves_one_to_one (by decide) encodable
      directionField
    rw [← general_of_field rtField]
    exact .systemMove (selects_group (by decide) opcode) direction (system_of_field rdField)
  | vectorMove mnemonic rt vs byte => exact denotes_vectorMove encodable fields
  | controlMove mnemonic rt control =>
    obtain ⟨lowField, controlField, rtField, directionField, opcode, -⟩ := fields
    rw [field_of_zero] at lowField
    have direction := selects_of_field Opcode.vectorTransfers_one_to_one (by decide)
      ((control_named_iff _).mpr encodable) directionField
    rw [← general_of_field rtField]
    exact .controlMove (selects_group (by decide) opcode) lowField direction
      (control_of_field controlField)
  | vectorNop =>
    obtain ⟨function, -, opcode, -⟩ := fields
    have operation := selects_of_field Opcode.vectorOperations_one_to_one (by decide) (by decide)
      function
    exact .vectorNop (selects_group (by decide) opcode) (vectorNop_compute operation) operation
  | vectorCompute mnemonic vd vs vt lanes => exact denotes_vectorCompute encodable fields
  | vectorScalar mnemonic vd lane vt lanes => exact denotes_vectorScalar encodable fields
  | vectorLoadStore mnemonic vt byte base offset => exact denotes_vectorLoadStore encodable fields

/-- A machine word denotes what any word with its low 32 bits denotes. -/
theorem Denotes.machineWord {word address : Int} {instruction : Instruction}
    (denoted : Denotes word address instruction) :
    Denotes (machineWord word) address instruction :=
  denoted.of_sameOutside fun bit size apart => field_machineWord bit size word apart.1

/-- Decoding undoes encoding, except that the shift without effect is encoded to zero. -/
theorem decode_encode (address : Int) (instruction : Instruction)
    (encodable : Encodable address instruction)
    (effective : instruction ≠ .shiftByAmount "sll" ⟨0⟩ ⟨0⟩ 0) :
    decode (encode address instruction) address = instruction := by
  cases instruction with
  | nop => rfl
  | unsupported word =>
    obtain ⟨positive, below, unlisted⟩ := encodable
    have low : Instruction.machineWord word = word := by
      rw [machineWord_eq_emod]
      exact Int.emod_eq_of_lt (Int.le_of_lt positive) below
    rw [encode, low]
    exact (decode_eq_unsupported_iff word address word).mpr
      ⟨low.symm, low.symm ▸ Int.ne_of_gt positive, unlisted⟩
  | _ =>
    have denoted := (denotes_encode address _ encodable (by simp) (by simp)).machineWord
    refine denoted.decode_eq ?_
    intro zero
    rw [zero] at denoted
    exact effective (denotes_zero denoted)

/-- Every decoded word is encodable. -/
theorem encodable_decode (word address : Int) : Encodable address (decode word address) := by
  rcases decode_cases word address with ⟨-, empty⟩ | ⟨-, denoted⟩ | ⟨nonzero, -, unknown⟩
  · rw [empty]
    trivial
  · exact denoted.encodable
  · obtain ⟨-, -, unlisted⟩ := (decode_eq_unsupported_iff word address _).mp unknown
    have natural : 0 ≤ Instruction.machineWord word := Int.natCast_nonneg _
    rw [unknown]
    refine ⟨by omega, toNat_field_lt 0 32 word, ?_⟩
    intro row accepted
    exact unlisted row ((row.accepts_machineWord word).mp accepted)

end Directions

/-- The instructions that words denote at an address are exactly the encodable ones. The
word that an encodable instruction is encoded to denotes it, unless it is the shift without
effect, which another word denotes. -/
theorem decode_image (address : Int) (instruction : Instruction) :
    ((∃ word, decode word address = instruction) ↔ Encodable address instruction) ∧
    (Encodable address instruction → instruction ≠ .shiftByAmount "sll" ⟨0⟩ ⟨0⟩ 0 →
      decode (encode address instruction) address = instruction) ∧
    decode 0x00200000 address = .shiftByAmount "sll" ⟨0⟩ ⟨0⟩ 0 := by
  have shift : decode 0x00200000 address = .shiftByAmount "sll" ⟨0⟩ ⟨0⟩ 0 := rfl
  refine ⟨⟨?_, ?_⟩, decode_encode address instruction, shift⟩
  · rintro ⟨word, rfl⟩
    exact encodable_decode word address
  · intro encodable
    by_cases idle : instruction = .shiftByAmount "sll" ⟨0⟩ ⟨0⟩ 0
    · exact ⟨0x00200000, shift.trans idle.symm⟩
    · exact ⟨encode address instruction, decode_encode address instruction encodable idle⟩

/-- The vector operation with function number zero writes every vector register but the
first. -/
theorem vmulf_never_writes_first_register :
    (¬ ∃ word, decode word 0 = .vectorCompute "vmulf" ⟨0⟩ ⟨1⟩ ⟨2⟩ ⟨.whole, 0⟩) ∧
      ∃ word, decode word 0 = .vectorCompute "vmulf" ⟨31⟩ ⟨1⟩ ⟨2⟩ ⟨.whole, 0⟩ := by
  constructor
  · intro reached
    obtain ⟨-, -, -, -, -, notMove⟩ := (decode_image 0 _).1.mp reached
    exact notMove ⟨rfl, rfl⟩
  · exact (decode_image 0 _).1.mpr
      (by simp [Encodable, vectorComputeNames, VectorExists, LanesExist, groupSize])

end Microcode.Instruction
