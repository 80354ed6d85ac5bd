import Microcode.Proofs.SignificantBits

/-!
# The fields of an encoded word

An encoded word is a sum of values in their places. The places of an instruction are
consecutive fields that fill the word from the lowest bit up, so no value reaches into a
field that is not its own, and each field of the word holds the value that was put there.
From such a field a register, a lane selector, a number or a target is read back as it
was, if it fits into the field at all.
-/

namespace Microcode.Instruction

open Bits

section Assembly

/-- Values in consecutive fields from a bit up, each given by its width and its value. -/
def assembled (bit : Nat) : List (Nat × Int) → Int
  | [] => 0
  | (size, value) :: rest => placed bit size value + assembled (bit + size) rest

/-- The consecutive fields of a word from a bit up hold given values, cut to their width. -/
def Reads (bit : Nat) (word : Int) : List (Nat × Int) → Prop
  | [] => True
  | (size, value) :: rest =>
    field bit size word = field 0 size value ∧ Reads (bit + size) word rest

/-- An empty field adds nothing. -/
theorem placed_zero (bit size : Nat) : placed bit size 0 = 0 := by
  simp [placed, field_of_zero]

/-- Fields from a bit up add a multiple of its weight. -/
theorem weight_dvd_assembled (bit : Nat) (parts : List (Nat × Int)) :
    (weight bit : Int) ∣ assembled bit parts := by
  induction parts generalizing bit with
  | nil => exact Int.dvd_zero _
  | cons part rest inductionHypothesis =>
    have upper : (weight bit : Int) ∣ weight (bit + part.1) := by
      rw [weight_add]
      exact Int.dvd_mul_right _ _
    exact Int.dvd_add (Int.dvd_mul_right _ _) (Int.dvd_trans upper (inductionHypothesis _))

/-- A field holds what was placed there, if only lower bits and higher fields are added. -/
theorem field_placed (bit size : Nat) (low value quotient : Int) (natural : 0 ≤ low)
    (below : low < weight bit) :
    field bit size (low + (placed bit size value + weight (bit + size) * quotient)) =
      field 0 size value := by
  have quotients : (low + (placed bit size value + weight (bit + size) * quotient)) / weight bit =
      (field 0 size value).toNat + weight size * quotient := by
    rw [placed, weight_add, Int.mul_assoc, ← Int.mul_add,
      Int.add_mul_ediv_left _ _ (Int.ne_of_gt (weight_positive bit)),
      Int.ediv_eq_zero_of_lt natural below, Int.zero_add]
  rw [field_eq_iff, quotients, Int.add_mul_emod_self_left, toNat_field,
    Int.emod_emod_of_dvd _ (Int.dvd_refl _)]

/-- A placed value stays below the end of its field. -/
theorem add_placed_lt (bit size : Nat) (low value : Int) (below : low < weight bit) :
    low + placed bit size value < weight (bit + size) := by
  have bound : (weight bit : Int) * ((field 0 size value).toNat + 1) ≤ weight bit * weight size :=
    Int.mul_le_mul_of_nonneg_left (toNat_field_lt 0 size value) (Int.le_of_lt (weight_positive bit))
  rw [Int.mul_add, Int.mul_one] at bound
  rw [placed, weight_add]
  omega

/-- Every field of an assembled word holds its own value, whatever stands in the bits
below. The induction is on the fields, from the lowest up: those that are read already
count as lower bits. -/
theorem reads_assembled (bit : Nat) (parts : List (Nat × Int)) (low : Int) (natural : 0 ≤ low)
    (below : low < weight bit) : Reads bit (low + assembled bit parts) parts := by
  induction parts generalizing bit low with
  | nil => trivial
  | cons part rest inductionHypothesis =>
    obtain ⟨size, value⟩ := part
    constructor
    · obtain ⟨quotient, upper⟩ := weight_dvd_assembled (bit + size) rest
      rw [assembled, upper]
      exact field_placed bit size low value quotient natural below
    · have higher : 0 ≤ placed bit size value :=
        Int.mul_nonneg (Int.le_of_lt (weight_positive bit)) (Int.natCast_nonneg _)
      rw [assembled, ← Int.add_assoc]
      exact inductionHypothesis (bit + size) _ (Int.add_nonneg natural higher)
        (add_placed_lt bit size low value below)

end Assembly

section Formats

/-- The fields of an instruction's word from the lowest bit up, with zeros where the
instruction has no operand. -/
def encodedFields (address : Int) : Instruction → List (Nat × Int)
  | .nop => []
  | .unsupported word => [(32, word)]
  | .shiftByAmount mnemonic rd rt amount =>
    [(6, numberIn Opcode.registerOperations (.shiftByAmount mnemonic)), (5, amount),
      (5, rd.index), (5, rt.index), (5, 0), (6, numberIn Opcode.groups .register)]
  | .threeRegister mnemonic rd rs rt =>
    [(6, numberIn Opcode.registerOperations (.threeRegister mnemonic)), (5, 0),
      (5, rd.index), (5, rt.index), (5, rs.index), (6, numberIn Opcode.groups .register)]
  | .jumpRegister rs =>
    [(6, numberIn Opcode.registerOperations .jumpRegister), (15, 0), (5, rs.index),
      (6, numberIn Opcode.groups .register)]
  | .jumpLinkRegister rd rs =>
    [(6, numberIn Opcode.registerOperations .jumpLinkRegister), (5, 0), (5, rd.index), (5, 0),
      (5, rs.index), (6, numberIn Opcode.groups .register)]
  | .breakpoint code =>
    [(6, numberIn Opcode.registerOperations .breakpoint), (20, code),
      (6, numberIn Opcode.groups .register)]
  | .jump mnemonic target =>
    [(26, target.address / 4), (6, numberIn Opcode.groups (.jump mnemonic))]
  | .branchTwo mnemonic rs rt target =>
    [(16, (target.address - address - 4) / 4), (5, rt.index), (5, rs.index),
      (6, numberIn Opcode.groups (.branchTwo mnemonic))]
  | .branchOne mnemonic rs target =>
    if Opcode.signBranches.any fun row => row.2 = mnemonic then
      [(16, (target.address - address - 4) / 4), (5, numberIn Opcode.signBranches mnemonic),
        (5, rs.index), (6, numberIn Opcode.groups .signBranch)]
    else
      [(16, (target.address - address - 4) / 4), (5, 0), (5, rs.index),
        (6, numberIn Opcode.groups (.branchOne mnemonic))]
  | .immediate mnemonic rt rs value logical =>
    [(16, value), (5, rt.index), (5, rs.index),
      (6, numberIn Opcode.groups (.immediate mnemonic logical))]
  | .loadUpper rt value =>
    [(16, value), (5, rt.index), (5, 0), (6, numberIn Opcode.groups .loadUpper)]
  | .loadStore mnemonic rt base offset =>
    [(16, offset), (5, rt.index), (5, base.index),
      (6, numberIn Opcode.groups (.loadStore mnemonic))]
  | .systemMove mnemonic rt rd =>
    [(11, 0), (5, rd.index), (5, rt.index), (5, numberIn Opcode.systemMoves mnemonic),
      (6, numberIn Opcode.groups .system)]
  | .vectorMove mnemonic rt vs byte =>
    [(7, 0), (4, byte), (5, vs.index), (5, rt.index),
      (5, numberIn Opcode.vectorTransfers (.data mnemonic)), (6, numberIn Opcode.groups .vector)]
  | .controlMove mnemonic rt control =>
    [(11, 0), (5, control.index), (5, rt.index),
      (5, numberIn Opcode.vectorTransfers (.control mnemonic)), (6, numberIn Opcode.groups .vector)]
  | .vectorNop =>
    [(6, numberIn Opcode.vectorOperations .nop), (20, 0), (6, numberIn Opcode.groups .vector)]
  | .vectorCompute mnemonic vd vs vt lanes =>
    [(6, numberIn Opcode.vectorOperations (.compute mnemonic)), (5, vd.index), (5, vs.index),
      (5, vt.index), (4, laneField lanes), (1, 0), (6, numberIn Opcode.groups .vector)]
  | .vectorScalar mnemonic vd lane vt lanes =>
    [(6, numberIn Opcode.vectorOperations (.scalar mnemonic)), (5, vd.index), (5, lane),
      (5, vt.index), (4, laneField lanes), (1, 0), (6, numberIn Opcode.groups .vector)]
  | .vectorLoadStore mnemonic vt byte base offset =>
    match vectorAccesses.lookup mnemonic with
    | none => []
    | some access =>
      [(7, offset / access.unit), (4, byte), (5, access.mode), (5, vt.index), (5, base.index),
        (6, numberIn Opcode.groups access.group)]

/-- An encoded word is assembled from its fields. -/
theorem encode_eq_assembled (address : Int) (instruction : Instruction) :
    encode address instruction = assembled 0 (encodedFields address instruction) := by
  cases instruction with
  | nop => rfl
  | unsupported word =>
    simp only [encode, machineWord, encodedFields, assembled, placed, weight_zero]
    omega
  | branchOne mnemonic rs target =>
    by_cases listed : (Opcode.signBranches.any fun row => row.2 = mnemonic) = true
    · simp only [encode, branchOneOpcode, encodedFields, listed, if_true, assembled, opcode,
        placedRegister, branchField, Nat.reduceAdd]
      omega
    · simp only [encode, branchOneOpcode, encodedFields, listed, Bool.false_eq_true, if_false,
        assembled, opcode, placedRegister, branchField, placed_zero, Nat.reduceAdd]
      omega
  | vectorLoadStore mnemonic vt byte base offset =>
    cases found : vectorAccesses.lookup mnemonic with
    | none => simp only [encode, encodedFields, found, assembled]
    | some access =>
      simp only [encode, encodedFields, found, assembled, opcode, placedRegister, Nat.reduceAdd]
      omega
  | _ =>
    simp only [encode, vectorOpcode, encodedFields, assembled, opcode, placedRegister, jumpField,
      branchField, placed_zero, Nat.reduceAdd]
    omega

/-- Every field of an encoded word holds its value. -/
theorem reads_encode (address : Int) (instruction : Instruction) :
    Reads 0 (encode address instruction) (encodedFields address instruction) := by
  have whole := reads_assembled 0 (encodedFields address instruction) 0 (Int.le_refl 0) (by decide)
  rwa [Int.zero_add, ← encode_eq_assembled] at whole

end Formats

section ReadBack

variable {bit size : Nat} {word : Int}

/-- A natural number that fits into its field is read back. -/
theorem toNat_of_field {value : Int} (held : field bit size word = field 0 size value)
    (natural : 0 ≤ value) (fits : value < weight size) :
    ((field bit size word).toNat : Int) = value := by
  rw [held, toNat_field, weight_zero, Int.ediv_one]
  exact Int.emod_eq_of_lt natural fits

/-- A signed number that fits into its field is read back. -/
theorem toInt_of_field {value : Int} (held : field bit size word = field 0 size value)
    (lower : -weight size ≤ value * 2) (upper : value * 2 < weight size) :
    (field bit size word).toInt = value := by
  rw [held, toInt_field, weight_zero, Int.ediv_one]
  exact Int.bmod_eq_of_le_mul_two lower upper

/-- The number of an operation selects the operation, if its table's numbers fit into
the field. -/
theorem selects_of_field {α : Type} [DecidableEq α] {table : List (Nat × α)} {operation : α}
    (distinct : Opcode.OneToOne table) (fit : ∀ row ∈ table, row.1 < weight size)
    (named : operation ∈ table.map Prod.snd)
    (held : field bit size word = field 0 size (numberIn table operation)) :
    Selects bit size word table operation := by
  obtain ⟨⟨number, _⟩, member, rfl⟩ := List.mem_map.mp named
  rw [Opcode.numberIn_of_mem table distinct.2 number _ member] at held
  have read := toNat_of_field held (Int.natCast_nonneg number)
    (Int.ofNat_lt.mpr (fit _ member))
  rw [Selects, Int.ofNat_inj.mp read]
  exact member

/-- The opcode of a group selects the group. -/
theorem selects_group {group : Opcode.Group} (named : group ∈ Opcode.groups.map Prod.snd)
    (held : field 26 6 word = field 0 6 (numberIn Opcode.groups group)) :
    Selects 26 6 word Opcode.groups group :=
  selects_of_field Opcode.groups_one_to_one (by decide) named held

/-- A general register is read back. -/
theorem general_of_field {register : GeneralRegister}
    (held : field bit 5 word = field 0 5 register.index) :
    GeneralRegister.atBit bit word = register := by
  have bound := register.index.isLt
  have read := toNat_of_field held (Int.natCast_nonneg _) (Int.ofNat_lt.mpr bound)
  obtain ⟨index⟩ := register
  exact congrArg GeneralRegister.mk (Fin.ext (Int.ofNat_inj.mp read))

/-- A system register is read back. -/
theorem system_of_field {register : SystemRegister}
    (held : field bit 5 word = field 0 5 register.index) :
    SystemRegister.atBit? bit word = some register := by
  have bound := register.index.isLt
  have read := toNat_of_field held (Int.natCast_nonneg _)
    (Int.ofNat_lt.mpr (Nat.lt_trans bound (by decide)))
  rw [SystemRegister.atBit?, read, SystemRegister.ofInt?, dif_pos (by omega)]
  rfl

/-- A vector control register is read back. -/
theorem control_of_field {register : VectorControl}
    (held : field bit 5 word = field 0 5 register.index) :
    VectorControl.atBit? bit word = some register := by
  have bound := register.index.isLt
  have read := toNat_of_field held (Int.natCast_nonneg _)
    (Int.ofNat_lt.mpr (Nat.lt_trans bound (by decide)))
  rw [VectorControl.atBit?, read, VectorControl.ofInt?, dif_pos (by omega)]
  rfl

/-- A vector register that exists is read back. -/
theorem vector_of_field {register : VectorRegister} (natural : 0 ≤ register.index)
    (fits : register.index < 32) (held : field bit 5 word = field 0 5 register.index) :
    VectorRegister.atBit bit word = register := by
  rw [VectorRegister.atBit, toNat_of_field held natural fits]

/-- A branch reaches a target that is a signed word count away from the following
instruction, however the target wrapped. -/
theorem branch_of_field {address count : Int} {target : Symbol} (kind : target.kind = .branchTarget)
    (place : target.address = (address + 4 + 4 * count) % 0x100000000)
    (lower : -0x8000 ≤ count) (upper : count < 0x8000)
    (held : field 0 16 word = field 0 16 ((target.address - address - 4) / 4)) :
    Symbol.ofBranch word address = target := by
  have width : (weight 16 : Int) = 65536 := rfl
  have same : (target.address - address - 4) / 4 % weight 16 = count % weight 16 := by
    rw [place, width]
    omega
  have read : (field 0 16 word).toInt = count := by
    apply toInt_of_field (held.trans (field_congr 0 16 16 _ _ (by decide) same))
    · rw [width]
      omega
    · rw [width]
      omega
  obtain ⟨targetKind, targetAddress⟩ := target
  obtain rfl : targetKind = .branchTarget := kind
  rw [Symbol.ofBranch, read, ← place]

/-- A jump reaches every word of its own segment. -/
theorem jump_of_field {address : Int} {target : Symbol} (kind : target.kind = .subroutine)
    (aligned : target.address % 4 = 0)
    (segment : target.address / 0x10000000 = address / 0x10000000 % 16)
    (held : field 0 26 word = field 0 26 (target.address / 4)) :
    Symbol.ofJump word address = target := by
  have index : ((field 0 26 (target.address / 4)).toNat : Int) =
      target.address / 4 / 1 % 0x4000000 := toNat_field 0 26 (target.address / 4)
  have place : (Symbol.ofJump word address).address = target.address := by
    rw [ofJump_address, held, index]
    omega
  obtain ⟨targetKind, targetAddress⟩ := target
  obtain rfl : targetKind = .subroutine := kind
  exact congrArg (Symbol.mk .subroutine) place

end ReadBack

end Microcode.Instruction
