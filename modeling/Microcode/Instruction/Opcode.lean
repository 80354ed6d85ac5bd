/-!
# Opcode tables

Each table maps the number in a selector field to the operation it selects. The
numbers of a table are distinct, so the order of its rows does not matter, and a
number without a row selects nothing.
-/

namespace Microcode.Opcode

/-- What the function field of the register group selects. -/
inductive RegisterOperation where
  /-- Shift by a constant amount. -/
  | shiftByAmount (mnemonic : String)
  | jumpRegister
  | jumpLinkRegister
  | breakpoint
  | threeRegister (mnemonic : String)
  deriving DecidableEq

/-- Function field of primary opcode 0. -/
def registerOperations : List (Nat × RegisterOperation) := [
  (0x00, .shiftByAmount "sll"), (0x02, .shiftByAmount "srl"), (0x03, .shiftByAmount "sra"),
  (0x04, .threeRegister "sllv"), (0x06, .threeRegister "srlv"), (0x07, .threeRegister "srav"),
  (0x08, .jumpRegister), (0x09, .jumpLinkRegister), (0x0D, .breakpoint),
  (0x20, .threeRegister "add"), (0x21, .threeRegister "addu"),
  (0x22, .threeRegister "sub"), (0x23, .threeRegister "subu"),
  (0x24, .threeRegister "and"), (0x25, .threeRegister "or"),
  (0x26, .threeRegister "xor"), (0x27, .threeRegister "nor"),
  (0x2A, .threeRegister "slt"), (0x2B, .threeRegister "sltu")]

/-- Branches on the sign of a register, by the second register field of primary
opcode 1. -/
def signBranches : List (Nat × String) := [
  (0x00, "bltz"), (0x01, "bgez"), (0x10, "bltzal"), (0x11, "bgezal")]

/-- Moves of coprocessor 0, by the first register field. -/
def systemMoves : List (Nat × String) := [(0x00, "mfc0"), (0x04, "mtc0")]

/-- What the first register field of a coprocessor 2 move selects. -/
inductive VectorTransfer where
  /-- To or from a vector register. -/
  | data (mnemonic : String)
  /-- To or from a control register. -/
  | control (mnemonic : String)
  deriving DecidableEq

/-- Moves of coprocessor 2, by the first register field. -/
def vectorTransfers : List (Nat × VectorTransfer) := [
  (0x00, .data "mfc2"), (0x04, .data "mtc2"),
  (0x02, .control "cfc2"), (0x06, .control "ctc2")]

/-- What the function field of a vector operation selects. -/
inductive VectorOperation where
  /-- Combines whole registers. -/
  | compute (mnemonic : String)
  /-- Writes one lane, whose number takes the place of a source register. -/
  | scalar (mnemonic : String)
  | nop
  deriving DecidableEq

/-- Function field of a vector operation. -/
def vectorOperations : List (Nat × VectorOperation) := [
  (0x00, .compute "vmulf"), (0x01, .compute "vmulu"),
  (0x02, .compute "vrndp"), (0x03, .compute "vmulq"),
  (0x04, .compute "vmudl"), (0x05, .compute "vmudm"),
  (0x06, .compute "vmudn"), (0x07, .compute "vmudh"),
  (0x08, .compute "vmacf"), (0x09, .compute "vmacu"),
  (0x0A, .compute "vrndn"), (0x0B, .compute "vmacq"),
  (0x0C, .compute "vmadl"), (0x0D, .compute "vmadm"),
  (0x0E, .compute "vmadn"), (0x0F, .compute "vmadh"),
  (0x10, .compute "vadd"), (0x11, .compute "vsub"), (0x13, .compute "vabs"),
  (0x14, .compute "vaddc"), (0x15, .compute "vsubc"), (0x1D, .compute "vsar"),
  (0x20, .compute "vlt"), (0x21, .compute "veq"), (0x22, .compute "vne"),
  (0x23, .compute "vge"), (0x24, .compute "vcl"), (0x25, .compute "vch"),
  (0x26, .compute "vcr"), (0x27, .compute "vmrg"),
  (0x28, .compute "vand"), (0x29, .compute "vnand"), (0x2A, .compute "vor"),
  (0x2B, .compute "vnor"), (0x2C, .compute "vxor"), (0x2D, .compute "vnxor"),
  (0x30, .scalar "vrcp"), (0x31, .scalar "vrcpl"), (0x32, .compute "vrcph"),
  (0x33, .scalar "vmov"), (0x34, .scalar "vrsq"), (0x35, .scalar "vrsql"),
  (0x36, .scalar "vrsqh"), (0x37, .nop)]

/-- Addressing modes of vector loads and stores: the letter that stands between
`l` or `s` and `v`, and the size in bytes of the unit that offsets count. -/
def addressModes : List (Nat × String × Int) := [
  (0, "b", 1), (1, "s", 2), (2, "l", 4), (3, "d", 8), (4, "q", 16), (5, "r", 16),
  (6, "p", 8), (7, "u", 8), (8, "h", 16), (9, "f", 16), (10, "w", 16), (11, "t", 16)]

/-- What a primary opcode selects. -/
inductive Group where
  /-- Register operations, by function field. -/
  | register
  /-- Branches on a sign, by the second register field. -/
  | signBranch
  | jump (mnemonic : String)
  | branchTwo (mnemonic : String)
  | branchOne (mnemonic : String)
  | immediate (mnemonic : String) (logical : Bool)
  | loadUpper
  /-- Coprocessor 0. -/
  | system
  /-- Coprocessor 2. -/
  | vector
  | loadStore (mnemonic : String)
  /-- Vector loads or stores, whose mnemonics begin with the given letter. -/
  | vectorLoadStore (direction : String)
  deriving DecidableEq

/-- Primary opcodes. -/
def groups : List (Nat × Group) := [
  (0x00, .register), (0x01, .signBranch),
  (0x02, .jump "j"), (0x03, .jump "jal"),
  (0x04, .branchTwo "beq"), (0x05, .branchTwo "bne"),
  (0x06, .branchOne "blez"), (0x07, .branchOne "bgtz"),
  (0x08, .immediate "addi" false), (0x09, .immediate "addiu" false),
  (0x0A, .immediate "slti" false), (0x0B, .immediate "sltiu" false),
  (0x0C, .immediate "andi" true), (0x0D, .immediate "ori" true),
  (0x0E, .immediate "xori" true), (0x0F, .loadUpper),
  (0x10, .system), (0x12, .vector),
  (0x20, .loadStore "lb"), (0x21, .loadStore "lh"), (0x23, .loadStore "lw"),
  (0x24, .loadStore "lbu"), (0x25, .loadStore "lhu"), (0x27, .loadStore "lwu"),
  (0x28, .loadStore "sb"), (0x29, .loadStore "sh"), (0x2B, .loadStore "sw"),
  (0x32, .vectorLoadStore "l"), (0x3A, .vectorLoadStore "s")]

/-- The numbers of the primary table are distinct. -/
theorem groups_distinct : (groups.map Prod.fst).Nodup := by decide

/-- The numbers of the register function table are distinct. -/
theorem registerOperations_distinct : (registerOperations.map Prod.fst).Nodup := by decide

/-- The numbers of the vector function table are distinct. -/
theorem vectorOperations_distinct : (vectorOperations.map Prod.fst).Nodup := by decide

/-- The numbers of the addressing mode table are distinct. -/
theorem addressModes_distinct : (addressModes.map Prod.fst).Nodup := by decide

end Microcode.Opcode
