import Microcode.Register
import Microcode.Symbol

/-!
# Instructions

One constructor for each shape of operand list. Where several operations share a
shape, the mnemonic tells them apart. The type is wider than what words decode to:
numbers are unbounded and mnemonics are arbitrary, so that an instruction can be
written down and printed without being encodable.
-/

namespace Microcode

/-- An instruction with its operands, in the order in which they are named. -/
inductive Instruction where
  /-- The word zero. -/
  | nop
  /-- A word that is no instruction. -/
  | unsupported (word : Int)
  /-- Shift by a constant amount. -/
  | shiftByAmount (mnemonic : String) (rd rt : GeneralRegister) (amount : Int)
  /-- Arithmetic, logic or variable shift on three registers. -/
  | threeRegister (mnemonic : String) (rd rs rt : GeneralRegister)
  /-- Jump to the address in a register. -/
  | jumpRegister (rs : GeneralRegister)
  /-- Jump to the address in a register, keeping the return address in another. -/
  | jumpLinkRegister (rd rs : GeneralRegister)
  /-- Stop with a code. -/
  | breakpoint (code : Int)
  /-- Jump to a symbol. -/
  | jump (mnemonic : String) (target : Symbol)
  /-- Branch on a comparison of two registers. -/
  | branchTwo (mnemonic : String) (rs rt : GeneralRegister) (target : Symbol)
  /-- Branch on the sign of one register. -/
  | branchOne (mnemonic : String) (rs : GeneralRegister) (target : Symbol)
  /-- Arithmetic or logic with an immediate; a logical one shows its low sixteen
  bits in hexadecimal. -/
  | immediate (mnemonic : String) (rt rs : GeneralRegister) (value : Int) (logical : Bool)
  /-- Load the upper half of a register. -/
  | loadUpper (rt : GeneralRegister) (value : Int)
  /-- Scalar load or store. -/
  | loadStore (mnemonic : String) (rt base : GeneralRegister) (offset : Int)
  /-- Move to or from a system register. -/
  | systemMove (mnemonic : String) (rt : GeneralRegister) (rd : SystemRegister)
  /-- Move to or from a byte position of a vector register. -/
  | vectorMove (mnemonic : String) (rt : GeneralRegister) (vs : VectorRegister) (byte : Int)
  /-- Move to or from a vector control register. -/
  | controlMove (mnemonic : String) (rt : GeneralRegister) (control : VectorControl)
  /-- The vector unit's empty operation. -/
  | vectorNop
  /-- Vector operation on three registers. -/
  | vectorCompute (mnemonic : String) (vd vs vt : VectorRegister) (lanes : LaneSelector)
  /-- Vector operation that writes one lane. -/
  | vectorScalar (mnemonic : String) (vd : VectorRegister) (lane : Int) (vt : VectorRegister)
      (lanes : LaneSelector)
  /-- Vector load or store; the offset is in bytes. -/
  | vectorLoadStore (mnemonic : String) (vt : VectorRegister) (byte : Int)
      (base : GeneralRegister) (offset : Int)
  deriving DecidableEq

namespace Instruction

/-- The symbol that an instruction refers to: the target of a jump or branch. -/
def symbol? : Instruction → Option Symbol
  | .jump _ target => some target
  | .branchTwo _ _ _ target => some target
  | .branchOne _ _ target => some target
  | _ => none

end Instruction

end Microcode
