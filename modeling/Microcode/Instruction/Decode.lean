import Microcode.Instruction
import Microcode.Instruction.Opcode

/-!
# Decoding

A word is taken modulo `2 ^ 32`. Its primary opcode selects a group, and the group
selects the shape from further fields. Decoding is total: a word whose fields
select nothing, or that names a register or lane group that does not exist,
decodes to `unsupported`. Addresses matter only to jumps and branches, and only
modulo `2 ^ 32`.
-/

namespace Microcode.Instruction

open Microcode.Bits

/-- Register group: the low six bits select the operation. -/
def decodeRegister (word : Int) : Option Instruction :=
  let rs := GeneralRegister.atBit 21 word
  let rt := GeneralRegister.atBit 16 word
  let rd := GeneralRegister.atBit 11 word
  (Opcode.registerOperations.lookup (field 0 6 word).toNat).map fun
    | .shiftByAmount mnemonic => .shiftByAmount mnemonic rd rt (field 6 5 word).toNat
    | .jumpRegister => .jumpRegister rs
    | .jumpLinkRegister => .jumpLinkRegister rd rs
    | .breakpoint => .breakpoint (field 6 20 word).toNat
    | .threeRegister mnemonic => .threeRegister mnemonic rd rs rt

/-- Branches on a sign: the second register field selects the condition. -/
def decodeSignBranch (word address : Int) : Option Instruction :=
  (Opcode.signBranches.lookup (field 16 5 word).toNat).map fun mnemonic =>
    .branchOne mnemonic (GeneralRegister.atBit 21 word) (Symbol.ofBranch word address)

/-- Coprocessor 0: the first register field selects the direction. -/
def decodeSystem (word : Int) : Option Instruction := do
  let mnemonic ← Opcode.systemMoves.lookup (field 21 5 word).toNat
  let rd ← SystemRegister.atBit? 11 word
  return .systemMove mnemonic (GeneralRegister.atBit 16 word) rd

/-- Coprocessor 2 moves: the first register field selects what is moved. -/
def decodeVectorTransfer (word : Int) : Option Instruction := do
  let rt := GeneralRegister.atBit 16 word
  match ← Opcode.vectorTransfers.lookup (field 21 5 word).toNat with
  | .data mnemonic =>
    return .vectorMove mnemonic rt (VectorRegister.atBit 11 word) (field 7 4 word).toNat
  | .control mnemonic =>
    return .controlMove mnemonic rt (← VectorControl.atBit? 11 word)

/-- Vector operations: the low six bits select the operation. The empty operation
accepts any lane field. -/
def decodeVectorOperation (word : Int) : Option Instruction := do
  let vd := VectorRegister.atBit 6 word
  let vt := VectorRegister.atBit 16 word
  match ← Opcode.vectorOperations.lookup (field 0 6 word).toNat with
  | .nop => return .vectorNop
  | .scalar mnemonic =>
    return .vectorScalar mnemonic vd (field 11 5 word).toNat vt (← LaneSelector.atBit? 21 word)
  | .compute mnemonic =>
    return .vectorCompute mnemonic vd (VectorRegister.atBit 11 word) vt
      (← LaneSelector.atBit? 21 word)

/-- Coprocessor 2: a move exactly when the low eleven bits are all zero. -/
def decodeVector (word : Int) : Option Instruction :=
  if field 0 11 word = 0 then decodeVectorTransfer word else decodeVectorOperation word

/-- Vector loads and stores: the third register field selects the addressing mode,
whose unit scales the signed offset. -/
def decodeVectorLoadStore (direction : String) (word : Int) : Option Instruction :=
  (Opcode.addressModes.lookup (field 11 5 word).toNat).map fun (letter, unit) =>
    .vectorLoadStore (direction ++ letter ++ "v") (VectorRegister.atBit 16 word)
      (field 7 4 word).toNat (GeneralRegister.atBit 21 word) ((field 0 7 word).toInt * unit)

/-- The instruction that a word of a group denotes. -/
def decodeGroup (word address : Int) : Opcode.Group → Option Instruction
  | .register => decodeRegister word
  | .signBranch => decodeSignBranch word address
  | .jump mnemonic => some (.jump mnemonic (Symbol.ofJump word address))
  | .branchTwo mnemonic => some (.branchTwo mnemonic (GeneralRegister.atBit 21 word)
      (GeneralRegister.atBit 16 word) (Symbol.ofBranch word address))
  | .branchOne mnemonic => some (.branchOne mnemonic (GeneralRegister.atBit 21 word)
      (Symbol.ofBranch word address))
  | .immediate mnemonic logical => some (.immediate mnemonic (GeneralRegister.atBit 16 word)
      (GeneralRegister.atBit 21 word) (field 0 16 word).toInt logical)
  | .loadUpper => some (.loadUpper (GeneralRegister.atBit 16 word) (field 0 16 word).toNat)
  | .system => decodeSystem word
  | .vector => decodeVector word
  | .loadStore mnemonic => some (.loadStore mnemonic (GeneralRegister.atBit 16 word)
      (GeneralRegister.atBit 21 word) (field 0 16 word).toInt)
  | .vectorLoadStore direction => decodeVectorLoadStore direction word

/-- The instruction in a non-zero word, if its fields select one. -/
def decode? (word address : Int) : Option Instruction :=
  (Opcode.groups.lookup (field 26 6 word).toNat).bind (decodeGroup word address)

/-- The low 32 bits of a word. -/
def machineWord (word : Int) : Int := (field 0 32 word).toNat

/-- The instruction that a word denotes at an address. -/
def decode (word address : Int) : Instruction :=
  if machineWord word = 0 then .nop
  else (decode? (machineWord word) address).getD (.unsupported (machineWord word))

end Microcode.Instruction
