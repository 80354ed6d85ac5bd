import Microcode.Instruction.Decode

/-!
# Encoding

The word of an instruction at an address, with zeros in all bits that the
instruction does not depend on. An instruction that no word denotes is encoded all the
same: fields are cut to their width, and a mnemonic that no table holds gets the
number zero.

`ignoredFields` lists the bits that decoding passes over, and `significant` clears
them. Encoding a decoded word gives back its significant bits.
-/

namespace Microcode.Instruction

open Microcode.Bits

/-- A value placed in the `size` bits that start at `bit`. -/
def placed (bit size : Nat) (value : Int) : Int := weight bit * (field 0 size value).toNat

/-- The number that selects an operation in a table. -/
def numberIn {α : Type} [DecidableEq α] (table : List (Nat × α)) (operation : α) : Int :=
  ((table.find? fun row => row.2 = operation).map fun row => (row.1 : Int)).getD 0

/-- The primary opcode of a group, in its place. -/
def opcode (group : Opcode.Group) : Int := placed 26 6 (numberIn Opcode.groups group)

/-- A general register in its place. -/
def placedRegister (bit : Nat) (register : GeneralRegister) : Int :=
  placed bit 5 register.index

/-- The word index of a jump. -/
def jumpField (target : Symbol) : Int := placed 0 26 (target.address / 4)

/-- The word count of a branch at an address. -/
def branchField (address : Int) (target : Symbol) : Int :=
  placed 0 16 ((target.address - address - 4) / 4)

/-- The field value of a lane selector. -/
def laneField (lanes : LaneSelector) : Int :=
  match lanes.group with
  | .whole => 0
  | .quarter => 2 + lanes.index
  | .half => 4 + lanes.index
  | .single => 8 + lanes.index

/-- A vector load or store: its primary opcode, addressing mode and unit. -/
structure VectorAccess where
  group : Opcode.Group
  mode : Nat
  unit : Int

/-- The vector loads and stores by mnemonic. -/
def vectorAccesses : List (String × VectorAccess) :=
  ["l", "s"].flatMap fun direction =>
    Opcode.addressModes.map fun (mode, letter, unit) =>
      (direction ++ letter ++ "v", ⟨.vectorLoadStore direction, mode, unit⟩)

/-- The primary opcode and selector of a branch on one register. -/
def branchOneOpcode (mnemonic : String) : Int :=
  if Opcode.signBranches.any fun row => row.2 = mnemonic then
    opcode .signBranch + placed 16 5 (numberIn Opcode.signBranches mnemonic)
  else opcode (.branchOne mnemonic)

/-- A vector operation: coprocessor 2 with the topmost selector bit clear. -/
def vectorOpcode (operation : Opcode.VectorOperation) : Int :=
  opcode .vector + placed 0 6 (numberIn Opcode.vectorOperations operation)

/-- The word of an instruction at an address. -/
def encode (address : Int) : Instruction → Int
  | .nop => 0
  | .unsupported word => machineWord word
  | .shiftByAmount mnemonic rd rt amount =>
    opcode .register + placedRegister 16 rt + placedRegister 11 rd + placed 6 5 amount
      + placed 0 6 (numberIn Opcode.registerOperations (.shiftByAmount mnemonic))
  | .threeRegister mnemonic rd rs rt =>
    opcode .register + placedRegister 21 rs + placedRegister 16 rt + placedRegister 11 rd
      + placed 0 6 (numberIn Opcode.registerOperations (.threeRegister mnemonic))
  | .jumpRegister rs =>
    opcode .register + placedRegister 21 rs
      + placed 0 6 (numberIn Opcode.registerOperations .jumpRegister)
  | .jumpLinkRegister rd rs =>
    opcode .register + placedRegister 21 rs + placedRegister 11 rd
      + placed 0 6 (numberIn Opcode.registerOperations .jumpLinkRegister)
  | .breakpoint code =>
    opcode .register + placed 6 20 code
      + placed 0 6 (numberIn Opcode.registerOperations .breakpoint)
  | .jump mnemonic target => opcode (.jump mnemonic) + jumpField target
  | .branchTwo mnemonic rs rt target =>
    opcode (.branchTwo mnemonic) + placedRegister 21 rs + placedRegister 16 rt
      + branchField address target
  | .branchOne mnemonic rs target =>
    branchOneOpcode mnemonic + placedRegister 21 rs + branchField address target
  | .immediate mnemonic rt rs value logical =>
    opcode (.immediate mnemonic logical) + placedRegister 21 rs + placedRegister 16 rt
      + placed 0 16 value
  | .loadUpper rt value => opcode .loadUpper + placedRegister 16 rt + placed 0 16 value
  | .loadStore mnemonic rt base offset =>
    opcode (.loadStore mnemonic) + placedRegister 21 base + placedRegister 16 rt
      + placed 0 16 offset
  | .systemMove mnemonic rt rd =>
    opcode .system + placed 21 5 (numberIn Opcode.systemMoves mnemonic)
      + placedRegister 16 rt + placed 11 5 rd.index
  | .vectorMove mnemonic rt vs byte =>
    opcode .vector + placed 21 5 (numberIn Opcode.vectorTransfers (.data mnemonic))
      + placedRegister 16 rt + placed 11 5 vs.index + placed 7 4 byte
  | .controlMove mnemonic rt control =>
    opcode .vector + placed 21 5 (numberIn Opcode.vectorTransfers (.control mnemonic))
      + placedRegister 16 rt + placed 11 5 control.index
  | .vectorNop => vectorOpcode .nop
  | .vectorCompute mnemonic vd vs vt lanes =>
    vectorOpcode (.compute mnemonic) + placed 21 4 (laneField lanes) + placed 16 5 vt.index
      + placed 11 5 vs.index + placed 6 5 vd.index
  | .vectorScalar mnemonic vd lane vt lanes =>
    vectorOpcode (.scalar mnemonic) + placed 21 4 (laneField lanes) + placed 16 5 vt.index
      + placed 11 5 lane + placed 6 5 vd.index
  | .vectorLoadStore mnemonic vt byte base offset =>
    match vectorAccesses.lookup mnemonic with
    | none => 0
    | some access =>
      opcode access.group + placedRegister 21 base + placed 16 5 vt.index
        + placed 11 5 access.mode + placed 7 4 byte + placed 0 7 (offset / access.unit)

/-- The fields that decoding passes over, each as its lowest bit and its width. -/
def ignoredFields : Instruction → List (Nat × Nat)
  | .shiftByAmount .. => [(21, 5)]
  | .loadUpper .. => [(21, 5)]
  | .threeRegister .. => [(6, 5)]
  | .jumpRegister .. => [(6, 15)]
  | .jumpLinkRegister .. => [(16, 5), (6, 5)]
  | .branchOne mnemonic _ _ =>
    if Opcode.signBranches.any fun row => row.2 = mnemonic then [] else [(16, 5)]
  | .systemMove .. => [(0, 11)]
  | .vectorCompute .. => [(25, 1)]
  | .vectorScalar .. => [(25, 1)]
  | .vectorNop => [(6, 20)]
  | _ => []

/-- A word with zeros in one field. -/
def clearField (word : Int) (position : Nat × Nat) : Int :=
  word - weight position.1 * (field position.1 position.2 word).toNat

/-- The bits of a word that the instruction depends on. -/
def significant (instruction : Instruction) (word : Int) : Int :=
  instruction.ignoredFields.foldl clearField (machineWord word)

end Microcode.Instruction
