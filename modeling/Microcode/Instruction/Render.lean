import Microcode.Instruction

/-!
# Printing instructions

An instruction is printed as its head, a space, and its operands parted by commas.
Heads and operand lists do not depend on the print style. Only the spelling of
the registers in an operand does.
-/

namespace Microcode

/-- An operand as it appears in print. -/
inductive Operand where
  | general (register : GeneralRegister)
  | system (register : SystemRegister)
  | control (register : VectorControl)
  | vector (register : VectorRegister)
  /-- A vector register with the lanes it supplies, as in `v3[1q]`. -/
  | selected (register : VectorRegister) (lanes : LaneSelector)
  /-- One position of a vector register, as in `v3[5]`. -/
  | position (register : VectorRegister) (index : Int)
  /-- A decimal number. -/
  | decimal (value : Int)
  /-- A hexadecimal number; the marker stands in front of any sign. -/
  | hexadecimal (value : Int)
  /-- A memory operand, as in `-0x4(sp)`. -/
  | memory (offset : Int) (base : GeneralRegister)
  | target (symbol : Symbol)
  deriving DecidableEq

/-- The spelling of an operand. -/
def Operand.text (style : PrintStyle) : Operand → String
  | .general register => register.text style
  | .system register => register.text style
  | .control register => register.text style
  | .vector register => register.text style
  | .selected register lanes => register.text style ++ lanes.text
  | .position register index =>
    register.text style ++ "[" ++ Text.Numeral.decimal index ++ "]"
  | .decimal value => Text.Numeral.decimal value
  | .hexadecimal value => "0x" ++ Text.Numeral.lowerHex value
  | .memory offset base => Text.Numeral.signedHex offset ++ "(" ++ base.text style ++ ")"
  | .target symbol => symbol.name

namespace Instruction

/-- The mnemonics whose second source, the shift count, is printed last. -/
def variableShifts : List String := ["sllv", "srlv", "srav"]

/-- What an instruction is printed as, apart from its operands. -/
def head : Instruction → String
  | .nop => "nop"
  | .unsupported word => "; unrecognized op [" ++ Text.Numeral.word word ++ "]"
  | .shiftByAmount mnemonic _ _ _ => mnemonic
  | .threeRegister mnemonic _ _ _ => mnemonic
  | .jumpRegister _ => "jr"
  | .jumpLinkRegister _ _ => "jalr"
  | .breakpoint _ => "break"
  | .jump mnemonic _ => mnemonic
  | .branchTwo mnemonic _ _ _ => mnemonic
  | .branchOne mnemonic _ _ => mnemonic
  | .immediate mnemonic _ _ _ _ => mnemonic
  | .loadUpper _ _ => "lui"
  | .loadStore mnemonic _ _ _ => mnemonic
  | .systemMove mnemonic _ _ => mnemonic
  | .vectorMove mnemonic _ _ _ => mnemonic
  | .controlMove mnemonic _ _ => mnemonic
  | .vectorNop => "vnop"
  | .vectorCompute mnemonic _ _ _ _ => mnemonic
  | .vectorScalar mnemonic _ _ _ _ => mnemonic
  | .vectorLoadStore mnemonic _ _ _ _ => mnemonic

/-- The operands in print order: the destination first, and a call through a
register names the register that keeps the return address only if it is not the
link register. -/
def operands : Instruction → List Operand
  | .nop => []
  | .unsupported _ => []
  | .shiftByAmount _ rd rt amount => [.general rd, .general rt, .decimal amount]
  | .threeRegister mnemonic rd rs rt =>
    if mnemonic ∈ variableShifts then [.general rd, .general rt, .general rs]
    else [.general rd, .general rs, .general rt]
  | .jumpRegister rs => [.general rs]
  | .jumpLinkRegister rd rs =>
    if rd = GeneralRegister.link then [.general rs] else [.general rd, .general rs]
  | .breakpoint code => [.decimal code]
  | .jump _ target => [.target target]
  | .branchTwo _ rs rt target => [.general rs, .general rt, .target target]
  | .branchOne _ rs target => [.general rs, .target target]
  | .immediate _ rt rs value logical =>
    [.general rt, .general rs,
      if logical then .hexadecimal (value % 0x10000) else .decimal value]
  | .loadUpper rt value => [.general rt, .hexadecimal value]
  | .loadStore _ rt base offset => [.general rt, .memory offset base]
  | .systemMove _ rt rd => [.general rt, .system rd]
  | .vectorMove _ rt vs byte => [.general rt, .position vs byte]
  | .controlMove _ rt control => [.general rt, .control control]
  | .vectorNop => []
  | .vectorCompute _ vd vs vt lanes => [.vector vd, .vector vs, .selected vt lanes]
  | .vectorScalar _ vd lane vt lanes => [.position vd lane, .selected vt lanes]
  | .vectorLoadStore _ vt byte base offset => [.position vt byte, .memory offset base]

/-- A head and its operands on one line. -/
def assemble (head : String) : List String → String
  | [] => head
  | operands => head ++ " " ++ ", ".intercalate operands

/-- The text of an instruction. -/
def render (style : PrintStyle) (instruction : Instruction) : String :=
  assemble instruction.head (instruction.operands.map (Operand.text style))

end Instruction

end Microcode
