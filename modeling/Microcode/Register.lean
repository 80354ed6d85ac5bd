import Microcode.Bits
import Microcode.Text.Numeral

/-!
# Registers and lane selectors

Four register files can appear in an instruction: the scalar unit's general
registers, the system registers of coprocessor 0, the vector registers, and the
three vector control registers. The first, second and fourth hold only numbers
that exist. A vector register may carry any number, because every five-bit
number names one and a listing prints whatever it is given.

A lane selector chooses the lanes of a vector operand. `PrintStyle` says which of
the two spellings of each file a listing uses.
-/

namespace Microcode

/-- How registers are spelled. -/
structure PrintStyle where
  /-- `t0` and `v1` in place of `$8` and `$v1`. -/
  registerNames : Bool := true
  /-- `$c4` in place of `SP_STATUS`. -/
  numberedSystemNames : Bool := true
  deriving DecidableEq

/-- A general register of the scalar unit. -/
structure GeneralRegister where
  index : Fin 32
  deriving DecidableEq

namespace GeneralRegister

/-- The register of a given number, if there is one. -/
def ofInt? (number : Int) : Option GeneralRegister :=
  if bound : 0 ≤ number ∧ number < 32 then some ⟨⟨number.toNat, by omega⟩⟩ else none

/-- The register named by the five bits at `bit`. Every such number names one. -/
def atBit (bit : Nat) (word : Int) : GeneralRegister := ⟨(Bits.field bit 5 word).toFin⟩

/-- The register named by the five bits at any position. A negative position has none. -/
def read? (bit word : Int) : Option GeneralRegister :=
  (Bits.unsigned bit 5 word).toOption.bind ofInt?

/-- The link register, which receives a call's return address. -/
def link : GeneralRegister := ⟨31⟩

/-- Conventional names, in order of number. -/
def names : Vector String 32 := #v[
  "r0", "at", "v0", "v1", "a0", "a1", "a2", "a3",
  "t0", "t1", "t2", "t3", "t4", "t5", "t6", "t7",
  "s0", "s1", "s2", "s3", "s4", "s5", "s6", "s7",
  "t8", "t9", "k0", "k1", "gp", "sp", "s8", "ra"]

/-- The spelling of a general register. -/
def text (style : PrintStyle) (register : GeneralRegister) : String :=
  if style.registerNames then names.get register.index
  else "$" ++ Text.Numeral.decimal register.index

end GeneralRegister

/-- A system register of coprocessor 0. -/
structure SystemRegister where
  index : Fin 16
  deriving DecidableEq

namespace SystemRegister

/-- The register of a given number, if there is one. -/
def ofInt? (number : Int) : Option SystemRegister :=
  if bound : 0 ≤ number ∧ number < 16 then some ⟨⟨number.toNat, by omega⟩⟩ else none

/-- The register named by the five bits at `bit`; half of the numbers name none. -/
def atBit? (bit : Nat) (word : Int) : Option SystemRegister :=
  ofInt? (Bits.field bit 5 word).toNat

/-- The register named by the five bits at any position, if there is one. -/
def read? (bit word : Int) : Option SystemRegister :=
  (Bits.unsigned bit 5 word).toOption.bind ofInt?

/-- The vendor's names, in order of number. -/
def vendorNames : Vector String 16 := #v[
  "DMA_CACHE", "DMA_READ", "DMA_READ_LENGTH", "DMA_WRITE_LENGTH",
  "SP_STATUS", "DMA_FULL", "DMA_BUSY", "SP_RESERVED",
  "CMD_START", "CMD_END", "CMD_CURRENT", "CMD_STATUS",
  "CMD_CLOCK", "CMD_BUSY", "CMD_PIPE_BUSY", "CMD_TMEM_BUSY"]

/-- The spelling of a system register. -/
def text (style : PrintStyle) (register : SystemRegister) : String :=
  if style.numberedSystemNames then "$c" ++ Text.Numeral.decimal register.index
  else vendorNames.get register.index

end SystemRegister

/-- A control register of the vector unit. -/
structure VectorControl where
  index : Fin 3
  deriving DecidableEq

namespace VectorControl

/-- The register of a given number, if there is one. -/
def ofInt? (number : Int) : Option VectorControl :=
  if bound : 0 ≤ number ∧ number < 3 then some ⟨⟨number.toNat, by omega⟩⟩ else none

/-- The register named by the five bits at `bit`, if that number names one. -/
def atBit? (bit : Nat) (word : Int) : Option VectorControl :=
  ofInt? (Bits.field bit 5 word).toNat

/-- The register named by the five bits at any position, if there is one. -/
def read? (bit word : Int) : Option VectorControl :=
  (Bits.unsigned bit 5 word).toOption.bind ofInt?

/-- The carry, compare and clip registers. -/
def names : Vector String 3 := #v["vco", "vcc", "vce"]

/-- The spelling of a vector control register. -/
def text (style : PrintStyle) (register : VectorControl) : String :=
  if style.registerNames then names.get register.index
  else "$" ++ names.get register.index

end VectorControl

/-- A register of the vector unit. -/
structure VectorRegister where
  index : Int
  deriving DecidableEq

namespace VectorRegister

/-- The register named by the five bits at `bit`. -/
def atBit (bit : Nat) (word : Int) : VectorRegister := ⟨(Bits.field bit 5 word).toNat⟩

/-- The register named by the five bits at any position that can be read. -/
def read (bit word : Int) : Except Bits.FieldError VectorRegister :=
  (Bits.unsigned bit 5 word).map VectorRegister.mk

/-- The spelling of a vector register. -/
def text (style : PrintStyle) (register : VectorRegister) : String :=
  (if style.registerNames then "v" else "$v") ++ Text.Numeral.decimal register.index

end VectorRegister

/-- The grouping in which a lane selector repeats lanes. -/
inductive LaneGroup where
  /-- Every lane by itself; the index is not shown. -/
  | whole
  /-- One lane of each pair. -/
  | quarter
  /-- One lane of each group of four. -/
  | half
  /-- One lane for all. -/
  | single
  deriving DecidableEq

/-- The lanes that a vector operand supplies. -/
structure LaneSelector where
  group : LaneGroup
  index : Int := 0
  deriving DecidableEq

namespace LaneSelector

/-- The selector that a field denotes. The highest of the bits one to three that is set
gives the group, and the bits below it the index. Where none of the three is set, only zero
denotes lanes. -/
def ofField? (value : Int) : Option LaneSelector :=
  if value = 0 then some ⟨.whole, 0⟩
  else if Bits.field 1 3 value = 1 then some ⟨.quarter, (Bits.field 0 1 value).toNat⟩
  else if Bits.field 2 2 value = 1 then some ⟨.half, (Bits.field 0 2 value).toNat⟩
  else if Bits.field 3 1 value = 1 then some ⟨.single, (Bits.field 0 3 value).toNat⟩
  else none

/-- The selector in the four bits at `bit`. -/
def atBit? (bit : Nat) (word : Int) : Option LaneSelector :=
  ofField? (Bits.field bit 4 word).toNat

/-- The selector in the four bits at any position that can be read. -/
def read (bit word : Int) : Except Bits.FieldError (Option LaneSelector) :=
  (Bits.unsigned bit 4 word).map ofField?

/-- The suffix that a selector adds to its register. -/
def text (selector : LaneSelector) : String :=
  match selector.group with
  | .whole => ""
  | .quarter => "[" ++ Text.Numeral.decimal selector.index ++ "q]"
  | .half => "[" ++ Text.Numeral.decimal selector.index ++ "h]"
  | .single => "[" ++ Text.Numeral.decimal selector.index ++ "]"

end LaneSelector

end Microcode
