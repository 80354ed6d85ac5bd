import Microcode.Bits
import Microcode.Text.Numeral

/-!
# Symbols

A symbol is an address that a control transfer refers to. A jump makes its target
a subroutine entry, which is visible everywhere; a branch makes its target a
label inside the routine it stands in. The two kinds are spelled differently, so
both may be attached to one address.

Targets computed from a word and its address lie below `2 ^ 32`, but a symbol may
be given any integer as its address.
-/

namespace Microcode

/-- What kind of transfer refers to an address. -/
inductive SymbolKind where
  /-- A jump target: a global label. -/
  | subroutine
  /-- A branch target: a local label. -/
  | branchTarget
  deriving DecidableEq

namespace SymbolKind

/-- The word that reports use for the kind. -/
def tag : SymbolKind → String
  | .subroutine => "global"
  | .branchTarget => "local"

/-- The kind of a given tag, if it is one. -/
def ofTag? (text : String) : Option SymbolKind :=
  if text = "global" then some .subroutine
  else if text = "local" then some .branchTarget
  else none

/-- What a label of this kind begins with. -/
def marker : SymbolKind → String
  | .subroutine => "subr_"
  | .branchTarget => "@L"

end SymbolKind

/-- A labelled address. -/
structure Symbol where
  kind : SymbolKind
  address : Int
  deriving DecidableEq

namespace Symbol

/-- The target of a jump: a word index inside the 256 MB segment that holds the
jump itself. -/
def ofJump (word address : Int) : Symbol where
  kind := .subroutine
  address := 0x10000000 * (Bits.field 28 4 address).toNat + 4 * (Bits.field 0 26 word).toNat

/-- The target of a branch: a signed count of words from the following
instruction, modulo the size of the address space. -/
def ofBranch (word address : Int) : Symbol where
  kind := .branchTarget
  address := (address + 4 + 4 * (Bits.field 0 16 word).toInt) % 0x100000000

/-- The label text. -/
def name (symbol : Symbol) : String := symbol.kind.marker ++ Text.Numeral.word symbol.address

end Symbol

end Microcode
