import Microcode.Proofs.ListingLines
import Microcode.Proofs.ListingRows
import Microcode.Proofs.OpcodeRows

/-!
# Relocation

Loading a buffer elsewhere moves its listing. A branch counts from its own address, so
its target moves with it by any shift. A jump names a place in the segment of 256 MB
that holds it, so its target moves with it by whole segments only. All addresses wrap at
`2 ^ 32`, and so does the shift.

The targets and the addresses of rows lie in the address space, where a shift is
one-to-one. Hence a symbol has the address of a row before the shift exactly if it has
it afterwards, and the labels stay in front of the same rows, wherever the buffer crosses
the end of a segment or of the address space.
-/

namespace Microcode

open Bits

section Moves

/-- The address behind a shift of the address space. -/
def movedAddress (shift address : Int) : Int := (address + shift) % 0x100000000

namespace Symbol

/-- The symbol behind a shift of the address space. -/
def moved (shift : Int) (symbol : Symbol) : Symbol :=
  { symbol with address := movedAddress shift symbol.address }

/-- The address of the symbol lies in the address space. -/
def InSpace (symbol : Symbol) : Prop := 0 ≤ symbol.address ∧ symbol.address < 0x100000000

/-- A shift is one-to-one on the address space. -/
theorem moved_injective (shift : Int) {left right : Symbol} (leftInside : left.InSpace)
    (rightInside : right.InSpace) (same : left.moved shift = right.moved shift) :
    left = right := by
  obtain ⟨leftKind, leftAddress⟩ := left
  obtain ⟨rightKind, rightAddress⟩ := right
  obtain ⟨rfl, addresses⟩ := Symbol.mk.inj same
  simp only [movedAddress] at addresses
  simp only [InSpace] at leftInside rightInside
  have places : leftAddress = rightAddress := by omega
  rw [places]

/-- A shift by nothing keeps the address space as it is. -/
theorem moved_zero {symbol : Symbol} (inside : symbol.InSpace) : symbol.moved 0 = symbol := by
  obtain ⟨kind, address⟩ := symbol
  simp only [InSpace] at inside
  have place : movedAddress 0 address = address := by
    unfold movedAddress
    omega
  rw [moved, place]

/-- The target of a jump lies in the address space. -/
theorem inSpace_ofJump (word address : Int) : (ofJump word address).InSpace := by
  have bound : ((field 0 26 word).toNat : Int) < 0x4000000 := toNat_field_lt 0 26 word
  rw [InSpace, Instruction.ofJump_address]
  omega

/-- The target of a branch lies in the address space. -/
theorem inSpace_ofBranch (word address : Int) : (ofBranch word address).InSpace := by
  simp only [InSpace, ofBranch]
  omega

/-- The target of a jump moves with it by whole segments. -/
theorem ofJump_moved (word : Int) {address place shift : Int} (segments : 0x10000000 ∣ shift)
    (congruent : place % 0x100000000 = (address + shift) % 0x100000000) :
    ofJump word place = (ofJump word address).moved shift := by
  obtain ⟨count, rfl⟩ := segments
  have bound : ((field 0 26 word).toNat : Int) < 0x4000000 := toNat_field_lt 0 26 word
  have addresses : (ofJump word place).address =
      movedAddress (0x10000000 * count) (ofJump word address).address := by
    rw [movedAddress, Instruction.ofJump_address, Instruction.ofJump_address]
    omega
  exact congrArg (Symbol.mk .subroutine) addresses

/-- The target of a branch moves with it. -/
theorem ofBranch_moved (word : Int) {address place shift : Int}
    (congruent : place % 0x100000000 = (address + shift) % 0x100000000) :
    ofBranch word place = (ofBranch word address).moved shift := by
  have addresses : (ofBranch word place).address =
      movedAddress shift (ofBranch word address).address := by
    simp only [ofBranch, movedAddress]
    omega
  exact congrArg (Symbol.mk .branchTarget) addresses

end Symbol

end Moves

namespace Instruction

section Decoding

/-- The instruction behind a shift of the address space: only targets are addresses. -/
def moved (shift : Int) : Instruction → Instruction
  | .jump mnemonic target => .jump mnemonic (target.moved shift)
  | .branchTwo mnemonic rs rt target => .branchTwo mnemonic rs rt (target.moved shift)
  | .branchOne mnemonic rs target => .branchOne mnemonic rs (target.moved shift)
  | instruction => instruction

/-- A word with the opcode of a jump: `j` or `jal`. -/
def JumpWord (word : Int) : Prop := (field 26 6 word).toNat ∈ [2, 3]

instance (word : Int) : Decidable (JumpWord word) := inferInstanceAs (Decidable (_ ∈ _))

/-- The instruction in a word moves with its address: jumps do by whole segments, and
all other words by any shift. -/
def Movable (shift word : Int) : Prop := JumpWord word → 0x10000000 ∣ shift

/-- A shift moves the symbol of an instruction. -/
theorem symbol?_moved (shift : Int) (instruction : Instruction) :
    (instruction.moved shift).symbol? = instruction.symbol?.map (Symbol.moved shift) := by
  cases instruction <;> rfl

/-- A shift by nothing keeps an instruction whose target lies in the address space. -/
theorem moved_zero {instruction : Instruction}
    (inside : ∀ symbol, instruction.symbol? = some symbol → symbol.InSpace) :
    instruction.moved 0 = instruction := by
  cases instruction with
  | jump mnemonic target => rw [moved, Symbol.moved_zero (inside target rfl)]
  | branchTwo mnemonic rs rt target => rw [moved, Symbol.moved_zero (inside target rfl)]
  | branchOne mnemonic rs target => rw [moved, Symbol.moved_zero (inside target rfl)]
  | _ => rfl

/-- The opcodes that select a jump are those of jumps. -/
theorem jumpWord_of_group {word : Int} {mnemonic : String}
    (group : Selects 26 6 word Opcode.groups (.jump mnemonic)) : JumpWord word := by
  have table : ∀ entry ∈ Opcode.groups, ∀ name, entry.2 = .jump name → entry.1 ∈ [2, 3] := by
    simp [Opcode.groups]
  exact table _ group mnemonic rfl

/-- Every rule moves with the address. -/
theorem Denotes.moved {word address place shift : Int} {instruction : Instruction}
    (denoted : Denotes word address instruction) (movable : Movable shift word)
    (congruent : place % 0x100000000 = (address + shift) % 0x100000000) :
    Denotes word place (instruction.moved shift) := by
  cases denoted with
  | jump group =>
    have segments := movable (jumpWord_of_group group)
    rw [Instruction.moved, ← Symbol.ofJump_moved word segments congruent]
    exact .jump group
  | signBranch group condition =>
    rw [Instruction.moved, ← Symbol.ofBranch_moved word congruent]
    exact .signBranch group condition
  | branchTwo group =>
    rw [Instruction.moved, ← Symbol.ofBranch_moved word congruent]
    exact .branchTwo group
  | branchOne group =>
    rw [Instruction.moved, ← Symbol.ofBranch_moved word congruent]
    exact .branchOne group
  | shiftByAmount group operation => exact .shiftByAmount group operation
  | threeRegister group operation => exact .threeRegister group operation
  | jumpRegister group operation => exact .jumpRegister group operation
  | jumpLinkRegister group operation => exact .jumpLinkRegister group operation
  | breakpoint group operation => exact .breakpoint group operation
  | immediate group => exact .immediate group
  | loadUpper group => exact .loadUpper group
  | loadStore group => exact .loadStore group
  | systemMove group direction register => exact .systemMove group direction register
  | vectorMove group transfer direction => exact .vectorMove group transfer direction
  | controlMove group transfer direction register =>
    exact .controlMove group transfer direction register
  | vectorNop group compute operation => exact .vectorNop group compute operation
  | vectorCompute group compute operation selector =>
    exact .vectorCompute group compute operation selector
  | vectorScalar group compute operation selector =>
    exact .vectorScalar group compute operation selector
  | vectorLoadStore group mode => exact .vectorLoadStore group mode

/-- A word is decoded elsewhere to the moved instruction. -/
theorem decode_moved {word address place shift : Int} (movable : Movable shift word)
    (congruent : place % 0x100000000 = (address + shift) % 0x100000000) :
    decode word place = (decode word address).moved shift := by
  have machine : Movable shift (machineWord word) := by
    intro jump
    apply movable
    rwa [JumpWord, field_machineWord 26 6 word (by decide)] at jump
  rcases decode_cases word address with ⟨zero, empty⟩ | ⟨nonzero, denoted⟩ |
    ⟨nonzero, unknown, kept⟩
  · rw [empty, decode, if_pos zero]
    rfl
  · exact (denoted.moved machine congruent).decode_eq nonzero
  · -- Whether a rule applies does not depend on the address.
    have elsewhere : ¬ ∃ instruction, Denotes (machineWord word) place instruction := by
      rw [OpcodeRow.exists_denotes_iff, ← OpcodeRow.exists_denotes_iff _ address]
      rintro ⟨instruction, denoted⟩
      exact unknown instruction denoted
    rcases decode_cases word place with ⟨zero, _⟩ | ⟨_, denoted⟩ | ⟨_, _, keptThere⟩
    · exact absurd zero nonzero
    · exact absurd ⟨_, denoted⟩ elsewhere
    · rw [kept, keptThere]
      rfl

/-- The targets that the rules give lie in the address space. -/
theorem Denotes.inSpace {word address : Int} {instruction : Instruction} {symbol : Symbol}
    (denoted : Denotes word address instruction) (refers : instruction.symbol? = some symbol) :
    symbol.InSpace := by
  cases denoted with
  | jump group =>
    cases refers
    exact Symbol.inSpace_ofJump word address
  | signBranch group condition =>
    cases refers
    exact Symbol.inSpace_ofBranch word address
  | branchTwo group | branchOne group =>
    cases refers
    exact Symbol.inSpace_ofBranch word address
  | _ => exact nomatch refers

/-- The targets of decoded words lie in the address space. -/
theorem inSpace_of_decode (word address : Int) (symbol : Symbol)
    (refers : (decode word address).symbol? = some symbol) : symbol.InSpace := by
  rcases decode_cases word address with ⟨_, empty⟩ | ⟨_, denoted⟩ | ⟨_, _, kept⟩
  · rw [empty] at refers
    exact nomatch refers
  · exact denoted.inSpace refers
  · rw [kept] at refers
    exact nomatch refers

/-- Decoding depends on the word and on the address only modulo the size of the address
space. -/
theorem decode_congr {word other address place : Int}
    (words : word % 0x100000000 = other % 0x100000000)
    (addresses : address % 0x100000000 = place % 0x100000000) :
    decode word address = decode other place := by
  have machine : machineWord word = machineWord other := by
    rw [machineWord_eq_emod, machineWord_eq_emod, words]
  have here : decode word address = decode other address := by
    rw [decode, machine, decode]
  have there : decode other address = (decode other place).moved 0 := by
    apply decode_moved
    · intro _
      exact Int.dvd_zero _
    · rw [addresses, Int.add_zero]
  rw [here, there, moved_zero (inSpace_of_decode other place)]

end Decoding

end Instruction

namespace Listing

section Statement

/-- The row behind a shift of the address space; its word stays. -/
def Row.moved (shift : Int) (row : Row) : Row where
  address := movedAddress shift row.address
  word := row.word
  instruction := row.instruction.moved shift

/-- The line behind a shift of the address space. -/
def Line.moved (shift : Int) : Line → Line
  | .blank => .blank
  | .label symbol => .label (symbol.moved shift)
  | .instruction row => .instruction (row.moved shift)

/-- The kinds of lines. -/
inductive LineKind where
  | blank
  | label
  | instruction
  deriving DecidableEq

/-- The kind of a printed line, which shows in its first character. -/
def LineKind.ofText (text : String) : LineKind :=
  match text.toList.head? with
  | none => .blank
  | some '/' => .instruction
  | some _ => .label

/-- Printed lines of rows and of the same rows behind a shift: the latter have the same
number and kinds of lines, and are the former with every address moved. -/
structure Relocated (style : PrintStyle) (rows : List Row) (shift : Int)
    (before after : List String) : Prop where
  /-- The lines before the shift are those of the rows. -/
  origin : before = (layout rows).map (Line.text style)
  /-- The lines after the shift are the same lines with their addresses moved. -/
  replaced : after = ((layout rows).map (Line.moved shift)).map (Line.text style)
  /-- There are as many lines, of the same kinds. -/
  kinds : after.map LineKind.ofText = before.map LineKind.ofText

end Statement

section Rows

/-- Address and target of a row lie in the address space. -/
structure Row.InSpace (row : Row) : Prop where
  address : 0 ≤ row.address ∧ row.address < 0x100000000
  target : ∀ symbol, row.instruction.symbol? = some symbol → symbol.InSpace

/-- The rows of a buffer lie in the address space. -/
theorem inSpace_of_mem_rowsFrom (base : Int) (words : List Int) (row : Row)
    (member : row ∈ rowsFrom base words) : row.InSpace := by
  obtain ⟨address, word, -, rfl⟩ := exists_word_of_mem_rowsFrom base words row member
  constructor
  · simp only [Row.read]
    omega
  · exact Instruction.inSpace_of_decode word _

/-- A word that moves with its address gives the moved row. -/
theorem read_moved {shift word : Int} (movable : Instruction.Movable shift word) (address : Int) :
    Row.read (address + shift) word = (Row.read address word).moved shift := by
  have place : (address + shift) % 0x100000000 =
      movedAddress shift (address % 0x100000000) := by
    unfold movedAddress
    omega
  have instruction : Instruction.decode word ((address + shift) % 0x100000000) =
      (Instruction.decode word (address % 0x100000000)).moved shift := by
    apply Instruction.decode_moved movable
    omega
  rw [Row.read, instruction, place]
  rfl

/-- Words that move with their addresses give the moved rows. -/
theorem rowsFrom_moved {shift : Int} (words : List Int)
    (movable : ∀ word ∈ words, Instruction.Movable shift word) (base : Int) :
    rowsFrom (base + shift) words = (rowsFrom base words).map (Row.moved shift) := by
  induction words generalizing base with
  | nil => rfl
  | cons word rest inductionHypothesis =>
    have next : base + shift + 4 = base + 4 + shift := by omega
    have later := inductionHypothesis (fun other member => movable other (.tail _ member))
      (base + 4)
    rw [rowsFrom, rowsFrom, List.map_cons, read_moved (movable word (.head _)), next, later]

end Rows

section Labels

/-- The table of moved rows has the moved symbols, and of the address space no others. -/
theorem mem_symbols_moved (shift : Int) {rows : List Row} (inside : ∀ row ∈ rows, row.InSpace)
    {symbol : Symbol} (placed : symbol.InSpace) :
    symbol.moved shift ∈ symbols (rows.map (Row.moved shift)) ↔ symbol ∈ symbols rows := by
  rw [mem_symbols_iff, mem_symbols_iff]
  constructor
  · rintro ⟨_, member, refers⟩
    obtain ⟨row, present, rfl⟩ := List.mem_map.mp member
    rw [Row.moved, Instruction.symbol?_moved] at refers
    obtain ⟨target, found, same⟩ := Option.map_eq_some_iff.mp refers
    have equal := Symbol.moved_injective shift ((inside row present).target target found)
      placed same
    exact ⟨row, present, equal ▸ found⟩
  · rintro ⟨row, present, refers⟩
    refine ⟨row.moved shift, List.mem_map_of_mem present, ?_⟩
    rw [Row.moved, Instruction.symbol?_moved, refers]
    rfl

/-- The labels at a moved address are the moved labels. -/
theorem labelsAt_moved (shift : Int) {rows : List Row} (inside : ∀ row ∈ rows, row.InSpace)
    {address : Int} (placed : 0 ≤ address ∧ address < 0x100000000) :
    (symbols (rows.map (Row.moved shift))).labelsAt (movedAddress shift address) =
      ((symbols rows).labelsAt address).map (Symbol.moved shift) := by
  have moved : [Symbol.mk .subroutine (movedAddress shift address),
      Symbol.mk .branchTarget (movedAddress shift address)] =
      [Symbol.mk .subroutine address, Symbol.mk .branchTarget address].map
        (Symbol.moved shift) := rfl
  rw [SymbolTable.labelsAt, SymbolTable.labelsAt, moved, List.filter_map]
  congr 1
  apply List.filter_congr
  intro symbol member
  have inSpace : symbol.InSpace := by
    rcases List.mem_cons.mp member with rfl | member
    · exact placed
    · rw [List.mem_singleton.mp member]
      exact placed
  simp only [Function.comp_apply, mem_symbols_moved shift inside inSpace]

/-- The lines of a moved label are the moved lines of the label. -/
theorem labelLines_moved (shift : Int) (first : Bool) (symbol : Symbol) :
    labelLines first (symbol.moved shift) = (labelLines first symbol).map (Line.moved shift) := by
  have kind : (symbol.moved shift).kind = symbol.kind := rfl
  rw [labelLines, labelLines, kind]
  split <;> rfl

/-- The block of moved labels is the moved block. -/
theorem labelBlock_moved (shift : Int) (first : Bool) (symbols : List Symbol) :
    labelBlock first (symbols.map (Symbol.moved shift)) =
      (labelBlock first symbols).map (Line.moved shift) := by
  induction symbols generalizing first with
  | nil => rfl
  | cons symbol rest inductionHypothesis =>
    rw [List.map_cons, labelBlock, labelBlock, List.map_append, labelLines_moved,
      inductionHypothesis]

/-- Rows are laid out elsewhere as the moved lines, under tables that list moved labels at
moved addresses. -/
theorem layoutFrom_moved (shift : Int) {table elsewhere : SymbolTable}
    (labels : ∀ address, 0 ≤ address ∧ address < 0x100000000 →
      elsewhere.labelsAt (movedAddress shift address) =
        (table.labelsAt address).map (Symbol.moved shift))
    (first : Bool) (rows : List Row) (inside : ∀ row ∈ rows, row.InSpace) :
    layoutFrom elsewhere first (rows.map (Row.moved shift)) =
      (layoutFrom table first rows).map (Line.moved shift) := by
  induction rows generalizing first with
  | nil => rfl
  | cons row rest inductionHypothesis =>
    have here := labels row.address (inside row (.head _)).address
    have later := inductionHypothesis false (fun other member => inside other (.tail _ member))
    rw [List.map_cons, layoutFrom, layoutFrom, List.map_append, List.map_cons, later, Row.moved,
      here, labelBlock_moved]
    rfl

/-- Moved rows are laid out as the moved lines. -/
theorem layout_moved (shift : Int) (rows : List Row) (inside : ∀ row ∈ rows, row.InSpace) :
    layout (rows.map (Row.moved shift)) = (layout rows).map (Line.moved shift) := by
  apply layoutFrom_moved
  · intro address placed
    exact labelsAt_moved shift inside placed
  · exact inside

end Labels

section Texts

/-- The kind of a line. -/
def Line.kind : Line → LineKind
  | .blank => .blank
  | .label _ => .label
  | .instruction _ => .instruction

/-- The text of a line shows its kind. -/
theorem ofText_text (style : PrintStyle) (line : Line) :
    LineKind.ofText (line.text style) = line.kind := by
  cases line with
  | blank => rfl
  | label symbol =>
    obtain ⟨first, start, noSlash⟩ := head_label symbol
    simp only [LineKind.ofText, Line.text, start]
    rfl
  | instruction row =>
    have start : (Line.text style (.instruction row)).toList.head? = some '/' :=
      head_line style row
    rw [LineKind.ofText, start]
    rfl

/-- A shift keeps the kind of a line. -/
theorem kind_moved (shift : Int) (line : Line) : (line.moved shift).kind = line.kind := by
  cases line <;> rfl

/-- The texts of moved lines have the kinds of the texts of the lines. -/
theorem map_ofText_moved (style : PrintStyle) (shift : Int) (lines : List Line) :
    ((lines.map (Line.moved shift)).map (Line.text style)).map LineKind.ofText =
      (lines.map (Line.text style)).map LineKind.ofText := by
  simp only [List.map_map]
  apply List.map_congr_left
  intro line _
  simp only [Function.comp_apply, ofText_text, kind_moved]

/-- A buffer of whole words that move with their addresses is listed elsewhere with every
address moved. -/
theorem relocated_lines (style : PrintStyle) (data : List UInt8) (base shift : Int)
    (aligned : data.length % 4 = 0)
    (movable : ∀ word ∈ words data, Instruction.Movable shift word) :
    ∃ before after, lines style data base = .ok before ∧
      lines style data (base + shift) = .ok after ∧
      Relocated style (rowsFrom base (words data)) shift before after := by
  have inside := inSpace_of_mem_rowsFrom base (words data)
  refine ⟨_, _, lines_of_aligned style data base aligned,
    lines_of_aligned style data (base + shift) aligned, ?_⟩
  rw [rowsFrom_moved (words data) movable, layout_moved shift _ inside]
  exact ⟨rfl, rfl, map_ofText_moved style shift _⟩

/-- Lines depend on the base only modulo the size of the address space. -/
theorem lines_congr (style : PrintStyle) (data : List UInt8) {base place : Int}
    (congruent : base % 0x100000000 = place % 0x100000000) :
    lines style data base = lines style data place := by
  rw [lines, lines, rows, rows, ← rowsFrom_mod base, congruent, rowsFrom_mod]

end Texts

/-- Words are decoded modulo the size of the address space. A buffer of whole words moves
by whole segments with every address in its listing, by the whole address space without
any change, and by any shift if it has no jumps. -/
theorem lines_relocate (style : PrintStyle) (data : List UInt8) (base : Int)
    (aligned : data.length % 4 = 0) :
    (∀ word other address place, word % 0x100000000 = other % 0x100000000 →
      address % 0x100000000 = place % 0x100000000 →
      Instruction.decode word address = Instruction.decode other place) ∧
    (∀ count : Int, ∃ before after, lines style data base = .ok before ∧
      lines style data (base + count * 0x10000000) = .ok after ∧
      Relocated style (rowsFrom base (words data)) (count * 0x10000000) before after) ∧
    (∀ count : Int, 16 ∣ count →
      lines style data (base + count * 0x10000000) = lines style data base) ∧
    ((∀ word ∈ words data, ¬ Instruction.JumpWord word) → ∀ shift,
      ∃ before after, lines style data base = .ok before ∧
        lines style data (base + shift) = .ok after ∧
        Relocated style (rowsFrom base (words data)) shift before after) := by
  refine ⟨?_, ?_, ?_, ?_⟩
  · intro word other address place words addresses
    exact Instruction.decode_congr words addresses
  · intro count
    apply relocated_lines style data base _ aligned
    intro word _ _
    exact Int.dvd_mul_left _ _
  · rintro _ ⟨turns, rfl⟩
    apply lines_congr
    omega
  · intro noJumps shift
    apply relocated_lines style data base shift aligned
    intro word member jump
    exact absurd jump (noJumps word member)

/-- Two words that cross the end of the address space cross the end of a segment when they
are moved by one segment, with their labels. A branch to itself, which is no jump, moves
back over the end of the address space. -/
theorem crossing_buffer_relocates :
    (lines {} [0x10, 0, 0, 0, 0x08, 0, 0, 0] (-4) = .ok
        ["/* FFFFFFFC 10000000 */\tbeq r0, r0, @L00000000", "", "subr_00000000:",
          "@L00000000:", "/* 00000000 08000000 */\tj subr_00000000"] ∧
      lines {} [0x10, 0, 0, 0, 0x08, 0, 0, 0] 0x0FFFFFFC = .ok
        ["/* 0FFFFFFC 10000000 */\tbeq r0, r0, @L10000000", "", "subr_10000000:",
          "@L10000000:", "/* 10000000 08000000 */\tj subr_10000000"] ∧
      Relocated {} [Row.read (-4) 0x10000000, Row.read 0 0x08000000] 0x10000000
        ["/* FFFFFFFC 10000000 */\tbeq r0, r0, @L00000000", "", "subr_00000000:",
          "@L00000000:", "/* 00000000 08000000 */\tj subr_00000000"]
        ["/* 0FFFFFFC 10000000 */\tbeq r0, r0, @L10000000", "", "subr_10000000:",
          "@L10000000:", "/* 10000000 08000000 */\tj subr_10000000"]) ∧
    ¬ Instruction.JumpWord 0x1000FFFF ∧
    Relocated {} [Row.read 0 0x1000FFFF] (-8)
      ["@L00000000:", "/* 00000000 1000FFFF */\tbeq r0, r0, @L00000000"]
      ["@LFFFFFFF8:", "/* FFFFFFF8 1000FFFF */\tbeq r0, r0, @LFFFFFFF8"] := by
  obtain ⟨-, segments, -, -⟩ :=
    lines_relocate {} [0x10, 0, 0, 0, 0x08, 0, 0, 0] (-4) (by decide)
  obtain ⟨-, -, -, anywhere⟩ := lines_relocate {} [0x10, 0, 0xFF, 0xFF] 0 (by decide)
  have noJump : ¬ Instruction.JumpWord 0x1000FFFF := by decide
  refine ⟨⟨by rfl, by rfl, ?_⟩, noJump, ?_⟩
  · obtain ⟨before, after, here, there, relocated⟩ := segments 1
    cases here
    cases there
    exact relocated
  · obtain ⟨before, after, here, there, relocated⟩ := anywhere (by
      intro word member
      rw [List.mem_singleton.mp member]
      exact noJump) (-8)
    cases here
    cases there
    exact relocated

end Listing

end Microcode
