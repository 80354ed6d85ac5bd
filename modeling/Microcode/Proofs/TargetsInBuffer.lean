import Microcode.Proofs.CrossReferences
import Microcode.Proofs.Relocation

/-!
# Targets inside the buffer

A branch counts whole words from its own address, and a jump from the start of a segment.
Addresses of rows lie whole words behind the base. So a branch always meets the grid of the
rows, a jump meets it exactly if the base is aligned, and what meets the grid has a row
exactly if it lies less than the buffer's length behind the base, modulo the size of the
address space. Neither the sign of the distance nor the end of the address space matters.
-/

namespace Microcode

section Words

/-- The address from which a target of this kind counts whole words, if the transfer stands
at the given address. -/
def SymbolKind.origin (address : Int) : SymbolKind → Int
  | .subroutine => 0
  | .branchTarget => address

/-- The target of a jump lies whole words behind address zero. -/
theorem Symbol.ofJump_words (word address : Int) : (ofJump word address).address % 4 = 0 := by
  rw [Instruction.ofJump_address]
  omega

/-- The target of a branch lies whole words from the branch, since the address space holds
whole words. -/
theorem Symbol.ofBranch_words (word address : Int) :
    ((ofBranch word address).address - address) % 4 = 0 := by
  simp only [ofBranch]
  omega

/-- The targets that the rules give lie whole words from their origin. -/
theorem Instruction.Denotes.target_words {word address : Int} {instruction : Instruction}
    {symbol : Symbol} (denoted : Denotes word address instruction)
    (refers : instruction.symbol? = some symbol) :
    (symbol.address - symbol.kind.origin address) % 4 = 0 := by
  cases denoted with
  | jump group =>
    cases refers
    have words := Symbol.ofJump_words word address
    simpa only [Symbol.ofJump, SymbolKind.origin, Int.sub_zero] using words
  | signBranch group condition =>
    cases refers
    exact Symbol.ofBranch_words word address
  | branchTwo group | branchOne group =>
    cases refers
    exact Symbol.ofBranch_words word address
  | _ => cases refers

/-- The targets of decoded words lie whole words from their origin. -/
theorem Instruction.target_words_of_decode (word address : Int) (symbol : Symbol)
    (refers : (decode word address).symbol? = some symbol) :
    (symbol.address - symbol.kind.origin address) % 4 = 0 := by
  rcases decode_cases word address with ⟨_, empty⟩ | ⟨_, denoted⟩ | ⟨_, _, kept⟩
  · rw [empty] at refers
    exact nomatch refers
  · exact denoted.target_words refers
  · rw [kept] at refers
    exact nomatch refers

end Words

namespace Listing

section Places

/-- An address of the address space has a row exactly if it lies whole words behind the base
and before the end of the rows. -/
theorem mem_addresses_iff (base : Int) (words : List Int) {address : Int}
    (inside : 0 ≤ address ∧ address < 0x100000000) :
    address ∈ (rowsFrom base words).map Row.address ↔
      (address - base) % 4 = 0 ∧ (address - base) % 0x100000000 < 4 * words.length := by
  rw [map_rowsFrom, List.mem_mapIdx]
  constructor
  · rintro ⟨index, bound, rfl⟩
    simp only [Row.read]
    omega
  · rintro ⟨words, near⟩
    -- The row's number is the distance in words.
    refine ⟨((address - base) % 0x100000000 / 4).toNat, by omega, ?_⟩
    simp only [Row.read]
    omega

/-- The symbol of a row lies in the address space, and whole words behind the base if it is a
branch target or the base is aligned. A jump out of rows that are not aligned meets none. -/
theorem target_of_refers {base : Int} {words : List Int} {symbol : Symbol}
    (refers : Refers (rowsFrom base words) symbol) :
    symbol.InSpace ∧
      ((symbol.address - base) % 4 = 0 ↔ symbol.kind = .branchTarget ∨ base % 4 = 0) := by
  obtain ⟨row, member, found⟩ := refers
  refine ⟨(inSpace_of_mem_rowsFrom base words row member).target symbol found, ?_⟩
  rw [rowsFrom_eq_mapIdx, List.mem_mapIdx] at member
  obtain ⟨index, bound, rfl⟩ := member
  have words := Instruction.target_words_of_decode _ _ symbol found
  cases kind : symbol.kind with
  | subroutine =>
    simp only [kind, SymbolKind.origin] at words
    simp only [reduceCtorEq, false_or]
    omega
  | branchTarget =>
    simp only [kind, SymbolKind.origin] at words
    simp only [true_or, iff_true]
    omega

/-- The label of a referenced symbol is printed exactly if a row has its address. -/
theorem label_mem_layout_iff (style : PrintStyle) {rows : List Row} {symbol : Symbol}
    (refers : Refers rows symbol) :
    symbol.name ++ ":" ∈ (layout rows).map (Line.text style) ↔
      symbol.address ∈ rows.map Row.address := by
  rw [← List.count_pos_iff, count_label_text, layout, count_layoutFrom,
    if_pos ((mem_symbols_iff rows symbol).mpr refers), List.count_pos_iff]

end Places

/-- The label of a symbol is printed exactly if a row has its address. For a branch target at
any base, and for a subroutine at an aligned base, this is so exactly if the symbol lies less
than the buffer's length behind the base, modulo the size of the address space. A subroutine
never has a label at a base that is not aligned. -/
theorem labels_in_buffer (style : PrintStyle) (data : List UInt8) (base : Int)
    (aligned : data.length % 4 = 0) :
    ∃ listed, lines style data base = .ok listed ∧ ∀ symbol,
      Refers ((words data).mapIdx fun index word => Row.read (base + 4 * index) word) symbol →
      (symbol.kind = .branchTarget ∨ base % 4 = 0 →
        (symbol.name ++ ":" ∈ listed ↔
          (symbol.address - base) % 0x100000000 < data.length)) ∧
      (symbol.kind = .subroutine → base % 4 ≠ 0 → symbol.name ++ ":" ∉ listed) := by
  refine ⟨_, lines_of_aligned style data base aligned, ?_⟩
  intro symbol refers
  rw [← rowsFrom_eq_mapIdx] at refers
  obtain ⟨inSpace, onGrid⟩ := target_of_refers refers
  have length : (4 * (words data).length : Int) = data.length := by
    rw [length_words]
    omega
  rw [label_mem_layout_iff style refers, mem_addresses_iff base _ inSpace, length, onGrid]
  constructor
  · intro reachable
    simp only [reachable, true_and]
  · rintro subroutine unaligned ⟨reachable, -⟩
    rcases reachable with branchTarget | baseAligned
    · rw [subroutine] at branchTarget
      cases branchTarget
    · exact unaligned baseAligned

/-- Two words at a base that is not aligned, the second behind the end of the address space.
The branch to it has a label. The jump to address zero, which lies between the two, has
none. -/
theorem unaligned_jump_unlabelled :
    lines {} [0x10, 0, 0, 0, 0x08, 0, 0, 0] (-2) = .ok
        ["/* FFFFFFFE 10000000 */\tbeq r0, r0, @L00000002", "@L00000002:",
          "/* 00000002 08000000 */\tj subr_00000000"] ∧
      (2 - (-2) : Int) % 0x100000000 < 8 ∧
      "@L00000002:" ∈ ["/* FFFFFFFE 10000000 */\tbeq r0, r0, @L00000002", "@L00000002:",
        "/* 00000002 08000000 */\tj subr_00000000"] ∧
      (0 - (-2) : Int) % 0x100000000 < 8 ∧
      "subr_00000000:" ∉ ["/* FFFFFFFE 10000000 */\tbeq r0, r0, @L00000002", "@L00000002:",
        "/* 00000002 08000000 */\tj subr_00000000"] := by
  obtain ⟨listed, result, labels⟩ :=
    labels_in_buffer {} [0x10, 0, 0, 0, 0x08, 0, 0, 0] (-2) (by decide)
  cases result
  have branch := labels ⟨.branchTarget, 2⟩ ⟨Row.read (-2) 0x10000000, .head _, by rfl⟩
  have jump := labels ⟨.subroutine, 0⟩ ⟨Row.read 2 0x08000000, .tail _ (.head _), by rfl⟩
  exact ⟨by rfl, by decide, (branch.1 (.inl rfl)).mpr (by decide), by decide,
    jump.2 rfl (by decide)⟩

end Listing

end Microcode
