import Microcode.Proofs.OpcodeTables

/-!
# What a word denotes

`Denotes` says by rules which instruction a word denotes, one rule for each path
through the opcode tables. A rule names the fields that select the path and the
fields that the operands are read from, and it mentions no order in which tables
are searched. Decoding a non-zero word succeeds exactly where a rule applies, and
then gives the instruction of that rule.
-/

namespace Microcode.Instruction

open Bits

/-- The number in a field selects an operation of a table. -/
def Selects {α : Type} (bit size : Nat) (word : Int) (table : List (Nat × α))
    (operation : α) : Prop :=
  ((field bit size word).toNat, operation) ∈ table

/-- The instructions that a word denotes at an address. -/
inductive Denotes (word address : Int) : Instruction → Prop where
  | shiftByAmount {mnemonic : String}
      (group : Selects 26 6 word Opcode.groups .register)
      (operation : Selects 0 6 word Opcode.registerOperations (.shiftByAmount mnemonic)) :
      Denotes word address (.shiftByAmount mnemonic (GeneralRegister.atBit 11 word)
        (GeneralRegister.atBit 16 word) (field 6 5 word).toNat)
  | threeRegister {mnemonic : String}
      (group : Selects 26 6 word Opcode.groups .register)
      (operation : Selects 0 6 word Opcode.registerOperations (.threeRegister mnemonic)) :
      Denotes word address (.threeRegister mnemonic (GeneralRegister.atBit 11 word)
        (GeneralRegister.atBit 21 word) (GeneralRegister.atBit 16 word))
  | jumpRegister
      (group : Selects 26 6 word Opcode.groups .register)
      (operation : Selects 0 6 word Opcode.registerOperations .jumpRegister) :
      Denotes word address (.jumpRegister (GeneralRegister.atBit 21 word))
  | jumpLinkRegister
      (group : Selects 26 6 word Opcode.groups .register)
      (operation : Selects 0 6 word Opcode.registerOperations .jumpLinkRegister) :
      Denotes word address (.jumpLinkRegister (GeneralRegister.atBit 11 word)
        (GeneralRegister.atBit 21 word))
  | breakpoint
      (group : Selects 26 6 word Opcode.groups .register)
      (operation : Selects 0 6 word Opcode.registerOperations .breakpoint) :
      Denotes word address (.breakpoint (field 6 20 word).toNat)
  | signBranch {mnemonic : String}
      (group : Selects 26 6 word Opcode.groups .signBranch)
      (condition : Selects 16 5 word Opcode.signBranches mnemonic) :
      Denotes word address (.branchOne mnemonic (GeneralRegister.atBit 21 word)
        (Symbol.ofBranch word address))
  | jump {mnemonic : String}
      (group : Selects 26 6 word Opcode.groups (.jump mnemonic)) :
      Denotes word address (.jump mnemonic (Symbol.ofJump word address))
  | branchTwo {mnemonic : String}
      (group : Selects 26 6 word Opcode.groups (.branchTwo mnemonic)) :
      Denotes word address (.branchTwo mnemonic (GeneralRegister.atBit 21 word)
        (GeneralRegister.atBit 16 word) (Symbol.ofBranch word address))
  | branchOne {mnemonic : String}
      (group : Selects 26 6 word Opcode.groups (.branchOne mnemonic)) :
      Denotes word address (.branchOne mnemonic (GeneralRegister.atBit 21 word)
        (Symbol.ofBranch word address))
  | immediate {mnemonic : String} {logical : Bool}
      (group : Selects 26 6 word Opcode.groups (.immediate mnemonic logical)) :
      Denotes word address (.immediate mnemonic (GeneralRegister.atBit 16 word)
        (GeneralRegister.atBit 21 word) (field 0 16 word).toInt logical)
  | loadUpper
      (group : Selects 26 6 word Opcode.groups .loadUpper) :
      Denotes word address (.loadUpper (GeneralRegister.atBit 16 word) (field 0 16 word).toNat)
  | loadStore {mnemonic : String}
      (group : Selects 26 6 word Opcode.groups (.loadStore mnemonic)) :
      Denotes word address (.loadStore mnemonic (GeneralRegister.atBit 16 word)
        (GeneralRegister.atBit 21 word) (field 0 16 word).toInt)
  | systemMove {mnemonic : String} {rd : SystemRegister}
      (group : Selects 26 6 word Opcode.groups .system)
      (direction : Selects 21 5 word Opcode.systemMoves mnemonic)
      (register : SystemRegister.atBit? 11 word = some rd) :
      Denotes word address (.systemMove mnemonic (GeneralRegister.atBit 16 word) rd)
  | vectorMove {mnemonic : String}
      (group : Selects 26 6 word Opcode.groups .vector)
      (transfer : field 0 11 word = 0)
      (direction : Selects 21 5 word Opcode.vectorTransfers (.data mnemonic)) :
      Denotes word address (.vectorMove mnemonic (GeneralRegister.atBit 16 word)
        (VectorRegister.atBit 11 word) (field 7 4 word).toNat)
  | controlMove {mnemonic : String} {control : VectorControl}
      (group : Selects 26 6 word Opcode.groups .vector)
      (transfer : field 0 11 word = 0)
      (direction : Selects 21 5 word Opcode.vectorTransfers (.control mnemonic))
      (register : VectorControl.atBit? 11 word = some control) :
      Denotes word address (.controlMove mnemonic (GeneralRegister.atBit 16 word) control)
  | vectorNop
      (group : Selects 26 6 word Opcode.groups .vector)
      (compute : field 0 11 word ≠ 0)
      (operation : Selects 0 6 word Opcode.vectorOperations .nop) :
      Denotes word address .vectorNop
  | vectorCompute {mnemonic : String} {lanes : LaneSelector}
      (group : Selects 26 6 word Opcode.groups .vector)
      (compute : field 0 11 word ≠ 0)
      (operation : Selects 0 6 word Opcode.vectorOperations (.compute mnemonic))
      (selector : LaneSelector.atBit? 21 word = some lanes) :
      Denotes word address (.vectorCompute mnemonic (VectorRegister.atBit 6 word)
        (VectorRegister.atBit 11 word) (VectorRegister.atBit 16 word) lanes)
  | vectorScalar {mnemonic : String} {lanes : LaneSelector}
      (group : Selects 26 6 word Opcode.groups .vector)
      (compute : field 0 11 word ≠ 0)
      (operation : Selects 0 6 word Opcode.vectorOperations (.scalar mnemonic))
      (selector : LaneSelector.atBit? 21 word = some lanes) :
      Denotes word address (.vectorScalar mnemonic (VectorRegister.atBit 6 word)
        (field 11 5 word).toNat (VectorRegister.atBit 16 word) lanes)
  | vectorLoadStore {direction letter : String} {unit : Int}
      (group : Selects 26 6 word Opcode.groups (.vectorLoadStore direction))
      (mode : Selects 11 5 word Opcode.addressModes (letter, unit)) :
      Denotes word address (.vectorLoadStore (direction ++ letter ++ "v")
        (VectorRegister.atBit 16 word) (field 7 4 word).toNat (GeneralRegister.atBit 21 word)
        ((field 0 7 word).toInt * unit))

/-- A lookup of a field's number finds exactly what the field selects. -/
theorem lookup_iff_selects {α : Type} (table : List (Nat × α))
    (distinct : (table.map Prod.fst).Nodup) (bit size : Nat) (word : Int) (operation : α) :
    table.lookup (field bit size word).toNat = some operation ↔
      Selects bit size word table operation :=
  Opcode.lookup_eq_some_iff_mem table distinct _ operation

/-- The register group decodes by its rules only. -/
theorem denotes_of_decodeRegister (word address : Int) (instruction : Instruction)
    (group : Selects 26 6 word Opcode.groups .register)
    (decoded : decodeRegister word = some instruction) : Denotes word address instruction := by
  obtain ⟨operation, found, rfl⟩ := Option.map_eq_some_iff.mp decoded
  have selected := (lookup_iff_selects _ Opcode.registerOperations_one_to_one.1 _ _ _ _).mp found
  cases operation with
  | shiftByAmount mnemonic => exact .shiftByAmount group selected
  | jumpRegister => exact .jumpRegister group selected
  | jumpLinkRegister => exact .jumpLinkRegister group selected
  | breakpoint => exact .breakpoint group selected
  | threeRegister mnemonic => exact .threeRegister group selected

/-- Coprocessor 0 decodes by its rule only. -/
theorem denotes_of_decodeSystem (word address : Int) (instruction : Instruction)
    (group : Selects 26 6 word Opcode.groups .system)
    (decoded : decodeSystem word = some instruction) : Denotes word address instruction := by
  obtain ⟨mnemonic, found, decoded⟩ := Option.bind_eq_some_iff.mp decoded
  obtain ⟨rd, register, same⟩ := Option.bind_eq_some_iff.mp decoded
  have selected := (lookup_iff_selects _ Opcode.systemMoves_one_to_one.1 _ _ _ _).mp found
  obtain rfl := Option.some.inj same
  exact .systemMove group selected register

/-- The moves of coprocessor 2 decode by their rules only. -/
theorem denotes_of_decodeVectorTransfer (word address : Int) (instruction : Instruction)
    (group : Selects 26 6 word Opcode.groups .vector) (transfer : field 0 11 word = 0)
    (decoded : decodeVectorTransfer word = some instruction) :
    Denotes word address instruction := by
  obtain ⟨operation, found, decoded⟩ := Option.bind_eq_some_iff.mp decoded
  have selected := (lookup_iff_selects _ Opcode.vectorTransfers_one_to_one.1 _ _ _ _).mp found
  cases operation with
  | data mnemonic =>
    obtain rfl := Option.some.inj decoded
    exact .vectorMove group transfer selected
  | control mnemonic =>
    obtain ⟨control, register, same⟩ := Option.bind_eq_some_iff.mp decoded
    obtain rfl := Option.some.inj same
    exact .controlMove group transfer selected register

/-- The vector operations decode by their rules only. -/
theorem denotes_of_decodeVectorOperation (word address : Int) (instruction : Instruction)
    (group : Selects 26 6 word Opcode.groups .vector) (compute : field 0 11 word ≠ 0)
    (decoded : decodeVectorOperation word = some instruction) :
    Denotes word address instruction := by
  obtain ⟨operation, found, decoded⟩ := Option.bind_eq_some_iff.mp decoded
  have selected := (lookup_iff_selects _ Opcode.vectorOperations_one_to_one.1 _ _ _ _).mp found
  cases operation with
  | nop =>
    obtain rfl := Option.some.inj decoded
    exact .vectorNop group compute selected
  | scalar mnemonic =>
    obtain ⟨lanes, selector, same⟩ := Option.bind_eq_some_iff.mp decoded
    obtain rfl := Option.some.inj same
    exact .vectorScalar group compute selected selector
  | compute mnemonic =>
    obtain ⟨lanes, selector, same⟩ := Option.bind_eq_some_iff.mp decoded
    obtain rfl := Option.some.inj same
    exact .vectorCompute group compute selected selector

/-- A group decodes by its rules only. -/
theorem denotes_of_decodeGroup (word address : Int) (group : Opcode.Group)
    (instruction : Instruction) (selected : Selects 26 6 word Opcode.groups group)
    (decoded : decodeGroup word address group = some instruction) :
    Denotes word address instruction := by
  cases group with
  | register => exact denotes_of_decodeRegister word address instruction selected decoded
  | signBranch =>
    obtain ⟨mnemonic, found, rfl⟩ := Option.map_eq_some_iff.mp decoded
    exact .signBranch selected
      ((lookup_iff_selects _ Opcode.signBranches_one_to_one.1 _ _ _ _).mp found)
  | jump mnemonic => exact Option.some.inj decoded ▸ .jump selected
  | branchTwo mnemonic => exact Option.some.inj decoded ▸ .branchTwo selected
  | branchOne mnemonic => exact Option.some.inj decoded ▸ .branchOne selected
  | immediate mnemonic logical => exact Option.some.inj decoded ▸ .immediate selected
  | loadUpper => exact Option.some.inj decoded ▸ .loadUpper selected
  | system => exact denotes_of_decodeSystem word address instruction selected decoded
  | vector =>
    by_cases transfer : field 0 11 word = 0
    · rw [decodeGroup, decodeVector, if_pos transfer] at decoded
      exact denotes_of_decodeVectorTransfer word address instruction selected transfer decoded
    · rw [decodeGroup, decodeVector, if_neg transfer] at decoded
      exact denotes_of_decodeVectorOperation word address instruction selected transfer decoded
  | loadStore mnemonic => exact Option.some.inj decoded ▸ .loadStore selected
  | vectorLoadStore direction =>
    obtain ⟨⟨letter, unit⟩, found, rfl⟩ := Option.map_eq_some_iff.mp decoded
    exact .vectorLoadStore selected
      ((lookup_iff_selects _ Opcode.addressModes_distinct _ _ _ _).mp found)

/-- A word that selects a group decodes as a word of that group. -/
theorem decode?_eq_decodeGroup (word address : Int) (group : Opcode.Group)
    (selected : Selects 26 6 word Opcode.groups group) :
    decode? word address = decodeGroup word address group := by
  rw [decode?, (lookup_iff_selects _ Opcode.groups_one_to_one.1 _ _ _ _).mpr selected]
  rfl

/-- Each rule is a path that decoding takes. -/
theorem Denotes.decode?_eq {word address : Int} {instruction : Instruction}
    (denoted : Denotes word address instruction) : decode? word address = some instruction := by
  cases denoted with
  | shiftByAmount group operation | threeRegister group operation | jumpRegister group operation
  | jumpLinkRegister group operation | breakpoint group operation =>
    rw [decode?_eq_decodeGroup word address _ group, decodeGroup, decodeRegister,
      (lookup_iff_selects _ Opcode.registerOperations_one_to_one.1 _ _ _ _).mpr operation]
    rfl
  | signBranch group condition =>
    rw [decode?_eq_decodeGroup word address _ group, decodeGroup, decodeSignBranch,
      (lookup_iff_selects _ Opcode.signBranches_one_to_one.1 _ _ _ _).mpr condition]
    rfl
  | jump group | branchTwo group | branchOne group | immediate group | loadUpper group
  | loadStore group => exact decode?_eq_decodeGroup word address _ group
  | systemMove group direction register =>
    rw [decode?_eq_decodeGroup word address _ group, decodeGroup, decodeSystem,
      (lookup_iff_selects _ Opcode.systemMoves_one_to_one.1 _ _ _ _).mpr direction, register]
    rfl
  | vectorMove group transfer direction =>
    rw [decode?_eq_decodeGroup word address _ group, decodeGroup, decodeVector, if_pos transfer,
      decodeVectorTransfer,
      (lookup_iff_selects _ Opcode.vectorTransfers_one_to_one.1 _ _ _ _).mpr direction]
    rfl
  | controlMove group transfer direction register =>
    rw [decode?_eq_decodeGroup word address _ group, decodeGroup, decodeVector, if_pos transfer,
      decodeVectorTransfer,
      (lookup_iff_selects _ Opcode.vectorTransfers_one_to_one.1 _ _ _ _).mpr direction, register]
    rfl
  | vectorNop group compute operation =>
    rw [decode?_eq_decodeGroup word address _ group, decodeGroup, decodeVector, if_neg compute,
      decodeVectorOperation,
      (lookup_iff_selects _ Opcode.vectorOperations_one_to_one.1 _ _ _ _).mpr operation]
    rfl
  | vectorCompute group compute operation selector
  | vectorScalar group compute operation selector =>
    rw [decode?_eq_decodeGroup word address _ group, decodeGroup, decodeVector, if_neg compute,
      decodeVectorOperation,
      (lookup_iff_selects _ Opcode.vectorOperations_one_to_one.1 _ _ _ _).mpr operation, selector]
    rfl
  | vectorLoadStore group mode =>
    rw [decode?_eq_decodeGroup word address _ group, decodeGroup, decodeVectorLoadStore,
      (lookup_iff_selects _ Opcode.addressModes_distinct _ _ _ _).mpr mode]
    rfl

/-- Decoding finds an instruction exactly where a rule applies. -/
theorem decode?_eq_some_iff (word address : Int) (instruction : Instruction) :
    decode? word address = some instruction ↔ Denotes word address instruction := by
  constructor
  · intro decoded
    obtain ⟨group, found, decoded⟩ := Option.bind_eq_some_iff.mp decoded
    have selected := (lookup_iff_selects _ Opcode.groups_one_to_one.1 _ _ _ _).mp found
    exact denotes_of_decodeGroup word address group instruction selected decoded
  · exact Denotes.decode?_eq

/-- A word decodes in one of three ways: zero is the empty instruction, a rule applies,
or the word is kept as it stands because none does. -/
theorem decode_cases (word address : Int) :
    (machineWord word = 0 ∧ decode word address = .nop) ∨
    (machineWord word ≠ 0 ∧ Denotes (machineWord word) address (decode word address)) ∨
    (machineWord word ≠ 0 ∧ (∀ instruction, ¬ Denotes (machineWord word) address instruction) ∧
      decode word address = .unsupported (machineWord word)) := by
  by_cases zero : machineWord word = 0
  · exact .inl ⟨zero, by rw [decode, if_pos zero]⟩
  · cases found : decode? (machineWord word) address with
    | none =>
      refine .inr (.inr ⟨zero, ?_, by rw [decode, if_neg zero, found]; rfl⟩)
      intro instruction denoted
      simp [denoted.decode?_eq] at found
    | some instruction =>
      have same : decode word address = instruction := by rw [decode, if_neg zero, found]; rfl
      exact .inr (.inl ⟨zero, same ▸ (decode?_eq_some_iff _ _ _).mp found⟩)

/-- A non-zero word to which a rule applies decodes to the instruction of the rule. -/
theorem Denotes.decode_eq {word address : Int} {instruction : Instruction}
    (nonzero : machineWord word ≠ 0) (denoted : Denotes (machineWord word) address instruction) :
    decode word address = instruction := by
  rw [decode, if_neg nonzero, denoted.decode?_eq]
  rfl

end Microcode.Instruction
