import Microcode.Proofs.BitFields
import Microcode.Proofs.DecodeTree

/-!
# Decoding loses only ignored bits

Each field of a decoded instruction, put back in its place, is the portion of the word
that it was read from. The portions of a format add up to the whole word, so encoding
a decoded word gives back the word without the fields that its shape ignores. Read in
the other direction, two words that differ only in ignored bits select the same path
and the same operands, and so denote the same instruction.
-/

namespace Microcode.Instruction

open Bits

section Placement

/-- A field's own number in its own place is the field's portion of the word. -/
theorem placed_toNat (bit size : Nat) (word : Int) :
    placed bit size (field bit size word).toNat = portion bit size word := by
  rw [placed, field_of_field bit size 0 size word (by omega), Nat.add_zero, portion]

/-- The signed reading of a field holds the same bits as the unsigned one. -/
theorem placed_toInt (bit size : Nat) (word : Int) :
    placed bit size (field bit size word).toInt = portion bit size word := by
  have same : field 0 size (field bit size word).toInt = field bit size word := by
    rw [field, Int.shiftRight_zero, BitVec.ofInt_toInt]
  rw [placed, same, portion]

/-- The number of a selected operation, in its place, is the portion that selected it. -/
theorem placed_numberIn {α : Type} [DecidableEq α] {bit size : Nat} {word : Int}
    {table : List (Nat × α)} {operation : α} (distinct : Opcode.OneToOne table)
    (selected : Selects bit size word table operation) :
    placed bit size (numberIn table operation) = portion bit size word := by
  rw [Opcode.numberIn_of_mem table distinct.2 _ operation selected, placed_toNat]

/-- The primary opcode of a selected group is the top portion of the word. -/
theorem opcode_selected {word : Int} {group : Opcode.Group}
    (selected : Selects 26 6 word Opcode.groups group) : opcode group = portion 26 6 word :=
  placed_numberIn Opcode.groups_one_to_one selected

/-- A general register goes back to the field that named it. -/
theorem placedRegister_atBit (bit : Nat) (word : Int) :
    placedRegister bit (GeneralRegister.atBit bit word) = portion bit 5 word :=
  placed_toNat bit 5 word

/-- A vector register goes back to the field that named it. -/
theorem placed_vectorRegister (bit : Nat) (word : Int) :
    placed bit 5 (VectorRegister.atBit bit word).index = portion bit 5 word :=
  placed_toNat bit 5 word

/-- A system register goes back to the field that named it. -/
theorem placed_systemRegister {bit : Nat} {word : Int} {register : SystemRegister}
    (read : SystemRegister.atBit? bit word = some register) :
    placed bit 5 register.index = portion bit 5 word := by
  have same : (register.index : Int) = (field bit 5 word).toNat := by
    simp only [SystemRegister.atBit?, SystemRegister.ofInt?, Option.dite_none_right_eq_some,
      Option.some.injEq] at read
    obtain ⟨bound, rfl⟩ := read
    simp
  rw [same, placed_toNat]

/-- A vector control register goes back to the field that named it. -/
theorem placed_vectorControl {bit : Nat} {word : Int} {register : VectorControl}
    (read : VectorControl.atBit? bit word = some register) :
    placed bit 5 register.index = portion bit 5 word := by
  have same : (register.index : Int) = (field bit 5 word).toNat := by
    simp only [VectorControl.atBit?, VectorControl.ofInt?, Option.dite_none_right_eq_some,
      Option.some.injEq] at read
    obtain ⟨bound, rfl⟩ := read
    simp
  rw [same, placed_toNat]

/-- Every four-bit number that denotes a lane selector is the selector's field. -/
theorem laneField_ofField? :
    ∀ value : Fin 16, ∀ lanes ∈ LaneSelector.ofField? value.val, laneField lanes = value.val := by
  decide

/-- A lane selector goes back to the field that named it. -/
theorem placed_laneField {bit : Nat} {word : Int} {lanes : LaneSelector}
    (read : LaneSelector.atBit? bit word = some lanes) :
    placed bit 4 (laneField lanes) = portion bit 4 word := by
  have same : laneField lanes = (field bit 4 word).toNat :=
    laneField_ofField? (field bit 4 word).toFin lanes read
  rw [same, placed_toNat]

/-- The target of a jump in numbers: a place in the segment that holds its address. -/
theorem ofJump_address (word address : Int) : (Symbol.ofJump word address).address =
    0x10000000 * (address / 0x10000000 % 16) + 4 * (field 0 26 word).toNat := by
  have segment : ((field 28 4 address).toNat : Int) = address / 0x10000000 % 16 :=
    toNat_field 28 4 address
  rw [Symbol.ofJump, segment]

/-- The word index of a jump is the low portion of its word, whatever the segment. -/
theorem jumpField_ofJump (word address : Int) :
    jumpField (Symbol.ofJump word address) = portion 0 26 word := by
  have index : (Symbol.ofJump word address).address / 4 % weight 26 =
      (field 0 26 word).toNat % weight 26 := by
    have width : (weight 26 : Int) = 67108864 := rfl
    simp only [Symbol.ofJump, width]
    omega
  rw [jumpField, placed, field_congr 0 26 26 _ _ (by decide) index]
  exact placed_toNat 0 26 word

/-- The word count of a branch is the low portion of its word, whatever the address
and however the target wrapped. -/
theorem branchField_ofBranch (word address : Int) :
    branchField address (Symbol.ofBranch word address) = portion 0 16 word := by
  have count : ((Symbol.ofBranch word address).address - address - 4) / 4 % weight 16 =
      (field 0 16 word).toInt % weight 16 := by
    have width : (weight 16 : Int) = 65536 := rfl
    simp only [Symbol.ofBranch, width]
    omega
  rw [branchField, placed, field_congr 0 16 16 _ _ (by decide) count]
  exact placed_toInt 0 16 word

end Placement

section Formats

/-- A machine word has every field of the word that lies below position 32. -/
theorem field_machineWord (bit size : Nat) (word : Int) (inside : bit + size ≤ 32) :
    field bit size (machineWord word) = field bit size word := by
  rw [machineWord, field_of_field 0 32 bit size word inside, Nat.zero_add]

/-- The fields of a format add up to the whole word. -/
theorem portionSum_machineWord (word : Int) (widths : List Nat)
    (complete : widths.foldr (· + ·) 0 = 32) :
    portionSum 0 (machineWord word) widths = machineWord word := by
  rw [portionSum_eq, complete, portion, field_machineWord 0 32 word (by decide), weight_zero,
    Int.one_mul, machineWord]

/-- Clearing a field takes its portion away. -/
theorem clearField_eq (word : Int) (bit size : Nat) :
    clearField word (bit, size) = word - portion bit size word := rfl

/-- A branch selected by the second register field is listed among the sign branches. -/
theorem signBranch_listed {word : Int} {mnemonic : String}
    (selected : Selects 16 5 word Opcode.signBranches mnemonic) :
    (Opcode.signBranches.any fun row => row.2 = mnemonic) = true := by
  rw [List.any_eq_true]
  exact ⟨_, selected, by simp⟩

/-- The branches on one register that have a primary opcode of their own are not
listed among the sign branches. -/
theorem branchOne_unlisted {word : Int} {mnemonic : String}
    (selected : Selects 26 6 word Opcode.groups (.branchOne mnemonic)) :
    (Opcode.signBranches.any fun row => row.2 = mnemonic) = false := by
  have table : ∀ row ∈ Opcode.groups, ∀ name, row.2 = .branchOne name →
      (Opcode.signBranches.any fun row => row.2 = name) = false := by
    simp [Opcode.groups, Opcode.signBranches]
  exact table _ selected mnemonic rfl

/-- A vector load or store is listed under its direction and the letter of its mode. -/
theorem vectorAccesses_lookup {direction letter : String} {mode : Nat} {unit : Int}
    (directed : direction ∈ ["l", "s"]) (member : (mode, letter, unit) ∈ Opcode.addressModes) :
    vectorAccesses.lookup (direction ++ letter ++ "v") =
      some ⟨.vectorLoadStore direction, mode, unit⟩ := by
  apply (Opcode.lookup_eq_some_iff_mem _ Opcode.vectorAccesses_distinct _ _).mpr
  exact List.mem_flatMap.mpr ⟨direction, directed, List.mem_map.mpr ⟨_, member, rfl⟩⟩

/-- A vector load or store is listed under its mnemonic with the group, mode and unit
that its word selects. -/
theorem vectorAccess_selected {word : Int} {direction letter : String} {unit : Int}
    (group : Selects 26 6 word Opcode.groups (.vectorLoadStore direction))
    (mode : Selects 11 5 word Opcode.addressModes (letter, unit)) :
    vectorAccesses.lookup (direction ++ letter ++ "v") =
      some ⟨.vectorLoadStore direction, (field 11 5 word).toNat, unit⟩ := by
  have directions : ∀ row ∈ Opcode.groups, ∀ name, row.2 = .vectorLoadStore name →
      name ∈ ["l", "s"] := by
    simp [Opcode.groups]
  exact vectorAccesses_lookup (directions _ group direction rfl) mode

/-- Every addressing mode counts offsets in a unit that is not zero. -/
theorem unit_nonzero {word : Int} {letter : String} {unit : Int}
    (mode : Selects 11 5 word Opcode.addressModes (letter, unit)) : unit ≠ 0 := by
  have table : ∀ row ∈ Opcode.addressModes, row.2.2 ≠ 0 := by decide
  exact table _ mode

/-- A word whose low eleven bits are zero has zeros in every field among them. -/
theorem empty_field {word : Int} (low : field 0 11 word = 0) (bit size : Nat)
    (inside : bit + size ≤ 11) : field bit size word = 0 := by
  have inner := field_of_field 0 11 bit size word inside
  rw [low, Nat.zero_add] at inner
  exact inner.symm.trans (field_of_zero bit size)

/-- A word whose low eleven bits are zero gets nothing from a field among them. -/
theorem empty_portion {word : Int} (low : field 0 11 word = 0) (bit size : Nat)
    (inside : bit + size ≤ 11) : portion bit size word = 0 := by
  simp [portion, empty_field low bit size inside]

/-- Encoding what a word denotes gives back the word without its ignored fields. In
each case the placed fields are portions of the word, and together with the ignored
ones they make up its format. -/
theorem encode_denoted (word address : Int) (instruction : Instruction)
    (denoted : Denotes (machineWord word) address instruction) :
    encode address instruction = significant instruction word := by
  have format := portionSum_machineWord word
  rw [significant]
  generalize machineWord word = value at denoted format
  cases denoted with
  | shiftByAmount group operation =>
    have register := format [6, 5, 5, 5, 5, 6] rfl
    simp only [portionSum, Nat.reduceAdd] at register
    simp only [encode, ignoredFields, List.foldl_cons, List.foldl_nil, clearField_eq,
      opcode_selected group, placedRegister_atBit, placed_toNat,
      placed_numberIn Opcode.registerOperations_one_to_one operation]
    omega
  | threeRegister group operation =>
    have register := format [6, 5, 5, 5, 5, 6] rfl
    simp only [portionSum, Nat.reduceAdd] at register
    simp only [encode, ignoredFields, List.foldl_cons, List.foldl_nil, clearField_eq,
      opcode_selected group, placedRegister_atBit,
      placed_numberIn Opcode.registerOperations_one_to_one operation]
    omega
  | jumpRegister group operation =>
    have register := format [6, 15, 5, 6] rfl
    simp only [portionSum, Nat.reduceAdd] at register
    simp only [encode, ignoredFields, List.foldl_cons, List.foldl_nil, clearField_eq,
      opcode_selected group, placedRegister_atBit,
      placed_numberIn Opcode.registerOperations_one_to_one operation]
    omega
  | jumpLinkRegister group operation =>
    have register := format [6, 5, 5, 5, 5, 6] rfl
    simp only [portionSum, Nat.reduceAdd] at register
    have lower : portion 6 5 (value - portion 16 5 value) = portion 6 5 value := by
      rw [portion, field_sub_portion_below 16 5 6 5 value (by decide), portion]
    simp only [encode, ignoredFields, List.foldl_cons, List.foldl_nil, clearField_eq, lower,
      opcode_selected group, placedRegister_atBit,
      placed_numberIn Opcode.registerOperations_one_to_one operation]
    omega
  | breakpoint group operation =>
    have register := format [6, 20, 6] rfl
    simp only [portionSum, Nat.reduceAdd] at register
    simp only [encode, ignoredFields, List.foldl_nil, opcode_selected group, placed_toNat,
      placed_numberIn Opcode.registerOperations_one_to_one operation]
    omega
  | signBranch group condition =>
    have immediate := format [16, 5, 5, 6] rfl
    simp only [portionSum, Nat.reduceAdd] at immediate
    simp only [encode, ignoredFields, branchOneOpcode, signBranch_listed condition, if_true,
      List.foldl_nil, opcode_selected group, placedRegister_atBit, branchField_ofBranch,
      placed_numberIn Opcode.signBranches_one_to_one condition]
    omega
  | jump group =>
    have index := format [26, 6] rfl
    simp only [portionSum, Nat.reduceAdd] at index
    simp only [encode, ignoredFields, List.foldl_nil, opcode_selected group, jumpField_ofJump]
    omega
  | branchTwo group =>
    have immediate := format [16, 5, 5, 6] rfl
    simp only [portionSum, Nat.reduceAdd] at immediate
    simp only [encode, ignoredFields, List.foldl_nil, opcode_selected group,
      placedRegister_atBit, branchField_ofBranch]
    omega
  | branchOne group =>
    have immediate := format [16, 5, 5, 6] rfl
    simp only [portionSum, Nat.reduceAdd] at immediate
    simp only [encode, ignoredFields, branchOneOpcode, branchOne_unlisted group,
      Bool.false_eq_true, if_false, List.foldl_cons, List.foldl_nil, clearField_eq,
      opcode_selected group, placedRegister_atBit, branchField_ofBranch]
    omega
  | immediate group =>
    have immediate := format [16, 5, 5, 6] rfl
    simp only [portionSum, Nat.reduceAdd] at immediate
    simp only [encode, ignoredFields, List.foldl_nil, opcode_selected group,
      placedRegister_atBit, placed_toInt]
    omega
  | loadUpper group =>
    have immediate := format [16, 5, 5, 6] rfl
    simp only [portionSum, Nat.reduceAdd] at immediate
    simp only [encode, ignoredFields, List.foldl_cons, List.foldl_nil, clearField_eq,
      opcode_selected group, placedRegister_atBit, placed_toNat]
    omega
  | loadStore group =>
    have immediate := format [16, 5, 5, 6] rfl
    simp only [portionSum, Nat.reduceAdd] at immediate
    simp only [encode, ignoredFields, List.foldl_nil, opcode_selected group,
      placedRegister_atBit, placed_toInt]
    omega
  | systemMove group direction register =>
    have transfer := format [11, 5, 5, 5, 6] rfl
    simp only [portionSum, Nat.reduceAdd] at transfer
    simp only [encode, ignoredFields, List.foldl_cons, List.foldl_nil, clearField_eq,
      opcode_selected group, placedRegister_atBit, placed_systemRegister register,
      placed_numberIn Opcode.systemMoves_one_to_one direction]
    omega
  | vectorMove group low direction =>
    have transfer := format [7, 4, 5, 5, 5, 6] rfl
    simp only [portionSum, Nat.reduceAdd] at transfer
    have empty := empty_portion low 0 7 (by decide)
    simp only [encode, ignoredFields, List.foldl_nil, opcode_selected group,
      placedRegister_atBit, placed_vectorRegister, placed_toNat,
      placed_numberIn Opcode.vectorTransfers_one_to_one direction]
    omega
  | controlMove group low direction register =>
    have transfer := format [11, 5, 5, 5, 6] rfl
    simp only [portionSum, Nat.reduceAdd] at transfer
    have empty := empty_portion low 0 11 (by decide)
    simp only [encode, ignoredFields, List.foldl_nil, opcode_selected group,
      placedRegister_atBit, placed_vectorControl register,
      placed_numberIn Opcode.vectorTransfers_one_to_one direction]
    omega
  | vectorNop group compute operation =>
    have vector := format [6, 20, 6] rfl
    simp only [portionSum, Nat.reduceAdd] at vector
    simp only [encode, vectorOpcode, ignoredFields, List.foldl_cons, List.foldl_nil,
      clearField_eq, opcode_selected group,
      placed_numberIn Opcode.vectorOperations_one_to_one operation]
    omega
  | vectorCompute group compute operation selector =>
    have vector := format [6, 5, 5, 5, 4, 1, 6] rfl
    simp only [portionSum, Nat.reduceAdd] at vector
    simp only [encode, vectorOpcode, ignoredFields, List.foldl_cons, List.foldl_nil,
      clearField_eq, opcode_selected group, placed_laneField selector, placed_vectorRegister,
      placed_numberIn Opcode.vectorOperations_one_to_one operation]
    omega
  | vectorScalar group compute operation selector =>
    have vector := format [6, 5, 5, 5, 4, 1, 6] rfl
    simp only [portionSum, Nat.reduceAdd] at vector
    simp only [encode, vectorOpcode, ignoredFields, List.foldl_cons, List.foldl_nil,
      clearField_eq, opcode_selected group, placed_laneField selector, placed_vectorRegister,
      placed_toNat, placed_numberIn Opcode.vectorOperations_one_to_one operation]
    omega
  | @vectorLoadStore direction letter unit group mode =>
    have memory := format [7, 4, 5, 5, 5, 6] rfl
    simp only [portionSum, Nat.reduceAdd] at memory
    have offset : (field 0 7 value).toInt * unit / unit = (field 0 7 value).toInt :=
      Int.mul_ediv_cancel _ (unit_nonzero mode)
    simp only [encode, vectorAccess_selected group mode, ignoredFields, List.foldl_nil,
      opcode_selected group, placedRegister_atBit, placed_vectorRegister, placed_toNat, offset,
      placed_toInt]
    omega

end Formats

section Agreement

/-- The fields of a list cover a bit position. -/
def Covers (fields : List (Nat × Nat)) (position : Nat) : Prop :=
  ∃ entry ∈ fields, entry.1 ≤ position ∧ position < entry.1 + entry.2

instance (fields : List (Nat × Nat)) (position : Nat) : Decidable (Covers fields position) :=
  inferInstanceAs (Decidable (∃ entry ∈ fields, entry.1 ≤ position ∧ position < entry.1 + entry.2))

/-- A position is covered by the first field or by the others. -/
theorem covers_cons (entry : Nat × Nat) (rest : List (Nat × Nat)) (position : Nat) :
    Covers (entry :: rest) position ↔
      (entry.1 ≤ position ∧ position < entry.1 + entry.2) ∨ Covers rest position := by
  simp only [Covers, List.mem_cons, exists_eq_or_imp]

/-- Clearing fields one after another leaves zeros where one of them covers, and
leaves all other bits. The induction is on the list, with the word generalised. -/
theorem bit_foldl_clearField (fields : List (Nat × Nat)) (word : Int) (position : Nat) :
    field position 1 (fields.foldl clearField word) =
      if Covers fields position then 0 else field position 1 word := by
  induction fields generalizing word with
  | nil => simp [Covers]
  | cons entry rest inductionHypothesis =>
    rw [List.foldl_cons, inductionHypothesis, clearField_eq word entry.1 entry.2, bit_sub_portion]
    by_cases here : entry.1 ≤ position ∧ position < entry.1 + entry.2 <;>
      by_cases later : Covers rest position <;> simp [covers_cons, here, later]

/-- A bit of a machine word: the bit of the word below position 32, and zero above. -/
theorem bit_machineWord (word : Int) (position : Nat) :
    field position 1 (machineWord word) = if position < 32 then field position 1 word else 0 := by
  split
  case isTrue inside => exact field_machineWord position 1 word (by omega)
  case isFalse outside =>
    obtain ⟨rest, rfl⟩ := Nat.exists_eq_add_of_le (Nat.le_of_not_lt outside)
    have small : machineWord word / weight 32 = 0 :=
      Int.ediv_eq_zero_of_lt (Int.natCast_nonneg _) (toNat_field_lt 0 32 word)
    rw [field_quotient, small, field_of_zero]

/-- A bit of the significant part of a word is the word's own bit, or zero where the
shape ignores it. -/
theorem bit_significant (instruction : Instruction) (word : Int) (position : Nat) :
    field position 1 (significant instruction word) =
      if position < 32 ∧ ¬ Covers instruction.ignoredFields position then field position 1 word
      else 0 := by
  rw [significant, bit_foldl_clearField, bit_machineWord]
  by_cases covered : Covers instruction.ignoredFields position <;>
    by_cases inside : position < 32 <;> simp [covered, inside]

/-- A field of a machine word that no ignored field overlaps. -/
def Apart (fields : List (Nat × Nat)) (bit size : Nat) : Prop :=
  bit + size ≤ 32 ∧ ∀ entry ∈ fields, bit + size ≤ entry.1 ∨ entry.1 + entry.2 ≤ bit

instance (fields : List (Nat × Nat)) (bit size : Nat) : Decidable (Apart fields bit size) :=
  inferInstanceAs (Decidable (_ ∧ _))

/-- Two words agree in every bit that an instruction's shape does not ignore. -/
def AgreeFor (instruction : Instruction) (word changed : Int) : Prop :=
  ∀ position < 32, ¬ Covers instruction.ignoredFields position →
    field position 1 changed = field position 1 word

/-- Two words agree in every field of a machine word that is apart from given ones. -/
def SameOutside (fields : List (Nat × Nat)) (before after : Int) : Prop :=
  ∀ bit size, Apart fields bit size → field bit size after = field bit size before

/-- Words that agree for an instruction agree in every field apart from those that
its shape ignores. -/
theorem AgreeFor.sameOutside {instruction : Instruction} {word changed : Int}
    (agree : AgreeFor instruction word changed) :
    SameOutside instruction.ignoredFields (machineWord word) (machineWord changed) := by
  intro bit size apart
  apply field_eq_of_bits
  intro position above below
  obtain ⟨inside, clear⟩ := apart
  have uncovered : ¬ Covers instruction.ignoredFields position := by
    rintro ⟨entry, member, start, stop⟩
    have := clear entry member
    omega
  rw [bit_machineWord, bit_machineWord, agree position (by omega) uncovered]

namespace SameOutside

variable {fields : List (Nat × Nat)} {before after : Int}

/-- A selection survives. -/
theorem selects (same : SameOutside fields before after) {α : Type} {bit size : Nat}
    {table : List (Nat × α)} {operation : α} (apart : Apart fields bit size)
    (selected : Selects bit size before table operation) :
    Selects bit size after table operation := by
  rw [Selects, same bit size apart]
  exact selected

/-- A general register is read alike. -/
theorem general (same : SameOutside fields before after) (bit : Nat)
    (apart : Apart fields bit 5) :
    GeneralRegister.atBit bit after = GeneralRegister.atBit bit before := by
  rw [GeneralRegister.atBit, same bit 5 apart, GeneralRegister.atBit]

/-- A vector register is read alike. -/
theorem vector (same : SameOutside fields before after) (bit : Nat)
    (apart : Apart fields bit 5) :
    VectorRegister.atBit bit after = VectorRegister.atBit bit before := by
  rw [VectorRegister.atBit, same bit 5 apart, VectorRegister.atBit]

/-- A branch reaches the same target. -/
theorem branch (same : SameOutside fields before after) (apart : Apart fields 0 16)
    (address : Int) : Symbol.ofBranch after address = Symbol.ofBranch before address := by
  rw [Symbol.ofBranch, same 0 16 apart, Symbol.ofBranch]

/-- A jump reaches the same target. -/
theorem jump (same : SameOutside fields before after) (apart : Apart fields 0 26)
    (address : Int) : Symbol.ofJump after address = Symbol.ofJump before address := by
  rw [Symbol.ofJump, same 0 26 apart, Symbol.ofJump]

end SameOutside

/-- The empty vector operation has a number that is not zero, so its words are never
moves, whatever stands in the bits that it ignores. -/
theorem vectorNop_compute {word : Int}
    (operation : Selects 0 6 word Opcode.vectorOperations .nop) : field 0 11 word ≠ 0 := by
  have table : ∀ row ∈ Opcode.vectorOperations, row.2 = .nop → row.1 ≠ 0 := by decide
  intro low
  apply table _ operation rfl
  rw [empty_field low 0 6 (by decide)]
  rfl

/-- A rule that applies to a word applies to every word that agrees with it outside
the fields that the denoted instruction ignores: the rule reads none of them. -/
theorem Denotes.of_sameOutside {before after address : Int} {instruction : Instruction}
    (unread : SameOutside instruction.ignoredFields before after)
    (denoted : Denotes before address instruction) : Denotes after address instruction := by
  cases denoted with
  | shiftByAmount group operation =>
    have same : SameOutside [(21, 5)] before after := unread
    rw [← same.general 11 (by decide), ← same.general 16 (by decide), ← same 6 5 (by decide)]
    exact .shiftByAmount (same.selects (by decide) group) (same.selects (by decide) operation)
  | threeRegister group operation =>
    have same : SameOutside [(6, 5)] before after := unread
    rw [← same.general 11 (by decide), ← same.general 21 (by decide),
      ← same.general 16 (by decide)]
    exact .threeRegister (same.selects (by decide) group) (same.selects (by decide) operation)
  | jumpRegister group operation =>
    have same : SameOutside [(6, 15)] before after := unread
    rw [← same.general 21 (by decide)]
    exact .jumpRegister (same.selects (by decide) group) (same.selects (by decide) operation)
  | jumpLinkRegister group operation =>
    have same : SameOutside [(16, 5), (6, 5)] before after := unread
    rw [← same.general 11 (by decide), ← same.general 21 (by decide)]
    exact .jumpLinkRegister (same.selects (by decide) group) (same.selects (by decide) operation)
  | breakpoint group operation =>
    have same : SameOutside [] before after := unread
    rw [← same 6 20 (by decide)]
    exact .breakpoint (same.selects (by decide) group) (same.selects (by decide) operation)
  | signBranch group condition =>
    have same : SameOutside [] before after := by
      rwa [ignoredFields, if_pos (signBranch_listed condition)] at unread
    rw [← same.general 21 (by decide), ← same.branch (by decide)]
    exact .signBranch (same.selects (by decide) group) (same.selects (by decide) condition)
  | jump group =>
    have same : SameOutside [] before after := unread
    rw [← same.jump (by decide)]
    exact .jump (same.selects (by decide) group)
  | branchTwo group =>
    have same : SameOutside [] before after := unread
    rw [← same.general 21 (by decide), ← same.general 16 (by decide), ← same.branch (by decide)]
    exact .branchTwo (same.selects (by decide) group)
  | branchOne group =>
    have same : SameOutside [(16, 5)] before after := by
      rwa [ignoredFields, if_neg (by simp [branchOne_unlisted group])] at unread
    rw [← same.general 21 (by decide), ← same.branch (by decide)]
    exact .branchOne (same.selects (by decide) group)
  | immediate group =>
    have same : SameOutside [] before after := unread
    rw [← same.general 16 (by decide), ← same.general 21 (by decide), ← same 0 16 (by decide)]
    exact .immediate (same.selects (by decide) group)
  | loadUpper group =>
    have same : SameOutside [(21, 5)] before after := unread
    rw [← same.general 16 (by decide), ← same 0 16 (by decide)]
    exact .loadUpper (same.selects (by decide) group)
  | loadStore group =>
    have same : SameOutside [] before after := unread
    rw [← same.general 16 (by decide), ← same.general 21 (by decide), ← same 0 16 (by decide)]
    exact .loadStore (same.selects (by decide) group)
  | systemMove group direction register =>
    have same : SameOutside [(0, 11)] before after := unread
    rw [← same.general 16 (by decide)]
    rw [SystemRegister.atBit?, ← same 11 5 (by decide)] at register
    exact .systemMove (same.selects (by decide) group) (same.selects (by decide) direction)
      register
  | vectorMove group low direction =>
    have same : SameOutside [] before after := unread
    rw [← same 0 11 (by decide)] at low
    rw [← same.general 16 (by decide), ← same.vector 11 (by decide), ← same 7 4 (by decide)]
    exact .vectorMove (same.selects (by decide) group) low (same.selects (by decide) direction)
  | controlMove group low direction register =>
    have same : SameOutside [] before after := unread
    rw [← same 0 11 (by decide)] at low
    rw [VectorControl.atBit?, ← same 11 5 (by decide)] at register
    rw [← same.general 16 (by decide)]
    exact .controlMove (same.selects (by decide) group) low (same.selects (by decide) direction)
      register
  | vectorNop group compute operation =>
    have same : SameOutside [(6, 20)] before after := unread
    have survived := same.selects (by decide) operation
    exact .vectorNop (same.selects (by decide) group) (vectorNop_compute survived) survived
  | vectorCompute group compute operation selector =>
    have same : SameOutside [(25, 1)] before after := unread
    rw [← same 0 11 (by decide)] at compute
    rw [LaneSelector.atBit?, ← same 21 4 (by decide)] at selector
    rw [← same.vector 6 (by decide), ← same.vector 11 (by decide), ← same.vector 16 (by decide)]
    exact .vectorCompute (same.selects (by decide) group) compute
      (same.selects (by decide) operation) selector
  | vectorScalar group compute operation selector =>
    have same : SameOutside [(25, 1)] before after := unread
    rw [← same 0 11 (by decide)] at compute
    rw [LaneSelector.atBit?, ← same 21 4 (by decide)] at selector
    rw [← same.vector 6 (by decide), ← same 11 5 (by decide), ← same.vector 16 (by decide)]
    exact .vectorScalar (same.selects (by decide) group) compute
      (same.selects (by decide) operation) selector
  | vectorLoadStore group mode =>
    have same : SameOutside [] before after := unread
    rw [← same.vector 16 (by decide), ← same 7 4 (by decide), ← same.general 21 (by decide),
      ← same 0 7 (by decide)]
    exact .vectorLoadStore (same.selects (by decide) group) (same.selects (by decide) mode)

/-- Zero would be a shift that changes nothing, if it were not the empty instruction. -/
theorem denotes_zero {address : Int} {instruction : Instruction}
    (denoted : Denotes 0 address instruction) :
    instruction = .shiftByAmount "sll" ⟨0⟩ ⟨0⟩ 0 := by
  have decoded : decode? 0 address = some (.shiftByAmount "sll" ⟨0⟩ ⟨0⟩ 0) := rfl
  exact Option.some.inj (denoted.decode?_eq.symm.trans decoded)

/-- Words that agree everywhere are one machine word. -/
theorem machineWord_eq_of_sameOutside {word changed : Int}
    (same : SameOutside [] (machineWord word) (machineWord changed)) :
    machineWord changed = machineWord word := by
  have equal := same 0 32 (by decide)
  rw [field_machineWord 0 32 _ (by decide), field_machineWord 0 32 _ (by decide)] at equal
  rw [machineWord, equal, machineWord]

end Agreement

/-- Encoding a decoded word gives back its significant bits. -/
theorem encode_decode (word address : Int) :
    encode address (decode word address) = significant (decode word address) word := by
  rcases decode_cases word address with ⟨zero, empty⟩ | ⟨_, denoted⟩ | ⟨_, _, unknown⟩
  · rw [empty, significant, zero]
    rfl
  · exact encode_denoted word address _ denoted
  · rw [unknown, encode, machineWord, field_machineWord 0 32 word (by decide)]
    rfl

/-- A word that differs only in ignored bits decodes alike, unless it has become
zero. -/
theorem decode_of_agree (word changed address : Int)
    (agree : AgreeFor (decode word address) word changed) :
    decode changed address =
      if decode word address = .shiftByAmount "sll" ⟨0⟩ ⟨0⟩ 0 ∧ machineWord changed = 0
      then .nop else decode word address := by
  have unread := agree.sameOutside
  have sameWord (same : machineWord changed = machineWord word) :
      decode changed address = decode word address := by
    rw [decode, same, decode]
  rcases decode_cases word address with ⟨_, empty⟩ | ⟨_, denoted⟩ | ⟨_, _, unknown⟩
  · rw [empty] at unread ⊢
    rw [sameWord (machineWord_eq_of_sameOutside unread), empty, if_neg (by simp)]
  · have survived := denoted.of_sameOutside unread
    by_cases zero : machineWord changed = 0
    · rw [zero] at survived
      rw [if_pos ⟨denotes_zero survived, zero⟩, decode, if_pos zero]
    · rw [if_neg (fun both => zero both.2), survived.decode_eq zero]
  · rw [unknown] at unread ⊢
    rw [sameWord (machineWord_eq_of_sameOutside unread), unknown, if_neg (by simp)]

/-- Encoding undoes decoding up to the bits that the decoded shape ignores: those bits
are zero and all others are the word's own. Conversely a change of ignored bits does
not change the instruction, except that a shift without effect becomes the empty
instruction when the changed word is zero. -/
theorem decode_loses_only_ignored_bits (word address : Int) :
    encode address (decode word address) = significant (decode word address) word ∧
    (∀ position, field position 1 (significant (decode word address) word) =
      if position < 32 ∧ ¬ Covers (decode word address).ignoredFields position
      then field position 1 word else 0) ∧
    ∀ changed, AgreeFor (decode word address) word changed →
      decode changed address =
        if decode word address = .shiftByAmount "sll" ⟨0⟩ ⟨0⟩ 0 ∧ machineWord changed = 0
        then .nop else decode word address :=
  ⟨encode_decode word address, bit_significant _ word,
    fun changed agree => decode_of_agree word changed address agree⟩

/-- The unused register field of a shift without effect: with it the word is a shift,
without it the word is zero. -/
theorem cleared_shift_becomes_nop :
    decode 0x00200000 0 = .shiftByAmount "sll" ⟨0⟩ ⟨0⟩ 0 ∧
    AgreeFor (decode 0x00200000 0) 0x00200000 0 ∧ decode 0 0 = .nop := by
  have agree : AgreeFor (decode 0x00200000 0) 0x00200000 0 := by
    unfold AgreeFor
    decide
  have changed := (decode_loses_only_ignored_bits 0x00200000 0).2.2 0 agree
  exact ⟨by rfl, agree, changed.trans (by rfl)⟩

end Microcode.Instruction
