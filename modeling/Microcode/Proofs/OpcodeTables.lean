import Microcode.Instruction.Encode
import Mathlib.Data.List.Nodup

/-!
# Opcode tables read in both directions

A lookup finds a row exactly when the row is in the table, because the numbers of a
table are distinct. The operations of a table are distinct too, so the number that
selects an operation is recovered from the operation alone.
-/

namespace Microcode.Opcode

open Bits Instruction

/-- A table in which neither a number nor an operation occurs twice. -/
def OneToOne {κ α : Type} (table : List (κ × α)) : Prop :=
  (table.map Prod.fst).Nodup ∧ (table.map Prod.snd).Nodup

/-- In a table with distinct keys a lookup answers with a row of the table, and with
every row of it. -/
theorem lookup_eq_some_iff_mem {κ α : Type} [BEq κ] [LawfulBEq κ] (table : List (κ × α))
    (distinct : (table.map Prod.fst).Nodup) (key : κ) (value : α) :
    table.lookup key = some value ↔ (key, value) ∈ table := by
  constructor
  · intro found
    obtain ⟨before, after, rfl, _⟩ := List.lookup_eq_some_iff.mp found
    simp
  · intro member
    obtain ⟨before, after, rfl⟩ := List.append_of_mem member
    refine List.lookup_eq_some_iff.mpr ⟨before, after, rfl, ?_⟩
    intro row earlier
    have apart : ∀ other ∈ before.map Prod.fst, other ≠ key := by
      simp only [List.map_append, List.map_cons, List.nodup_append] at distinct
      intro other present
      exact distinct.2.2 other present key List.mem_cons_self
    have different : row.1 ≠ key := apart row.1 (List.mem_map.mpr ⟨row, earlier, rfl⟩)
    simpa using different.symm

/-- In a table with distinct operations the number of a row's operation is the
number of the row. -/
theorem numberIn_of_mem {α : Type} [DecidableEq α] (table : List (Nat × α))
    (distinct : (table.map Prod.snd).Nodup) (number : Nat) (operation : α)
    (member : (number, operation) ∈ table) : numberIn table operation = number := by
  cases found : table.find? fun row => row.2 = operation with
  | none =>
    have absent := List.find?_eq_none.mp found (number, operation) member
    simp at absent
  | some row =>
    have rowMember : row ∈ table := List.mem_of_find?_eq_some found
    have rowOperation : row.2 = operation := by simpa using List.find?_some found
    have same : row = (number, operation) :=
      List.inj_on_of_nodup_map distinct rowMember member rowOperation
    simp [numberIn, found, same]

/-- Each primary opcode selects a group of its own. -/
theorem groups_one_to_one : OneToOne groups := ⟨groups_distinct, by decide⟩

/-- Each function number selects a register operation of its own. -/
theorem registerOperations_one_to_one : OneToOne registerOperations :=
  ⟨registerOperations_distinct, by decide⟩

/-- Each selector of the sign branches selects a branch of its own. -/
theorem signBranches_one_to_one : OneToOne signBranches := ⟨by decide, by decide⟩

/-- Each selector of the system moves selects a move of its own. -/
theorem systemMoves_one_to_one : OneToOne systemMoves := ⟨by decide, by decide⟩

/-- Each selector of the vector transfers selects a transfer of its own. -/
theorem vectorTransfers_one_to_one : OneToOne vectorTransfers := ⟨by decide, by decide⟩

/-- Each function number selects a vector operation of its own. -/
theorem vectorOperations_one_to_one : OneToOne vectorOperations :=
  ⟨vectorOperations_distinct, by decide⟩

/-- No two vector loads or stores share a mnemonic. -/
theorem vectorAccesses_distinct : (vectorAccesses.map Prod.fst).Nodup := by decide

end Microcode.Opcode
