import Microcode.Instruction
import Std.Data.TreeSet.Lemmas

/-!
# Symbol tables

A table is a finite set of symbols, held as the addresses of each kind in ascending
order. Adding a symbol that is already present changes nothing that can be asked, so
the order and the number of additions do not matter. A jump and a branch may refer to
one address; the table keeps both, and lists the subroutine first.
-/

namespace Microcode

/-- The symbols referred to so far. -/
structure SymbolTable where
  /-- Addresses of subroutines. -/
  subroutines : Std.TreeSet Int := {}
  /-- Addresses of branch targets. -/
  branchTargets : Std.TreeSet Int := {}

namespace SymbolTable

/-- The table without symbols. -/
def empty : SymbolTable := {}

/-- The addresses of the symbols of one kind. -/
def addresses (table : SymbolTable) : SymbolKind → Std.TreeSet Int
  | .subroutine => table.subroutines
  | .branchTarget => table.branchTargets

/-- A symbol is in the table if its address is among those of its kind. -/
instance : Membership Symbol SymbolTable :=
  ⟨fun table symbol => symbol.address ∈ table.addresses symbol.kind⟩

instance (symbol : Symbol) (table : SymbolTable) : Decidable (symbol ∈ table) :=
  inferInstanceAs (Decidable (symbol.address ∈ table.addresses symbol.kind))

/-- The table with one symbol more. -/
def add (table : SymbolTable) (symbol : Symbol) : SymbolTable :=
  match symbol.kind with
  | .subroutine => { table with subroutines := table.subroutines.insert symbol.address }
  | .branchTarget => { table with branchTargets := table.branchTargets.insert symbol.address }

/-- The symbols that instructions refer to, in order and with repetitions. -/
def referenced (instructions : List Instruction) : List Symbol :=
  instructions.filterMap Instruction.symbol?

/-- The table with every symbol that the instructions refer to. -/
def discover (table : SymbolTable) (instructions : List Instruction) : SymbolTable :=
  (referenced instructions).foldl add table

/-- What is done to a table. -/
inductive Operation where
  /-- Add a symbol. -/
  | add (symbol : Symbol)
  /-- Add what instructions refer to. -/
  | discover (instructions : List Instruction)

/-- The symbols that come with an operation, in order and with repetitions. -/
def Operation.symbols : Operation → List Symbol
  | .add symbol => [symbol]
  | .discover instructions => instructions.filterMap Instruction.symbol?

/-- The table after an operation. -/
def after (table : SymbolTable) : Operation → SymbolTable
  | .add symbol => table.add symbol
  | .discover instructions => table.discover instructions

/-- The table after operations on the empty one. -/
def run (operations : List Operation) : SymbolTable := operations.foldl after empty

/-- The number of symbols. -/
def size (table : SymbolTable) : Nat := table.subroutines.size + table.branchTargets.size

/-- The symbols at an address, the subroutine before the branch target. -/
def labelsAt (table : SymbolTable) (address : Int) : List Symbol :=
  [Symbol.mk .subroutine address, Symbol.mk .branchTarget address].filter (· ∈ table)

/-- Whether some symbol has the address. -/
def hasLabelAt (table : SymbolTable) (address : Int) : Bool :=
  !(table.labelsAt address).isEmpty

/-- All symbols: the subroutines and then the branch targets, by ascending address. -/
def toList (table : SymbolTable) : List Symbol :=
  table.subroutines.toList.map (Symbol.mk .subroutine)
    ++ table.branchTargets.toList.map (Symbol.mk .branchTarget)

/-- Adding a symbol adds exactly that symbol. -/
theorem mem_add (table : SymbolTable) (added symbol : Symbol) :
    symbol ∈ table.add added ↔ added = symbol ∨ symbol ∈ table := by
  obtain ⟨addedKind, addedAddress⟩ := added
  obtain ⟨kind, address⟩ := symbol
  change address ∈ (table.add ⟨addedKind, addedAddress⟩).addresses kind ↔
    _ ∨ address ∈ table.addresses kind
  cases addedKind <;> cases kind <;> simp [add, addresses, Std.TreeSet.mem_insert]

/-- The empty table has no symbols. -/
theorem not_mem_empty (symbol : Symbol) : symbol ∉ empty := by
  intro member
  change symbol.address ∈ empty.addresses symbol.kind at member
  cases kind : symbol.kind <;> simp [kind, empty, addresses] at member

/-- Discovery adds exactly the symbols that are referred to. -/
theorem mem_discover (table : SymbolTable) (instructions : List Instruction)
    (symbol : Symbol) :
    symbol ∈ table.discover instructions ↔
      symbol ∈ referenced instructions ∨ symbol ∈ table := by
  unfold discover
  induction referenced instructions generalizing table with
  | nil => simp
  | cons first rest inductionHypothesis =>
    rw [List.foldl_cons, inductionHypothesis, mem_add, List.mem_cons]
    constructor
    · rintro (later | same | earlier)
      · exact .inl (.inr later)
      · exact .inl (.inl same.symm)
      · exact .inr earlier
    · rintro ((same | later) | earlier)
      · exact .inr (.inl same.symm)
      · exact .inl later
      · exact .inr (.inr earlier)

end SymbolTable

end Microcode
