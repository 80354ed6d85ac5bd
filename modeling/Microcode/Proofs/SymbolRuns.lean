import Mathlib.Data.Finset.Card
import Microcode.Symbol.Entries

/-!
# Runs of operations on a symbol table

Symbols come into a table one by one or with the instructions that refer to them. After
any run of such operations the table is the set of the symbols that came: its answers are
those of the set, so they do not depend on the order, the number or the grouping of the
operations.

The table keeps addresses by kind. It stands for entries under a kind and an address, which
overwrite each other. What carries this through a run is that every key holds its own
symbol and stands once, so that overwriting changes nothing.
-/

namespace Microcode.SymbolTable

section Runs

/-- The set of the symbols that come with operations. -/
def brought (operations : List Operation) : Finset Symbol :=
  (operations.flatMap Operation.symbols).toFinset

/-- An operation adds exactly the symbols that come with it. -/
theorem mem_after_iff (table : SymbolTable) (operation : Operation) (symbol : Symbol) :
    symbol ∈ table.after operation ↔ symbol ∈ operation.symbols ∨ symbol ∈ table := by
  cases operation with
  | add added =>
    rw [after, mem_add, Operation.symbols, List.mem_singleton, eq_comm]
  | discover instructions => exact mem_discover table instructions symbol

/-- Operations add exactly the symbols that come with them. -/
theorem mem_foldl_after_iff (table : SymbolTable) (operations : List Operation)
    (symbol : Symbol) :
    symbol ∈ operations.foldl after table ↔ symbol ∈ brought operations ∨ symbol ∈ table := by
  rw [brought, List.mem_toFinset]
  induction operations generalizing table with
  | nil => simp
  | cons operation rest inductionHypothesis =>
    rw [List.foldl_cons, inductionHypothesis, mem_after_iff, List.flatMap_cons, List.mem_append,
      ← or_assoc, or_comm (a := symbol ∈ rest.flatMap Operation.symbols)]

/-- After a run the table holds exactly the symbols that came. -/
theorem mem_run_iff (operations : List Operation) (symbol : Symbol) :
    symbol ∈ run operations ↔ symbol ∈ brought operations := by
  rw [run, mem_foldl_after_iff]
  exact or_iff_left (not_mem_empty symbol)

end Runs

section Answers

/-- The symbols of a table, as a list, are its members. -/
theorem mem_toList_iff (table : SymbolTable) (symbol : Symbol) :
    symbol ∈ table.toList ↔ symbol ∈ table := by
  obtain ⟨kind, address⟩ := symbol
  change _ ↔ address ∈ table.addresses kind
  cases kind <;> simp [toList, addresses]

/-- The list of a table has each symbol once. -/
theorem toList_distinct (table : SymbolTable) : table.toList.Nodup := by
  have distinct (kind : SymbolKind) (addresses : Std.TreeSet Int) :
      (addresses.toList.map (Symbol.mk kind)).Nodup := by
    apply List.Nodup.map
    · intro left right same
      exact congrArg Symbol.address same
    · apply addresses.distinct_toList.imp
      intro left right differ same
      exact differ (Std.LawfulEqCmp.compare_eq_iff_eq.mpr same)
  refine (distinct .subroutine _).append (distinct .branchTarget _) ?_
  intro symbol inFront behind
  obtain ⟨_, _, rfl⟩ := List.mem_map.mp inFront
  obtain ⟨_, _, other⟩ := List.mem_map.mp behind
  cases other

/-- The size of a table is that of its list. -/
theorem length_toList (table : SymbolTable) : table.toList.length = table.size := by
  simp [toList, size]

/-- A table with the members of a set has its size. -/
theorem size_of_mem_iff {table : SymbolTable} {symbols : Finset Symbol}
    (same : ∀ symbol, symbol ∈ table ↔ symbol ∈ symbols) : table.size = symbols.card := by
  have listed : table.toList.toFinset = symbols := by
    ext symbol
    rw [List.mem_toFinset, mem_toList_iff, same]
  rw [← listed, List.toFinset_card_of_nodup table.toList_distinct, length_toList]

/-- The labels at an address are the subroutine, if it is a member, and then the branch
target, if it is one. -/
theorem labelsAt_of_mem_iff {table : SymbolTable} {symbols : Finset Symbol}
    (same : ∀ symbol, symbol ∈ table ↔ symbol ∈ symbols) (address : Int) :
    table.labelsAt address =
      (if ⟨.subroutine, address⟩ ∈ symbols then [⟨.subroutine, address⟩] else []) ++
        (if ⟨.branchTarget, address⟩ ∈ symbols then [⟨.branchTarget, address⟩] else []) := by
  simp only [labelsAt, same, List.filter_cons, List.filter_nil, decide_eq_true_eq]
  split <;> split <;> rfl

/-- An address has a label exactly if the list of its labels has a member. -/
theorem hasLabelAt_iff (table : SymbolTable) (address : Int) :
    table.hasLabelAt address = true ↔ table.labelsAt address ≠ [] := by
  rw [hasLabelAt, Bool.not_eq_true', List.isEmpty_eq_false_iff]

/-- Tables that answer every question alike. -/
structure SameAnswers (left right : SymbolTable) : Prop where
  size : left.size = right.size
  labels : ∀ address, left.labelsAt address = right.labelsAt address
  hasLabel : ∀ address, left.hasLabelAt address = right.hasLabelAt address
  listed : left.toList = right.toList

/-- Tables with the same members answer alike. -/
theorem sameAnswers_of_mem_iff {left right : SymbolTable}
    (same : ∀ symbol, symbol ∈ left ↔ symbol ∈ right) : SameAnswers left right := by
  have labels (address : Int) : left.labelsAt address = right.labelsAt address := by
    simp only [labelsAt, same]
  have kept (kind : SymbolKind) :
      (left.addresses kind).toList = (right.addresses kind).toList :=
    (Std.TreeSet.Equiv.of_forall_mem_iff fun address => same ⟨kind, address⟩).toList_eq
  have listed : left.toList = right.toList := by
    have subroutines : left.subroutines.toList = right.subroutines.toList := kept .subroutine
    have branchTargets : left.branchTargets.toList = right.branchTargets.toList :=
      kept .branchTarget
    rw [toList, toList, subroutines, branchTargets]
  constructor
  case size => rw [← length_toList, ← length_toList, listed]
  case labels => exact labels
  case hasLabel =>
    intro address
    rw [hasLabelAt, hasLabelAt, labels]
  case listed => exact listed

end Answers

section Rearrangements

/-- Operations in another order, repeated or grouped in another way. -/
inductive Rearranged : List Operation → List Operation → Prop where
  | reordered {left right : List Operation} (same : left.Perm right) : Rearranged left right
  | repeated {operations : List Operation} {operation : Operation}
      (earlier : operation ∈ operations) : Rearranged operations (operation :: operations)
  | regrouped (front back : List Operation) (first second : List Instruction) :
      Rearranged (front ++ .discover (first ++ second) :: back)
        (front ++ .discover first :: .discover second :: back)
  | symm {left right : List Operation} (other : Rearranged left right) : Rearranged right left
  | trans {left middle right : List Operation} (one : Rearranged left middle)
      (two : Rearranged middle right) : Rearranged left right

/-- Rearranged operations bring the same symbols. -/
theorem Rearranged.brought_eq {left right : List Operation}
    (rearranged : Rearranged left right) : brought left = brought right := by
  induction rearranged with
  | reordered same => exact List.toFinset_eq_of_perm _ _ (same.flatMap_right _)
  | repeated earlier =>
    ext symbol
    simp only [brought, List.mem_toFinset, List.flatMap_cons, List.mem_append]
    exact (or_iff_right_of_imp fun now => List.mem_flatMap.mpr ⟨_, earlier, now⟩).symm
  | regrouped front back first second =>
    simp only [brought, List.flatMap_append, List.flatMap_cons, Operation.symbols,
      List.filterMap_append, List.append_assoc]
  | symm _ inductionHypothesis => exact inductionHypothesis.symm
  | trans _ _ one two => exact one.trans two

end Rearrangements

section Entries

/-- Entries that stand for a set: every key holds its own symbol and stands once, and the
keys are those of the set's symbols. -/
structure StandsFor (entries : List Entry) (symbols : Finset Symbol) : Prop where
  own : ∀ entry ∈ entries, entry.2 = ⟨entry.1.1, entry.1.2⟩
  distinct : (keys entries).Nodup
  members : ∀ kind address, (kind, address) ∈ keys entries ↔ ⟨kind, address⟩ ∈ symbols

/-- Storing a symbol adds it to the set. -/
theorem StandsFor.store {entries : List Entry} {symbols : Finset Symbol}
    (standsFor : StandsFor entries symbols) (symbol : Symbol) :
    StandsFor (store entries symbol) (insert symbol symbols) := by
  obtain ⟨kind, address⟩ := symbol
  constructor
  case own =>
    intro entry member
    rcases mem_storeAt member with rfl | earlier
    · rfl
    · exact standsFor.own entry earlier
  case distinct =>
    rw [SymbolTable.store, keys_storeAt]
    split
    case isTrue => exact standsFor.distinct
    case isFalse new =>
      exact List.nodup_append_comm.mp (List.nodup_cons.mpr ⟨new, standsFor.distinct⟩)
  case members =>
    intro otherKind otherAddress
    have members := standsFor.members otherKind otherAddress
    rw [SymbolTable.store, keys_storeAt, Finset.mem_insert, ← members, Symbol.mk.injEq]
    split
    case isTrue known =>
      constructor
      · exact .inr
      · rintro (⟨rfl, rfl⟩ | member)
        · exact known
        · exact member
    case isFalse =>
      rw [List.mem_append, List.mem_singleton, Prod.mk.injEq, or_comm]

/-- Storing symbols in turn adds all of them. -/
theorem StandsFor.foldl_store {entries : List Entry} {symbols : Finset Symbol}
    (standsFor : StandsFor entries symbols) (further : List Symbol) :
    StandsFor (further.foldl SymbolTable.store entries) (further.toFinset ∪ symbols) := by
  induction further generalizing entries symbols with
  | nil => simpa using standsFor
  | cons symbol rest inductionHypothesis =>
    have stored := inductionHypothesis (standsFor.store symbol)
    rw [List.toFinset_cons, Finset.insert_union, ← Finset.union_insert]
    exact stored

/-- After a run the entries stand for the symbols that came. -/
theorem standsFor_entries (operations : List Operation) :
    StandsFor (entries operations) (brought operations) := by
  have nothing : StandsFor [] ∅ := ⟨nofun, List.nodup_nil, by simp [keys]⟩
  have stored := nothing.foldl_store (operations.flatMap Operation.symbols)
  rw [Finset.union_empty] at stored
  exact stored

variable {entries : List Entry} {symbols : Finset Symbol}

/-- Under a key its own symbol is found, if it is in the set. -/
theorem StandsFor.lookup_eq (standsFor : StandsFor entries symbols) (kind : SymbolKind)
    (address : Int) :
    entries.lookup (kind, address) =
      if ⟨kind, address⟩ ∈ symbols then some ⟨kind, address⟩ else none := by
  cases found : entries.lookup (kind, address) with
  | none =>
    have absent : (kind, address) ∉ keys entries := by
      intro present
      obtain ⟨entry, member, same⟩ := List.mem_map.mp present
      have differ := List.lookup_eq_none_iff.mp found entry member
      rw [same, bne_self_eq_false] at differ
      cases differ
    rw [if_neg (mt (standsFor.members kind address).mpr absent)]
  | some symbol =>
    obtain ⟨front, back, parts, -⟩ := List.lookup_eq_some_iff.mp found
    have member : ((kind, address), symbol) ∈ entries := by
      rw [parts]
      exact List.mem_append_right front (.head _)
    have present := (standsFor.members kind address).mp (List.mem_map_of_mem member)
    rw [if_pos present]
    exact congrArg some (standsFor.own _ member)

/-- At an address the subroutine is found, if it is in the set, and then the branch target,
if it is in the set. -/
theorem StandsFor.storedAt_eq (standsFor : StandsFor entries symbols) (address : Int) :
    storedAt entries address =
      (if ⟨.subroutine, address⟩ ∈ symbols then [⟨.subroutine, address⟩] else []) ++
        (if ⟨.branchTarget, address⟩ ∈ symbols then [⟨.branchTarget, address⟩] else []) := by
  by_cases subroutine : ⟨.subroutine, address⟩ ∈ symbols <;>
    by_cases branchTarget : ⟨.branchTarget, address⟩ ∈ symbols <;>
      simp [storedAt, standsFor.lookup_eq, subroutine, branchTarget]

/-- There are as many entries as symbols in the set. -/
theorem StandsFor.length_eq (standsFor : StandsFor entries symbols) :
    entries.length = symbols.card := by
  have injective : Function.Injective fun key : SymbolKind × Int => Symbol.mk key.1 key.2 := by
    intro left right same
    exact Prod.ext (congrArg Symbol.kind same) (congrArg Symbol.address same)
  have listed : ((keys entries).map fun key => Symbol.mk key.1 key.2).toFinset = symbols := by
    ext ⟨kind, address⟩
    rw [List.mem_toFinset, ← standsFor.members kind address]
    exact List.mem_map_of_injective injective (a := (kind, address))
  rw [← listed, List.toFinset_card_of_nodup (standsFor.distinct.map injective), List.length_map,
    keys, List.length_map]

end Entries

/-- What a table that is a set of symbols, and the entries that it stands for, answer. -/
structure AnswersFor (symbols : Finset Symbol) (entries : List Entry) (table : SymbolTable) :
    Prop where
  /-- There are as many symbols as in the set. -/
  size : table.size = symbols.card
  entryCount : entries.length = symbols.card
  /-- The addresses kept under a kind are those of the set's symbols of this kind. -/
  kept : ∀ kind address, address ∈ table.addresses kind ↔ ⟨kind, address⟩ ∈ symbols
  /-- A key of the entries holds its own symbol, and a symbol is there if it is in the set. -/
  own : ∀ entry ∈ entries, entry.2 = ⟨entry.1.1, entry.1.2⟩
  found : ∀ symbol : Symbol, entries.lookup (symbol.kind, symbol.address) =
    if symbol ∈ symbols then some symbol else none
  /-- The labels at an address are the subroutine, if it is in the set, and then the branch
  target, if it is in the set. -/
  labels : ∀ address, table.labelsAt address =
    (if ⟨.subroutine, address⟩ ∈ symbols then [⟨.subroutine, address⟩] else []) ++
      (if ⟨.branchTarget, address⟩ ∈ symbols then [⟨.branchTarget, address⟩] else [])
  storedLabels : ∀ address, storedAt entries address = table.labelsAt address
  /-- An address has a label exactly if there are labels at it. -/
  hasLabel : ∀ address, table.hasLabelAt address = true ↔ table.labelsAt address ≠ []

/-- After any run a table is the set of the symbols that were added or that discovered
instructions refer to, and operations that are rearranged leave a table that answers
alike. -/
theorem run_is_set (operations : List Operation) :
    AnswersFor (brought operations) (entries operations) (run operations) ∧
      ∀ others, Rearranged operations others → SameAnswers (run operations) (run others) := by
  have same := mem_run_iff operations
  have standsFor := standsFor_entries operations
  constructor
  · constructor
    case size => exact size_of_mem_iff same
    case entryCount => exact standsFor.length_eq
    case kept => exact fun kind address => same ⟨kind, address⟩
    case own => exact standsFor.own
    case found => exact fun symbol => standsFor.lookup_eq symbol.kind symbol.address
    case labels => exact labelsAt_of_mem_iff same
    case storedLabels =>
      intro address
      rw [labelsAt_of_mem_iff same]
      exact standsFor.storedAt_eq address
    case hasLabel => exact (run operations).hasLabelAt_iff
  · intro others rearranged
    apply sameAnswers_of_mem_iff
    intro symbol
    rw [same, mem_run_iff, rearranged.brought_eq]

/-- A jump and a branch to one address are discovered together, or apart and the branch
twice. Either way there are two symbols, and the address has both labels. -/
theorem shared_address_has_both_labels :
    let jump := Instruction.jump "jal" ⟨.subroutine, 8⟩
    let branch := Instruction.branchOne "bgez" ⟨4⟩ ⟨.branchTarget, 8⟩
    let together := [Operation.discover [jump, branch]]
    let apart := [Operation.discover [branch], .discover [jump], .discover [branch]]
    Rearranged together apart ∧ (run apart).size = 2 ∧
      (run apart).labelsAt 8 = [⟨.subroutine, 8⟩, ⟨.branchTarget, 8⟩] := by
  intro jump branch together apart
  have rearranged : Rearranged together apart :=
    (Rearranged.regrouped [] [] [jump] [branch]).trans (.repeated (.tail _ (.head _)))
  obtain ⟨answers, unmoved⟩ := run_is_set together
  have same := unmoved apart rearranged
  refine ⟨rearranged, ?_, ?_⟩
  · rw [← same.size, answers.size]
    rfl
  · rw [← same.labels, answers.labels]
    rfl

end Microcode.SymbolTable
