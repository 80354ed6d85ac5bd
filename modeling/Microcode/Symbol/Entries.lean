import Microcode.Symbol.Table

/-!
# Symbol tables as entries

A table can also be kept as entries of symbols under a kind and an address, in the order in
which the keys came first. Storing under a key that is there overwrites its symbol and keeps
its place.

`Symbol.Table` is what listings use; the entries record what it stands for.
-/

namespace Microcode.SymbolTable

/-- A symbol under the key of a kind and an address. -/
abbrev Entry : Type := (SymbolKind × Int) × Symbol

/-- The keys of entries. -/
def keys (entries : List Entry) : List (SymbolKind × Int) := entries.map Prod.fst

/-- Stores a symbol under a key: where the key stands, or else behind all entries. -/
def storeAt (key : SymbolKind × Int) (symbol : Symbol) : List Entry → List Entry
  | [] => [(key, symbol)]
  | entry :: rest =>
    if entry.1 = key then (key, symbol) :: rest else entry :: storeAt key symbol rest

/-- Stores a symbol under its kind and address. -/
def store (entries : List Entry) (symbol : Symbol) : List Entry :=
  storeAt (symbol.kind, symbol.address) symbol entries

/-- The entries after operations, each of which stores its symbols in turn. -/
def entries (operations : List Operation) : List Entry :=
  (operations.flatMap Operation.symbols).foldl store []

/-- The symbols under the two keys of an address, the subroutine's first. -/
def storedAt (entries : List Entry) (address : Int) : List Symbol :=
  [SymbolKind.subroutine, .branchTarget].filterMap fun kind => entries.lookup (kind, address)

/-- A new key is put last, and a key that is there keeps its place. -/
theorem keys_storeAt (key : SymbolKind × Int) (symbol : Symbol) (entries : List Entry) :
    keys (storeAt key symbol entries) =
      if key ∈ keys entries then keys entries else keys entries ++ [key] := by
  induction entries with
  | nil => rfl
  | cons entry rest inductionHypothesis =>
    have front (others : List Entry) : keys (entry :: others) = entry.1 :: keys others := rfl
    rw [storeAt, front]
    by_cases here : entry.1 = key
    · rw [if_pos here, if_pos (here ▸ .head _), ← here]
      rfl
    · rw [if_neg here, front, inductionHypothesis]
      by_cases behind : key ∈ keys rest
      · rw [if_pos behind, if_pos (.tail _ behind)]
      · have new : key ∉ entry.1 :: keys rest :=
          List.not_mem_cons_of_ne_of_not_mem (Ne.symm here) behind
        rw [if_neg behind, if_neg new, List.cons_append]

/-- Storing leaves the new entry and earlier ones. -/
theorem mem_storeAt {key : SymbolKind × Int} {symbol : Symbol} {entries : List Entry}
    {entry : Entry} (member : entry ∈ storeAt key symbol entries) :
    entry = (key, symbol) ∨ entry ∈ entries := by
  induction entries with
  | nil => exact .inl (List.mem_singleton.mp member)
  | cons first rest inductionHypothesis =>
    unfold storeAt at member
    split at member
    · rcases List.mem_cons.mp member with now | later
      · exact .inl now
      · exact .inr (.tail _ later)
    · rcases List.mem_cons.mp member with same | later
      · exact .inr (same ▸ .head _)
      · exact (inductionHypothesis later).imp id (.tail _)

end Microcode.SymbolTable
