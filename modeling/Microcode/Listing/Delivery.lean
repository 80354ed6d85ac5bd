import Microcode.Listing

/-!
# Delivering a listing to a sink

A listing is handed to a sink piece by piece: each line, and after it a line end.
A sink may refuse a call, for a reason of its own. Delivery stops at the first
refusal, and the pieces before it stay delivered.
-/

namespace Microcode.Listing

/-- The calls that deliver lines. -/
def pieces (lines : List String) : List String := lines.flatMap fun line => [line, "\n"]

/-- The pieces of the first line stand before those of the others. -/
theorem pieces_cons (line : String) (rest : List String) :
    pieces (line :: rest) = line :: "\n" :: pieces rest := rfl

/-- What a delivery achieved: the pieces that were accepted and the refusal that
ended it, if one did. -/
structure Delivery (ε : Type) where
  accepted : List String
  refusal : Option ε := none

/-- Delivers pieces to a sink that answers call `number` with `refuses number`. -/
def deliverFrom {ε : Type} (refuses : Nat → Option ε) (number : Nat) :
    List String → Delivery ε
  | [] => { accepted := [] }
  | piece :: rest =>
    match refuses number with
    | some reason => { accepted := [], refusal := some reason }
    | none =>
      let remainder := deliverFrom refuses (number + 1) rest
      { remainder with accepted := piece :: remainder.accepted }

/-- Delivers a buffer's listing. A buffer that cannot be listed makes no call. -/
def deliver {ε : Type} (refuses : Nat → Option ε) (style : PrintStyle) (data : List UInt8)
    (base : Int) : Except Unaligned (Delivery ε) :=
  (lines style data base).map fun lines => deliverFrom refuses 0 (pieces lines)

end Microcode.Listing
