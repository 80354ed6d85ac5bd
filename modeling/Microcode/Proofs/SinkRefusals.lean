import Microcode.Listing.Cursor
import Microcode.Proofs.ListingRows

/-!
# Deliveries to sinks that refuse

The pieces of a listing are its lines, each with a line end behind it. A sink accepts the
pieces in turn until it refuses a call, so a delivery comes apart at any number of calls
that are accepted: they take the first pieces, and what becomes of the other pieces is what
becomes of them alone from the next call on.

Hence the first refusal ends a delivery with exactly the pieces before it, if there is a
piece for the refused call, and a sink that refuses none of the calls has accepted the text
of the listing. Nothing changes if the lines are asked for one by one and each only when the
pieces of the one before are accepted.

A buffer that cannot be listed is refused before a line is asked for and before there is any
call: the sink, whatever it would answer, makes no difference.
-/

namespace Microcode.Listing

section Pieces

/-- Texts in which each line is followed by a line end. -/
structure Alternates (lines whole : List String) : Prop where
  length : whole.length = 2 * lines.length
  line : ∀ index, whole[2 * index]? = lines[index]?
  lineEnd : ∀ index < lines.length, whole[2 * index + 1]? = some "\n"

/-- The pieces of a listing alternate between its lines and line ends. -/
theorem alternates_pieces (lines : List String) : Alternates lines (pieces lines) := by
  induction lines with
  | nil => exact ⟨rfl, fun _ => rfl, fun _ => nofun⟩
  | cons line rest inductionHypothesis =>
    rw [pieces_cons]
    constructor
    case length =>
      simp only [List.length_cons, inductionHypothesis.length]
      omega
    case line =>
      intro index
      cases index with
      | zero => rfl
      | succ index => exact inductionHypothesis.line index
    case lineEnd =>
      intro index inside
      cases index with
      | zero => rfl
      | succ index => exact inductionHypothesis.lineEnd index (Nat.lt_of_succ_lt_succ inside)

/-- The pieces of lines are the lines, each of them ended. -/
theorem join_pieces (lines : List String) :
    String.join (pieces lines) = String.join (lines.map (· ++ "\n")) := by
  induction lines with
  | nil => rfl
  | cons line rest inductionHypothesis =>
    rw [pieces_cons, List.map_cons]
    simp only [String.join_cons, inductionHypothesis, String.append_assoc]

end Pieces

section Refusals

variable {ε : Type} {refuses : Nat → Option ε}

/-- The first call that a sink refuses, and its reason. -/
structure FirstRefusal (refuses : Nat → Option ε) (number : Nat) (reason : ε) : Prop where
  refused : refuses number = some reason
  willing : ∀ earlier < number, refuses earlier = none

/-- Calls that are accepted take the first pieces; the other pieces are delivered from the
next call on. -/
theorem deliverFrom_append (number : Nat) (front back : List String)
    (willing : ∀ index < front.length, refuses (number + index) = none) :
    deliverFrom refuses number (front ++ back) =
      { deliverFrom refuses (number + front.length) back with
        accepted := front ++ (deliverFrom refuses (number + front.length) back).accepted } := by
  induction front generalizing number with
  | nil => rfl
  | cons piece rest inductionHypothesis =>
    have now : refuses number = none := willing 0 (Nat.zero_lt_succ _)
    have later : ∀ index < rest.length, refuses (number + 1 + index) = none := by
      intro index inside
      rw [Nat.add_assoc, Nat.add_comm 1]
      exact willing (index + 1) (Nat.succ_lt_succ inside)
    have place : number + 1 + rest.length = number + (piece :: rest).length := by
      rw [List.length_cons]
      omega
    rw [List.cons_append, deliverFrom, now, inductionHypothesis (number + 1) later, place]
    rfl

/-- A sink that refuses none of the calls has accepted all pieces. -/
theorem deliverFrom_complete (pieces : List String)
    (willing : ∀ number < pieces.length, refuses number = none) :
    deliverFrom refuses 0 pieces = { accepted := pieces } := by
  have split := deliverFrom_append 0 pieces []
    (fun index inside => (Nat.zero_add index).symm ▸ willing index inside)
  rw [List.append_nil] at split
  rw [split, deliverFrom, List.append_nil]

/-- The first refused call ends the delivery, with the pieces before it. -/
theorem deliverFrom_refused {number : Nat} {reason : ε}
    (first : FirstRefusal refuses number reason) (pieces : List String)
    (inside : number < pieces.length) :
    deliverFrom refuses 0 pieces = { accepted := pieces.take number, refusal := some reason } := by
  have taken : (pieces.take number).length = number :=
    List.length_take_of_le (Nat.le_of_lt inside)
  have split : pieces = pieces.take number ++ pieces[number] :: pieces.drop (number + 1) := by
    rw [← List.drop_eq_getElem_cons inside, List.take_append_drop]
  have willing : ∀ index < (pieces.take number).length, refuses (0 + index) = none := by
    intro index before
    rw [Nat.zero_add]
    exact first.willing index (taken ▸ before)
  have accepted := deliverFrom_append 0 _ (pieces[number] :: pieces.drop (number + 1)) willing
  rw [← split, taken, Nat.zero_add, deliverFrom, first.refused, List.append_nil] at accepted
  exact accepted

/-- What the delivery of pieces to a sink comes to. -/
structure Delivers (refuses : Nat → Option ε) (whole : List String) (delivery : Delivery ε) :
    Prop where
  /-- The first refusal is passed on exactly if there is a piece for the call. -/
  passedOn : ∀ number reason, FirstRefusal refuses number reason →
    (delivery.refusal = some reason ↔ number < whole.length)
  /-- Exactly the pieces before the first refusal are accepted. -/
  before : ∀ number reason, FirstRefusal refuses number reason →
    delivery.accepted = whole.take number
  /-- Without a refusal all pieces are accepted. -/
  complete : (∀ number < whole.length, refuses number = none) → delivery = { accepted := whole }

/-- Pieces are delivered up to the first refusal. -/
theorem delivers_deliverFrom (refuses : Nat → Option ε) (pieces : List String) :
    Delivers refuses pieces (deliverFrom refuses 0 pieces) := by
  -- A sink whose first refusal lies behind the pieces refuses none of them.
  have behind {number : Nat} {reason : ε} (first : FirstRefusal refuses number reason)
      (outside : ¬ number < pieces.length) :
      deliverFrom refuses 0 pieces = { accepted := pieces } :=
    deliverFrom_complete pieces fun earlier inside => first.willing earlier (by omega)
  constructor
  case passedOn =>
    intro number reason first
    by_cases inside : number < pieces.length
    · rw [deliverFrom_refused first pieces inside]
      exact iff_of_true rfl inside
    · rw [behind first inside]
      exact iff_of_false nofun inside
  case before =>
    intro number reason first
    by_cases inside : number < pieces.length
    · rw [deliverFrom_refused first pieces inside]
    · rw [behind first inside, List.take_of_length_le (Nat.le_of_not_lt inside)]
  case complete => exact deliverFrom_complete pieces

end Refusals

section Buffers

/-- A buffer that is refused, in whatever way its listing is asked for. -/
structure Unlisted (style : PrintStyle) (data : List UInt8) (base : Int) (cause : Unaligned) :
    Prop where
  rows : rows data base = .error cause
  lines : lines style data base = .error cause
  /-- No line can be asked for. -/
  cursor : Cursor.start data base = .error cause
  text : text style data base = .error cause
  /-- Whatever the sink would answer to a first call, there is none. -/
  delivery : ∀ (ε : Type) (refuses : Nat → Option ε),
    deliver refuses style data base = .error cause

/-- A buffer that is not a whole number of words is refused with its size. -/
theorem unlisted_of_unaligned (style : PrintStyle) (data : List UInt8) (base : Int)
    (unaligned : data.length % 4 ≠ 0) : Unlisted style data base ⟨data.length⟩ := by
  have refused : rows data base = .error ⟨data.length⟩ := if_neg unaligned
  have listed : lines style data base = .error ⟨data.length⟩ := by
    rw [lines, refused]
    rfl
  constructor
  case rows => exact refused
  case lines => exact listed
  case cursor =>
    rw [Cursor.start, refused]
    rfl
  case text =>
    rw [text, listed]
    rfl
  case delivery =>
    intro ε refuses
    rw [deliver, listed]
    rfl

/-- The text of a listing is made of its pieces. -/
theorem text_of_lines {style : PrintStyle} {data : List UInt8} {base : Int}
    {found : List String} (listed : lines style data base = .ok found) :
    text style data base = .ok (String.join (pieces found)) := by
  rw [text, listed, join_pieces]
  rfl

/-- A buffer whose lines are found, and what sinks get of them. -/
structure Streamed (style : PrintStyle) (data : List UInt8) (base : Int) (cursor : Cursor)
    (found : List String) : Prop where
  listed : lines style data base = .ok found
  /-- The lines can be asked for one by one. -/
  started : Cursor.start data base = .ok cursor
  remaining : cursor.remaining.map (Line.text style) = found
  /-- The pieces are the lines, each with a line end behind it, and make the text. -/
  alternates : Alternates found (pieces found)
  text : text style data base = .ok (String.join (pieces found))
  /-- Feeding a sink line by line delivers the listing. -/
  delivery : ∀ (ε : Type) (refuses : Nat → Option ε),
    deliver refuses style data base = .ok (cursor.feed refuses style 0)
  /-- The pieces are delivered up to the first refusal. -/
  delivers : ∀ (ε : Type) (refuses : Nat → Option ε),
    Delivers refuses (pieces found) (cursor.feed refuses style 0)

/-- A buffer of whole words is streamed. -/
theorem streamed_of_aligned (style : PrintStyle) (data : List UInt8) (base : Int)
    (aligned : data.length % 4 = 0) :
    ∃ cursor found, Streamed style data base cursor found := by
  have listed := lines_of_aligned style data base aligned
  have whole : (Cursor.ofRows (rowsFrom base (words data))).remaining =
      layout (rowsFrom base (words data)) := rfl
  refine ⟨Cursor.ofRows (rowsFrom base (words data)),
    (layout (rowsFrom base (words data))).map (Line.text style), ?_⟩
  constructor
  case listed => exact listed
  case started =>
    rw [Cursor.start, rows, if_pos aligned]
    rfl
  case remaining => rw [whole]
  case alternates => exact alternates_pieces _
  case text => exact text_of_lines listed
  case delivery =>
    intro ε refuses
    rw [deliver, listed, Cursor.feed_eq, whole]
    rfl
  case delivers =>
    intro ε refuses
    rw [Cursor.feed_eq, whole]
    exact delivers_deliverFrom refuses _

end Buffers

/-- A buffer that is not a whole number of words is refused with its size, before a line is
asked for and before any call. Any other buffer is delivered piece by piece up to the first
refusal of the sink, and all pieces together are its text. -/
theorem deliveries_exact (style : PrintStyle) (data : List UInt8) (base : Int) :
    (data.length % 4 ≠ 0 → Unlisted style data base ⟨data.length⟩) ∧
      (data.length % 4 = 0 → ∃ cursor found, Streamed style data base cursor found) :=
  ⟨unlisted_of_unaligned style data base, streamed_of_aligned style data base⟩

/-- A sink that is full after two pieces has the label of a jump to itself, but not the jump.
Six bytes are refused, and it is not asked. -/
theorem full_sink_keeps_label :
    deliver (fun number => if number = 2 then some "disk full" else none) {} [0x08, 0, 0, 0] 0 =
        .ok { accepted := ["subr_00000000:", "\n"], refusal := some "disk full" } ∧
      deliver (fun _ => some "disk full") {} [0x08, 0, 0, 0, 0, 0] 0 = .error ⟨6⟩ := by
  constructor
  · obtain ⟨cursor, found, streamed⟩ := (deliveries_exact {} [0x08, 0, 0, 0] 0).2 (by decide)
    have value : lines {} [0x08, 0, 0, 0] 0 =
        .ok ["subr_00000000:", "/* 00000000 08000000 */\tj subr_00000000"] := by rfl
    cases streamed.listed.symm.trans value
    have first : FirstRefusal (fun number => if number = 2 then some "disk full" else none)
        2 "disk full" := ⟨rfl, by decide⟩
    have delivered := streamed.delivery _ fun number =>
      if number = 2 then some "disk full" else none
    have laws := streamed.delivers _ fun number => if number = 2 then some "disk full" else none
    generalize cursor.feed _ {} 0 = delivery at delivered laws
    obtain ⟨accepted, refusal⟩ := delivery
    cases laws.before 2 _ first
    cases (laws.passedOn 2 _ first).mpr (by decide)
    exact delivered
  · exact ((deliveries_exact {} [0x08, 0, 0, 0, 0, 0] 0).1 (by decide)).delivery _ _

end Microcode.Listing
