import Microcode.Listing.Delivery

/-!
# Listings line by line

A listing need not be made as a whole. A cursor stands between two of its lines and knows
what is left of the row that it is at and the rows behind. The labels in front of a row are
made when the first line of the row is asked for. A buffer that cannot be listed has no
cursor: it is refused before a line is asked for.

Fed to a sink, a cursor is asked for a line, the sink for taking the line and then its end,
and only then the cursor for the next one.
-/

namespace Microcode.Listing

/-- A place between two lines of a listing. -/
structure Cursor where
  /-- The symbols of the listing. -/
  table : SymbolTable
  /-- Whether no row has been begun. -/
  first : Bool
  /-- What is left of the row that has been begun. -/
  due : List Line
  /-- The rows behind it. -/
  rows : List Row

namespace Cursor

/-- The place in front of rows. -/
def ofRows (rows : List Row) : Cursor := { table := symbols rows, first := true, due := [], rows }

/-- The place in front of the lines of a buffer. -/
def start (data : List UInt8) (base : Int) : Except Unaligned Cursor :=
  (Listing.rows data base).map ofRows

/-- The next line, and the place behind it. -/
def next? (cursor : Cursor) : Option (Line × Cursor) :=
  match cursor.due with
  | line :: due => some (line, { cursor with due })
  | [] =>
    match cursor.rows with
    | [] => none
    | row :: rows =>
      match labelBlock cursor.first (cursor.table.labelsAt row.address) with
      | [] => some (.instruction row, { cursor with first := false, rows })
      | line :: due =>
        some (line, { cursor with first := false, due := due ++ [.instruction row], rows })

/-- The lines behind a place. -/
def remaining (cursor : Cursor) : List Line :=
  cursor.due ++ layoutFrom cursor.table cursor.first cursor.rows

/-- There is no next line exactly where no lines remain. -/
theorem remaining_of_none {cursor : Cursor} (ended : cursor.next? = none) :
    cursor.remaining = [] := by
  obtain ⟨table, first, due, rows⟩ := cursor
  cases due with
  | cons line due => cases ended
  | nil =>
    cases rows with
    | nil => rfl
    | cons row rows =>
      simp only [next?] at ended
      split at ended <;> cases ended

/-- The next line is the first that remains, and behind it the others do. -/
theorem remaining_of_some {cursor after : Cursor} {line : Line}
    (advanced : cursor.next? = some (line, after)) :
    cursor.remaining = line :: after.remaining := by
  obtain ⟨table, first, due, rows⟩ := cursor
  cases due with
  | cons line due =>
    cases advanced
    rfl
  | nil =>
    cases rows with
    | nil => cases advanced
    | cons row rows =>
      simp only [next?] at advanced
      split at advanced
      case h_1 unlabelled =>
        cases advanced
        simp [remaining, layoutFrom, unlabelled]
      case h_2 line due labelled =>
        cases advanced
        simp [remaining, layoutFrom, labelled]

/-- Feeds the lines behind a place to a sink that answers call `number` with
`refuses number`. -/
def feed {ε : Type} (refuses : Nat → Option ε) (style : PrintStyle) (number : Nat)
    (cursor : Cursor) : Delivery ε :=
  match _ : cursor.next? with
  | none => { accepted := [] }
  | some (line, after) =>
    match refuses number with
    | some reason => { accepted := [], refusal := some reason }
    | none =>
      match refuses (number + 1) with
      | some reason => { accepted := [line.text style], refusal := some reason }
      | none =>
        let remainder := feed refuses style (number + 2) after
        { remainder with accepted := line.text style :: "\n" :: remainder.accepted }
termination_by cursor.remaining.length
decreasing_by
  have asked : cursor.remaining = line :: after.remaining := remaining_of_some ‹_›
  rw [asked]
  exact Nat.lt_succ_self _

/-- Feeding a cursor delivers the pieces of the lines behind it. -/
theorem feed_eq {ε : Type} (refuses : Nat → Option ε) (style : PrintStyle) (number : Nat)
    (cursor : Cursor) :
    cursor.feed refuses style number =
      deliverFrom refuses number (pieces (cursor.remaining.map (Line.text style))) := by
  fun_induction feed refuses style number cursor with
  | case1 number cursor ended =>
    rw [remaining_of_none ended]
    rfl
  | case2 number cursor line after advanced reason refused =>
    rw [remaining_of_some advanced, List.map_cons, pieces_cons, deliverFrom, refused]
  | case3 number cursor line after advanced willing reason refused =>
    rw [remaining_of_some advanced, List.map_cons, pieces_cons, deliverFrom, willing, deliverFrom,
      refused]
  | case4 number cursor line after advanced willing still remainder inductionHypothesis =>
    rw [remaining_of_some advanced, List.map_cons, pieces_cons, deliverFrom, willing, deliverFrom,
      still, ← inductionHypothesis]

end Cursor

end Microcode.Listing
