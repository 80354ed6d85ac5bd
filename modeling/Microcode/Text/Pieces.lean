/-!
# Pieces

Ways to cut a list at marks. The marks themselves belong to no piece.
-/

namespace Microcode.Text

/-- What is in front of the first mark and what is behind it. Without a mark all of the
list is in front. -/
def cut {α : Type} (isMark : α → Bool) (list : List α) : List α × List α :=
  (list.takeWhile (!isMark ·), (list.dropWhile (!isMark ·)).drop 1)

/-- What is in front of the last mark and what is behind it. Without a mark all of the
list is behind. -/
def cutLast {α : Type} (isMark : α → Bool) (list : List α) : List α × List α :=
  let (behind, front) := cut isMark list.reverse
  (front.reverse, behind.reverse)

/-- The pieces between marks: one more than there are marks. -/
def pieces {α : Type} (isMark : α → Bool) : List α → List (List α)
  | [] => [[]]
  | first :: rest =>
    if isMark first then [] :: pieces isMark rest
    else
      match pieces isMark rest with
      | [] => [[first]]
      | piece :: others => (first :: piece) :: others

end Microcode.Text
