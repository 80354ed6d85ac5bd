import Microcode.CommandLine.Run
import Microcode.Proofs.FallibleSteps

/-!
# Files that are written

A file that is written replaces what had its location. Every other location keeps what it
has; at most, locations on the way to a new file become directories. Directories are never
replaced, so the way to the file stays, and the path that was written leads to the new
content.

Writing to a device changes nothing.
-/

namespace Microcode.CommandLine.FileTree

section Lookup

/-- Replacing what stands at one location leaves the other locations. -/
theorem lookup_replaced (entries : List (Location × Node)) (location other : Location)
    (node : Node) :
    (entries.map fun (place, kept) => (place, if place = location then node else kept)).lookup
        other =
      if other = location then (entries.lookup other).map fun _ => node
      else entries.lookup other := by
  induction entries with
  | nil => simp
  | cons entry rest inductionHypothesis =>
    obtain ⟨place, kept⟩ := entry
    rw [List.map_cons, List.lookup_cons, List.lookup_cons, inductionHypothesis]
    by_cases here : other = place
    · subst here
      by_cases replaced : other = location <;> simp [replaced]
    · have elsewhere : (other == place) = false := by simp [here]
      simp only [elsewhere]

/-- The inserted file is found at its location. -/
theorem lookup_insert_self (tree : FileTree) (location : Location) (content : List UInt8) :
    (tree.insert location content).entries.lookup location = some (.store (.file content)) := by
  simp only [insert]
  split
  case isTrue present =>
    obtain ⟨node, found⟩ := Option.isSome_iff_exists.mp present
    rw [lookup_replaced, if_pos rfl, found]
    rfl
  case isFalse absent =>
    have missing := Option.not_isSome_iff_eq_none.mp absent
    rw [List.lookup_append, missing]
    simp

/-- Other entries stay. -/
theorem lookup_insert_other (tree : FileTree) {location other : Location}
    (content : List UInt8) (different : other ≠ location) :
    (tree.insert location content).entries.lookup other = tree.entries.lookup other := by
  simp only [insert]
  split
  case isTrue => rw [lookup_replaced, if_neg different]
  case isFalse =>
    have elsewhere : (other == location) = false := by simp [different]
    rw [List.lookup_append, List.lookup_cons]
    simp [elsewhere]

/-- The locations of entries stay. -/
theorem exists_entry_insert (tree : FileTree) (location : Location) (content : List UInt8)
    (below : Location → Bool) (present : tree.entries.any fun (place, _) => below place) :
    (tree.insert location content).entries.any fun (place, _) => below place := by
  obtain ⟨⟨place, node⟩, member, isBelow⟩ := List.any_eq_true.mp present
  apply List.any_eq_true.mpr
  simp only [insert]
  split
  case isTrue =>
    exact ⟨_, List.mem_map_of_mem member, isBelow⟩
  case isFalse => exact ⟨_, List.mem_append_left _ member, isBelow⟩

end Lookup

section Nodes

/-- The inserted file has its location. -/
theorem get?_insert_self (tree : FileTree) (location : Location) (content : List UInt8) :
    (tree.insert location content).get? location = some (.store (.file content)) := by
  rw [get?, lookup_insert_self]

/-- What has another location keeps it. -/
theorem get?_insert_of_some (tree : FileTree) {location other : Location}
    (content : List UInt8) (different : other ≠ location) {node : Node}
    (found : tree.get? other = some node) :
    (tree.insert location content).get? other = some node := by
  rw [get?, lookup_insert_other tree content different]
  rw [get?] at found
  split at found
  case h_1 => exact found
  case h_2 =>
    split at found
    case isTrue way =>
      cases found
      refine if_pos (way.imp_right ?_)
      exact exists_entry_insert tree location content (other.isPrefixOf ·)
    case isFalse => cases found

/-- No other file or device comes to be. -/
theorem store_of_get?_insert (tree : FileTree) {location other : Location}
    (content : List UInt8) (different : other ≠ location) {store : Store}
    (found : (tree.insert location content).get? other = some (.store store)) :
    tree.get? other = some (.store store) := by
  rw [get?, lookup_insert_other tree content different] at found
  rw [get?]
  split at found
  case h_1 => exact found
  case h_2 => split at found <;> cases found

/-- A tree after a file is written: the file has the new content, everything else keeps its
place, and no other file or device comes to be. -/
structure Rewritten (tree : FileTree) (location : Location) (content : List UInt8)
    (after : FileTree) : Prop where
  content : after.get? location = some (.store (.file content))
  kept : ∀ other ≠ location, ∀ node, tree.get? other = some node → after.get? other = some node
  unique : ∀ other ≠ location, ∀ store,
    after.get? other = some (.store store) → tree.get? other = some (.store store)
  /-- Relative paths begin where they did. -/
  start : after.workingDirectory = tree.workingDirectory

/-- Inserting a file rewrites it. -/
theorem rewritten_insert (tree : FileTree) (location : Location) (content : List UInt8) :
    Rewritten tree location content (tree.insert location content) where
  content := get?_insert_self tree location content
  kept _ different _ := get?_insert_of_some tree content different
  unique _ different _ := store_of_get?_insert tree content different
  start := rfl

end Nodes

section Paths

variable {tree after : FileTree} {location : Location} {content : List UInt8}

/-- Directories stay where they are, since no directory is written. -/
theorem Rewritten.directory (rewritten : Rewritten tree location content after)
    (noDirectory : tree.get? location ≠ some .directory) {other : Location}
    (found : tree.get? other = some .directory) : after.get? other = some .directory := by
  apply rewritten.kept other _ _ found
  rintro rfl
  exact noDirectory found

/-- A name leads into the same directory as before. -/
theorem Rewritten.enter (rewritten : Rewritten tree location content after)
    (noDirectory : tree.get? location ≠ some .directory) {start next : Location} {name : String}
    (entered : tree.enter start name = .ok next) : after.enter start name = .ok next := by
  simp only [FileTree.enter, bind_eq_ok_iff] at entered ⊢
  obtain ⟨reached, stepped, open'⟩ := entered
  refine ⟨reached, stepped, ?_⟩
  split at open'
  case h_1 isDirectory =>
    rw [rewritten.directory noDirectory isDirectory]
    exact open'
  all_goals cases open'

/-- Names lead into the same directory as before. -/
theorem Rewritten.enterAll (rewritten : Rewritten tree location content after)
    (noDirectory : tree.get? location ≠ some .directory) {names : List String}
    {start reached : Location} (entered : tree.enterAll start names = .ok reached) :
    after.enterAll start names = .ok reached := by
  induction names generalizing start with
  | nil => exact entered
  | cons name rest inductionHypothesis =>
    simp only [FileTree.enterAll, bind_eq_ok_iff] at entered ⊢
    obtain ⟨next, first, others⟩ := entered
    exact ⟨next, rewritten.enter noDirectory first, inductionHypothesis others⟩

/-- The directory of a path is the same as before. -/
theorem Rewritten.parent (rewritten : Rewritten tree location content after)
    (noDirectory : tree.get? location ≠ some .directory) {path : String} {directory : Location}
    (found : tree.parent path = .ok directory) : after.parent path = .ok directory := by
  simp only [FileTree.parent, rewritten.start] at found ⊢
  split at found
  case isTrue => cases found
  case isFalse some =>
    split at found
    case isTrue => cases found
    case isFalse short =>
      rw [if_neg some, if_neg short]
      exact rewritten.enterAll noDirectory found

/-- A path that can be written has a directory and a last name, asks for no directory and
leads to none. -/
theorem place_eq_ok_iff (tree : FileTree) (path : String) (location : Location) :
    tree.place path = .ok location ↔ ∃ directory, tree.parent path = .ok directory ∧
      asksForDirectory path = false ∧ step directory (lastName path) = .ok location ∧
        tree.get? location ≠ some .directory := by
  rw [place, bind_eq_ok_iff]
  refine exists_congr fun directory => and_congr_right fun _ => ?_
  cases asksForDirectory path with
  | true => simp
  | false =>
    simp only [Bool.false_eq_true, if_false, bind_eq_ok_iff, true_and]
    constructor
    · rintro ⟨reached, stepped, free⟩
      split at free
      case isTrue => cases free
      case isFalse noDirectory =>
        cases free
        exact ⟨stepped, noDirectory⟩
    · rintro ⟨stepped, noDirectory⟩
      exact ⟨location, stepped, if_neg noDirectory⟩

/-- The path that was written leads to the new content. -/
theorem Rewritten.read (rewritten : Rewritten tree location content after) {path : String}
    (placed : tree.place path = .ok location) : after.read path = .ok (.file content) := by
  obtain ⟨directory, found, plain, stepped, noDirectory⟩ := (place_eq_ok_iff _ _ _).mp placed
  rw [FileTree.read, bind_eq_ok_iff]
  refine ⟨directory, rewritten.parent noDirectory found, ?_⟩
  rw [bind_eq_ok_iff]
  refine ⟨location, stepped, ?_⟩
  simp [rewritten.content, plain]

/-- A location takes bytes unless it is that of the device without room, which takes none. -/
theorem exists_write_iff (tree : FileTree) (location : Location)
    (content : List UInt8) :
    (∃ after, tree.write location content = .ok after) ↔
      (tree.get? location = some (.store (.device .full)) → content = []) := by
  rw [write]
  split
  case h_1 full =>
    cases content <;> simp [full]
  case h_2 device notFull found =>
    simp_all
  case h_3 => simp_all

/-- What happens to a tree when a file is written: a device takes it and changes nothing,
and everything else is rewritten. -/
theorem write_cases (noDirectory : tree.get? location ≠ some .directory)
    (written : tree.write location content = .ok after) :
    (∃ device, tree.get? location = some (.store (.device device)) ∧ after = tree) ∨
      ((∀ device, tree.get? location ≠ some (.store (.device device))) ∧
        Rewritten tree location content after) := by
  rw [write] at written
  cases found : tree.get? location with
  | none =>
    rw [found] at written
    cases written
    exact .inr ⟨nofun, rewritten_insert tree location content⟩
  | some node =>
    match node, found with
    | .directory, found => exact absurd found noDirectory
    | .store (.file kept), found =>
      rw [found] at written
      cases written
      exact .inr ⟨nofun, rewritten_insert tree location content⟩
    | .store (.device device), found =>
      refine .inl ⟨device, rfl, ?_⟩
      rw [found] at written
      cases device with
      | full =>
        dsimp only at written
        split at written <;> cases written
        rfl
      | null | zero =>
        cases written
        rfl

end Paths

end Microcode.CommandLine.FileTree
