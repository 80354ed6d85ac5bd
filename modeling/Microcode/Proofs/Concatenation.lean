import Microcode.Proofs.CrossReferences

/-!
# Listings of joined buffers

The rows of two buffers that lie one behind the other are the rows of the buffers in
turn. Their lines are not quite: transfers of one buffer may refer to addresses of the
other, which adds labels there, and a subroutine label at the start of the second buffer
no longer is the first line, so that it is set off.

Both effects only insert lines that show no instruction. What carries this through the
layout is that a larger table lists more labels at every address, in the same order, and
that rows behind the first line have every line that they have in front.
-/

namespace Microcode.Listing

section Extensions

variable {α β : Type} {extra : α → Prop}

/-- The second list is the first with further members, all of one kind, put in. -/
inductive Extends (extra : α → Prop) : List α → List α → Prop where
  | nil : Extends extra [] []
  | keep (item : α) {small large : List α} (rest : Extends extra small large) :
      Extends extra (item :: small) (item :: large)
  | insert {item : α} {small large : List α} (further : extra item)
      (rest : Extends extra small large) : Extends extra small (item :: large)

namespace Extends

/-- Nothing need be put in. -/
theorem refl (list : List α) : Extends extra list list := by
  induction list with
  | nil => exact .nil
  | cons item _ inductionHypothesis => exact .keep item inductionHypothesis

/-- Extensions of two parts make an extension of the whole. -/
theorem append {front frontLarge back backLarge : List α}
    (inFront : Extends extra front frontLarge) (behind : Extends extra back backLarge) :
    Extends extra (front ++ back) (frontLarge ++ backLarge) := by
  induction inFront with
  | nil => exact behind
  | keep item _ inductionHypothesis => exact .keep item inductionHypothesis
  | insert further _ inductionHypothesis => exact .insert further inductionHypothesis

/-- Several further members may be put in front. -/
theorem insertAll {further small large : List α} (kind : ∀ item ∈ further, extra item)
    (rest : Extends extra small large) : Extends extra small (further ++ large) := by
  induction further with
  | nil => exact rest
  | cons item others inductionHypothesis =>
    apply Extends.insert (kind item (.head _))
    exact inductionHypothesis (fun other member => kind other (.tail _ member))

/-- An extension is kept by a map that keeps the kind of the further members. -/
theorem map {kind : β → Prop} (f : α → β) (kept : ∀ item, extra item → kind (f item))
    {small large : List α} (extended : Extends extra small large) :
    Extends kind (small.map f) (large.map f) := by
  induction extended with
  | nil => exact .nil
  | keep item _ inductionHypothesis => exact .keep (f item) inductionHypothesis
  | insert further _ inductionHypothesis => exact .insert (kept _ further) inductionHypothesis

/-- The first list stands in the second in order. -/
theorem sublist {small large : List α} (extended : Extends extra small large) :
    small.Sublist large := by
  induction extended with
  | nil => exact .slnil
  | keep item _ inductionHypothesis => exact inductionHypothesis.cons_cons item
  | insert _ _ inductionHypothesis => exact inductionHypothesis.cons _

/-- Without the further members' kind both lists are the same. -/
theorem filter_eq {picked : α → Bool} (others : ∀ item, extra item → picked item = false)
    {small large : List α} (extended : Extends extra small large) :
    large.filter picked = small.filter picked := by
  induction extended with
  | nil => rfl
  | keep item _ inductionHypothesis => rw [List.filter_cons, List.filter_cons, inductionHypothesis]
  | insert further _ inductionHypothesis =>
    rw [List.filter_cons, others _ further, inductionHypothesis]
    rfl

end Extends

end Extensions

section Statement

/-- Printed lines of two buffers and of the buffers joined. -/
structure Joined (front back whole : List String) : Prop where
  /-- The lines of the buffers stand in order among those of the whole. -/
  sublist : (front ++ back).Sublist whole
  /-- What the whole has beyond them are labels and blank lines. -/
  extended : Extends (fun line => LabelText line ∨ line = "") (front ++ back) whole
  /-- Each blank line of the whole sets off the label of a subroutine. -/
  setOff : ∀ index, whole[index]? = some "" → ∃ symbol : Symbol,
    symbol.kind = .subroutine ∧ whole[index + 1]? = some (symbol.name ++ ":")
  /-- Instruction lines are neither changed nor reordered. -/
  instructions : instructionLines whole = instructionLines front ++ instructionLines back
  /-- No label is removed. -/
  labels : ∀ line, LabelText line → front.count line + back.count line ≤ whole.count line

end Statement

section Rows

/-- The words of a buffer of whole words and of bytes behind it. -/
theorem words_append (front back : List UInt8) (aligned : front.length % 4 = 0) :
    words (front ++ back) = words front ++ words back := by
  fun_induction words front with
  | case1 first second third fourth rest inductionHypothesis =>
    have shorter : rest.length % 4 = 0 := by
      simp only [List.length_cons] at aligned
      omega
    simp only [List.cons_append, words, inductionHypothesis shorter]
  | case2 front short =>
    have bound := length_lt_of_short front short
    have empty : front = [] := List.length_eq_zero_iff.mp (by omega)
    rw [empty]
    rfl

/-- Rows in two parts: the second part lies behind the words of the first. -/
theorem rowsFrom_append (base : Int) (front back : List Int) :
    rowsFrom base (front ++ back) =
      rowsFrom base front ++ rowsFrom (base + 4 * front.length) back := by
  induction front generalizing base with
  | nil =>
    have start : base + 4 * (([] : List Int).length : Int) = base := Int.add_zero base
    rw [start]
    rfl
  | cons word rest inductionHypothesis =>
    have next : base + 4 + 4 * (rest.length : Int) = base + 4 * ((word :: rest).length : Int) := by
      rw [List.length_cons]
      omega
    rw [List.cons_append, rowsFrom, rowsFrom, inductionHypothesis, next, List.cons_append]

/-- The rows of joined buffers of whole words. -/
theorem rowsFrom_words_append (front back : List UInt8) (base : Int)
    (aligned : front.length % 4 = 0) :
    rowsFrom base (words (front ++ back)) =
      rowsFrom base (words front) ++ rowsFrom (base + front.length) (words back) := by
  have behind : base + 4 * ((words front).length : Int) = base + front.length := by
    rw [length_words]
    omega
  rw [words_append front back aligned, rowsFrom_append, behind]

end Rows

section Layout

/-- A larger table lists more labels at an address, in the same order. -/
theorem labelsAt_sublist {small large : SymbolTable}
    (included : ∀ symbol, symbol ∈ small → symbol ∈ large) (address : Int) :
    (small.labelsAt address).Sublist (large.labelsAt address) := by
  have picked : small.labelsAt address = (large.labelsAt address).filter (· ∈ small) := by
    rw [SymbolTable.labelsAt, SymbolTable.labelsAt, List.filter_filter]
    apply List.filter_congr
    intro symbol _
    rw [Bool.eq_iff_iff, Bool.and_eq_true, decide_eq_true_iff, decide_eq_true_iff]
    exact ⟨fun member => ⟨member, included symbol member⟩, And.left⟩
  rw [picked]
  exact List.filter_sublist

/-- A line that shows no instruction. -/
def Line.Auxiliary (line : Line) : Prop := line.isInstruction = false

/-- A label behind the first line has every line that it has in front. -/
theorem labelLines_extends (symbol : Symbol) {first later : Bool}
    (behind : later = true → first = true) :
    Extends Line.Auxiliary (labelLines first symbol) (labelLines later symbol) := by
  cases first with
  | true =>
    have alone : labelLines true symbol = [.label symbol] := by simp [labelLines]
    rw [alone, labelLines_eq later]
    apply Extends.insertAll
    · intro line member
      exact isInstruction_of_mem_labelLines later symbol line (List.dropLast_subset _ member)
    · exact .keep _ .nil
  | false =>
    have same : later = false := by
      rw [← Bool.not_eq_true]
      intro front
      exact Bool.false_ne_true (behind front)
    rw [same]
    exact .refl _

/-- A block of more labels, not further in front, has every line of the block. -/
theorem labelBlock_extends {small large : List Symbol} (included : small.Sublist large)
    {first later : Bool} (behind : later = true → first = true) :
    Extends Line.Auxiliary (labelBlock first small) (labelBlock later large) := by
  induction included generalizing first later with
  | slnil => exact .nil
  | cons symbol _ inductionHypothesis =>
    apply Extends.insertAll
    · intro line member
      exact isInstruction_of_mem_labelLines later symbol line member
    · exact inductionHypothesis (fun front => nomatch front)
  | cons_cons symbol _ inductionHypothesis =>
    apply (labelLines_extends symbol behind).append
    exact inductionHypothesis id

/-- Rows under a larger table, not further in front, have every line that they have under
the table. -/
theorem layoutFrom_extends {small large : SymbolTable}
    (included : ∀ symbol, symbol ∈ small → symbol ∈ large) (rows : List Row)
    {first later : Bool} (behind : later = true → first = true) :
    Extends Line.Auxiliary (layoutFrom small first rows) (layoutFrom large later rows) := by
  induction rows generalizing first later with
  | nil => exact .nil
  | cons row rest inductionHypothesis =>
    apply (labelBlock_extends (labelsAt_sublist included row.address) behind).append
    exact .keep _ (inductionHypothesis id)

/-- The symbols of some of the rows are symbols of the rows. -/
theorem symbols_included {part whole : List Row} (included : ∀ row ∈ part, row ∈ whole)
    (symbol : Symbol) (member : symbol ∈ symbols part) : symbol ∈ symbols whole := by
  rw [mem_symbols_iff] at member ⊢
  obtain ⟨row, present, refers⟩ := member
  exact ⟨row, included row present, refers⟩

/-- Joined rows have every line that they have apart, in order. -/
theorem layout_append (front back : List Row) :
    Extends Line.Auxiliary (layout front ++ layout back) (layout (front ++ back)) := by
  rw [layout, layout, layout, layoutFrom_append]
  apply Extends.append
  · apply layoutFrom_extends
    · exact symbols_included (fun row => List.mem_append_left back)
    · exact id
  · apply layoutFrom_extends
    · exact symbols_included (fun row => List.mem_append_right front)
    · -- Apart from the whole, the second part always has the first line.
      exact fun _ => rfl

end Layout

section Texts

/-- The text of a line that shows no instruction is a label or blank. -/
theorem Line.Auxiliary.text {line : Line} (auxiliary : line.Auxiliary) (style : PrintStyle) :
    LabelText (line.text style) ∨ line.text style = "" := by
  by_contra other
  obtain ⟨row, rfl⟩ := (other_iff style line).mp other
  exact nomatch auxiliary

/-- The lines of rows apart and joined. -/
theorem joined_layout (style : PrintStyle) (front back : List Row) :
    Joined ((layout front).map (Line.text style)) ((layout back).map (Line.text style))
      ((layout (front ++ back)).map (Line.text style)) := by
  have extended : Extends (fun line => LabelText line ∨ line = "")
      ((layout front).map (Line.text style) ++ (layout back).map (Line.text style))
      ((layout (front ++ back)).map (Line.text style)) := by
    rw [← List.map_append]
    exact (layout_append front back).map _ (fun line auxiliary => auxiliary.text style)
  refine ⟨extended.sublist, extended, ?_, ?_, ?_⟩
  · intro index blank
    exact (setOff_layout style (front ++ back) index).mp blank
  · rw [instructionLines, extended.filter_eq, List.filter_append, instructionLines,
      instructionLines]
    intro line other
    rw [decide_eq_false_iff_not]
    exact not_not_intro other
  · intro line _
    rw [← List.count_append]
    exact extended.sublist.count_le line

end Texts

/-- Two buffers of whole words, one behind the other, have the rows of each in turn, and
joined they are listed with every line that they have apart, in order and with no lines
between but labels and the blank lines that set them off. -/
theorem lines_append (style : PrintStyle) (front back : List UInt8) (base : Int)
    (frontAligned : front.length % 4 = 0) (backAligned : back.length % 4 = 0) :
    (∃ frontRows backRows, rows front base = .ok frontRows ∧
      rows back (base + front.length) = .ok backRows ∧
      rows (front ++ back) base = .ok (frontRows ++ backRows)) ∧
    ∃ frontLines backLines whole, lines style front base = .ok frontLines ∧
      lines style back (base + front.length) = .ok backLines ∧
      lines style (front ++ back) base = .ok whole ∧ Joined frontLines backLines whole := by
  have aligned : (front ++ back).length % 4 = 0 := by
    rw [List.length_append]
    omega
  have joined := rowsFrom_words_append front back base frontAligned
  constructor
  · refine ⟨_, _, if_pos frontAligned, if_pos backAligned, ?_⟩
    rw [rows, if_pos aligned, joined]
  · refine ⟨_, _, _, lines_of_aligned style front base frontAligned,
      lines_of_aligned style back (base + front.length) backAligned,
      lines_of_aligned style (front ++ back) base aligned, ?_⟩
    rw [joined]
    exact joined_layout style _ _

/-- A jump to itself at address zero. With a branch in front of it, which stands at the end
of the address space, its label is set off and gets a second one. -/
theorem branch_before_jump_joined :
    lines {} [0x10, 0, 0, 0] (-4) = .ok
      ["/* FFFFFFFC 10000000 */\tbeq r0, r0, @L00000000"] ∧
    lines {} [0x08, 0, 0, 0] 0 = .ok
      ["subr_00000000:", "/* 00000000 08000000 */\tj subr_00000000"] ∧
    lines {} [0x10, 0, 0, 0, 0x08, 0, 0, 0] (-4) = .ok
      ["/* FFFFFFFC 10000000 */\tbeq r0, r0, @L00000000", "", "subr_00000000:", "@L00000000:",
        "/* 00000000 08000000 */\tj subr_00000000"] ∧
    rows [0x10, 0, 0, 0, 0x08, 0, 0, 0] (-4) =
      .ok ([Row.read (-4) 0x10000000] ++ [Row.read 0 0x08000000]) ∧
    Joined ["/* FFFFFFFC 10000000 */\tbeq r0, r0, @L00000000"]
      ["subr_00000000:", "/* 00000000 08000000 */\tj subr_00000000"]
      ["/* FFFFFFFC 10000000 */\tbeq r0, r0, @L00000000", "", "subr_00000000:", "@L00000000:",
        "/* 00000000 08000000 */\tj subr_00000000"] := by
  obtain ⟨⟨frontRows, backRows, atFront, atBack, all⟩, frontLines, backLines, whole, inFront,
    behind, together, joined⟩ :=
    lines_append {} [0x10, 0, 0, 0] [0x08, 0, 0, 0] (-4) (by decide) (by decide)
  cases atFront
  cases atBack
  cases inFront
  cases behind
  cases together
  exact ⟨by rfl, by rfl, by rfl, all, joined⟩

end Microcode.Listing
