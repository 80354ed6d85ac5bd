import Microcode.Proofs.ListingLines
import Microcode.Proofs.ListingRows

/-!
# Cross-references of a listing

The printed lines of a buffer of whole words show every word once and in order, and
every reference to an address inside the buffer leads to exactly one label there. The
laws are stated of the texts alone. They come from the layout of the lines, because the
text of a line tells its kind and a label's text tells its symbol, and from the rows,
because no two of them have one address in a buffer that fits into the address space.
-/

namespace Microcode.Listing

open Text

section Statement

/-- Some row refers to the symbol. -/
def Refers (rows : List Row) (symbol : Symbol) : Prop :=
  ∃ row ∈ rows, row.instruction.symbol? = some symbol

open Classical in
/-- The lines that are left without labels and blank lines. -/
noncomputable def instructionLines (lines : List String) : List String :=
  lines.filter fun line => ¬ (LabelText line ∨ line = "")

/-- Printed lines agree with rows and with the symbols that the rows refer to. -/
structure CrossReferenced (style : PrintStyle) (rows : List Row) (lines : List String) :
    Prop where
  /-- Each row has one line, in order. -/
  instructions : instructionLines lines = rows.map (Row.line style)
  /-- The label of a referenced symbol stands once if a row has its address, and else
  nowhere. -/
  counted : ∀ symbol, Refers rows symbol → lines.count (symbol.name ++ ":") =
    if symbol.address ∈ rows.map Row.address then 1 else 0
  /-- The label of a referenced symbol stands in the block directly in front of the row
  that has its address. -/
  placed : ∀ symbol, Refers rows symbol → ∀ front target back,
    rows = front ++ target :: back → target.address = symbol.address →
    ∃ before block after, lines = before ++ block ++ target.line style :: after ∧
      instructionLines before = front.map (Row.line style) ∧
      (∀ line ∈ block, LabelText line ∨ line = "") ∧ symbol.name ++ ":" ∈ block
  /-- A label names a symbol that some row prints as its last operand. -/
  justified : ∀ line ∈ lines, LabelText line → ∃ row ∈ rows, ∃ symbol,
    row.instruction.symbol? = some symbol ∧
      (row.instruction.operands.map (Operand.text style)).getLast? = some symbol.name ∧
      line = symbol.name ++ ":"
  /-- Where both kinds of symbol have the address of a row, the subroutine's label comes
  first and the branch target's label second. -/
  ordered : ∀ front target back, rows = front ++ target :: back →
    Refers rows ⟨.subroutine, target.address⟩ → Refers rows ⟨.branchTarget, target.address⟩ →
    ∃ before after, lines = before ++ [(Symbol.mk .subroutine target.address).name ++ ":",
        (Symbol.mk .branchTarget target.address).name ++ ":", target.line style] ++ after ∧
      instructionLines before = front.map (Row.line style)
  /-- A line is blank exactly if the next one is the label of a subroutine. -/
  setOff : ∀ index, lines[index]? = some "" ↔ ∃ symbol : Symbol,
    symbol.kind = .subroutine ∧ lines[index + 1]? = some (symbol.name ++ ":")

end Statement

section Texts

/-- The texts of laid-out rows, and of lines behind them that show no instruction, have
the lines of the rows in order. -/
theorem instructionLines_layoutFrom (style : PrintStyle) (table : SymbolTable) (first : Bool)
    (rows : List Row) (rest : List Line) (others : ∀ line ∈ rest, line.isInstruction = false) :
    instructionLines ((layoutFrom table first rows ++ rest).map (Line.text style)) =
      rows.map (Row.line style) := by
  apply filter_texts style _ _ table first rows rest others
  intro line
  rw [← other_iff style]
  simp only [decide_eq_true_eq]

/-- The text of a label occurs as often as the label. -/
theorem count_label_text (style : PrintStyle) (lines : List Line) (symbol : Symbol) :
    (lines.map (Line.text style)).count (symbol.name ++ ":") = lines.count (.label symbol) := by
  rw [List.count_eq_countP, List.countP_map, List.count_eq_countP]
  apply List.countP_congr
  intro line _
  simp [text_eq_label_iff]

/-- The texts of a block of labels are labels and blank lines. -/
theorem labelText_of_mem_labelBlock (style : PrintStyle) (first : Bool) (symbols : List Symbol)
    (text : String) (member : text ∈ (labelBlock first symbols).map (Line.text style)) :
    LabelText text ∨ text = "" := by
  obtain ⟨line, inBlock, rfl⟩ := List.mem_map.mp member
  have kind := isInstruction_of_mem_labelBlock first symbols line inBlock
  cases line with
  | blank => exact .inr rfl
  | label symbol => exact .inl ⟨symbol, rfl⟩
  | instruction row => exact nomatch kind

end Texts

section Layout

/-- A layout around one of its rows: the lines of the rows in front of it, its block of
labels, its own line, and the rest. -/
theorem layout_around (front back : List Row) (target : Row) :
    ∃ first after, layout (front ++ target :: back) =
      layoutFrom (symbols (front ++ target :: back)) true front ++
        (labelBlock first ((symbols (front ++ target :: back)).labelsAt target.address) ++
          .instruction target :: after) := by
  unfold layout
  rw [layoutFrom_append, layoutFrom]
  exact ⟨_, _, rfl⟩

/-- The label of a referenced symbol stands once if a row has its address, and else
nowhere. -/
theorem count_layout (style : PrintStyle) (rows : List Row)
    (distinct : (rows.map Row.address).Nodup) (symbol : Symbol) (refers : Refers rows symbol) :
    ((layout rows).map (Line.text style)).count (symbol.name ++ ":") =
      if symbol.address ∈ rows.map Row.address then 1 else 0 := by
  rw [count_label_text, layout, count_layoutFrom, if_pos ((mem_symbols_iff rows symbol).mpr refers),
    distinct.count]

/-- The label of a referenced symbol stands in the block in front of the row that has its
address. -/
theorem placed_layout (style : PrintStyle) (symbol : Symbol) (front back : List Row)
    (target : Row) (refers : Refers (front ++ target :: back) symbol)
    (here : target.address = symbol.address) :
    ∃ before block after, (layout (front ++ target :: back)).map (Line.text style) =
        before ++ block ++ target.line style :: after ∧
      instructionLines before = front.map (Row.line style) ∧
      (∀ line ∈ block, LabelText line ∨ line = "") ∧ symbol.name ++ ":" ∈ block := by
  obtain ⟨first, after, split⟩ := layout_around front back target
  have known := (mem_symbols_iff (front ++ target :: back) symbol).mpr refers
  have listed := (SymbolTable.mem_labelsAt_iff _ _ _).mpr ⟨known, here.symm⟩
  have label := List.count_pos_iff.mpr listed
  rw [← count_labelBlock first] at label
  refine ⟨_, _, after.map (Line.text style), ?_, instructionLines_layoutFrom style
    (symbols (front ++ target :: back)) true front [] ?_,
    labelText_of_mem_labelBlock style first _,
    List.mem_map.mpr ⟨_, List.count_pos_iff.mp label, rfl⟩⟩
  · rw [split]
    simp [Line.text, Row.line]
  · intro line member
    exact absurd member List.not_mem_nil

/-- Where both kinds of symbol have the address of a row, the subroutine's label comes
first. -/
theorem ordered_layout (style : PrintStyle) (front back : List Row) (target : Row)
    (subroutine : Refers (front ++ target :: back) ⟨.subroutine, target.address⟩)
    (branchTarget : Refers (front ++ target :: back) ⟨.branchTarget, target.address⟩) :
    ∃ before after, (layout (front ++ target :: back)).map (Line.text style) =
        before ++ [(Symbol.mk .subroutine target.address).name ++ ":",
          (Symbol.mk .branchTarget target.address).name ++ ":", target.line style] ++ after ∧
      instructionLines before = front.map (Row.line style) := by
  obtain ⟨first, after, split⟩ := layout_around front back target
  have labels := SymbolTable.labelsAt_of_both _ target.address
    ((mem_symbols_iff _ _).mpr subroutine) ((mem_symbols_iff _ _).mpr branchTarget)
  -- The blank line that may set the subroutine off belongs to what stands before.
  have block := labelLines_eq first ⟨.subroutine, target.address⟩
  refine ⟨_, after.map (Line.text style), ?_, instructionLines_layoutFrom style
    (symbols (front ++ target :: back)) true front
    (labelLines first ⟨.subroutine, target.address⟩).dropLast ?_⟩
  · rw [split, labels, labelBlock, labelBlock, labelBlock, labelLines_branchTarget, block]
    simp [Line.text, Row.line]
  · intro line member
    exact isInstruction_of_mem_labelLines first _ line (List.dropLast_subset _ member)

/-- A label names a symbol that some row prints as its last operand. -/
theorem justified_layout (style : PrintStyle) (rows : List Row) (text : String)
    (member : text ∈ (layout rows).map (Line.text style)) (isLabel : LabelText text) :
    ∃ row ∈ rows, ∃ symbol, row.instruction.symbol? = some symbol ∧
      (row.instruction.operands.map (Operand.text style)).getLast? = some symbol.name ∧
      text = symbol.name ++ ":" := by
  obtain ⟨line, inLayout, rfl⟩ := List.mem_map.mp member
  obtain ⟨symbol, rfl⟩ := (labelText_iff style line).mp isLabel
  have known := mem_table_of_label _ _ _ symbol inLayout
  obtain ⟨row, present, refers⟩ := (mem_symbols_iff rows symbol).mp known
  refine ⟨row, present, symbol, refers, ?_, rfl⟩
  rw [List.getLast?_map, Instruction.getLast?_operands _ symbol refers]
  rfl

/-- A line is blank exactly if the next one is the label of a subroutine. -/
theorem setOff_layout (style : PrintStyle) (rows : List Row) (index : Nat) :
    ((layout rows).map (Line.text style))[index]? = some "" ↔ ∃ symbol : Symbol,
      symbol.kind = .subroutine ∧
        ((layout rows).map (Line.text style))[index + 1]? = some (symbol.name ++ ":") := by
  have setOff := setOff_layoutFrom (symbols rows) true rows index
  simpa only [layout, List.getElem?_map, Option.map_eq_some_iff, text_eq_empty_iff,
    text_eq_label_iff, exists_eq_right] using setOff

/-- The lines of rows with distinct addresses agree with the rows and their symbols. -/
theorem crossReferenced_layout (style : PrintStyle) (rows : List Row)
    (distinct : (rows.map Row.address).Nodup) :
    CrossReferenced style rows ((layout rows).map (Line.text style)) where
  instructions := by
    have lines := instructionLines_layoutFrom style (symbols rows) true rows []
      (fun _ member => nomatch member)
    rwa [List.append_nil] at lines
  counted := count_layout style rows distinct
  placed := by
    rintro symbol refers front target back rfl here
    exact placed_layout style symbol front back target refers here
  justified := justified_layout style rows
  ordered := by
    rintro front target back rfl subroutine branchTarget
    exact ordered_layout style front back target subroutine branchTarget
  setOff := setOff_layout style rows

end Layout

/-- Every buffer of whole words that fits into the address space is listed, at any base
and in any style: word `i` has the address `base + 4 * i` modulo `2 ^ 32`, and the lines
agree with the words and with the symbols that they refer to. -/
theorem lines_crossReferenced (style : PrintStyle) (data : List UInt8) (base : Int)
    (aligned : data.length % 4 = 0) (fits : data.length ≤ 0x100000000) :
    ∃ listed, lines style data base = .ok listed ∧
      CrossReferenced style
        ((words data).mapIdx fun index word => Row.read (base + 4 * index) word) listed := by
  refine ⟨_, lines_of_aligned style data base aligned, ?_⟩
  rw [← rowsFrom_eq_mapIdx]
  apply crossReferenced_layout
  apply rowsFrom_addresses_distinct
  rw [length_words]
  omega

/-- The second of two words lies behind the end of the address space and has both
labels: the first word branches to it, and it jumps to itself. -/
theorem wrapped_labels_crossReferenced :
    lines {} [0x10, 0, 0, 0, 0x08, 0, 0, 0] (-4) = .ok
        ["/* FFFFFFFC 10000000 */\tbeq r0, r0, @L00000000", "", "subr_00000000:",
          "@L00000000:", "/* 00000000 08000000 */\tj subr_00000000"] ∧
      CrossReferenced {} [Row.read (-4) 0x10000000, Row.read 0 0x08000000]
        ["/* FFFFFFFC 10000000 */\tbeq r0, r0, @L00000000", "", "subr_00000000:",
          "@L00000000:", "/* 00000000 08000000 */\tj subr_00000000"] := by
  obtain ⟨listed, result, crossReferenced⟩ :=
    lines_crossReferenced {} [0x10, 0, 0, 0, 0x08, 0, 0, 0] (-4) (by decide) (by decide)
  have value : lines {} [0x10, 0, 0, 0, 0x08, 0, 0, 0] (-4) = .ok
      ["/* FFFFFFFC 10000000 */\tbeq r0, r0, @L00000000", "", "subr_00000000:",
        "@L00000000:", "/* 00000000 08000000 */\tj subr_00000000"] := by rfl
  cases Except.ok.inj (result.symm.trans value)
  exact ⟨value, crossReferenced⟩

end Microcode.Listing
