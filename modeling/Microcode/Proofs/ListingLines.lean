import Microcode.Proofs.LabelLayout
import Microcode.Proofs.PrintedForms

/-!
# The text of lines

The kind of a line shows in its first character: a blank line has none, a label begins
with the marker of its symbol, and an instruction line with the slash of its columns.
So lines of different kinds never have equal texts, and a label line gives its symbol.
No line of decoded words has a line end inside it.
-/

namespace Microcode.Listing

open Text

section Kinds

/-- The printed line of a row: its address and its word in columns, then its instruction. -/
def Row.line (style : PrintStyle) (row : Row) : String :=
  "/* " ++ Numeral.word row.address ++ " " ++ Numeral.word row.word ++ " */\t"
    ++ row.instruction.render style

/-- A line that is the label of some symbol. -/
def LabelText (line : String) : Prop := ∃ symbol : Symbol, line = symbol.name ++ ":"

/-- A label begins with the marker of its symbol, which is no slash. -/
theorem head_label (symbol : Symbol) :
    ∃ first, (symbol.name ++ ":").toList.head? = some first ∧ first ≠ '/' := by
  cases kind : symbol.kind with
  | subroutine => exact ⟨'s', by simp [Symbol.name, kind, SymbolKind.marker], by decide⟩
  | branchTarget => exact ⟨'@', by simp [Symbol.name, kind, SymbolKind.marker], by decide⟩

/-- The line of a row begins with a slash. -/
theorem head_line (style : PrintStyle) (row : Row) :
    (row.line style).toList.head? = some '/' := by
  simp [Row.line]

/-- A line with the text of a label is that label. -/
theorem text_eq_label_iff (style : PrintStyle) (line : Line) (symbol : Symbol) :
    line.text style = symbol.name ++ ":" ↔ line = .label symbol := by
  constructor
  · intro same
    obtain ⟨first, start, noSlash⟩ := head_label symbol
    cases line with
    | blank =>
      rw [← same] at start
      exact nomatch start
    | label other =>
      rw [Symbol.name_injective other symbol ((String.append_left_inj _).mp same)]
    | instruction row =>
      rw [← same] at start
      exact absurd (Option.some.inj ((head_line style row).symm.trans start)).symm noSlash
  · rintro rfl
    rfl

/-- A line with the text of some label is a label. -/
theorem labelText_iff (style : PrintStyle) (line : Line) :
    LabelText (line.text style) ↔ ∃ symbol, line = .label symbol := by
  simp only [LabelText, text_eq_label_iff]

/-- A line without characters is blank. -/
theorem text_eq_empty_iff (style : PrintStyle) (line : Line) :
    line.text style = "" ↔ line = .blank := by
  constructor
  · intro same
    cases line with
    | blank => rfl
    | label symbol =>
      obtain ⟨first, start, _⟩ := head_label symbol
      have empty : symbol.name ++ ":" = "" := same
      rw [empty] at start
      exact nomatch start
    | instruction row =>
      have start := head_line style row
      have empty : row.line style = "" := same
      rw [empty] at start
      exact nomatch start
  · rintro rfl
    rfl

/-- A line that is neither a label nor blank is the line of an instruction. -/
theorem other_iff (style : PrintStyle) (line : Line) :
    ¬ (LabelText (line.text style) ∨ line.text style = "") ↔ ∃ row, line = .instruction row := by
  rw [labelText_iff, text_eq_empty_iff]
  cases line <;> simp

/-- The mark in front of the columns of an instruction line. -/
def columnMark : List Char := ['/', '*', ' ']

/-- The lines that begin with the mark of columns are the instruction lines. -/
theorem columnMark_iff (style : PrintStyle) (line : Line) :
    columnMark <+: (line.text style).toList ↔ ∃ row, line = .instruction row := by
  constructor
  · rintro ⟨rest, text⟩
    have start : (line.text style).toList.head? = some '/' := by
      rw [← text]
      rfl
    cases line with
    | blank => exact nomatch start
    | label symbol =>
      obtain ⟨first, labelStart, noSlash⟩ := head_label symbol
      exact absurd (Option.some.inj (labelStart.symm.trans start)) noSlash
    | instruction row => exact ⟨row, rfl⟩
  · rintro ⟨row, rfl⟩
    simp [Line.text, columnMark]

/-- Picking the texts of instruction lines out of a layout leaves the lines of the rows in
order, also if lines follow that show no instruction. -/
theorem filter_texts (style : PrintStyle) (picked : String → Bool)
    (picks : ∀ line : Line, picked (line.text style) = true ↔ ∃ row, line = .instruction row)
    (table : SymbolTable) (first : Bool) (rows : List Row) (rest : List Line)
    (others : ∀ line ∈ rest, line.isInstruction = false) :
    ((layoutFrom table first rows ++ rest).map (Line.text style)).filter picked =
      rows.map (Row.line style) := by
  have kinds : picked ∘ Line.text style = Line.isInstruction := by
    funext line
    rw [Bool.eq_iff_iff, isInstruction_iff, ← picks line, Function.comp_apply]
  have none : rest.filter Line.isInstruction = [] := by
    rw [List.filter_eq_nil_iff]
    intro line member
    rw [others line member]
    exact Bool.false_ne_true
  rw [List.filter_map, kinds, List.filter_append, filter_layoutFrom, none, List.append_nil,
    List.map_map]
  rfl

end Kinds

section LineEnds

/-- Joined texts have the characters of the texts and of the mark between them. -/
theorem mem_intercalate (mark : List Char) (texts : List (List Char)) (character : Char)
    (member : character ∈ List.intercalate mark texts) :
    character ∈ mark ∨ ∃ text ∈ texts, character ∈ text := by
  induction texts with
  | nil => simp at member
  | cons text rest inductionHypothesis =>
    cases rest with
    | nil => exact .inr ⟨text, List.mem_cons_self, by simpa using member⟩
    | cons next more =>
      rw [List.intercalate_cons_cons] at member
      rcases List.mem_append.mp member with front | later
      · rcases List.mem_append.mp front with inText | inMark
        · exact .inr ⟨text, List.mem_cons_self, inText⟩
        · exact .inl inMark
      · rcases inductionHypothesis later with inMark | ⟨other, present, inOther⟩
        · exact .inl inMark
        · exact .inr ⟨other, List.mem_cons_of_mem _ present, inOther⟩

/-- A text without line ends. -/
def OneLine (text : String) : Prop := '\n' ∉ text.toList

/-- Texts without line ends have none when they are joined. -/
theorem OneLine.append {left right : String} (front : OneLine left) (back : OneLine right) :
    OneLine (left ++ right) := by
  intro member
  rw [String.toList_append] at member
  exact (List.mem_append.mp member).elim front back

/-- Unbroken texts have no line ends. -/
theorem oneLine_of_unbroken {text : String} (unbroken : Unbroken text) : OneLine text := by
  intro member
  exact (unbroken '\n' member).2.2 rfl

/-- Assembled lines have no line ends if their parts have none. -/
theorem oneLine_assemble (head : String) (operands : List String) (headLine : OneLine head)
    (operandLines : ∀ text ∈ operands, OneLine text) :
    OneLine (Instruction.assemble head operands) := by
  rw [Instruction.assemble_eq]
  apply headLine.append
  cases operands with
  | nil => exact List.not_mem_nil
  | cons first rest =>
    apply OneLine.append (by unfold OneLine; decide)
    intro member
    rw [String.toList_intercalate] at member
    rcases mem_intercalate _ _ _ member with inMark | ⟨text, present, inText⟩
    · exact absurd inMark (by decide)
    · obtain ⟨operand, listed, rfl⟩ := List.mem_map.mp present
      exact operandLines operand listed inText

/-- A decoded word is printed on one line. -/
theorem oneLine_render (style : PrintStyle) (word address : Int) :
    OneLine ((Instruction.decode word address).render style) := by
  rcases Instruction.decode_form word address with form | unknown
  · apply oneLine_assemble
    · exact oneLine_of_unbroken (Instruction.forms_unbroken _ form).1
    · intro text member
      exact oneLine_of_unbroken (Instruction.unbroken_operands style _ text member)
  · rw [unknown, Instruction.render_unsupported]
    apply OneLine.append
    · exact OneLine.append (by unfold OneLine; decide) (oneLine_of_unbroken (unbroken_word _))
    · unfold OneLine
      decide

/-- A line has no line end inside it, if what it shows was decoded. -/
theorem oneLine_text (style : PrintStyle) (line : Line)
    (decoded : ∀ row, line = .instruction row → ∃ word address,
      row.instruction = Instruction.decode word address) : OneLine (line.text style) := by
  have fixed (text : String) (clear : '\n' ∉ text.toList) : OneLine text := clear
  cases line with
  | blank => exact fixed "" (by decide)
  | label symbol => exact (oneLine_of_unbroken symbol.unbroken_name).append (fixed ":" (by decide))
  | instruction row =>
    obtain ⟨word, address, instruction⟩ := decoded row rfl
    have numeral (value : Int) : OneLine (Numeral.word value) :=
      oneLine_of_unbroken (unbroken_word value)
    have columns : OneLine ("/* " ++ Numeral.word row.address ++ " " ++ Numeral.word row.word
        ++ " */\t") :=
      ((((fixed "/* " (by decide)).append (numeral _)).append (fixed " " (by decide))).append
        (numeral _)).append (fixed " */\t" (by decide))
    rw [Line.text, instruction]
    exact columns.append (oneLine_render style word address)

end LineEnds

end Microcode.Listing
