import Microcode.Listing

/-!
# The layout of labels

The symbols of a listing are found before its lines are laid out, so a label may stand
before or behind the transfers that refer to it. The table holds exactly the symbols of
the rows, and the block of labels in front of a row holds exactly the symbols of the
table at its address, the subroutine first. Hence a label stands as often as rows have
its address.

A blank line stands in front of every subroutine label that has a line in front of it,
and nowhere else. What carries this through the layout is that lines behind the first
never begin with a subroutine label, only with the blank line that sets it off.
-/

namespace Microcode

section Symbols

/-- The last operand of an instruction that refers to a symbol is that symbol. -/
theorem Instruction.getLast?_operands (instruction : Instruction) (symbol : Symbol)
    (refers : instruction.symbol? = some symbol) :
    instruction.operands.getLast? = some (.target symbol) := by
  cases instruction with
  | jump mnemonic target | branchTwo mnemonic rs rt target | branchOne mnemonic rs target =>
    cases Option.some.inj refers
    rfl
  | _ => exact nomatch refers

/-- A listing's table holds exactly the symbols that its rows refer to. -/
theorem Listing.mem_symbols_iff (rows : List Listing.Row) (symbol : Symbol) :
    symbol ∈ Listing.symbols rows ↔ ∃ row ∈ rows, row.instruction.symbol? = some symbol := by
  unfold Listing.symbols
  rw [SymbolTable.mem_discover]
  have none := SymbolTable.not_mem_empty symbol
  simp [SymbolTable.referenced, none]

/-- The labels at an address are the symbols that have it. -/
theorem SymbolTable.mem_labelsAt_iff (table : SymbolTable) (address : Int) (symbol : Symbol) :
    symbol ∈ table.labelsAt address ↔ symbol ∈ table ∧ symbol.address = address := by
  obtain ⟨kind, place⟩ := symbol
  unfold labelsAt
  cases kind <;> simp [and_comm]

/-- No label stands twice at an address. -/
theorem SymbolTable.labelsAt_distinct (table : SymbolTable) (address : Int) :
    (table.labelsAt address).Nodup := by
  apply List.Pairwise.filter
  simp

/-- Where both kinds of symbol have an address, the subroutine comes first. -/
theorem SymbolTable.labelsAt_of_both (table : SymbolTable) (address : Int)
    (subroutine : ⟨.subroutine, address⟩ ∈ table)
    (branchTarget : ⟨.branchTarget, address⟩ ∈ table) :
    table.labelsAt address = [⟨.subroutine, address⟩, ⟨.branchTarget, address⟩] := by
  simp [labelsAt, subroutine, branchTarget]

end Symbols

namespace Listing

section Blocks

/-- Whether a line shows an instruction. -/
def Line.isInstruction : Line → Bool
  | .instruction _ => true
  | _ => false

/-- The lines that show an instruction are the lines of rows. -/
theorem isInstruction_iff (line : Line) :
    line.isInstruction = true ↔ ∃ row, line = .instruction row := by
  cases line <;> simp [Line.isInstruction]

/-- The lines of a label show no instruction. -/
theorem isInstruction_of_mem_labelLines (first : Bool) (symbol : Symbol) (line : Line)
    (member : line ∈ labelLines first symbol) : line.isInstruction = false := by
  unfold labelLines at member
  split at member
  · rcases List.mem_cons.mp member with rfl | member
    · rfl
    · rw [List.mem_singleton.mp member]
      rfl
  · rw [List.mem_singleton.mp member]
    rfl

/-- The lines of a label end with the label itself. -/
theorem labelLines_eq (first : Bool) (symbol : Symbol) :
    labelLines first symbol = (labelLines first symbol).dropLast ++ [.label symbol] := by
  unfold labelLines
  split <;> rfl

/-- A branch target is not set off. -/
theorem labelLines_branchTarget (first : Bool) (address : Int) :
    labelLines first ⟨.branchTarget, address⟩ = [.label ⟨.branchTarget, address⟩] := by
  simp [labelLines]

/-- The lines of a block of labels show no instruction. -/
theorem isInstruction_of_mem_labelBlock (first : Bool) (symbols : List Symbol) (line : Line)
    (member : line ∈ labelBlock first symbols) : line.isInstruction = false := by
  induction symbols generalizing first with
  | nil => exact nomatch member
  | cons symbol rest inductionHypothesis =>
    rcases List.mem_append.mp member with now | later
    · exact isInstruction_of_mem_labelLines first symbol line now
    · exact inductionHypothesis false later

/-- The lines of a label have that label once and no other. -/
theorem count_labelLines (first : Bool) (written symbol : Symbol) :
    (labelLines first written).count (.label symbol) = [written].count symbol := by
  unfold labelLines
  split <;> simp [List.count_cons]

/-- A block has the label of a symbol as often as the symbol is given. -/
theorem count_labelBlock (first : Bool) (symbols : List Symbol) (symbol : Symbol) :
    (labelBlock first symbols).count (.label symbol) = symbols.count symbol := by
  induction symbols generalizing first with
  | nil => rfl
  | cons written rest inductionHypothesis =>
    rw [labelBlock, List.count_append, count_labelLines, inductionHypothesis,
      ← List.count_append]
    rfl

end Blocks

section Rows

/-- The layout of rows in two parts; only the first part may have the first line. -/
theorem layoutFrom_append (table : SymbolTable) (first : Bool) (front back : List Row) :
    layoutFrom table first (front ++ back) =
      layoutFrom table first front ++ layoutFrom table (first && front.isEmpty) back := by
  induction front generalizing first with
  | nil => simp [layoutFrom]
  | cons row rest inductionHypothesis =>
    simp [layoutFrom, inductionHypothesis]

/-- Without labels and blank lines the layout is the rows in order. -/
theorem filter_layoutFrom (table : SymbolTable) (first : Bool) (rows : List Row) :
    (layoutFrom table first rows).filter Line.isInstruction = rows.map .instruction := by
  induction rows generalizing first with
  | nil => rfl
  | cons row rest inductionHypothesis =>
    have block :
        (labelBlock first (table.labelsAt row.address)).filter Line.isInstruction = [] := by
      rw [List.filter_eq_nil_iff]
      intro line member
      rw [isInstruction_of_mem_labelBlock first _ line member]
      exact Bool.false_ne_true
    rw [layoutFrom, List.filter_append, block, List.filter_cons_of_pos rfl,
      inductionHypothesis]
    rfl

/-- The label of a symbol of the table stands once in front of each row that has its
address, and no other label stands anywhere. -/
theorem count_layoutFrom (table : SymbolTable) (first : Bool) (rows : List Row)
    (symbol : Symbol) :
    (layoutFrom table first rows).count (.label symbol) =
      if symbol ∈ table then (rows.map Row.address).count symbol.address else 0 := by
  induction rows generalizing first with
  | nil => simp [layoutFrom]
  | cons row rest inductionHypothesis =>
    have block : (table.labelsAt row.address).count symbol =
        if symbol ∈ table ∧ symbol.address = row.address then 1 else 0 := by
      rw [(table.labelsAt_distinct row.address).count]
      simp only [SymbolTable.mem_labelsAt_iff]
    rw [layoutFrom, List.count_append, count_labelBlock, block,
      List.count_cons_of_ne (by simp), inductionHypothesis, List.map_cons, List.count_cons]
    by_cases known : symbol ∈ table
    · by_cases here : symbol.address = row.address
      · simp [known, here, Nat.add_comm]
      · simp [known, here, Ne.symm here]
    · simp [known]

/-- The labels of a layout are those of symbols of the table. -/
theorem mem_table_of_label (table : SymbolTable) (first : Bool) (rows : List Row)
    (symbol : Symbol) (member : .label symbol ∈ layoutFrom table first rows) :
    symbol ∈ table := by
  have positive := List.count_pos_iff.mpr member
  rw [count_layoutFrom] at positive
  by_cases known : symbol ∈ table
  · exact known
  · rw [if_neg known] at positive
    exact absurd positive (Nat.lt_irrefl 0)

end Rows

section BlankLines

/-- Blank lines stand exactly in front of subroutine labels. -/
def SetOff (lines : List Line) : Prop :=
  ∀ index, lines[index]? = some .blank ↔
    ∃ symbol : Symbol, symbol.kind = .subroutine ∧ lines[index + 1]? = some (.label symbol)

/-- Lines that do not begin with a subroutine label. -/
def BeginsInside (lines : List Line) : Prop :=
  ∀ symbol : Symbol, lines[0]? = some (.label symbol) → symbol.kind ≠ .subroutine

/-- A line that is not blank keeps lines set off that begin inside. -/
theorem SetOff.cons {lines : List Line} (setOff : SetOff lines) (inside : BeginsInside lines)
    {line : Line} (notBlank : line ≠ .blank) : SetOff (line :: lines) := by
  intro index
  cases index with
  | zero =>
    constructor
    · intro blank
      exact absurd (Option.some.inj blank) notBlank
    · rintro ⟨symbol, subroutine, label⟩
      exact absurd subroutine (inside symbol label)
  | succ index => exact setOff index

/-- A subroutine label behind a blank line is set off. -/
theorem SetOff.blank_cons {lines : List Line} {symbol : Symbol}
    (setOff : SetOff (.label symbol :: lines)) (subroutine : symbol.kind = .subroutine) :
    SetOff (.blank :: .label symbol :: lines) := by
  intro index
  cases index with
  | zero =>
    constructor
    · intro _
      exact ⟨symbol, subroutine, rfl⟩
    · intro _
      rfl
  | succ index => exact setOff index

/-- A label in front of lines that are set off and begin inside. -/
theorem setOff_labelLines (first : Bool) (symbol : Symbol) {lines : List Line}
    (setOff : SetOff lines) (inside : BeginsInside lines) :
    SetOff (labelLines first symbol ++ lines) := by
  have label : SetOff (.label symbol :: lines) := setOff.cons inside Line.noConfusion
  unfold labelLines
  split
  case isTrue behind => exact label.blank_cons behind.1
  case isFalse => exact label

/-- A label behind the first line does not begin with itself if it is a subroutine's. -/
theorem beginsInside_labelLines (symbol : Symbol) (lines : List Line) :
    BeginsInside (labelLines false symbol ++ lines) := by
  intro other start
  unfold labelLines at start
  split at start
  case isTrue => exact nomatch start
  case isFalse inner =>
    cases start
    intro subroutine
    exact inner ⟨subroutine, rfl⟩

/-- A block of labels behind the first line in front of lines that begin inside. -/
theorem beginsInside_labelBlock (symbols : List Symbol) {lines : List Line}
    (inside : BeginsInside lines) : BeginsInside (labelBlock false symbols ++ lines) := by
  cases symbols with
  | nil => exact inside
  | cons symbol rest =>
    rw [labelBlock, List.append_assoc]
    exact beginsInside_labelLines symbol _

/-- A block of labels in front of lines that are set off and begin inside. -/
theorem setOff_labelBlock (first : Bool) (symbols : List Symbol) {lines : List Line}
    (setOff : SetOff lines) (inside : BeginsInside lines) :
    SetOff (labelBlock first symbols ++ lines) := by
  induction symbols generalizing first with
  | nil => exact setOff
  | cons symbol rest inductionHypothesis =>
    rw [labelBlock, List.append_assoc]
    exact setOff_labelLines first symbol (inductionHypothesis false)
      (beginsInside_labelBlock rest inside)

/-- Lines that begin with an instruction begin inside. -/
theorem beginsInside_instruction (row : Row) (lines : List Line) :
    BeginsInside (.instruction row :: lines) := by
  intro symbol start
  exact nomatch start

/-- Rows behind the first line begin inside. -/
theorem beginsInside_layoutFrom (table : SymbolTable) (rows : List Row) :
    BeginsInside (layoutFrom table false rows) := by
  cases rows with
  | nil =>
    intro symbol start
    exact nomatch start
  | cons row rest => exact beginsInside_labelBlock _ (beginsInside_instruction row _)

/-- Every layout has its blank lines exactly in front of subroutine labels. -/
theorem setOff_layoutFrom (table : SymbolTable) (first : Bool) (rows : List Row) :
    SetOff (layoutFrom table first rows) := by
  induction rows generalizing first with
  | nil =>
    intro index
    simp [layoutFrom]
  | cons row rest inductionHypothesis =>
    have behind : SetOff (.instruction row :: layoutFrom table false rest) :=
      (inductionHypothesis false).cons (beginsInside_layoutFrom table rest) Line.noConfusion
    exact setOff_labelBlock first _ behind (beginsInside_instruction row _)

end BlankLines

end Listing

end Microcode
