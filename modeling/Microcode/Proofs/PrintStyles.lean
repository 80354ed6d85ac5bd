import Microcode.Proofs.ListingLines
import Microcode.Proofs.ListingRows

/-!
# What a print style changes

A printed instruction is a sequence of pieces: texts that are the same in every style, and
registers. Mnemonics, numbers, lanes, symbols and the marks between them are texts. One option
governs the spelling of general, vector and vector control registers, and the other one that
of system registers.

A spelling that an option governs has a dollar sign under one of its settings and none under
the other. So flipping one option changes the number of dollar signs of an instruction as soon
as it governs a register of it, and changes nothing otherwise.
-/

namespace Microcode

section Pieces

/-- A piece of a printed instruction. -/
inductive Piece where
  /-- A text that is the same in every style. -/
  | fixed (text : String)
  | general (register : GeneralRegister)
  | system (register : SystemRegister)
  | control (register : VectorControl)
  | vector (register : VectorRegister)
  deriving DecidableEq

namespace Piece

/-- The spelling of a piece. -/
def text (style : PrintStyle) : Piece → String
  | .fixed text => text
  | .general register => register.text style
  | .system register => register.text style
  | .control register => register.text style
  | .vector register => register.text style

/-- A register that has a name and a number: a general, vector or vector control register. -/
def isNamed : Piece → Bool
  | .general _ | .control _ | .vector _ => true
  | .fixed _ | .system _ => false

/-- A system register. -/
def isSystem : Piece → Bool
  | .system _ => true
  | _ => false

end Piece

/-- The text of pieces in a style. -/
def fill (style : PrintStyle) (pieces : List Piece) : String :=
  String.join (pieces.map (Piece.text style))

/-- Pieces one behind the other are filled in one behind the other. -/
theorem fill_append (style : PrintStyle) (front back : List Piece) :
    fill style (front ++ back) = fill style front ++ fill style back := by
  rw [fill, List.map_append, String.join_append]
  rfl

/-- The first piece stands in front. -/
theorem fill_cons (style : PrintStyle) (piece : Piece) (rest : List Piece) :
    fill style (piece :: rest) = piece.text style ++ fill style rest := by
  rw [fill, List.map_cons, String.join_cons]
  rfl

/-- The pieces of an operand. -/
def Operand.pieces : Operand → List Piece
  | .general register => [.general register]
  | .system register => [.system register]
  | .control register => [.control register]
  | .vector register => [.vector register]
  | .selected register lanes => [.vector register, .fixed lanes.text]
  | .position register index =>
    [.vector register, .fixed ("[" ++ Text.Numeral.decimal index ++ "]")]
  | .decimal value => [.fixed (Text.Numeral.decimal value)]
  | .hexadecimal value => [.fixed ("0x" ++ Text.Numeral.lowerHex value)]
  | .memory offset base =>
    [.fixed (Text.Numeral.signedHex offset ++ "("), .general base, .fixed ")"]
  | .target symbol => [.fixed symbol.name]

/-- The pieces of an instruction: its mnemonic, and its operands parted by commas. -/
def Instruction.pieces (instruction : Instruction) : List Piece :=
  .fixed instruction.head ::
    match instruction.operands with
    | [] => []
    | first :: rest =>
      .fixed " " :: first.pieces ++ rest.flatMap fun operand => .fixed ", " :: operand.pieces

/-- An operand is its pieces filled in. -/
theorem Operand.text_eq_fill (style : PrintStyle) (operand : Operand) :
    operand.text style = fill style operand.pieces := by
  cases operand with
  | position register index | memory offset base =>
    simp [text, pieces, fill, Piece.text, String.append_assoc]
  | _ => simp [text, pieces, fill, Piece.text]

/-- Texts parted by commas are the first one and each other one behind a comma. -/
theorem intercalate_eq_fill (style : PrintStyle) (first : Operand) (rest : List Operand) :
    ", ".intercalate ((first :: rest).map (Operand.text style)) =
      fill style (first.pieces ++ rest.flatMap fun operand => .fixed ", " :: operand.pieces) := by
  induction rest generalizing first with
  | nil => simp [Operand.text_eq_fill]
  | cons next more inductionHypothesis =>
    have later := inductionHypothesis next
    rw [List.map_cons] at later
    rw [List.map_cons, List.map_cons, String.intercalate_cons_cons, later, List.flatMap_cons,
      fill_append style first.pieces, List.cons_append, fill_cons, Operand.text_eq_fill,
      String.append_assoc]
    rfl

/-- A printed instruction is its pieces filled in. -/
theorem Instruction.render_eq_fill (style : PrintStyle) (instruction : Instruction) :
    instruction.render style = fill style instruction.pieces := by
  rw [render, assemble_eq, pieces, fill_cons]
  cases instruction.operands with
  | nil => rfl
  | cons first rest =>
    dsimp only
    rw [List.cons_append, fill_cons, ← intercalate_eq_fill]
    rfl

end Pieces

section Signs

/-- A numeral has no dollar sign. -/
theorem signs_decimal (value : Int) : (Text.Numeral.decimal value).toList.count '$' = 0 := by
  rw [List.count_eq_zero]
  intro member
  exact absurd (Text.Numeral.isCharacter_of_mem_decimal value '$' member) (by decide)

/-- The style in which no register is spelled with a dollar sign. -/
def unsigned : PrintStyle := { registerNames := true, numberedSystemNames := false }

/-- The dollar signs of a piece: those of its text, and one if the option that governs it asks
for the spelling with a sign. -/
theorem Piece.signs_text (style : PrintStyle) (piece : Piece) :
    (piece.text style).toList.count '$' = (piece.text unsigned).toList.count '$'
      + (if style.registerNames then 0 else if piece.isNamed then 1 else 0)
      + (if style.numberedSystemNames then if piece.isSystem then 1 else 0 else 0) := by
  have general : ∀ index : Fin 32, (GeneralRegister.names.get index).toList.count '$' = 0 := by
    decide
  have system : ∀ index : Fin 16, (SystemRegister.vendorNames.get index).toList.count '$' = 0 := by
    decide
  have control : ∀ index : Fin 3, (VectorControl.names.get index).toList.count '$' = 0 := by
    decide
  cases piece with
  | fixed text => simp [Piece.text, isNamed, isSystem]
  | general register =>
    cases names : style.registerNames <;>
      simp [Piece.text, GeneralRegister.text, names, general, signs_decimal, unsigned, isNamed,
        isSystem]
  | system register =>
    cases numbered : style.numberedSystemNames <;>
      simp [Piece.text, SystemRegister.text, numbered, system, signs_decimal, unsigned, isNamed,
        isSystem]
  | control register =>
    cases names : style.registerNames <;>
      simp [Piece.text, VectorControl.text, names, control, unsigned, isNamed, isSystem]
  | vector register =>
    cases names : style.registerNames <;>
      simp [Piece.text, VectorRegister.text, names, signs_decimal, unsigned, isNamed, isSystem]

/-- The dollar signs of pieces: each option adds one for every register that it governs, or
none. -/
theorem signs_fill (style : PrintStyle) (pieces : List Piece) :
    (fill style pieces).toList.count '$' = (fill unsigned pieces).toList.count '$'
      + (if style.registerNames then 0 else pieces.countP Piece.isNamed)
      + (if style.numberedSystemNames then pieces.countP Piece.isSystem else 0) := by
  induction pieces with
  | nil => simp [fill]
  | cons piece rest inductionHypothesis =>
    rw [fill_cons, fill_cons, String.toList_append, String.toList_append, List.count_append,
      List.count_append, Piece.signs_text, inductionHypothesis, List.countP_cons, List.countP_cons]
    cases style.registerNames <;> cases style.numberedSystemNames <;>
      simp only [if_true, if_false, Bool.false_eq_true] <;> omega

/-- Styles that agree on the options that govern a piece spell it alike. -/
theorem Piece.text_congr {style other : PrintStyle} (piece : Piece)
    (names : piece.isNamed → style.registerNames = other.registerNames)
    (numbers : piece.isSystem → style.numberedSystemNames = other.numberedSystemNames) :
    piece.text style = piece.text other := by
  cases piece with
  | fixed text => rfl
  | general register => simp only [text, GeneralRegister.text, names rfl]
  | system register => simp only [text, SystemRegister.text, numbers rfl]
  | control register => simp only [text, VectorControl.text, names rfl]
  | vector register => simp only [text, VectorRegister.text, names rfl]

/-- Styles that agree on the options that govern pieces fill them in alike. -/
theorem fill_congr {style other : PrintStyle} (pieces : List Piece)
    (names : ∀ piece ∈ pieces, piece.isNamed → style.registerNames = other.registerNames)
    (numbers : ∀ piece ∈ pieces,
      piece.isSystem → style.numberedSystemNames = other.numberedSystemNames) :
    fill style pieces = fill other pieces := by
  unfold fill
  congr 1
  apply List.map_congr_left
  intro piece member
  exact piece.text_congr (names piece member) (numbers piece member)

/-- Styles that agree on one option print pieces differently exactly if one of the pieces is a
register whose option they disagree on. -/
theorem fill_ne_iff {style other : PrintStyle} (pieces : List Piece)
    (agree : style.registerNames = other.registerNames ∨
      style.numberedSystemNames = other.numberedSystemNames) :
    fill style pieces ≠ fill other pieces ↔
      ∃ piece ∈ pieces, (piece.isNamed ∧ style.registerNames ≠ other.registerNames) ∨
        (piece.isSystem ∧ style.numberedSystemNames ≠ other.numberedSystemNames) := by
  constructor
  · intro different
    by_contra none
    apply different
    apply fill_congr
    · intro piece member named
      by_contra flipped
      exact none ⟨piece, member, .inl ⟨named, flipped⟩⟩
    · intro piece member system
      by_contra flipped
      exact none ⟨piece, member, .inr ⟨system, flipped⟩⟩
  · rintro ⟨piece, member, governed⟩ same
    -- Equal texts have as many dollar signs, but the option counts its registers once only.
    have signs : (fill style pieces).toList.count '$' = (fill other pieces).toList.count '$' := by
      rw [same]
    rw [signs_fill style, signs_fill other] at signs
    rcases governed with ⟨named, flipped⟩ | ⟨system, flipped⟩
    · have numbers := agree.resolve_left flipped
      have counted := List.countP_pos_iff.mpr ⟨piece, member, named⟩
      rw [numbers] at signs
      cases here : style.registerNames <;> cases there : other.registerNames <;>
        simp only [here, there, ne_eq, not_true_eq_false, Bool.false_eq_true, if_true, if_false]
          at signs flipped <;> omega
    · have names := agree.resolve_right flipped
      have counted := List.countP_pos_iff.mpr ⟨piece, member, system⟩
      rw [names] at signs
      cases here : style.numberedSystemNames <;> cases there : other.numberedSystemNames <;>
        simp only [here, there, ne_eq, not_true_eq_false, Bool.false_eq_true, if_true, if_false]
          at signs flipped <;> omega

end Signs

namespace Instruction

/-- The shapes without a general, vector or vector control register. -/
def registerless : List Shape := [.nop, .unsupported, .breakpoint, .jump, .vectorNop]

/-- The registers that a shape shows: the moves of system registers show such a register, and
all but five shapes show one of the others. -/
theorem exists_register_iff (instruction : Instruction) :
    ((∃ piece ∈ instruction.pieces, piece.isSystem) ↔ instruction.shape = .systemMove) ∧
      ((∃ piece ∈ instruction.pieces, piece.isNamed) ↔ instruction.shape ∉ registerless) := by
  cases instruction with
  | threeRegister mnemonic rd rs rt =>
    by_cases shift : mnemonic ∈ variableShifts <;>
      simp [pieces, operands, shift, Operand.pieces, Piece.isSystem, Piece.isNamed, shape,
        registerless]
  | jumpLinkRegister rd rs =>
    by_cases link : rd = GeneralRegister.link <;>
      simp [pieces, operands, link, Operand.pieces, Piece.isSystem, Piece.isNamed, shape,
        registerless]
  | immediate mnemonic rt rs value logical =>
    cases logical <;>
      simp [pieces, operands, Operand.pieces, Piece.isSystem, Piece.isNamed, shape, registerless]
  | _ =>
    simp [pieces, operands, Operand.pieces, Piece.isSystem, Piece.isNamed, shape, registerless]

end Instruction

namespace Listing

section Lines

/-- The columns in front of an instruction. -/
def Row.columns (row : Row) : String :=
  "/* " ++ Text.Numeral.word row.address ++ " " ++ Text.Numeral.word row.word ++ " */\t"

/-- The line of a row is its columns and the pieces of its instruction. -/
theorem Row.line_eq (style : PrintStyle) (row : Row) :
    row.line style = row.columns ++ fill style row.instruction.pieces := by
  rw [line, Instruction.render_eq_fill]
  rfl

/-- Styles that agree on one option print a row differently exactly if one of its pieces is a
register whose option they disagree on. -/
theorem Row.line_ne_iff {style other : PrintStyle} (row : Row)
    (agree : style.registerNames = other.registerNames ∨
      style.numberedSystemNames = other.numberedSystemNames) :
    row.line style ≠ row.line other ↔
      ∃ piece ∈ row.instruction.pieces,
        (piece.isNamed ∧ style.registerNames ≠ other.registerNames) ∨
          (piece.isSystem ∧ style.numberedSystemNames ≠ other.numberedSystemNames) := by
  rw [Row.line_eq, Row.line_eq, ne_eq, String.append_right_inj, ← ne_eq, fill_ne_iff _ agree]

/-- Two texts of one line, one in each style: a label or a blank line, the same in both, or the
line of one of the rows. -/
inductive Restyled (style other : PrintStyle) (rows : List Row) : String → String → Prop where
  | label {line : String} (named : LabelText line) : Restyled style other rows line line
  | blank : Restyled style other rows "" ""
  | instruction {row : Row} (member : row ∈ rows) :
    Restyled style other rows (row.line style) (row.line other)

/-- The listings of rows in two styles. -/
structure RestyledListing (style other : PrintStyle) (rows : List Row)
    (here there : List String) : Prop where
  /-- The listings have the same lines at the same places. -/
  lines : List.Forall₂ (Restyled style other rows) here there
  /-- A row has the same columns and the same pieces in both, of which only registers are
  spelled by the style. -/
  pieces : ∀ row ∈ rows, row.line style = row.columns ++ fill style row.instruction.pieces ∧
    row.line other = row.columns ++ fill other row.instruction.pieces
  /-- The option of system registers changes exactly the lines of their moves. -/
  systemNames : style.registerNames = other.registerNames →
    style.numberedSystemNames ≠ other.numberedSystemNames →
    ∀ row ∈ rows, (row.line style ≠ row.line other ↔ row.instruction.shape = .systemMove)
  /-- The option of the other registers changes the lines of all but five shapes. -/
  registerNames : style.numberedSystemNames = other.numberedSystemNames →
    style.registerNames ≠ other.registerNames →
    ∀ row ∈ rows,
      (row.line style ≠ row.line other ↔ row.instruction.shape ∉ Instruction.registerless)
  /-- These five are the shapes without such a register. -/
  named : ∀ row ∈ rows, (row.instruction.shape ∉ Instruction.registerless ↔
    ∃ piece ∈ row.instruction.pieces, piece.isNamed)

/-- The rows in a layout are the rows that were laid out. -/
theorem instruction_mem_layoutFrom_iff (table : SymbolTable) (first : Bool) (rows : List Row)
    (row : Row) : .instruction row ∈ layoutFrom table first rows ↔ row ∈ rows := by
  have kept : .instruction row ∈ (layoutFrom table first rows).filter Line.isInstruction ↔
      .instruction row ∈ layoutFrom table first rows := by
    simp [List.mem_filter, Line.isInstruction]
  rw [← kept, filter_layoutFrom]
  simp

/-- A line of a layout in two styles. -/
theorem restyled_text (style other : PrintStyle) {rows : List Row} {line : Line}
    (member : line ∈ layout rows) :
    Restyled style other rows (line.text style) (line.text other) := by
  cases line with
  | blank => exact .blank
  | label symbol => exact .label ⟨symbol, rfl⟩
  | instruction row =>
    exact .instruction ((instruction_mem_layoutFrom_iff _ true rows row).mp member)

end Lines

/-- Print styles change only how registers are spelled. The listings of a buffer in two styles
have the same lines at the same places, and each option changes exactly the lines of the
instructions that show a register which it governs. -/
theorem lines_restyled (style other : PrintStyle) (data : List UInt8) (base : Int)
    (aligned : data.length % 4 = 0) :
    ∃ here there, lines style data base = .ok here ∧ lines other data base = .ok there ∧
      RestyledListing style other
        ((words data).mapIdx fun index word => Row.read (base + 4 * index) word) here there := by
  refine ⟨_, _, lines_of_aligned style data base aligned, lines_of_aligned other data base aligned,
    ?_⟩
  rw [← rowsFrom_eq_mapIdx]
  constructor
  · rw [List.forall₂_map_left_iff, List.forall₂_map_right_iff, List.forall₂_same]
    intro line member
    exact restyled_text style other member
  · intro row _
    exact ⟨row.line_eq style, row.line_eq other⟩
  · intro names flipped row _
    rw [row.line_ne_iff (.inl names), ← row.instruction.exists_register_iff.1]
    simp [names, flipped]
  · intro numbers flipped row _
    rw [row.line_ne_iff (.inr numbers), ← row.instruction.exists_register_iff.2]
    simp [numbers, flipped]
  · intro row _
    exact row.instruction.exists_register_iff.2.symm

/-- A move to a system register and a jump, in three styles. Each option changes the move, and
neither changes the jump or its label. -/
theorem status_move_restyled :
    let move := Row.read 0 0x40882000
    let jump := Row.read 4 0x08000000
    lines {} [0x40, 0x88, 0x20, 0, 0x08, 0, 0, 0] 0 = .ok
        ["subr_00000000:", "/* 00000000 40882000 */\tmtc0 t0, $c4",
          "/* 00000004 08000000 */\tj subr_00000000"] ∧
      lines { numberedSystemNames := false } [0x40, 0x88, 0x20, 0, 0x08, 0, 0, 0] 0 = .ok
        ["subr_00000000:", "/* 00000000 40882000 */\tmtc0 t0, SP_STATUS",
          "/* 00000004 08000000 */\tj subr_00000000"] ∧
      lines { registerNames := false } [0x40, 0x88, 0x20, 0, 0x08, 0, 0, 0] 0 = .ok
        ["subr_00000000:", "/* 00000000 40882000 */\tmtc0 $8, $c4",
          "/* 00000004 08000000 */\tj subr_00000000"] ∧
      move.line {} ≠ move.line { numberedSystemNames := false } ∧
      jump.line {} = jump.line { numberedSystemNames := false } ∧
      move.line {} ≠ move.line { registerNames := false } ∧
      jump.line {} = jump.line { registerNames := false } := by
  obtain ⟨_, _, _, _, system⟩ := lines_restyled {} { numberedSystemNames := false }
    [0x40, 0x88, 0x20, 0, 0x08, 0, 0, 0] 0 (by decide)
  obtain ⟨_, _, _, _, named⟩ := lines_restyled {} { registerNames := false }
    [0x40, 0x88, 0x20, 0, 0x08, 0, 0, 0] 0 (by decide)
  have systemNames := system.systemNames rfl (by decide)
  have registerNames := named.registerNames rfl (by decide)
  refine ⟨by rfl, by rfl, by rfl, ?_, ?_, ?_, ?_⟩
  · exact (systemNames (Row.read 0 0x40882000) (.head _)).mpr (by decide)
  · exact not_ne_iff.mp
      ((systemNames (Row.read 4 0x08000000) (.tail _ (.head _))).not.mpr (by decide))
  · exact (registerNames (Row.read 0 0x40882000) (.head _)).mpr (by decide)
  · exact not_ne_iff.mp
      ((registerNames (Row.read 4 0x08000000) (.tail _ (.head _))).not.mpr (by decide))

end Listing

end Microcode
