import Microcode.Listing.Columns
import Microcode.Proofs.ListingLines
import Microcode.Proofs.ListingRows

/-!
# A listing determines its buffer

The text of a listing is cut into its lines again, because no line has a line end inside
it. The lines with columns are those of the rows, and the columns of a row have exactly
eight digits each, because addresses and words lie below `2 ^ 32`. So reading them gives
the addresses and the words back, the words give the buffer, and the buffer at the first
address that was read gives the text.
-/

namespace Microcode.Listing

open Text

section Cutting

/-- A line and its end are cut off. -/
theorem cutLinesAfter_append (before line rest : List Char) (unended : '\n' ∉ line) :
    cutLinesAfter before (line ++ '\n' :: rest) =
      (before.reverse ++ line) :: cutLinesAfter [] rest := by
  induction line generalizing before with
  | nil => simp [cutLinesAfter]
  | cons character line inductionHypothesis =>
    have inside : character ≠ '\n' := by
      rintro rfl
      exact unended List.mem_cons_self
    have later : '\n' ∉ line := by
      intro member
      exact unended (List.mem_cons_of_mem _ member)
    rw [List.cons_append, cutLinesAfter, if_neg inside, inductionHypothesis _ later]
    simp

/-- Lines that are ended and joined are cut apart again. -/
theorem cutLines_join (lines : List String) (unended : ∀ line ∈ lines, OneLine line) :
    cutLines (String.join (lines.map (· ++ "\n"))) = lines := by
  induction lines with
  | nil => rfl
  | cons line rest inductionHypothesis =>
    have first : OneLine line := unended line List.mem_cons_self
    have others : ∀ other ∈ rest, OneLine other := by
      intro other member
      exact unended other (List.mem_cons_of_mem _ member)
    have joined : (String.join ((line :: rest).map (· ++ "\n"))).toList =
        line.toList ++ '\n' :: (String.join (rest.map (· ++ "\n"))).toList := by
      simp
    rw [cutLines, joined, cutLinesAfter_append [] _ _ first, List.map_cons, ← cutLines,
      inductionHypothesis others]
    simp

end Cutting

section Columns

/-- A column of digits is read as the number that they denote. -/
theorem column?_word (value : Int) (natural : 0 ≤ value) :
    column? (Numeral.word value).toList = some value := by
  have read := Numeral.reading_columnBody value
  obtain ⟨values, digits, denoted⟩ := Option.map_eq_some_iff.mp read
  rw [column?, Numeral.toList_word_of_nonneg value natural, digits, Option.map_some, denoted]
  exact congrArg some (Int.natAbs_of_nonneg natural)

/-- The columns of a row are its address and its word, if these fill the columns. -/
theorem columns?_line (style : PrintStyle) (row : Row)
    (address : 0 ≤ row.address ∧ row.address < 0x100000000)
    (word : 0 ≤ row.word ∧ row.word < 0x100000000) :
    columns? (row.line style) = some (row.address, row.word) := by
  have addressLength := Numeral.length_word row.address address.1 address.2
  have wordLength := Numeral.length_word row.word word.1 word.2
  have text : (row.line style).toList = '/' :: '*' :: ' ' ::
      ((Numeral.word row.address).toList ++ ' ' :: ((Numeral.word row.word).toList
        ++ (" */\t" ++ row.instruction.render style).toList)) := by
    simp [Row.line]
  have behind (rest : List Char) :
      ((Numeral.word row.address).toList ++ ' ' :: rest).drop 9 = rest := by
    rw [List.append_cons, List.drop_left' (by simp [addressLength])]
  rw [columns?, text]
  simp only [behind, List.take_left' addressLength, List.take_left' wordLength,
    column?_word row.address address.1, column?_word row.word word.1]
  rfl

/-- Other lines have no columns. -/
theorem columns?_of_unmarked (line : String) (unmarked : ¬ columnMark <+: line.toList) :
    columns? line = none := by
  unfold columns?
  split
  case h_1 rest text =>
    rw [text] at unmarked
    exact absurd ⟨rest, rfl⟩ unmarked
  case h_2 => rfl

end Columns

section Rows

/-- Addresses and words of a buffer's rows fill their columns. -/
theorem bounds_of_mem_rows (data : List UInt8) (base : Int) (row : Row)
    (member : row ∈ rowsFrom base (words data)) :
    (0 ≤ row.address ∧ row.address < 0x100000000) ∧
      (0 ≤ row.word ∧ row.word < 0x100000000) := by
  obtain ⟨address, word, inWords, rfl⟩ := exists_word_of_mem_rowsFrom base _ row member
  constructor
  · simp only [Row.read]
    omega
  · exact words_bounds data word inWords

/-- The lines of a buffer's rows have no line end inside them. -/
theorem oneLine_of_mem_layout (style : PrintStyle) (data : List UInt8) (base : Int)
    (text : String)
    (member : text ∈ (layout (rowsFrom base (words data))).map (Line.text style)) :
    OneLine text := by
  obtain ⟨line, inLayout, rfl⟩ := List.mem_map.mp member
  apply oneLine_text
  rintro row rfl
  have inRows : .instruction row ∈ (rowsFrom base (words data)).map Line.instruction := by
    rw [← filter_layoutFrom (symbols (rowsFrom base (words data))) true]
    exact List.mem_filter.mpr ⟨inLayout, rfl⟩
  obtain ⟨other, present, same⟩ := List.mem_map.mp inRows
  cases same
  obtain ⟨address, word, -, rfl⟩ := exists_word_of_mem_rowsFrom base _ row present
  exact ⟨word, address % 0x100000000, rfl⟩

/-- The lines with the mark of columns are the lines of the rows. -/
theorem filter_marked (style : PrintStyle) (rows : List Row) :
    ((layout rows).map (Line.text style)).filter
        (fun line => columnMark.isPrefixOf line.toList) = rows.map (Row.line style) := by
  have picked := filter_texts style (fun line => columnMark.isPrefixOf line.toList)
    (fun line => List.isPrefixOf_iff_prefix.trans (columnMark_iff style line))
    (symbols rows) true rows [] (fun _ member => nomatch member)
  rwa [List.append_nil] at picked

/-- Only lines with the mark are read. -/
theorem filterMap_columns? (lines : List String) :
    lines.filterMap columns? =
      (lines.filter fun line => columnMark.isPrefixOf line.toList).filterMap columns? := by
  rw [List.filterMap_filter]
  congr 1
  funext line
  split
  case isTrue => rfl
  case isFalse unmarked =>
    apply columns?_of_unmarked
    rwa [List.isPrefixOf_iff_prefix] at unmarked

/-- The columns of a buffer's lines are the addresses and words of its rows. -/
theorem columns_of_layout (style : PrintStyle) (data : List UInt8) (base : Int) :
    ((layout (rowsFrom base (words data))).map (Line.text style)).filterMap columns? =
      (rowsFrom base (words data)).map fun row => (row.address, row.word) := by
  rw [filterMap_columns?, filter_marked, List.filterMap_map, ← List.filterMap_eq_map']
  apply List.filterMap_congr
  intro row member
  have bounds := bounds_of_mem_rows data base row member
  rw [Function.comp_apply, columns?_line style row bounds.1 bounds.2]

/-- The text of a buffer of whole words is that of its laid-out rows. -/
theorem text_of_aligned (style : PrintStyle) (data : List UInt8) (base : Int)
    (aligned : data.length % 4 = 0) :
    text style data base = .ok (String.join (((layout (rowsFrom base (words data))).map
      (Line.text style)).map (· ++ "\n"))) := by
  rw [text, lines_of_aligned style data base aligned]
  rfl

/-- A buffer with a text has whole words. -/
theorem aligned_of_text {style : PrintStyle} {data : List UInt8} {base : Int} {printed : String}
    (result : text style data base = .ok printed) : data.length % 4 = 0 := by
  by_cases aligned : data.length % 4 = 0
  · exact aligned
  · rw [text, lines, rows, if_neg aligned] at result
    cases result

/-- Reading a text back gives the addresses and words of the rows. -/
theorem readBack_text {style : PrintStyle} {data : List UInt8} {base : Int} {printed : String}
    (result : text style data base = .ok printed) :
    readBack printed = (rowsFrom base (words data)).map fun row => (row.address, row.word) := by
  have whole := text_of_aligned style data base (aligned_of_text result)
  cases Except.ok.inj (result.symm.trans whole)
  rw [readBack, cutLines_join _ (oneLine_of_mem_layout style data base), columns_of_layout]

/-- Words that are read back are the words of the buffer. -/
theorem words_of_readBack {style : PrintStyle} {data : List UInt8} {base : Int} {printed : String}
    (result : text style data base = .ok printed) :
    (readBack printed).map Prod.snd = words data := by
  rw [readBack_text result, List.map_map]
  exact words_of_rowsFrom base (words data)

/-- The bytes of the words that are read back are the buffer. -/
theorem bytes_of_readBack {style : PrintStyle} {data : List UInt8} {base : Int} {printed : String}
    (result : text style data base = .ok printed) :
    bytes ((readBack printed).map Prod.snd) = data := by
  rw [words_of_readBack result, bytes_words data (aligned_of_text result)]

/-- Rows do not change if they start at the address of the first of them. -/
theorem rowsFrom_first (base unread : Int) (words : List Int) :
    rowsFrom (((rowsFrom base words).head?.map Row.address).getD unread) words =
      rowsFrom base words := by
  cases words with
  | nil => rfl
  | cons word rest =>
    have first : ((rowsFrom base (word :: rest)).head?.map Row.address).getD unread =
        base % 0x100000000 := rfl
    rw [first, rowsFrom_mod]

/-- The text of a buffer at the first address that is read back from it is the same. -/
theorem text_at_first {style : PrintStyle} {data : List UInt8} {base : Int} {printed : String}
    (result : text style data base = .ok printed) (unread : Int) :
    text style data (((readBack printed).head?.map Prod.fst).getD unread) = .ok printed := by
  have aligned := aligned_of_text result
  have first : (readBack printed).head?.map Prod.fst =
      (rowsFrom base (words data)).head?.map Row.address := by
    rw [readBack_text result, List.head?_map, Option.map_map]
    rfl
  rw [first, text_of_aligned _ _ _ aligned, rowsFrom_first, ← text_of_aligned _ _ _ aligned]
  exact result

end Rows

/-- A text and its lines recover the buffer that was listed, and where. -/
structure Recoverable (style : PrintStyle) (data : List UInt8) (base : Int)
    (listed : List String) (printed : String) : Prop where
  /-- Cutting the text at its line ends gives the lines. -/
  cut : cutLines printed = listed
  /-- The lines that begin with the mark of columns are those of the words, in order. -/
  marked : listed.filter (fun line => columnMark.isPrefixOf line.toList) =
    (words data).mapIdx fun index word => (Row.read (base + 4 * index) word).line style
  /-- The other lines are labels and blank lines. -/
  unmarked : ∀ line ∈ listed, ¬ columnMark <+: line.toList → LabelText line ∨ line = ""
  /-- The columns hold the addresses and the words. -/
  columns : readBack printed =
    (words data).mapIdx fun index word => ((base + 4 * index) % 0x100000000, word)
  /-- The words that are read are the bytes of the buffer. -/
  buffer : bytes ((readBack printed).map Prod.snd) = data
  /-- No other buffer has the text at this base. -/
  unique : ∀ other, text style other base = .ok printed → other = data
  /-- The bytes that are read have the same text at the first address that is read. -/
  again : ∀ unread, text style (bytes ((readBack printed).map Prod.snd))
    (((readBack printed).head?.map Prod.fst).getD unread) = .ok printed

/-- Every buffer of whole words has a text that recovers it, at any base and in any
style. -/
theorem text_recoverable (style : PrintStyle) (data : List UInt8) (base : Int)
    (aligned : data.length % 4 = 0) :
    ∃ listed printed, lines style data base = .ok listed ∧
      text style data base = .ok printed ∧ Recoverable style data base listed printed := by
  have result := text_of_aligned style data base aligned
  refine ⟨_, _, lines_of_aligned style data base aligned, result, ?_⟩
  constructor
  case cut => exact cutLines_join _ (oneLine_of_mem_layout style data base)
  case marked =>
    rw [filter_marked, map_rowsFrom]
  case unmarked =>
    intro text member unmarked
    obtain ⟨line, -, rfl⟩ := List.mem_map.mp member
    rw [columnMark_iff, ← other_iff style] at unmarked
    exact Classical.not_not.mp unmarked
  case columns =>
    rw [readBack_text result, map_rowsFrom]
    rfl
  case buffer => exact bytes_of_readBack result
  case unique =>
    intro other same
    exact (bytes_of_readBack same).symm.trans (bytes_of_readBack result)
  case again =>
    intro unread
    rw [bytes_of_readBack result]
    exact text_at_first result unread

/-- Two words around the end of the address space, with labels between them, are
recovered from the text. -/
theorem wrapped_text_recoverable :
    ∃ printed, text ⟨false, true⟩ [0x10, 0, 0, 0, 0x08, 0, 0, 0] (-4) = .ok printed ∧
      Recoverable ⟨false, true⟩ [0x10, 0, 0, 0, 0x08, 0, 0, 0] (-4)
        ["/* FFFFFFFC 10000000 */\tbeq $0, $0, @L00000000", "", "subr_00000000:",
          "@L00000000:", "/* 00000000 08000000 */\tj subr_00000000"] printed := by
  obtain ⟨listed, printed, linesResult, textResult, recoverable⟩ :=
    text_recoverable ⟨false, true⟩ [0x10, 0, 0, 0, 0x08, 0, 0, 0] (-4) (by decide)
  have value : lines ⟨false, true⟩ [0x10, 0, 0, 0, 0x08, 0, 0, 0] (-4) = .ok
      ["/* FFFFFFFC 10000000 */\tbeq $0, $0, @L00000000", "", "subr_00000000:",
        "@L00000000:", "/* 00000000 08000000 */\tj subr_00000000"] := by rfl
  cases Except.ok.inj (linesResult.symm.trans value)
  exact ⟨printed, textResult, recoverable⟩

end Microcode.Listing
