import Microcode.Proofs.HexSpellings
import Microcode.Proofs.ListingReadBack
import Microcode.Session

/-!
# Runs of a session

Machine code is read line by line. A line is blank, holds a word or is refused, and only
the refused ones are recorded, with their numbers in the whole list. So the words do not
depend on where blank lines stand, and the records are exactly the refused lines in
order. If there is one, nothing is listed; otherwise all words are, because words are
always aligned.

A session keeps its style, and nothing that it answers depends on its records. Along any
sequence of calls the answers are therefore those of a fresh session, and the records
are those of the last machine code run.
-/

namespace Microcode

namespace MachineCode

section Reading

/-- A line is blank, holds a word or is refused. -/
theorem line_cases (line : Text) :
    isBlankLine line = true ∨
      (isBlankLine line = false ∧ ∃ word, HexWord.parse line = .ok word) ∨
      (isBlankLine line = false ∧ ∃ cause, HexWord.parse line = .error cause) := by
  cases isBlankLine line with
  | true => exact .inl rfl
  | false =>
    cases HexWord.parse line with
    | ok word => exact .inr (.inl ⟨rfl, word, rfl⟩)
    | error cause => exact .inr (.inr ⟨rfl, cause, rfl⟩)

/-- A blank line only counts. -/
theorem readFrom_blank (number : Nat) {line : Text} (rest : List Text)
    (blank : isBlankLine line = true) :
    readFrom number (line :: rest) = readFrom (number + 1) rest := by
  simp [readFrom, blank]

/-- A word stands before the words of the lines behind it. -/
theorem readFrom_word (number : Nat) {line : Text} (rest : List Text) {word : Int}
    (filled : isBlankLine line = false) (read : HexWord.parse line = .ok word) :
    readFrom number (line :: rest) =
      (word :: (readFrom (number + 1) rest).1, (readFrom (number + 1) rest).2) := by
  simp [readFrom, filled, read]

/-- A refused line is recorded before the lines behind it. -/
theorem readFrom_refused (number : Nat) {line : Text} (rest : List Text)
    {cause : HexWord.HexWordError} (filled : isBlankLine line = false)
    (refused : HexWord.parse line = .error cause) :
    readFrom number (line :: rest) =
      ((readFrom (number + 1) rest).1, ⟨number, cause⟩ :: (readFrom (number + 1) rest).2) := by
  simp [readFrom, filled, refused]

/-- The records are those of the refused lines, with their numbers. -/
theorem mem_readFrom_iff (number : Nat) (lines : List Text) (record : LineRecord) :
    record ∈ (readFrom number lines).2 ↔ ∃ index line, lines[index]? = some line ∧
      isBlankLine line = false ∧ HexWord.parse line = .error record.cause ∧
        record.line = number + index := by
  induction lines generalizing number with
  | nil => simp [readFrom]
  | cons line rest inductionHypothesis =>
    -- A record of the lines behind the first has the same line one place further on.
    have behind : record ∈ (readFrom (number + 1) rest).2 ↔ ∃ index other,
        rest[index]? = some other ∧ isBlankLine other = false ∧
          HexWord.parse other = .error record.cause ∧ record.line = number + (index + 1) := by
      rw [inductionHypothesis]
      simp only [Nat.add_assoc, Nat.add_comm 1]
    have split : (∃ index other, (line :: rest)[index]? = some other ∧
        isBlankLine other = false ∧ HexWord.parse other = .error record.cause ∧
          record.line = number + index) ↔
        (isBlankLine line = false ∧ HexWord.parse line = .error record.cause ∧
          record.line = number) ∨ record ∈ (readFrom (number + 1) rest).2 := by
      rw [behind]
      constructor
      · rintro ⟨index, other, found, laws⟩
        cases index with
        | zero =>
          cases found
          exact .inl laws
        | succ index => exact .inr ⟨index, other, found, laws⟩
      · rintro (laws | ⟨index, other, found, laws⟩)
        · exact ⟨0, line, rfl, laws⟩
        · exact ⟨index + 1, other, found, laws⟩
    rw [split]
    rcases line_cases line with blank | ⟨filled, word, read⟩ | ⟨filled, cause, refused⟩
    · rw [readFrom_blank number rest blank]
      simp [blank]
    · rw [readFrom_word number rest filled read]
      simp [read]
    · rw [readFrom_refused number rest filled refused, List.mem_cons]
      cases record
      simp [filled, refused, eq_comm, and_comm]

/-- The records are in the order of the lines. -/
theorem readFrom_ascending (number : Nat) (lines : List Text) :
    (readFrom number lines).2.Pairwise fun before after => before.line < after.line := by
  induction lines generalizing number with
  | nil => exact .nil
  | cons line rest inductionHypothesis =>
    rcases line_cases line with blank | ⟨filled, word, read⟩ | ⟨filled, cause, refused⟩
    · rw [readFrom_blank number rest blank]
      exact inductionHypothesis (number + 1)
    · rw [readFrom_word number rest filled read]
      exact inductionHypothesis (number + 1)
    · rw [readFrom_refused number rest filled refused]
      refine List.pairwise_cons.mpr ⟨?_, inductionHypothesis (number + 1)⟩
      intro record member
      obtain ⟨index, -, -, -, -, place⟩ := (mem_readFrom_iff _ _ _).mp member
      simp only [place]
      omega

/-- The lines that are not blank, in order. -/
def filledLines (lines : List Text) : List Text := lines.filter fun line => !isBlankLine line

/-- Nothing is recorded exactly if every line that is not blank holds a word. -/
theorem readFrom_records_eq_nil_iff (number : Nat) (lines : List Text) :
    (readFrom number lines).2 = [] ↔
      ∀ line ∈ lines, isBlankLine line = true ∨ ∃ word, HexWord.parse line = .ok word := by
  rw [List.eq_nil_iff_forall_not_mem]
  constructor
  · intro clear line member
    rcases line_cases line with blank | ⟨-, read⟩ | ⟨filled, cause, refused⟩
    · exact .inl blank
    · exact .inr read
    · obtain ⟨index, inside, rfl⟩ := List.getElem_of_mem member
      have recorded := (mem_readFrom_iff number lines ⟨number + index, cause⟩).mpr
        ⟨index, _, List.getElem?_eq_getElem inside, filled, refused, rfl⟩
      exact absurd recorded (clear _)
  · intro fine record member
    obtain ⟨index, line, found, filled, refused, -⟩ := (mem_readFrom_iff _ _ _).mp member
    rcases fine line (List.mem_of_getElem? found) with blank | ⟨word, read⟩
    · rw [blank] at filled
      cases filled
    · rw [read] at refused
      cases refused

/-- If nothing is recorded, the words are read off the lines that are not blank. -/
theorem readFrom_words (number : Nat) (lines : List Text)
    (clear : (readFrom number lines).2 = []) :
    List.Forall₂ (fun line word => HexWord.parse line = .ok word) (filledLines lines)
      (readFrom number lines).1 := by
  induction lines generalizing number with
  | nil => exact .nil
  | cons line rest inductionHypothesis =>
    rcases line_cases line with blank | ⟨filled, word, read⟩ | ⟨filled, cause, refused⟩
    · rw [readFrom_blank number rest blank] at clear ⊢
      rw [filledLines, List.filter_cons_of_neg (by simp [blank])]
      exact inductionHypothesis (number + 1) clear
    · rw [readFrom_word number rest filled read] at clear ⊢
      rw [filledLines, List.filter_cons_of_pos (by simp [filled])]
      exact .cons read (inductionHypothesis (number + 1) clear)
    · rw [readFrom_refused number rest filled refused] at clear
      cases clear

/-- Blank lines change neither the words nor the reasons of the records, only their
numbers. -/
theorem readFrom_filledLines (number other : Nat) (lines : List Text) :
    (readFrom number (filledLines lines)).1 = (readFrom other lines).1 ∧
      (readFrom number (filledLines lines)).2.map LineRecord.cause =
        (readFrom other lines).2.map LineRecord.cause := by
  induction lines generalizing number other with
  | nil => exact ⟨rfl, rfl⟩
  | cons line rest inductionHypothesis =>
    rcases line_cases line with blank | ⟨filled, word, read⟩ | ⟨filled, cause, refused⟩
    · rw [filledLines, List.filter_cons_of_neg (by simp [blank]), ← filledLines,
        readFrom_blank other rest blank]
      exact inductionHypothesis number (other + 1)
    · obtain ⟨sameWords, sameCauses⟩ := inductionHypothesis (number + 1) (other + 1)
      rw [filledLines, List.filter_cons_of_pos (by simp [filled]), ← filledLines,
        readFrom_word number _ filled read, readFrom_word other rest filled read]
      exact ⟨congrArg (word :: ·) sameWords, sameCauses⟩
    · obtain ⟨sameWords, sameCauses⟩ := inductionHypothesis (number + 1) (other + 1)
      rw [filledLines, List.filter_cons_of_pos (by simp [filled]), ← filledLines,
        readFrom_refused number _ filled refused, readFrom_refused other rest filled refused]
      exact ⟨sameWords, congrArg (cause :: ·) sameCauses⟩

end Reading

end MachineCode

namespace Session

open MachineCode

section Listings

/-- Words are always listed. -/
theorem exists_text_of_words (style : PrintStyle) (words : List Int) (base : Int) :
    ∃ text, Listing.text style (Listing.bytes words) base = .ok text := by
  have aligned : (Listing.bytes words).length % 4 = 0 := by
    rw [Listing.length_bytes]
    omega
  exact ⟨_, Listing.text_of_aligned style _ base aligned⟩

/-- If no line is refused, all words are listed. -/
theorem listMachineCode_of_accepted (session : Session) (lines : List Text) (base : Int)
    (clear : (read lines).2 = []) :
    ∃ text, Listing.text session.style (Listing.bytes (read lines).1) base = .ok text ∧
      session.listMachineCode lines base = .ok ⟨text, []⟩ := by
  obtain ⟨text, listed⟩ := exists_text_of_words session.style (read lines).1 base
  refine ⟨text, listed, ?_⟩
  simp only [listMachineCode, clear, listBytes, listed]
  rfl

/-- If a line is refused, nothing is listed. -/
theorem listMachineCode_of_refused (session : Session) (lines : List Text) (base : Int)
    (recorded : (read lines).2 ≠ []) :
    session.listMachineCode lines base = .ok ⟨"", (read lines).2⟩ := by
  simp [listMachineCode, recorded, pure, Except.pure]

/-- Machine code is listed without an error, since whole words are always aligned, and the
records are those of the refused lines. -/
theorem exists_listMachineCode (session : Session) (lines : List Text) (base : Int) :
    ∃ text, session.listMachineCode lines base = .ok ⟨text, (read lines).2⟩ := by
  by_cases clear : (read lines).2 = []
  · obtain ⟨text, -, listing⟩ := listMachineCode_of_accepted session lines base clear
    exact ⟨text, by rw [listing, clear]⟩
  · exact ⟨"", listMachineCode_of_refused session lines base clear⟩

/-- The records of a listing are those of the refused lines. -/
theorem records_of_listMachineCode {session : Session} {lines : List Text} {base : Int}
    {given : MachineCodeListing} (listing : session.listMachineCode lines base = .ok given) :
    given.records = (read lines).2 := by
  obtain ⟨text, printed⟩ := exists_listMachineCode session lines base
  cases listing.symm.trans printed
  rfl

/-- What a listing of machine code owes to its lines. -/
structure AllOrNothing (style : PrintStyle) (lines : List Text) (base : Int)
    (listing : MachineCodeListing) : Prop where
  /-- The records are those of the refused lines, which are counted from one. -/
  recorded : ∀ record, record ∈ listing.records ↔ ∃ index line, lines[index]? = some line ∧
    isBlankLine line = false ∧ HexWord.parse line = .error record.cause ∧
      record.line = index + 1
  /-- The records are in order, and no line has two. -/
  ascending : listing.records.Pairwise fun before after => before.line < after.line
  /-- If a line is refused, nothing is listed. -/
  nothing : (∃ line ∈ lines, isBlankLine line = false ∧
    ∃ cause, HexWord.parse line = .error cause) → listing.text = ""
  /-- Otherwise nothing is recorded, and the text is that of the words of all lines that are
  not blank. Each of them is a word of 32 bits. -/
  all : (∀ line ∈ lines, isBlankLine line = true ∨ ∃ word, HexWord.parse line = .ok word) →
    listing.records = [] ∧ ∃ words,
      List.Forall₂ (fun line word => HexWord.parse line = .ok word) (filledLines lines) words ∧
      (∀ word ∈ words, 0 ≤ word ∧ word < 0x100000000) ∧
      Listing.text style (Listing.bytes words) base = .ok listing.text
  /-- Other blank lines, more or fewer, leave the text and the reasons of the records. -/
  spaced : ∀ other, filledLines other = filledLines lines →
    ∃ given, Session.listMachineCode { style } other base = .ok given ∧
      given.text = listing.text ∧
        given.records.map LineRecord.cause = listing.records.map LineRecord.cause

/-- Lines that differ in blank lines only are listed alike, apart from the numbers of the
records. -/
theorem listMachineCode_spaced {session : Session} {left right : List Text} {base : Int}
    {given : MachineCodeListing} (same : filledLines left = filledLines right)
    (listing : session.listMachineCode right base = .ok given) :
    ∃ other, session.listMachineCode left base = .ok other ∧ other.text = given.text ∧
      other.records.map LineRecord.cause = given.records.map LineRecord.cause := by
  have leftRead := readFrom_filledLines 1 1 left
  have rightRead := readFrom_filledLines 1 1 right
  rw [same] at leftRead
  have words : (read left).1 = (read right).1 := leftRead.1.symm.trans rightRead.1
  have causes : (read left).2.map LineRecord.cause = (read right).2.map LineRecord.cause :=
    leftRead.2.symm.trans rightRead.2
  have bothClear : (read left).2 = [] ↔ (read right).2 = [] := by
    rw [← List.map_eq_nil_iff (f := LineRecord.cause), causes, List.map_eq_nil_iff]
  by_cases clear : (read right).2 = []
  · obtain ⟨text, listed, printed⟩ := listMachineCode_of_accepted session right base clear
    obtain ⟨other, alsoListed, alsoPrinted⟩ :=
      listMachineCode_of_accepted session left base (bothClear.mpr clear)
    rw [words] at alsoListed
    cases listing.symm.trans printed
    exact ⟨_, alsoPrinted, Except.ok.inj (alsoListed.symm.trans listed), rfl⟩
  · cases listing.symm.trans (listMachineCode_of_refused session right base clear)
    exact ⟨_, listMachineCode_of_refused session left base (mt bothClear.mp clear), rfl, causes⟩

/-- Machine code is listed as a whole or not at all. -/
theorem allOrNothing_of_listMachineCode {style : PrintStyle} {lines : List Text} {base : Int}
    {given : MachineCodeListing} (listing : listMachineCode { style } lines base = .ok given) :
    AllOrNothing style lines base given where
  recorded := by
    intro record
    rw [records_of_listMachineCode listing, MachineCode.read, mem_readFrom_iff]
    simp only [Nat.add_comm 1]
  ascending := by
    rw [records_of_listMachineCode listing]
    exact readFrom_ascending 1 lines
  nothing := by
    rintro ⟨line, member, filled, cause, refused⟩
    have recorded : (read lines).2 ≠ [] := by
      intro clear
      rcases (readFrom_records_eq_nil_iff 1 lines).mp clear line member with blank | ⟨word, read⟩
      · rw [blank] at filled
        cases filled
      · rw [read] at refused
        cases refused
    cases listing.symm.trans (listMachineCode_of_refused { style } lines base recorded)
    rfl
  all := by
    intro fine
    have clear := (readFrom_records_eq_nil_iff 1 lines).mpr fine
    obtain ⟨text, listed, printed⟩ := listMachineCode_of_accepted { style } lines base clear
    have paired := readFrom_words 1 lines clear
    cases listing.symm.trans printed
    refine ⟨rfl, (read lines).1, paired, ?_, listed⟩
    intro word member
    obtain ⟨index, inside, rfl⟩ := List.getElem_of_mem member
    exact HexWord.parse_bounds (paired.get (paired.length_eq ▸ inside) inside)
  spaced := by
    intro other same
    exact listMachineCode_spaced same listing

end Listings

section Histories

/-- The records in an answer to a machine code run. -/
def Answer.records? : Answer → Option (List LineRecord)
  | .listing given => some given.records
  | _ => none

/-- The records of the last machine code run among answers, or the given ones if there
was none. -/
def latestRecords (initial : List LineRecord) (answers : List Answer) : List LineRecord :=
  (answers.reverse.findSome? Answer.records?).getD initial

/-- Before the first call the records are the initial ones. -/
theorem latestRecords_nil (initial : List LineRecord) : latestRecords initial [] = initial := rfl

/-- A later answer counts before the first one. -/
theorem latestRecords_cons (initial : List LineRecord) (first : Answer) (rest : List Answer) :
    latestRecords initial (first :: rest) = latestRecords (first.records?.getD initial) rest := by
  rw [latestRecords, latestRecords, List.reverse_cons, List.findSome?_append]
  cases rest.reverse.findSome? Answer.records? <;> cases found : first.records? <;> simp [found]

/-- Answers do not depend on the records of the session. -/
theorem answer_congr (style : PrintStyle) (records other : List LineRecord) (call : Call) :
    answer ⟨style, records⟩ call = answer ⟨style, other⟩ call := by
  cases call <;> rfl

/-- A call leaves the style as it is, and the records too unless it answers with new
ones. -/
theorem after_eq (session : Session) (call : Call) :
    session.after call =
      ⟨session.style, (session.answer call).records?.getD session.records⟩ := by
  cases call with
  | machineCode lines base =>
    obtain ⟨text, listing⟩ := exists_listMachineCode session lines base
    simp only [after, afterMachineCode, answer, listing, Answer.records?, Option.getD_some]
  | bytes data base =>
    have unrecorded : (session.answer (.bytes data base)).records? = none := by
      rw [answer]
      split <;> rfl
    rw [unrecorded]
    rfl
  | word line =>
    have unrecorded : (session.answer (.word line)).records? = none := by
      rw [answer]
      split <;> rfl
    rw [unrecorded]
    rfl

/-- Along a run from any records, each answer is that of a fresh session, and the records
behind it are those of the last machine code run so far. The induction takes one call
off the front, whose records become the initial ones. -/
theorem run_from (style : PrintStyle) (records : List LineRecord) (calls : List Call) :
    run ⟨style, records⟩ calls = calls.mapIdx fun index call =>
      (answer { style } call,
        ⟨style, latestRecords records ((calls.take (index + 1)).map (answer { style }))⟩) := by
  induction calls generalizing records with
  | nil => rfl
  | cons call rest inductionHypothesis =>
    have first : answer ⟨style, records⟩ call = answer { style } call :=
      answer_congr style records [] call
    rw [run, after_eq, inductionHypothesis, List.mapIdx_cons, first]
    simp only [List.take_succ_cons, List.map_cons, latestRecords_cons, List.take_zero,
      List.map_nil, latestRecords_nil]

end Histories

/-- The records behind a machine code run are its own. -/
theorem latestRecords_append (initial : List LineRecord) (earlier : List Answer)
    (given : MachineCodeListing) :
    latestRecords initial (earlier ++ [.listing given]) = given.records := by
  rw [latestRecords, List.reverse_append]
  rfl

/-- Whatever a session was asked before, it answers each call like a fresh one of its
style. The records behind a call are those of the last machine code run up to it, and none
if there was no such run. Each machine code run is answered, and either lists all its words
or records exactly its refused lines and lists nothing. -/
theorem run_history_free (style : PrintStyle) (calls : List Call) :
    run { style } calls = calls.mapIdx (fun index call =>
      (answer { style } call,
        ⟨style, latestRecords [] ((calls.take (index + 1)).map (answer { style }))⟩)) ∧
    ∀ (index : Nat) (lines : List Text) (base : Int),
      calls[index]? = some (.machineCode lines base) →
      ∃ given, (run { style } calls)[index]? = some (.listing given, ⟨style, given.records⟩) ∧
        AllOrNothing style lines base given := by
  have entries := run_from style [] calls
  refine ⟨entries, ?_⟩
  intro index lines base asked
  obtain ⟨text, listing⟩ := exists_listMachineCode { style } lines base
  refine ⟨_, ?_, allOrNothing_of_listMachineCode listing⟩
  have upTo : calls.take (index + 1) = calls.take index ++ [.machineCode lines base] := by
    rw [List.take_add_one, asked]
    rfl
  rw [entries, List.getElem?_mapIdx, asked, upTo, List.map_append]
  simp only [Option.map_some, List.map_cons, List.map_nil, answer, listing, latestRecords_append]

/-- A refused run leaves no trace in the next one, which is listed behind a blank line and
with its marker in capitals. -/
theorem refused_run_forgotten :
    let calls : List Call :=
      [.machineCode [.ofString "xyz"] 0, .machineCode [[], .ofString " 0XC "] 0]
    ∃ given, (run {} calls)[1]? = some (.listing given, ⟨{}, given.records⟩) ∧
      given = ⟨"/* 00000000 0000000C */\t; unrecognized op [0000000C]\n", []⟩ ∧
      AllOrNothing {} [[], .ofString " 0XC "] 0 given := by
  intro calls
  obtain ⟨given, answered, laws⟩ := (run_history_free {} calls).2 1 _ _ rfl
  have value : (run {} calls)[1]? = some (.listing
      ⟨"/* 00000000 0000000C */\t; unrecognized op [0000000C]\n", []⟩, ⟨{}, []⟩) := by rfl
  cases answered.symm.trans value
  exact ⟨_, value, rfl, laws⟩

end Session

end Microcode
