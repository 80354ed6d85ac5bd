import Microcode.HexWord
import Microcode.Proofs.FallibleSteps
import Microcode.Proofs.Numerals
import Mathlib.Data.Bool.AllAny
import Mathlib.Data.List.TakeWhile

/-!
# How words are spelled

A word is spelled with at most eight digits of either case behind an optional marker, and
a line may have white space around the spelling. Reading such a line gives the word:
nothing of a spelling is white space, so stripping leaves exactly the spelling, and the
lower case of a digit is a digit of the same value, so only the marker goes.

Whatever is read has at most eight digits, so it lies below `2 ^ 32`.
-/

namespace Microcode.HexWord

open Text

section Characters

-- Where all characters are known to be finitely many, `decide` would try each of them for a
-- statement about the members of a list. The lists are therefore checked by `List.all`.

/-- The digits in either case. -/
def digitCharacters : List Char := [
  '0', '1', '2', '3', '4', '5', '6', '7', '8', '9',
  'a', 'b', 'c', 'd', 'e', 'f', 'A', 'B', 'C', 'D', 'E', 'F']

/-- A character with a digit's value is one of the digits. -/
theorem mem_digitCharacters (character : Char) (digit : Nat)
    (found : hexDigit? character = some digit) : character ∈ digitCharacters := by
  have listed : ∀ code < 128, (hexDigit? (Char.ofNat code)).isSome →
      Char.ofNat code ∈ digitCharacters := by decide +kernel
  have ascii : character.toNat < 128 := by
    have valued : (digitValue? character).isSome := by
      rw [hexDigit?, digitIn?, Option.filter_eq_some_iff] at found
      simp [found.1]
    simp only [digitValue?, Char.le_def, UInt32.le_iff_toNat_le] at valued
    change character.val.toNat < 128
    split at valued
    case isTrue decimal => exact Nat.lt_of_le_of_lt decimal.2 (by decide)
    case isFalse =>
      split at valued
      case isTrue lower => exact Nat.lt_of_le_of_lt lower.2 (by decide)
      case isFalse =>
        split at valued
        case isTrue upper => exact Nat.lt_of_le_of_lt upper.2 (by decide)
        case isFalse => simp at valued
  have digitAt := listed character.toNat ascii
  rw [Char.ofNat_toNat] at digitAt
  exact digitAt (by simp [found])

/-- The characters that stand in spellings. -/
def spellingCharacters : List Char := 'x' :: 'X' :: digitCharacters

/-- No character of a spelling is white space. -/
theorem not_isBlank_of_mem : ∀ character ∈ spellingCharacters,
    isBlank (.char character) = false := List.all_iff_forall_prop.mp (by decide +kernel)

/-- The lower case of a spelling's characters does not depend on their neighbours. -/
theorem plain_of_mem : ∀ character ∈ spellingCharacters,
    CodePoint.char character ≠ .char 'İ' ∧ CodePoint.char character ≠ .char 'Σ' :=
  List.all_iff_forall_prop.mp (by decide)

/-- In lower case a digit keeps its value, and the marker's letter is no digit. -/
theorem lowerDigit?_lowerPoint : ∀ character ∈ spellingCharacters,
    lowerDigit? (lowerPoint (.char character)) = hexDigit? character :=
  List.all_iff_forall_prop.mp (by decide +kernel)

/-- In lower case no digit becomes the letter of the marker. -/
theorem lowerPoint_ne_marker : ∀ character ∈ digitCharacters,
    lowerPoint (.char character) ≠ .char 'x' := List.all_iff_forall_prop.mp (by decide +kernel)

end Characters

section Lines

/-- A list without the elements of a kind around it, if none of them is inside. -/
theorem stripWhere_surrounded {α : Type} (dropped : α → Bool) (front inner back : List α)
    (frontDropped : ∀ item ∈ front, dropped item) (backDropped : ∀ item ∈ back, dropped item)
    (innerKept : ∀ item ∈ inner, dropped item = false) :
    stripWhere dropped (front ++ inner ++ back) = inner := by
  have backwards : ∀ item ∈ back.reverse, dropped item := by
    intro item member
    exact backDropped item (List.mem_reverse.mp member)
  have kept (list : List α) (all : ∀ item ∈ list, dropped item = false) :
      list.dropWhile dropped = list := by
    cases list with
    | nil => rfl
    | cons first rest =>
      exact List.dropWhile_cons_of_neg (by simp [all first List.mem_cons_self])
  rw [stripWhere, List.append_assoc, List.dropWhile_append_of_pos frontDropped]
  cases inner with
  | nil =>
    rw [List.nil_append, List.dropWhile_eq_nil_iff.mpr backDropped]
    rfl
  | cons first rest =>
    have start : ¬ dropped first := by simp [innerKept first List.mem_cons_self]
    rw [List.cons_append, List.dropWhile_cons_of_neg start, ← List.cons_append,
      List.reverse_append, List.dropWhile_append_of_pos backwards, kept, List.reverse_reverse]
    intro item member
    exact innerKept item (List.mem_reverse.mp member)

/-- A text whose lower case does not depend on neighbours is lowered point by point. -/
theorem lowerCase_of_plain (text : Text)
    (plain : ∀ point ∈ text, point ≠ .char 'İ' ∧ point ≠ .char 'Σ') :
    lowerCase text = text.map lowerPoint := by
  have after (before rest : Text)
      (plain : ∀ point ∈ rest, point ≠ .char 'İ' ∧ point ≠ .char 'Σ') :
      lowerAfter before rest = rest.map lowerPoint := by
    induction rest generalizing before with
    | nil => rfl
    | cons point rest inductionHypothesis =>
      obtain ⟨dotted, sigma⟩ := plain point List.mem_cons_self
      rw [lowerAfter, lowerBetween, if_neg dotted, if_neg sigma, inductionHypothesis]
      · rfl
      · intro other member
        exact plain other (List.mem_cons_of_mem _ member)
  exact after [] text plain

/-- A text without the marker's letter has no marker. -/
theorem dropMarker_of_unmarked (text : Text) (unmarked : .char 'x' ∉ text) :
    dropMarker text = text := by
  unfold dropMarker
  split
  · simp at unmarked
  · rfl

end Lines

section Spellings

/-- The spellings of the marker; it may be left out. -/
def markers : List (List Char) := [[], ['0', 'x'], ['0', 'X']]

/-- A spelling of a word: at most eight digits that denote it, behind a marker. -/
inductive Spelling : Int → Text → Prop where
  | marked (marker digits : List Char) (value : Nat) (known : marker ∈ markers)
      (short : digits.length ≤ width) (denoted : Numeral.reading 16 digits = some value) :
      Spelling value ((marker ++ digits).map .char)

/-- A line with white space around a spelling. A spelling of no characters would leave the
line blank. -/
inductive SpelledLine : Int → Text → Prop where
  | surrounded (front core back : Text) (word : Int) (frontBlank : ∀ point ∈ front, isBlank point)
      (backBlank : ∀ point ∈ back, isBlank point) (spelling : Spelling word core)
      (present : core ≠ []) : SpelledLine word (front ++ core ++ back)

/-- Digits that denote a number are digits of either case. -/
theorem mem_digitCharacters_of_reading {digits : List Char} {value : Nat}
    (denoted : Numeral.reading 16 digits = some value) (character : Char)
    (member : character ∈ digits) : character ∈ digitCharacters := by
  have isDigit := Numeral.isSome_of_reading 16 value digits denoted character member
  obtain ⟨digit, found⟩ := Option.isSome_iff_exists.mp isDigit
  exact mem_digitCharacters character digit found

/-- Spellings are made of digits and the marker's letters. -/
theorem Spelling.characters {word : Int} {core : Text} (spelling : Spelling word core)
    (point : CodePoint) (member : point ∈ core) :
    ∃ character ∈ spellingCharacters, point = .char character := by
  obtain ⟨marker, digits, value, known, -, denoted⟩ := spelling
  obtain ⟨character, inside, rfl⟩ := List.mem_map.mp member
  refine ⟨character, ?_, rfl⟩
  rcases List.mem_append.mp inside with inMarker | inDigits
  · have listed : ∀ marker ∈ markers, marker ⊆ spellingCharacters := by decide
    exact listed marker known inMarker
  · have digit := mem_digitCharacters_of_reading denoted character inDigits
    exact List.mem_cons_of_mem _ (List.mem_cons_of_mem _ digit)

/-- Stripping a spelled line leaves the spelling. -/
theorem Spelling.strip_surrounded {word : Int} {front core back : Text}
    (frontBlank : ∀ point ∈ front, isBlank point) (backBlank : ∀ point ∈ back, isBlank point)
    (spelling : Spelling word core) : strip (front ++ core ++ back) = core := by
  apply stripWhere_surrounded isBlank front core back frontBlank backBlank
  intro point member
  obtain ⟨character, listed, rfl⟩ := spelling.characters point member
  exact not_isBlank_of_mem character listed

/-- Behind the marker a spelling has its digits in lower case. -/
theorem dropMarker_spelling (marker digits : List Char) (value : Nat) (known : marker ∈ markers)
    (denoted : Numeral.reading 16 digits = some value) :
    dropMarker (((marker ++ digits).map CodePoint.char).map lowerPoint) =
      (digits.map CodePoint.char).map lowerPoint := by
  have unmarked : .char 'x' ∉ (digits.map CodePoint.char).map lowerPoint := by
    intro member
    obtain ⟨point, inside, lowered⟩ := List.mem_map.mp member
    obtain ⟨character, inDigits, rfl⟩ := List.mem_map.mp inside
    have digit := mem_digitCharacters_of_reading denoted character inDigits
    exact lowerPoint_ne_marker character digit lowered
  have zero : lowerPoint (.char '0') = .char '0' := by decide +kernel
  have small : lowerPoint (.char 'x') = .char 'x' := by decide +kernel
  have capital : lowerPoint (.char 'X') = .char 'x' := by decide +kernel
  simp only [markers, List.mem_cons, List.not_mem_nil, or_false] at known
  rcases known with rfl | rfl | rfl
  · exact dropMarker_of_unmarked _ unmarked
  · simp only [List.cons_append, List.nil_append, List.map_cons, zero, small, dropMarker]
  · simp only [List.cons_append, List.nil_append, List.map_cons, zero, capital, dropMarker]

/-- The characters of a spelling are read in lower case like the characters. -/
theorem mapM_lowerDigit? (characters : List Char)
    (spelled : ∀ character ∈ characters, character ∈ spellingCharacters) :
    ((characters.map CodePoint.char).map lowerPoint).mapM lowerDigit? =
      characters.mapM hexDigit? := by
  induction characters with
  | nil => rfl
  | cons character rest inductionHypothesis =>
    rw [List.forall_mem_cons] at spelled
    simp only [List.map_cons, List.mapM_cons, lowerDigit?_lowerPoint character spelled.1,
      inductionHypothesis spelled.2]

/-- Spellings are lowered point by point. -/
theorem lowerCase_of_spelled (text : Text)
    (spelled : ∀ point ∈ text, ∃ character ∈ spellingCharacters, point = .char character) :
    lowerCase text = text.map lowerPoint := by
  apply lowerCase_of_plain
  intro point member
  obtain ⟨character, listed, rfl⟩ := spelled point member
  exact plain_of_mem character listed

/-- White space around a spelling is read as the word. -/
theorem Spelling.parse_surrounded {word : Int} {front core back : Text}
    (frontBlank : ∀ point ∈ front, isBlank point) (backBlank : ∀ point ∈ back, isBlank point)
    (spelling : Spelling word core) : parse (front ++ core ++ back) = .ok word := by
  have stripped := spelling.strip_surrounded frontBlank backBlank
  have lowered := lowerCase_of_spelled core spelling.characters
  obtain ⟨marker, digits, value, known, short, denoted⟩ := spelling
  have shown : body (front ++ (marker ++ digits).map .char ++ back) =
      (digits.map CodePoint.char).map lowerPoint := by
    rw [body, stripped, lowered, dropMarker_spelling marker digits value known denoted]
  have readDigits := mapM_lowerDigit? digits fun character member =>
    .tail _ (.tail _ (mem_digitCharacters_of_reading denoted character member))
  obtain ⟨values, read, total⟩ := Option.map_eq_some_iff.mp denoted
  simp only [parse, shown, readDigits, read, List.length_map, Nat.not_lt.mpr short, if_false,
    total]

/-- A spelled line is read as its word. -/
theorem SpelledLine.parse_eq {word : Int} {line : Text} (spelled : SpelledLine word line) :
    parse line = .ok word := by
  obtain ⟨front, core, back, word, frontBlank, backBlank, spelling, -⟩ := spelled
  exact spelling.parse_surrounded frontBlank backBlank

/-- A spelled line is not blank. -/
theorem SpelledLine.strip_ne_nil {word : Int} {line : Text} (spelled : SpelledLine word line) :
    strip line ≠ [] := by
  obtain ⟨front, core, back, word, frontBlank, backBlank, spelling, present⟩ := spelled
  rw [spelling.strip_surrounded frontBlank backBlank]
  exact present

end Spellings

section Bounds

/-- As many hexadecimal digits as a word has denote a number below `2 ^ 32`. -/
theorem ofDigits_lt (digits : List Nat) (short : digits.length ≤ width)
    (bound : ∀ digit ∈ digits, digit < 16) : ofDigits 16 digits < 0x100000000 := by
  -- One more digit multiplies the room above the value so far by sixteen.
  have from_value (value : Nat) (digits : List Nat) (bound : ∀ digit ∈ digits, digit < 16) :
      digits.foldl (fun value digit => value * 16 + digit) value <
        (value + 1) * 16 ^ digits.length := by
    induction digits generalizing value with
    | nil => simp
    | cons digit rest inductionHypothesis =>
      have first := bound digit List.mem_cons_self
      have later := inductionHypothesis (value * 16 + digit)
        fun other member => bound other (List.mem_cons_of_mem _ member)
      have room : value * 16 + digit + 1 ≤ (value + 1) * 16 := by omega
      calc
        _ < (value * 16 + digit + 1) * 16 ^ rest.length := later
        _ ≤ (value + 1) * 16 * 16 ^ rest.length := Nat.mul_le_mul_right _ room
        _ = (value + 1) * 16 ^ (rest.length + 1) := by
          rw [Nat.pow_succ, Nat.mul_assoc, Nat.mul_comm 16]
  have small := from_value 0 digits bound
  have power : 16 ^ digits.length ≤ 16 ^ width := Nat.pow_le_pow_right (by decide) short
  rw [ofDigits]
  simp only [width] at power
  omega

/-- A lower-case digit has a value below sixteen. -/
theorem lowerDigit?_lt (point : CodePoint) (digit : Nat) (found : lowerDigit? point = some digit) :
    digit < 16 := by
  cases point with
  | half index => cases found
  | char character =>
    simp only [lowerDigit?, CodePoint.char?, Option.bind_eq_bind, Option.bind_some] at found
    split at found
    · cases found
    · rw [hexDigit?, digitIn?, Option.filter_eq_some_iff] at found
      simpa using found.2

/-- What is read is a word of 32 bits. -/
theorem parse_bounds {line : Text} {word : Int} (result : parse line = .ok word) :
    0 ≤ word ∧ word < 0x100000000 := by
  simp only [parse] at result
  split at result
  case isTrue => cases result
  case isFalse short =>
    split at result
    case h_2 => cases result
    case h_1 digits read =>
      cases result
      have paired := (mapM_eq_some_iff _ _ _).mp read
      have bound : ∀ digit ∈ digits, digit < 16 := by
        intro digit member
        obtain ⟨index, bound, rfl⟩ := List.getElem_of_mem member
        exact lowerDigit?_lt _ _ (paired.get (paired.length_eq ▸ bound) bound)
      have count : digits.length ≤ width := by
        rw [← paired.length_eq]
        exact Nat.not_lt.mp short
      have small := ofDigits_lt digits count bound
      omega

end Bounds

end Microcode.HexWord
