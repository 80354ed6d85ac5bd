import Microcode.Proofs.HexSpellings

/-!
# What is read as a word

A text is read as a word exactly if it is white space around a spelling. The converse of
reading a spelling needs that lower-casing brings no other characters into the digits: a
character beyond ASCII stays beyond ASCII, apart from the sign of the Kelvin, which becomes
the letter `k`. So where every lower-case character is a digit or the marker's letter, every
character of the text belongs to a spelling, and lower-casing has changed neither their
number nor their values.
-/

namespace Microcode.HexWord

open Text

section Points

/-- A code point that can stand in a spelling in lower case. -/
def Lowered (point : CodePoint) : Prop := (lowerDigit? point).isSome ∨ point = .char 'x'

instance (point : CodePoint) : Decidable (Lowered point) := inferInstanceAs (Decidable (_ ∨ _))

/-- What can stand in a spelling in lower case is a character of spellings. -/
theorem Lowered.spelled {point : CodePoint} (lowered : Lowered point) :
    ∃ character ∈ spellingCharacters, point = .char character := by
  rcases lowered with digit | rfl
  · cases point with
    | half index => cases digit
    | char character =>
      refine ⟨character, ?_, rfl⟩
      obtain ⟨value, found⟩ := Option.isSome_iff_exists.mp digit
      simp only [lowerDigit?, CodePoint.char?, Option.bind_eq_bind, Option.bind_some] at found
      split at found
      case isTrue => cases found
      case isFalse => exact .tail _ (.tail _ (mem_digitCharacters character value found))
  · exact ⟨'x', .head _, rfl⟩

/-- Characters of spellings are ASCII. -/
theorem ascii_of_mem : ∀ character ∈ spellingCharacters, (CodePoint.char character).code < 128 :=
  List.all_iff_forall_prop.mp (by decide +kernel)

/-- A number below the end of Unicode is the number of its code point. -/
theorem code_ofCode {code : Nat} (bound : code < 0x110000) :
    (CodePoint.ofCode code).code = code := by
  rw [CodePoint.ofCode]
  split
  case isTrue surrogate =>
    simp only [CodePoint.code]
    omega
  case isFalse other =>
    have valid : code.isValidChar := by
      simp only [Nat.isValidChar]
      omega
    rw [CodePoint.code, Char.ofNat, dif_pos valid]
    rfl

/-- Beyond ASCII, lower-case forms are beyond ASCII or the letter `k`. -/
theorem code_lowerPoint {point : CodePoint} (beyond : 128 ≤ point.code) :
    128 ≤ (lowerPoint point).code ∨ lowerPoint point = .char 'k' := by
  have table : ∀ range ∈ caseRanges,
      range.target + (range.last - range.first) < 0x110000 ∧
        (range.last < 128 ∨ 128 ≤ range.target ∨
          (range.first = range.last ∧ range.target = 0x6B)) :=
    List.all_iff_forall_prop.mp (by decide +kernel)
  rw [lowerPoint]
  split
  case h_1 code found =>
    obtain ⟨range, member, lowered⟩ := List.exists_of_findSome?_eq_some found
    obtain ⟨bound, target⟩ := table range member
    rw [CaseRange.lower?] at lowered
    split at lowered
    case isTrue inside =>
      cases lowered
      rcases target with early | late | ⟨single, kelvin⟩
      · omega
      · left
        rw [code_ofCode (by omega)]
        omega
      · right
        have same : point.code - range.first = 0 := by omega
        rw [same, kelvin]
        rfl
    case isFalse => cases lowered
  case h_2 => exact .inl beyond

/-- Only characters of spellings can stand in a spelling when they are lowered. -/
theorem spelled_of_lowerPoint {point : CodePoint} (lowered : Lowered (lowerPoint point)) :
    ∃ character ∈ spellingCharacters, point = .char character := by
  by_cases beyond : 128 ≤ point.code
  · rcases code_lowerPoint beyond with stays | kelvin
    · obtain ⟨character, listed, same⟩ := lowered.spelled
      have ascii := ascii_of_mem character listed
      rw [← same] at ascii
      omega
    · rw [kelvin] at lowered
      exact absurd lowered (by decide)
  · have listed : ∀ code < 128, Lowered (lowerPoint (.char (Char.ofNat code))) →
        Char.ofNat code ∈ spellingCharacters := by decide +kernel
    cases point with
    | half index =>
      simp only [CodePoint.code] at beyond
      omega
    | char character =>
      have here := listed character.toNat (by simpa [CodePoint.code] using beyond)
      rw [Char.ofNat_toNat] at here
      exact ⟨character, here lowered, rfl⟩

end Points

section Texts

/-- If all of a lower-case text can stand in a spelling, the text is made of characters of
spellings. -/
theorem spelled_of_lowerAfter (before text : Text)
    (lowered : ∀ point ∈ lowerAfter before text, Lowered point) :
    ∀ point ∈ text, ∃ character ∈ spellingCharacters, point = .char character := by
  induction text generalizing before with
  | nil => simp
  | cons point rest inductionHypothesis =>
    rw [lowerAfter, List.forall_mem_append] at lowered
    obtain ⟨here, later⟩ := lowered
    rw [List.forall_mem_cons]
    refine ⟨?_, inductionHypothesis _ later⟩
    -- The two characters whose lower case is not a point by itself give no digits.
    rw [lowerBetween] at here
    by_cases dotted : point = .char 'İ'
    · rw [if_pos dotted] at here
      exact absurd (here (.char 'i') (.head _)) (by decide)
    · rw [if_neg dotted] at here
      by_cases sigma : point = .char 'Σ'
      · rw [if_pos sigma] at here
        cases final : endsWord before rest with
        | false =>
          simp only [final, Bool.false_eq_true, if_false] at here
          exact absurd (here (.char 'σ') (.head _)) (by decide)
        | true =>
          simp only [final, if_true] at here
          exact absurd (here (.char 'ς') (.head _)) (by decide)
      · rw [if_neg sigma] at here
        exact spelled_of_lowerPoint (here _ (.head _))

/-- A text of characters of spellings is a list of such characters. -/
theorem exists_characters {text : Text}
    (spelled : ∀ point ∈ text, ∃ character ∈ spellingCharacters, point = .char character) :
    ∃ characters : List Char, text = characters.map CodePoint.char ∧
      ∀ character ∈ characters, character ∈ spellingCharacters := by
  induction text with
  | nil => exact ⟨[], rfl, by simp⟩
  | cons point rest inductionHypothesis =>
    rw [List.forall_mem_cons] at spelled
    obtain ⟨⟨first, listed, rfl⟩, later⟩ := spelled
    obtain ⟨others, rfl, allListed⟩ := inductionHypothesis later
    exact ⟨first :: others, rfl, List.forall_mem_cons.mpr ⟨listed, allListed⟩⟩

/-- A text has the marker, or nothing is dropped from it. -/
theorem dropMarker_cases (text : Text) :
    text = .char '0' :: .char 'x' :: dropMarker text ∨ dropMarker text = text := by
  unfold dropMarker
  split
  · exact .inl rfl
  · exact .inr rfl

/-- A text is what stripping leaves of it with white space around it. -/
theorem strip_decomposes (text : Text) :
    ∃ front back, text = front ++ strip text ++ back ∧
      (∀ point ∈ front, isBlank point) ∧ ∀ point ∈ back, isBlank point := by
  let behind := (text.dropWhile isBlank).reverse
  refine ⟨text.takeWhile isBlank, (behind.takeWhile isBlank).reverse, ?_, ?_, ?_⟩
  · have cut : behind.takeWhile isBlank ++ behind.dropWhile isBlank = behind :=
      List.takeWhile_append_dropWhile
    have whole : text.takeWhile isBlank ++ text.dropWhile isBlank = text :=
      List.takeWhile_append_dropWhile
    calc text
      _ = text.takeWhile isBlank ++ behind.reverse := by rw [List.reverse_reverse, whole]
      _ = text.takeWhile isBlank ++
          (behind.takeWhile isBlank ++ behind.dropWhile isBlank).reverse := by rw [cut]
      _ = text.takeWhile isBlank ++ strip text ++ (behind.takeWhile isBlank).reverse := by
        rw [List.reverse_append, ← List.append_assoc]
        rfl
  · intro point member
    exact List.mem_takeWhile_imp member
  · intro point member
    exact List.mem_takeWhile_imp (List.mem_reverse.mp member)

end Texts

section Language

/-- A text that spells a word: a spelling of it, perhaps of no digits, with white space
around it. -/
def Written (word : Int) (text : Text) : Prop :=
  ∃ front core back, text = front ++ core ++ back ∧ (∀ point ∈ front, isBlank point) ∧
    (∀ point ∈ back, isBlank point) ∧ Spelling word core

/-- What is read as a word in lower case behind the marker is made of digits, so that the
whole text in lower case can stand in a spelling. -/
theorem lowered_of_body {text : Text} {digits : List Nat}
    (read : (body text).mapM lowerDigit? = some digits) :
    ∀ point ∈ lowerCase (strip text), Lowered point := by
  have inBody : ∀ point ∈ body text, Lowered point := by
    intro point member
    have paired := (mapM_eq_some_iff _ _ _).mp read
    obtain ⟨index, bound, rfl⟩ := List.getElem_of_mem member
    have digit := paired.get bound (paired.length_eq ▸ bound)
    exact .inl (Option.isSome_iff_exists.mpr ⟨_, digit⟩)
  intro point member
  rcases dropMarker_cases (lowerCase (strip text)) with marked | unmarked
  · rw [marked] at member
    rcases List.mem_cons.mp member with rfl | member
    · decide
    · rcases List.mem_cons.mp member with rfl | member
      · decide
      · exact inBody point member
  · rw [← unmarked] at member
    exact inBody point member

/-- Only zero is lowered to zero, and only the marker's letter to that letter. -/
theorem marker_of_lowerPoint : ∀ character ∈ spellingCharacters,
    (lowerPoint (.char character) = .char '0' → character = '0') ∧
      (lowerPoint (.char character) = .char 'x' → character = 'x' ∨ character = 'X') :=
  List.all_iff_forall_prop.mp (by decide +kernel)

/-- Characters of spellings that are lowered to a marker and a rest are a marker and
characters that are lowered to the rest. -/
theorem marker_of_lowered {characters : List Char} {rest : Text}
    (listed : ∀ character ∈ characters, character ∈ spellingCharacters)
    (lowered : (characters.map CodePoint.char).map lowerPoint = .char '0' :: .char 'x' :: rest) :
    ∃ marker ∈ markers, ∃ digits, characters = marker ++ digits ∧
      (digits.map CodePoint.char).map lowerPoint = rest := by
  match characters, listed, lowered with
  | [_], _, lowered => simp at lowered
  | zero :: letter :: digits, listed, lowered =>
    obtain ⟨first, second, behind⟩ : lowerPoint (.char zero) = .char '0' ∧
        lowerPoint (.char letter) = .char 'x' ∧
        (digits.map CodePoint.char).map lowerPoint = rest := by
      simpa using lowered
    obtain rfl := (marker_of_lowerPoint zero (listed zero (.head _))).1 first
    rcases (marker_of_lowerPoint letter (listed letter (.tail _ (.head _)))).2 second with
      rfl | rfl
    · exact ⟨['0', 'x'], by decide, digits, rfl, behind⟩
    · exact ⟨['0', 'X'], by decide, digits, rfl, behind⟩

/-- What is left of a text that is read as a word is a spelling of it. -/
theorem spelling_of_parse {text : Text} {word : Int} (result : parse text = .ok word) :
    Spelling word (strip text) := by
  simp only [parse] at result
  split at result
  case isTrue => cases result
  case isFalse short =>
    split at result
    case h_2 => cases result
    case h_1 values read =>
      cases result
      have spelled := spelled_of_lowerAfter [] _ (lowered_of_body read)
      obtain ⟨characters, stripped, listed⟩ := exists_characters spelled
      have lowered : lowerCase (strip text) = (characters.map CodePoint.char).map lowerPoint := by
        rw [lowerCase_of_spelled _ spelled, stripped]
      -- The text is a marker, perhaps of no characters, and what is lowered to the body.
      obtain ⟨marker, known, digits, rfl, behind⟩ : ∃ marker ∈ markers, ∃ digits,
          characters = marker ++ digits ∧
            (digits.map CodePoint.char).map lowerPoint = body text := by
        rcases dropMarker_cases (lowerCase (strip text)) with marked | unmarked
        · exact marker_of_lowered listed (lowered.symm.trans marked)
        · exact ⟨[], .head _, characters, rfl, (unmarked.trans lowered).symm⟩
      rw [List.forall_mem_append] at listed
      rw [← behind, mapM_lowerDigit? digits listed.2] at read
      rw [← behind, List.length_map, List.length_map] at short
      rw [stripped]
      exact .marked marker digits _ known (Nat.not_lt.mp short)
        (Option.map_eq_some_iff.mpr ⟨values, read, rfl⟩)

/-- A text is read as a word exactly if it spells the word. -/
theorem parse_eq_ok_iff (text : Text) (word : Int) : parse text = .ok word ↔ Written word text := by
  constructor
  · intro result
    obtain ⟨front, back, whole, frontBlank, backBlank⟩ := strip_decomposes text
    exact ⟨front, strip text, back, whole, frontBlank, backBlank, spelling_of_parse result⟩
  · rintro ⟨front, core, back, rfl, frontBlank, backBlank, spelling⟩
    exact spelling.parse_surrounded frontBlank backBlank

/-- Every word of 32 bits is spelled by its column. -/
theorem spelling_word {word : Int} (natural : 0 ≤ word) (small : word < 0x100000000) :
    Spelling word (ofString (Numeral.word word)) := by
  have short : (Numeral.columnBody word).length ≤ width := by
    rw [← Numeral.toList_word_of_nonneg word natural, Numeral.length_word word natural small]
    exact Nat.le_refl _
  have spelling := Spelling.marked [] _ _ (.head _) short (Numeral.reading_columnBody word)
  rw [ofString, Numeral.toList_word_of_nonneg word natural]
  rwa [Int.natAbs_of_nonneg natural] at spelling

/-- Texts that spell a word are read as that word, and all other texts are refused. The words
that are spelled are those of 32 bits. -/
theorem parse_exactly_spellings :
    (∀ text word, parse text = .ok word ↔ Written word text) ∧
    (∀ text, (∃ cause, parse text = .error cause) ↔ ∀ word, ¬ Written word text) ∧
    (∀ word, (∃ text, Written word text) ↔ 0 ≤ word ∧ word < 0x100000000) := by
  refine ⟨parse_eq_ok_iff, ?_, ?_⟩
  · intro text
    simp only [← parse_eq_ok_iff]
    cases parse text with
    | ok word => simp
    | error cause => simp
  · intro word
    constructor
    · rintro ⟨text, written⟩
      exact parse_bounds ((parse_eq_ok_iff text word).mpr written)
    · rintro ⟨natural, small⟩
      refine ⟨ofString (Numeral.word word), [], _, [], ?_, by simp, by simp,
        spelling_word natural small⟩
      rw [List.nil_append, List.append_nil]

end Language

end Microcode.HexWord
