import Microcode.Proofs.HexSpellings
import Microcode.Text.HexBytes

/-!
# How bytes are spelled

A byte is spelled with two digits of either case, and white space of ASCII may stand
before, between and behind bytes. Reading a spelling gives the bytes: it has no character
beyond ASCII, and a digit is never white space, so the two digits of a byte are found
together.
-/

namespace Microcode.Text.HexBytes

open HexWord

/-- The spellings of bytes. -/
inductive Spelling : List UInt8 → List Char → Prop where
  | nothing : Spelling [] []
  | blank {data : List UInt8} {rest : List Char} (character : Char)
      (isBlank : isAsciiBlank character = true) (behind : Spelling data rest) :
      Spelling data (character :: rest)
  | byte {data : List UInt8} {rest : List Char} (first : UInt8) (high low : Char)
      (denoted : Numeral.reading 16 [high, low] = some first.toNat)
      (behind : Spelling data rest) : Spelling (first :: data) (high :: low :: rest)

section Reading

/-- White space is ASCII. -/
theorem ascii_of_isAsciiBlank {character : Char} (isBlank : isAsciiBlank character = true) :
    character.toNat < 128 := by
  simp only [isAsciiBlank, Bool.or_eq_true, beq_iff_eq, Bool.and_eq_true, decide_eq_true_eq,
    Char.le_def, UInt32.le_iff_toNat_le] at isBlank
  rcases isBlank with rfl | bounds
  · decide
  · exact Nat.lt_of_le_of_lt bounds.2 (by decide)

/-- Digits are ASCII and no white space. -/
theorem plain_of_mem_digitCharacters : ∀ character ∈ digitCharacters,
    character.toNat < 128 ∧ isAsciiBlank character = false :=
  List.all_iff_forall_prop.mp (by decide)

/-- The characters of a spelling are ASCII. -/
theorem Spelling.ascii {data : List UInt8} {characters : List Char}
    (spelling : Spelling data characters) : ∀ character ∈ characters, character.toNat < 128 := by
  induction spelling with
  | nothing => simp
  | blank character isBlank behind inductionHypothesis =>
    exact List.forall_mem_cons.mpr ⟨ascii_of_isAsciiBlank isBlank, inductionHypothesis⟩
  | byte first high low denoted behind inductionHypothesis =>
    have digit := mem_digitCharacters_of_reading denoted
    have highAscii := (plain_of_mem_digitCharacters high (digit high (by simp))).1
    have lowAscii := (plain_of_mem_digitCharacters low (digit low (by simp))).1
    exact List.forall_mem_cons.mpr
      ⟨highAscii, List.forall_mem_cons.mpr ⟨lowAscii, inductionHypothesis⟩⟩

/-- Two digits that denote a byte have values that add up to it. -/
theorem digits_of_byte {first : UInt8} {high low : Char}
    (denoted : Numeral.reading 16 [high, low] = some first.toNat) :
    ∃ upper lower, hexDigit? high = some upper ∧ hexDigit? low = some lower ∧
      UInt8.ofNat (16 * upper + lower) = first := by
  obtain ⟨values, read, total⟩ := Option.map_eq_some_iff.mp denoted
  simp only [List.mapM_cons, List.mapM_nil, Option.bind_eq_bind, Option.bind_eq_some_iff,
    Option.pure_def, Option.some.injEq] at read
  obtain ⟨upper, highDigit, _, ⟨lower, lowDigit, _, rfl, rfl⟩, rfl⟩ := read
  refine ⟨upper, lower, highDigit, lowDigit, ?_⟩
  have sum : 16 * upper + lower = first.toNat := by
    rw [← total]
    simp only [ofDigits, List.foldl_cons, List.foldl_nil]
    omega
  rw [sum, UInt8.ofNat_toNat]

/-- A spelling is read as its bytes, wherever it begins. -/
theorem Spelling.parseFrom_eq {data : List UInt8} {characters : List Char}
    (spelling : Spelling data characters) (position : Nat) :
    parseFrom position characters = .ok data := by
  induction spelling generalizing position with
  | nothing => rfl
  | blank character isBlank behind inductionHypothesis =>
    rw [parseFrom.eq_def]
    simp only [isBlank, if_true, inductionHypothesis]
  | byte first high low denoted behind inductionHypothesis =>
    obtain ⟨upper, lower, highDigit, lowDigit, value⟩ := digits_of_byte denoted
    have inDigits := mem_digitCharacters_of_reading denoted high (by simp)
    have filled := (plain_of_mem_digitCharacters high inDigits).2
    rw [parseFrom.eq_def]
    simp only [filled, Bool.false_eq_true, if_false, highDigit, lowDigit, inductionHypothesis,
      Except.map, value]

/-- A spelling is read as its bytes. -/
theorem Spelling.parse_eq {data : List UInt8} {characters : List Char}
    (spelling : Spelling data characters) : parse (characters.map .char) = .ok data := by
  have clear : (characters.map CodePoint.char).findIdx? (fun point => 128 ≤ point.code) = none := by
    rw [List.findIdx?_eq_none_iff]
    intro point member
    obtain ⟨character, inside, rfl⟩ := List.mem_map.mp member
    exact decide_eq_false (Nat.not_le.mpr (spelling.ascii character inside))
  have kept : CodePoint.char? ∘ CodePoint.char = some := rfl
  rw [parse, clear]
  simp only [List.filterMap_map, kept, List.filterMap_some, spelling.parseFrom_eq]

end Reading

/-- The usual spelling of bytes: two lower-case digits each, and no white space. -/
def usual (data : List UInt8) : List Char :=
  data.flatMap fun byte => [byte.toNat / 16, byte.toNat % 16].map Nat.digitChar

/-- The usual spelling is one. -/
theorem spelling_usual (data : List UInt8) : Spelling data (usual data) := by
  have digit : ∀ value < 16, hexDigit? (Nat.digitChar value) = some value := by decide
  induction data with
  | nil => exact .nothing
  | cons first rest inductionHypothesis =>
    have bound := first.toNat_lt
    have total : first.toNat / 16 * 16 + first.toNat % 16 = first.toNat := by omega
    refine .byte first _ _ ?_ inductionHypothesis
    simp only [Numeral.reading, List.mapM_cons, List.mapM_nil,
      digit (first.toNat / 16) (by omega), digit (first.toNat % 16) (by omega)]
    simp [ofDigits, total]

end Microcode.Text.HexBytes
