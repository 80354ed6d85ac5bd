import Microcode.Text.HexDigit
import Microcode.Text.Numeral

/-!
# Numerals read back

The digits of a natural number denote that number, in either case and behind any
number of zeros. A sign is no digit, so a numeral determines its integer. All the
characters of a numeral are digits, a sign or the letter of a marker, which keeps
numerals apart from the marks that an operand list is cut at.
-/

namespace Microcode.Text.Numeral

/-- The number that characters denote as digits of a base. -/
def reading (base : Nat) (characters : List Char) : Option Nat :=
  (characters.mapM hexDigit?).map (ofDigits base)

/-- A digit behind others counts in ones, and the others in units of the base. -/
theorem reading_append_digit (base : Nat) (characters : List Char) (last : Char)
    (value digit : Nat) (front : reading base characters = some value)
    (behind : hexDigit? last = some digit) :
    reading base (characters ++ [last]) = some (value * base + digit) := by
  obtain ⟨values, read, rfl⟩ := Option.map_eq_some_iff.mp front
  simp [reading, List.mapM_append, read, behind, ofDigits]

/-- Zeros in front of digits do not count. -/
theorem reading_zeros (base count : Nat) (characters : List Char) :
    reading base (List.replicate count '0' ++ characters) = reading base characters := by
  induction count with
  | zero => rfl
  | succ count inductionHypothesis =>
    have zero : hexDigit? '0' = some 0 := by decide
    have front (rest : List Char) : reading base ('0' :: rest) = reading base rest := by
      cases read : rest.mapM hexDigit? <;> simp [reading, zero, read, ofDigits]
    rw [List.replicate_succ, List.cons_append, front, inductionHypothesis]

/-- Digits denote the number they were written for, also when each is redrawn in a
way that keeps its value. The recursion drops the last digit of the number. -/
theorem reading_map_digits (base : Nat) (redraw : Char → Char) (lower : 1 < base)
    (upper : base ≤ 16)
    (kept : ∀ digit < 16, hexDigit? (redraw (Nat.digitChar digit)) = some digit) (value : Nat) :
    reading base ((digits base value).map redraw) = some value := by
  induction value using Nat.strongRecOn with
  | ind value inductionHypothesis =>
    by_cases single : value < base
    · rw [digits, Nat.toDigits_of_lt_base single]
      simp [reading, kept value (by omega), ofDigits]
    · have smaller : value / base < value := Nat.div_lt_self (by omega) lower
      have last : value % base < 16 := Nat.lt_of_lt_of_le (Nat.mod_lt _ (by omega)) upper
      have front := inductionHypothesis (value / base) smaller
      rw [digits, Nat.toDigits_of_base_le lower (by omega), List.map_append]
      have whole := reading_append_digit base _ _ _ _ front (kept (value % base) last)
      rw [Nat.mul_comm, Nat.div_add_mod] at whole
      exact whole

/-- Lower-case digits denote their number. -/
theorem reading_digits (base value : Nat) (lower : 1 < base) (upper : base ≤ 16) :
    reading base (digits base value) = some value := by
  have kept : ∀ digit < 16, hexDigit? (Nat.digitChar digit) = some digit := by decide
  simpa using reading_map_digits base id lower upper kept value

/-- Upper-case hexadecimal digits denote their number. -/
theorem reading_upperDigits (value : Nat) : reading 16 (upperDigits value) = some value := by
  have kept : ∀ digit < 16, hexDigit? (Nat.digitChar digit).toUpper = some digit := by decide
  exact reading_map_digits 16 Char.toUpper (by decide) (by decide) kept value

/-- Characters that denote a number are digits. -/
theorem isSome_of_reading (base value : Nat) (characters : List Char)
    (denoted : reading base characters = some value) (character : Char)
    (member : character ∈ characters) : (hexDigit? character).isSome := by
  obtain ⟨values, read, -⟩ := Option.map_eq_some_iff.mp denoted
  clear denoted
  induction characters generalizing values with
  | nil => simp at member
  | cons first rest inductionHypothesis =>
    simp only [List.mapM_cons, Option.bind_eq_bind, Option.bind_eq_some_iff] at read
    obtain ⟨digit, here, others, later, -⟩ := read
    rcases List.mem_cons.mp member with rfl | member
    · simp [here]
    · exact inductionHypothesis member others later

/-- A signed numeral whose digits denote the absolute value determines its integer. A
sign in front of one of two equal numerals would have to be a digit of the other. -/
theorem signed_injective (base : Nat) (mark : List Char) (body : Int → List Char)
    (dashless : '-' ∉ mark) (read : ∀ value, reading base (body value) = some value.natAbs)
    (left right : Int)
    (same : sign left ++ mark ++ body left = sign right ++ mark ++ body right) :
    left = right := by
  have dash (value : Int) : '-' ∉ mark ++ body value := by
    intro member
    rcases List.mem_append.mp member with marked | digit
    · exact dashless marked
    · have some := isSome_of_reading base _ _ (read value) '-' digit
      exact absurd some (by decide)
  have magnitude (equal : mark ++ body left = mark ++ body right) :
      left.natAbs = right.natAbs := by
    have bodies := congrArg (reading base) (List.append_cancel_left equal)
    rw [read, read] at bodies
    exact Option.some.inj bodies
  rw [List.append_assoc, List.append_assoc] at same
  by_cases negative : left < 0 <;> by_cases otherNegative : right < 0 <;>
    simp only [sign, negative, otherNegative, if_true, if_false, List.nil_append,
      List.cons_append] at same
  · have equal := magnitude (List.cons.inj same).2
    omega
  · exact absurd (same ▸ List.mem_cons_self) (dash right)
  · exact absurd (same ▸ List.mem_cons_self) (dash left)
  · have equal := magnitude same
    omega

/-- A decimal numeral is its sign and its digits. -/
theorem toList_decimal (value : Int) :
    (decimal value).toList = sign value ++ digits 10 value.natAbs := String.toList_ofList

/-- A hexadecimal numeral is its sign and its digits. -/
theorem toList_lowerHex (value : Int) :
    (lowerHex value).toList = sign value ++ digits 16 value.natAbs := String.toList_ofList

/-- A marked numeral is its sign, its marker and its digits. -/
theorem toList_signedHex (value : Int) :
    (signedHex value).toList = sign value ++ ['0', 'x'] ++ digits 16 value.natAbs :=
  String.toList_ofList

/-- Decimal numerals determine their integers. -/
theorem decimal_injective (left right : Int) (same : decimal left = decimal right) :
    left = right := by
  apply signed_injective 10 [] (fun value => digits 10 value.natAbs) (by simp)
  · exact fun value => reading_digits 10 _ (by decide) (by decide)
  · simpa [toList_decimal] using congrArg String.toList same

/-- Hexadecimal numerals determine their integers. -/
theorem lowerHex_injective (left right : Int) (same : lowerHex left = lowerHex right) :
    left = right := by
  apply signed_injective 16 [] (fun value => digits 16 value.natAbs) (by simp)
  · exact fun value => reading_digits 16 _ (by decide) (by decide)
  · simpa [toList_lowerHex] using congrArg String.toList same

/-- Marked hexadecimal numerals determine their integers. -/
theorem signedHex_injective (left right : Int) (same : signedHex left = signedHex right) :
    left = right := by
  apply signed_injective 16 ['0', 'x'] (fun value => digits 16 value.natAbs) (by decide)
  · exact fun value => reading_digits 16 _ (by decide) (by decide)
  · simpa [toList_signedHex] using congrArg String.toList same

/-- The digits of a column, without the sign. -/
def columnBody (value : Int) : List Char :=
  List.replicate (8 - (sign value).length - (upperDigits value.natAbs).length) '0'
    ++ upperDigits value.natAbs

/-- A column is its sign and its digits. -/
theorem toList_word (value : Int) : (word value).toList = sign value ++ columnBody value := by
  simp [word, paddedUpperHex, padded, columnBody]

/-- The digits of a column denote the absolute value, whatever the padding. -/
theorem reading_columnBody (value : Int) :
    reading 16 (columnBody value) = some value.natAbs := by
  rw [columnBody, reading_zeros, reading_upperDigits]

/-- Columns determine their integers. -/
theorem word_injective (left right : Int) (same : word left = word right) : left = right := by
  apply signed_injective 16 [] columnBody (by simp) reading_columnBody
  simpa [toList_word] using congrArg String.toList same

/-- A column of a natural number has digits only. -/
theorem toList_word_of_nonneg (value : Int) (natural : 0 ≤ value) :
    (word value).toList = columnBody value := by
  rw [toList_word, sign, if_neg (by omega), List.nil_append]

/-- A number below `2 ^ 32` fills its column exactly. -/
theorem length_word (value : Int) (natural : 0 ≤ value) (small : value < 0x100000000) :
    (word value).toList.length = 8 := by
  have fits : (upperDigits value.natAbs).length ≤ 8 := by
    rw [upperDigits, List.length_map, digits]
    exact (Nat.length_toDigits_le_iff (by decide) (by decide)).mpr (by omega)
  rw [toList_word_of_nonneg value natural, columnBody, sign, if_neg (by omega)]
  simp only [List.length_append, List.length_replicate, List.length_nil]
  omega

/-- The characters that numerals are made of: digits, the sign and the marker's letter. -/
def IsCharacter (character : Char) : Prop :=
  (hexDigit? character).isSome ∨ character = '-' ∨ character = 'x'

instance (character : Char) : Decidable (IsCharacter character) :=
  inferInstanceAs (Decidable (_ ∨ _))

/-- A signed numeral is made of numeral characters if its marker is. -/
theorem isCharacter_of_mem_signed (base : Nat) (mark : List Char) (body : Int → List Char)
    (marks : ∀ character ∈ mark, IsCharacter character)
    (read : ∀ value, reading base (body value) = some value.natAbs) (value : Int)
    (character : Char) (member : character ∈ sign value ++ mark ++ body value) :
    IsCharacter character := by
  rcases List.mem_append.mp member with front | digit
  · rcases List.mem_append.mp front with signed | marked
    · by_cases negative : value < 0 <;> simp_all [sign, IsCharacter]
    · exact marks character marked
  · exact .inl (isSome_of_reading base _ _ (read value) character digit)

/-- Decimal numerals are made of numeral characters. -/
theorem isCharacter_of_mem_decimal (value : Int) (character : Char)
    (member : character ∈ (decimal value).toList) : IsCharacter character := by
  apply isCharacter_of_mem_signed 10 [] (fun value => digits 10 value.natAbs) (by simp)
  · exact fun value => reading_digits 10 _ (by decide) (by decide)
  · simpa [toList_decimal] using member

/-- Hexadecimal numerals are made of numeral characters. -/
theorem isCharacter_of_mem_lowerHex (value : Int) (character : Char)
    (member : character ∈ (lowerHex value).toList) : IsCharacter character := by
  apply isCharacter_of_mem_signed 16 [] (fun value => digits 16 value.natAbs) (by simp)
  · exact fun value => reading_digits 16 _ (by decide) (by decide)
  · simpa [toList_lowerHex] using member

/-- Marked numerals are made of numeral characters. -/
theorem isCharacter_of_mem_signedHex (value : Int) (character : Char)
    (member : character ∈ (signedHex value).toList) : IsCharacter character := by
  apply isCharacter_of_mem_signed 16 ['0', 'x'] (fun value => digits 16 value.natAbs)
  · intro mark marked
    simp only [List.mem_cons, List.not_mem_nil, or_false] at marked
    rcases marked with rfl | rfl <;> decide
  · exact fun value => reading_digits 16 _ (by decide) (by decide)
  · exact toList_signedHex value ▸ member

/-- Columns are made of numeral characters. -/
theorem isCharacter_of_mem_word (value : Int) (character : Char)
    (member : character ∈ (word value).toList) : IsCharacter character := by
  apply isCharacter_of_mem_signed 16 [] columnBody (by simp) reading_columnBody
  simpa [toList_word] using member

end Microcode.Text.Numeral
