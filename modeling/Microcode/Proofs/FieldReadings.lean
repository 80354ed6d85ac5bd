import Mathlib.Data.Int.Bitwise
import Microcode.Proofs.BitFields

/-!
# Readings of fields at any position

Positions, widths and words are arbitrary integers here. A reading is refused exactly where
it would need a shift by a negative count: an unsigned one at a negative position or width,
a signed one at a negative position or without a bit for the sign.

Everywhere else an unsigned reading is a floor quotient followed by a remainder, so that
neighbouring readings join. A signed reading is the only number in the range of its width
that differs from the quotient by a multiple of the width's weight. That range and the
multiple leave nothing else of the value, so that reading a result again gives it back and
bits above the width do not count.
-/

namespace Microcode.Bits

section Unsigned

/-- The bits in common are those of the library's operation. -/
theorem land_eq_land (left right : Int) : land left right = Int.land left right := by
  have without (left right : Nat) : left ^^^ (left &&& right) = Nat.ldiff left right := by
    apply Nat.eq_of_testBit_eq
    intro bit
    rw [Nat.testBit_xor, Nat.testBit_and, Nat.testBit_ldiff]
    cases left.testBit bit <;> cases right.testBit bit <;> rfl
  cases left <;> cases right <;> simp only [land, Int.land, without] <;> rfl

/-- An unsigned reading is refused exactly at a negative position or width. -/
theorem unsigned_eq_error_iff (bit size word : Int) :
    unsigned bit size word = .error .negativeShift ↔ bit < 0 ∨ size < 0 := by
  rw [unsigned_eq]
  split
  case isTrue negative => exact iff_of_true rfl negative
  case isFalse natural => exact iff_of_false nofun natural

/-- An unsigned reading is that of a field. -/
theorem unsigned_of_natural (bit size : Nat) (word : Int) :
    unsigned bit size word = .ok (field bit size word).toNat := by
  have natural : ¬ ((bit : Int) < 0 ∨ (size : Int) < 0) := by omega
  rw [unsigned_eq, if_neg natural, Int.toNat_natCast, Int.toNat_natCast]

end Unsigned

section Signed

/-- A number shows a value in `width` bits of two's complement: it lies in the range that
these bits have and differs from the value by a multiple of their weight. -/
structure TwosComplement (width : Nat) (value reading : Int) : Prop where
  lower : -(weight (width - 1) : Int) ≤ reading
  upper : reading < weight (width - 1)
  congruent : (weight width : Int) ∣ reading - value

/-- The signed reading of a field shows the quotient, and no other number does. -/
theorem toInt_field_eq_iff (bit : Nat) {width : Nat} (filled : 0 < width) (word reading : Int) :
    (field bit width word).toInt = reading ↔
      TwosComplement width (word / weight bit) reading := by
  obtain ⟨below, rfl⟩ : ∃ below, width = below + 1 := ⟨width - 1, by omega⟩
  have double : (weight (below + 1) : Int) = weight below * 2 := weight_add below 1
  have positive : 0 < weight (below + 1) := Int.ofNat_lt.mp (weight_positive (below + 1))
  have half : (weight (below + 1) : Int) / 2 = weight below := by omega
  have roundedHalf : ((weight (below + 1) : Int) + 1) / 2 = weight below := by omega
  rw [toInt_field, Int.bmod_eq_iff positive, half, roundedHalf]
  constructor
  · rintro ⟨lower, upper, congruent⟩
    exact ⟨lower, upper, congruent⟩
  · rintro ⟨lower, upper, congruent⟩
    exact ⟨lower, upper, congruent⟩

/-- A sign is refused exactly if there is no bit for it. -/
theorem signExtend_eq_error_iff (value width : Int) :
    signExtend value width = .error .negativeShift ↔ width < 1 := by
  rw [signExtend_eq]
  split
  case isTrue signless => exact iff_of_true rfl signless
  case isFalse filled => exact iff_of_false nofun filled

/-- With a bit for the sign, the lowest field of the value is read. -/
theorem signExtend_of_filled {width : Int} (filled : 1 ≤ width) (value : Int) :
    signExtend value width = .ok (field 0 width.toNat value).toInt := by
  rw [signExtend_eq, if_neg (Int.not_lt.mpr filled)]

/-- With a bit for the sign, the result is the number that shows the value. -/
theorem signExtend_eq_ok_iff {width : Int} (filled : 1 ≤ width) (value reading : Int) :
    signExtend value width = .ok reading ↔ TwosComplement width.toNat value reading := by
  rw [signExtend_of_filled filled, Except.ok.injEq, toInt_field_eq_iff 0 (by omega),
    weight_zero, Int.ediv_one]

/-- A result shows itself, so it is kept when its sign is extended again. -/
theorem signExtend_again {value width reading : Int}
    (extended : signExtend value width = .ok reading) :
    signExtend reading width = .ok reading := by
  have filled : 1 ≤ width := by
    rw [← Int.not_lt, ← signExtend_eq_error_iff value width, extended]
    exact nofun
  obtain ⟨lower, upper, -⟩ := (signExtend_eq_ok_iff filled value reading).mp extended
  apply (signExtend_eq_ok_iff filled reading reading).mpr
  refine ⟨lower, upper, ?_⟩
  rw [Int.sub_self]
  exact Int.dvd_zero _

/-- Bits at and above the width do not count. -/
theorem signExtend_congr {value other : Int} (width : Int)
    (same : other % weight width.toNat = value % weight width.toNat) :
    signExtend other width = signExtend value width := by
  have fields : field 0 width.toNat other = field 0 width.toNat value := by
    rw [field_eq_iff, weight_zero, Int.ediv_one, Int.ediv_one, same]
  rw [signExtend_eq, signExtend_eq, fields]

/-- The sign of an unsigned reading is extended at the reading's own width. -/
theorem signed_of_natural (bit size : Nat) (word : Int) :
    signed bit size word = signExtend (field bit size word).toNat size := by
  rw [signed, unsigned_of_natural]
  rfl

/-- A signed reading is refused at a negative position or without a bit for the sign. -/
theorem signed_eq_error_iff (bit size word : Int) :
    signed bit size word = .error .negativeShift ↔ bit < 0 ∨ size < 1 := by
  by_cases negative : bit < 0 ∨ size < 0
  · rw [signed, (unsigned_eq_error_iff bit size word).mpr negative]
    exact iff_of_true rfl (by omega)
  · obtain ⟨position, rfl⟩ : ∃ position : Nat, bit = position := ⟨bit.toNat, by omega⟩
    obtain ⟨width, rfl⟩ : ∃ width : Nat, size = width := ⟨size.toNat, by omega⟩
    rw [signed_of_natural, signExtend_eq_error_iff]
    omega

/-- With a bit for the sign, a signed reading is that of the field. -/
theorem signed_of_filled (bit : Nat) {size : Nat} (filled : 1 ≤ size) (word : Int) :
    signed bit size word = .ok (field bit size word).toInt := by
  have inside : 0 + size ≤ size := by omega
  rw [signed_of_natural, signExtend_of_filled (by omega), Int.toNat_natCast,
    field_of_field bit size 0 size word inside, Nat.add_zero]

end Signed

/-- What reading fields of a word gives, at all positions and widths. -/
structure FieldReadings (word : Int) : Prop where
  /-- An unsigned reading is refused exactly at a negative position or width. -/
  refused : ∀ bit size, unsigned bit size word = .error .negativeShift ↔ bit < 0 ∨ size < 0
  /-- Otherwise it is a floor quotient followed by a remainder. -/
  remainder : ∀ bit size : Nat, unsigned bit size word = .ok (word / weight bit % weight size)
  /-- Readings of neighbouring fields join. -/
  joined : ∀ bit lower upper : Nat, ∃ low high, unsigned bit lower word = .ok low ∧
    unsigned (bit + lower) upper word = .ok high ∧
    unsigned bit (lower + upper) word = .ok (low + weight lower * high)
  /-- A sign is refused exactly if there is no bit for it. -/
  signless : ∀ width, signExtend word width = .error .negativeShift ↔ width < 1
  /-- Otherwise the result shows the word, and no other number does. -/
  extended : ∀ width, 1 ≤ width → ∃ reading, signExtend word width = .ok reading ∧
    ∀ other, TwosComplement width.toNat word other ↔ other = reading
  /-- The result is kept when its sign is extended again. -/
  again : ∀ width reading, signExtend word width = .ok reading →
    signExtend reading width = .ok reading
  /-- Words that differ only at and above the width have one result. -/
  higher : ∀ width other, other % weight width.toNat = word % weight width.toNat →
    signExtend other width = signExtend word width
  /-- A signed reading is refused at a negative position or without a bit for the sign. -/
  signedRefused : ∀ bit size,
    signed bit size word = .error .negativeShift ↔ bit < 0 ∨ size < 1
  /-- Otherwise it shows the floor quotient, and no other number does. -/
  signedQuotient : ∀ bit size : Nat, 1 ≤ size → ∃ reading,
    signed bit size word = .ok reading ∧
      ∀ other, TwosComplement size (word / weight bit) other ↔ other = reading

/-- Fields of any integer are read as quotients and remainders of both kinds, and exactly
the negative shifts are refused. -/
theorem readings_exact (word : Int) : FieldReadings word := by
  constructor
  case refused => exact fun bit size => unsigned_eq_error_iff bit size word
  case remainder =>
    intro bit size
    rw [unsigned_of_natural, toNat_field]
  case joined =>
    intro bit lower upper
    refine ⟨_, _, unsigned_of_natural bit lower word,
      unsigned_of_natural (bit + lower) upper word, ?_⟩
    rw [← toNat_field_join]
    exact unsigned_of_natural bit (lower + upper) word
  case signless => exact signExtend_eq_error_iff word
  case extended =>
    intro width filled
    refine ⟨_, signExtend_of_filled filled word, fun other => ?_⟩
    rw [← signExtend_eq_ok_iff filled, signExtend_of_filled filled, Except.ok.injEq, eq_comm]
  case again => exact fun width reading => signExtend_again
  case higher => exact fun width other => signExtend_congr width
  case signedRefused => exact fun bit size => signed_eq_error_iff bit size word
  case signedQuotient =>
    intro bit size filled
    refine ⟨_, signed_of_filled bit filled word, fun other => ?_⟩
    rw [← toInt_field_eq_iff bit filled, eq_comm]

/-- Above its lowest bit, minus two is all ones. Sixteen of them are read as `0xFFFF` and,
with a sign, as minus one and nothing else; none of them has no signed reading. -/
theorem negative_word_read :
    unsigned 1 16 (-2) = .ok 0xFFFF ∧ signed 1 16 (-2) = .ok (-1) ∧
      (∀ other, TwosComplement 16 (-1) other ↔ other = -1) ∧
      signed 1 0 (-2) = .error .negativeShift := by
  have laws := readings_exact (-2)
  obtain ⟨reading, read, only⟩ := laws.signedQuotient 1 16 (by decide)
  have value : signed 1 16 (-2) = .ok (-1) := by rfl
  cases read.symm.trans value
  exact ⟨laws.remainder 1 16, value, only, (laws.signedRefused 1 0).mpr (by decide)⟩

end Microcode.Bits
