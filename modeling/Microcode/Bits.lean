/-!
# Bit fields of machine words

Integers are read here in unbounded two's complement, so a negative word has
ones in every high position. A field is a run of neighbouring bits. It is held as
a bit vector of its own width, whose `toNat` is the unsigned and whose `toInt`
is the signed reading.

`field` takes positions that are natural numbers and cannot fail. `unsigned`,
`signExtend` and `signed` accept any integers. They shift and mask, and refuse a shift by
a negative count. Everywhere else they are the readings of fields.
-/

namespace Microcode.Bits

/-- The weight of a bit: two to the power of its position. -/
def weight (bit : Nat) : Nat := Nat.pow 2 bit

/-- Weights are positive, so division by them rounds toward negative infinity. -/
theorem weight_positive (bit : Nat) : (0 : Int) < weight bit :=
  Int.ofNat_lt.mpr (Nat.pow_pos (by decide))

/-- The lowest bit has weight one. -/
theorem weight_zero : (weight 0 : Int) = 1 := rfl

/-- Positions add where weights multiply. -/
theorem weight_add (left right : Nat) :
    (weight (left + right) : Int) = weight left * weight right := by
  rw [weight, weight, weight, ← Int.natCast_mul]
  exact congrArg Nat.cast (Nat.pow_add 2 left right)

/-- The `size` bits of `word` that start at position `bit`. -/
def field (bit size : Nat) (word : Int) : BitVec size :=
  BitVec.ofInt size (word >>> bit)

/-- The unsigned reading of a field is a floor quotient followed by a remainder. -/
theorem toNat_field (bit size : Nat) (word : Int) :
    ((field bit size word).toNat : Int) = word / weight bit % weight size := by
  rw [field, BitVec.toNat_ofInt, Int.shiftRight_eq_div_pow]
  exact Int.toNat_of_nonneg (Int.emod_nonneg _ (Int.ne_of_gt (weight_positive size)))

/-- The signed reading of a field is the balanced remainder of the same quotient. -/
theorem toInt_field (bit size : Nat) (word : Int) :
    (field bit size word).toInt = (word / weight bit).bmod (weight size) := by
  rw [field, BitVec.toInt_ofInt, Int.shiftRight_eq_div_pow]
  rfl

/-- Why a field cannot be read. -/
inductive FieldError where
  /-- A shift by a negative count would be needed. -/
  | negativeShift
  deriving DecidableEq

/-- The wording of a refused reading. -/
def FieldError.message : FieldError → String
  | .negativeShift => "negative shift count"

/-- A shift to the right. The count may not be negative. -/
def shiftRight (value count : Int) : Except FieldError Int :=
  if count < 0 then .error .negativeShift else .ok (value >>> count.toNat)

/-- A shift to the left. The count may not be negative. -/
def shiftLeft (value count : Int) : Except FieldError Int :=
  if count < 0 then .error .negativeShift else .ok (value <<< count.toNat)

/-- The bits that two numbers have in common. -/
def land : Int → Int → Int
  | .ofNat left, .ofNat right => .ofNat (left &&& right)
  | .ofNat left, .negSucc right => .ofNat (left ^^^ (left &&& right))
  | .negSucc left, .ofNat right => .ofNat (right ^^^ (right &&& left))
  | .negSucc left, .negSucc right => .negSucc (left ||| right)

/-- The unsigned field of `size` bits at `bit`. -/
def unsigned (bit size word : Int) : Except FieldError Int := do
  let shifted ← shiftRight word bit
  let limit ← shiftLeft 1 size
  return land shifted (limit - 1)

/-- The low `width` bits of `value` read as a two's complement number. At least
one bit is needed to hold the sign. -/
def signExtend (value width : Int) : Except FieldError Int := do
  let signBit ← shiftLeft 1 (width - 1)
  let limit ← shiftLeft 1 width
  let low := land value (limit - 1)
  if land low signBit ≠ 0 then return low - limit else return low

/-- The field of `size` bits at `bit`, read as a two's complement number. -/
def signed (bit size word : Int) : Except FieldError Int := do
  let value ← unsigned bit size word
  signExtend value size

/-- A shift to the right is a floor quotient. -/
theorem shiftRight_of_natural (value : Int) (count : Nat) :
    shiftRight value count = .ok (value / weight count) := by
  rw [shiftRight, if_neg (by omega), Int.toNat_natCast, Int.shiftRight_eq_div_pow]
  rfl

/-- One, shifted to the left, is the weight of a bit. -/
theorem shiftLeft_one (count : Nat) : shiftLeft 1 count = .ok (weight count) := by
  rw [shiftLeft, if_neg (by omega), Int.toNat_natCast]
  change Except.ok (Int.ofNat (1 <<< count)) = _
  rw [Nat.one_shiftLeft]
  rfl

/-- A mask of ones without the bits of a number under it is their difference. -/
theorem ones_xor (size low : Nat) (below : low < weight size) :
    (weight size - 1) ^^^ low = weight size - 1 - low := by
  apply Nat.eq_of_testBit_eq
  intro bit
  have ones : (weight size - 1).testBit bit = decide (bit < size) :=
    Nat.testBit_two_pow_sub_one size bit
  have difference : (weight size - (low + 1)).testBit bit =
      (decide (bit < size) && !low.testBit bit) := Nat.testBit_two_pow_sub_succ below bit
  rw [Nat.sub_sub, Nat.add_comm 1, difference, Nat.testBit_xor, ones]
  by_cases inside : bit < size
  · simp [inside]
  · have wider : weight size ≤ weight bit := Nat.pow_le_pow_right (by decide) (by omega)
    have clear : low.testBit bit = false :=
      Nat.testBit_lt_two_pow (Nat.lt_of_lt_of_le below wider)
    simp [inside, clear]

/-- A mask of ones leaves a remainder. -/
theorem land_ones (value : Int) (size : Nat) :
    land value (weight size - 1) = value % weight size := by
  have positive : 0 < weight size := Int.ofNat_lt.mp (weight_positive size)
  have mask : (weight size : Int) - 1 = .ofNat (weight size - 1) := by
    change ((weight size : Nat) : Int) - 1 = ((weight size - 1 : Nat) : Int)
    omega
  have masked (natural : Nat) : natural &&& (weight size - 1) = natural % weight size :=
    Nat.and_two_pow_sub_one_eq_mod natural size
  rw [mask]
  cases value with
  | ofNat natural =>
    rw [land, masked]
    rfl
  | negSucc natural =>
    have below : natural % weight size < weight size := Nat.mod_lt natural positive
    rw [land, Nat.and_comm, masked, ones_xor size _ below,
      Int.negSucc_emod _ (weight_positive size), ← Int.natCast_emod]
    change ((weight size - 1 - natural % weight size : Nat) : Int) = _
    omega

/-- A number has a bit in common with the bit's weight exactly if it is set. -/
theorem and_weight_ne_zero_iff (low bit : Nat) :
    low &&& weight bit ≠ 0 ↔ low.testBit bit = true := by
  have single (other : Nat) : (weight bit).testBit other = decide (bit = other) :=
    Nat.testBit_two_pow
  constructor
  · intro common
    obtain ⟨other, set⟩ := Nat.exists_testBit_of_ne_zero common
    rw [Nat.testBit_and, single, Bool.and_eq_true, decide_eq_true_eq] at set
    rw [set.2]
    exact set.1
  · intro set none
    have common : (low &&& weight bit).testBit bit = true := by
      rw [Nat.testBit_and, set, single, decide_eq_true rfl, Bool.and_self]
    rw [none, Nat.zero_testBit] at common
    cases common

/-- The highest bit of a field is set exactly if its reading has at least the bit's weight. -/
theorem land_highest_iff (width low : Nat) (below : low < weight (width + 1)) :
    land low (weight width) ≠ 0 ↔ weight width ≤ low := by
  change ((low &&& weight width : Nat) : Int) ≠ 0 ↔ _
  rw [Int.natCast_ne_zero, and_weight_ne_zero_iff]
  constructor
  · exact Nat.ge_two_pow_of_testBit
  · intro above
    exact Nat.testBit_of_two_pow_le_and_two_pow_add_one_gt above below

/-- An unsigned reading is that of a field, and refused at a negative position or width. -/
theorem unsigned_eq (bit size word : Int) :
    unsigned bit size word =
      if bit < 0 ∨ size < 0 then .error .negativeShift
      else .ok (field bit.toNat size.toNat word).toNat := by
  by_cases before : bit < 0
  · rw [unsigned, shiftRight, if_pos before, if_pos (.inl before)]
    rfl
  obtain ⟨position, rfl⟩ := Int.eq_ofNat_of_zero_le (Int.not_lt.mp before)
  rw [unsigned, shiftRight_of_natural]
  by_cases narrow : size < 0
  · rw [shiftLeft, if_pos narrow, if_pos (.inr narrow)]
    rfl
  obtain ⟨count, rfl⟩ := Int.eq_ofNat_of_zero_le (Int.not_lt.mp narrow)
  rw [shiftLeft_one, if_neg (by omega), Int.toNat_natCast, Int.toNat_natCast, toNat_field,
    ← land_ones]
  rfl

/-- A sign is extended over the lowest field, and refused if there is no bit for it. -/
theorem signExtend_eq (value width : Int) :
    signExtend value width =
      if width < 1 then .error .negativeShift
      else .ok (field 0 width.toNat value).toInt := by
  by_cases signless : width < 1
  · rw [signExtend, shiftLeft, if_pos (by omega), if_pos signless]
    rfl
  obtain ⟨below, rfl⟩ : ∃ below : Nat, width = ((below + 1 : Nat) : Int) :=
    ⟨(width - 1).toNat, by omega⟩
  have signBit : ((below + 1 : Nat) : Int) - 1 = (below : Nat) := by omega
  have low : land value (weight (below + 1) - 1) = (field 0 (below + 1) value).toNat := by
    rw [land_ones, toNat_field, weight_zero, Int.ediv_one]
  have double : weight (below + 1) = weight below * 2 := Int.ofNat_inj.mp (weight_add below 1)
  have highest := land_highest_iff below _ (field 0 (below + 1) value).isLt
  rw [signExtend, signBit, shiftLeft_one, shiftLeft_one, if_neg signless, Int.toNat_natCast,
    BitVec.toInt]
  change (if land (land value (weight (below + 1) - 1)) (weight below) ≠ 0 then _ else _) =
    Except.ok (if 2 * _ < weight (below + 1) then _ else _)
  rw [low, double]
  by_cases set : weight below ≤ (field 0 (below + 1) value).toNat
  · rw [if_pos (highest.mpr set), if_neg (by omega)]
    rfl
  · rw [if_neg (mt highest.mp set), if_pos (by omega)]
    rfl

end Microcode.Bits
