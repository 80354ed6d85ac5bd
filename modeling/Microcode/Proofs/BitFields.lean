import Microcode.Bits

/-!
# Fields as quotients and remainders

A field is a floor quotient followed by a remainder, so neighbouring fields join to
a wider one, and a field depends on the bits it covers and on nothing else. A single
bit is the field of width one. A portion is a field together with its weight: what
the field contributes to the value of the word. Portions of neighbouring fields add
up, and taking one away clears its bits and leaves all others.
-/

namespace Microcode.Bits

/-- Fields of one width are equal when their unsigned readings are. -/
theorem field_eq_iff (left right size : Nat) (word other : Int) :
    field left size word = field right size other ↔
      word / weight left % weight size = other / weight right % weight size := by
  rw [← toNat_field, ← toNat_field, Int.natCast_inj]
  exact ⟨congrArg BitVec.toNat, BitVec.eq_of_toNat_eq⟩

/-- A field above `low` is a field of the quotient that drops the bits below `low`. -/
theorem field_quotient (low bit size : Nat) (word : Int) :
    field (low + bit) size word = field bit size (word / weight low) := by
  rw [field_eq_iff, weight_add, Int.ediv_ediv_of_nonneg (Int.le_of_lt (weight_positive low))]

/-- A field that ends at or below `width` depends only on the remainder at `width`.
Two words with one remainder differ by a multiple of the weight, which the field's
own division turns into a multiple of its modulus. -/
theorem field_congr (bit size width : Nat) (word other : Int) (inside : bit + size ≤ width)
    (same : word % weight width = other % weight width) :
    field bit size word = field bit size other := by
  obtain ⟨rest, rfl⟩ := Nat.exists_eq_add_of_le inside
  have split : (weight (bit + size + rest) : Int) =
      weight bit * (weight size * weight rest) := by
    rw [weight_add, weight_add, Int.mul_assoc]
  have parted (value : Int) : value / weight bit % weight size =
      value % weight (bit + size + rest) / weight bit % weight size := by
    have whole := Int.mul_ediv_add_emod value (weight (bit + size + rest))
    generalize value / weight (bit + size + rest) = quotient at whole
    generalize value % weight (bit + size + rest) = remainder at whole
    rw [← whole, split, Int.mul_assoc, Int.add_comm,
      Int.add_mul_ediv_left _ _ (Int.ne_of_gt (weight_positive bit)), Int.mul_assoc,
      Int.add_mul_emod_self_left]
  rw [field_eq_iff, parted word, parted other, same]

/-- A field of zero is zero. -/
theorem field_of_zero (bit size : Nat) : field bit size 0 = 0 := by
  apply BitVec.eq_of_toNat_eq
  have reading := toNat_field bit size 0
  simpa using reading

/-- The unsigned reading of a field is below the weight of its width. -/
theorem toNat_field_lt (bit size : Nat) (word : Int) :
    ((field bit size word).toNat : Int) < weight size :=
  Int.ofNat_lt.mpr (field bit size word).isLt

/-- A field inside a field is a field of the word. -/
theorem field_of_field (bit size inner width : Nat) (word : Int) (inside : inner + width ≤ size) :
    field inner width (field bit size word).toNat = field (bit + inner) width word := by
  rw [field_quotient, toNat_field]
  exact field_congr inner width size _ _ inside (Int.emod_emod_of_dvd _ (Int.dvd_refl _))

/-- Neighbouring fields join: the upper one counts in units of the lower one's range. -/
theorem toNat_field_join (bit lower upper : Nat) (word : Int) :
    ((field bit (lower + upper) word).toNat : Int) =
      (field bit lower word).toNat + weight lower * (field (bit + lower) upper word).toNat := by
  rw [field_quotient, toNat_field, toNat_field, toNat_field, weight_add]
  generalize word / (weight bit : Int) = value
  -- Every remainder is a value less a multiple of its quotient; the rest is linear.
  rw [Int.emod_def, Int.emod_def, Int.emod_def,
    ← Int.ediv_ediv_of_nonneg (Int.le_of_lt (weight_positive lower)), Int.mul_sub, Int.mul_assoc]
  omega

/-- Words that agree in every bit of a field agree in the field. The induction is on
the width; each step joins one more bit at the top. -/
theorem field_eq_of_bits (bit size : Nat) (word other : Int)
    (same : ∀ position, bit ≤ position → position < bit + size →
      field position 1 word = field position 1 other) :
    field bit size word = field bit size other := by
  induction size with
  | zero => exact BitVec.eq_of_zero_length rfl
  | succ size inductionHypothesis =>
    have lower : field bit size word = field bit size other :=
      inductionHypothesis fun position above below => same position above (by omega)
    have top : field (bit + size) 1 word = field (bit + size) 1 other :=
      same (bit + size) (by omega) (by omega)
    apply BitVec.eq_of_toNat_eq
    have joined := toNat_field_join bit size 1 word
    have otherJoined := toNat_field_join bit size 1 other
    rw [lower, top, ← otherJoined] at joined
    exact Int.ofNat_inj.mp joined

/-- What a field contributes to the value of a word. -/
def portion (bit size : Nat) (word : Int) : Int := weight bit * (field bit size word).toNat

/-- Portions of neighbouring fields add up to the portion of both. -/
theorem portion_join (bit lower upper : Nat) (word : Int) :
    portion bit (lower + upper) word =
      portion bit lower word + portion (bit + lower) upper word := by
  rw [portion, portion, portion, toNat_field_join, Int.mul_add, weight_add, Int.mul_assoc]

/-- The sum of the portions of consecutive fields, given by their widths from the
lowest up. -/
def portionSum (bit : Nat) (word : Int) : List Nat → Int
  | [] => 0
  | width :: rest => portion bit width word + portionSum (bit + width) word rest

/-- Consecutive fields add up to the portion of the range that they cover. -/
theorem portionSum_eq (bit : Nat) (word : Int) (widths : List Nat) :
    portionSum bit word widths = portion bit (widths.foldr (· + ·) 0) word := by
  induction widths generalizing bit with
  | nil =>
    have nothing : (field bit 0 word).toNat = 0 := Nat.lt_one_iff.mp (field bit 0 word).isLt
    rw [portionSum, List.foldr_nil, portion, nothing]
    exact (Int.mul_zero _).symm
  | cons width rest inductionHypothesis =>
    rw [portionSum, inductionHypothesis, List.foldr_cons, portion_join]

/-- A word less a portion keeps every field below the portion. -/
theorem field_sub_portion_below (bit size low width : Nat) (word : Int)
    (below : low + width ≤ bit) :
    field low width (word - portion bit size word) = field low width word := by
  apply field_congr low width bit _ _ below
  rw [portion, Int.sub_eq_add_neg, ← Int.mul_neg, Int.add_mul_emod_self_left]

/-- A word less a portion has the same quotient above the portion, and there the
remainder that is left is what stood below it. -/
theorem sub_portion (bit size : Nat) (word : Int) :
    word - portion bit size word =
      weight (bit + size) * (word / weight (bit + size)) + word % weight bit := by
  have lower := toNat_field_join 0 bit size word
  have whole := Int.mul_ediv_add_emod word (weight (bit + size))
  rw [toNat_field, toNat_field, Nat.zero_add] at lower
  rw [weight_zero, Int.ediv_one] at lower
  rw [portion]
  omega

/-- A word less a portion keeps every field above the portion. -/
theorem field_sub_portion_above (bit size high width : Nat) (word : Int)
    (above : bit + size ≤ high) :
    field high width (word - portion bit size word) = field high width word := by
  obtain ⟨rest, rfl⟩ := Nat.exists_eq_add_of_le above
  have small : word % weight bit / (weight (bit + size) : Int) = 0 := by
    apply Int.ediv_eq_zero_of_lt (Int.emod_nonneg _ (Int.ne_of_gt (weight_positive bit)))
    have bound := Int.emod_lt_of_pos word (weight_positive bit)
    have wider := Int.mul_le_mul_of_nonneg_left
      (Int.add_one_le_of_lt (weight_positive size)) (Int.le_of_lt (weight_positive bit))
    rw [weight_add]
    omega
  rw [field_quotient, field_quotient _ _ _ word, sub_portion, Int.add_comm,
    Int.add_mul_ediv_left _ _ (Int.ne_of_gt (weight_positive _)), small, Int.zero_add]

/-- A word less a portion has zeros in the portion's own field. -/
theorem field_sub_portion_self (bit size : Nat) (word : Int) :
    field bit size (word - portion bit size word) = 0 := by
  have quotient : (word - portion bit size word) / weight bit =
      word / weight bit - (field bit size word).toNat := by
    rw [portion, Int.sub_eq_add_neg, ← Int.mul_neg,
      Int.add_mul_ediv_left _ _ (Int.ne_of_gt (weight_positive bit)), ← Int.sub_eq_add_neg]
  apply BitVec.eq_of_toNat_eq
  have reading := toNat_field bit size (word - portion bit size word)
  rw [quotient, toNat_field bit size word, Int.sub_emod, Int.emod_emod_of_dvd _ (Int.dvd_refl _),
    Int.sub_self, Int.zero_emod] at reading
  exact Int.ofNat_inj.mp reading

/-- A bit of a word less a portion: zero in the portion and unchanged elsewhere. -/
theorem bit_sub_portion (bit size position : Nat) (word : Int) :
    field position 1 (word - portion bit size word) =
      if bit ≤ position ∧ position < bit + size then 0 else field position 1 word := by
  split
  case isTrue inside =>
    obtain ⟨above, below⟩ := inside
    obtain ⟨inner, rfl⟩ := Nat.exists_eq_add_of_le above
    rw [← field_of_field bit size inner 1 _ (by omega), field_sub_portion_self]
    exact field_of_zero inner 1
  case isFalse outside =>
    by_cases above : bit ≤ position
    · exact field_sub_portion_above bit size position 1 word (by omega)
    · exact field_sub_portion_below bit size position 1 word (by omega)

end Microcode.Bits
