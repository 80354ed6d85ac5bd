import Microcode.Listing
import Microcode.Proofs.BitFields

/-!
# The rows of a buffer

A buffer of whole words has one row for each word, in order, and the address of a row
is four times its number behind the base, modulo the size of the address space. The
words are the buffer's bytes by fours, the most significant first, so writing them out
again gives the buffer back. Rows of a buffer that fits into the address space have
distinct addresses.
-/

namespace Microcode.Listing

open Bits

/-- A buffer that does not begin with a word has fewer than four bytes. -/
theorem length_lt_of_short (data : List UInt8)
    (short : ∀ first second third fourth rest,
      data = first :: second :: third :: fourth :: rest → False) : data.length < 4 := by
  match data, short with
  | [], _ | [_], _ | [_, _], _ | [_, _, _], _ => simp
  | first :: second :: third :: fourth :: rest, short =>
    exact (short first second third fourth rest rfl).elim

/-- There is a word for every four bytes. -/
theorem length_words (data : List UInt8) : (words data).length = data.length / 4 := by
  fun_induction words data with
  | case1 first second third fourth rest inductionHypothesis =>
    simp only [List.length_cons, inductionHypothesis]
    omega
  | case2 data short =>
    have bound := length_lt_of_short data short
    simp only [List.length_nil]
    omega

/-- A word of four bytes lies below `2 ^ 32`. -/
theorem bigEndian_bounds (first second third fourth : UInt8) :
    0 ≤ bigEndian first second third fourth ∧
      bigEndian first second third fourth < 0x100000000 := by
  have firstBound := first.toNat_lt
  have secondBound := second.toNat_lt
  have thirdBound := third.toNat_lt
  have fourthBound := fourth.toNat_lt
  unfold bigEndian
  omega

/-- Every word of a buffer lies below `2 ^ 32`. -/
theorem words_bounds (data : List UInt8) (word : Int) (member : word ∈ words data) :
    0 ≤ word ∧ word < 0x100000000 := by
  fun_induction words data with
  | case1 first second third fourth rest inductionHypothesis =>
    rcases List.mem_cons.mp member with rfl | later
    · exact bigEndian_bounds first second third fourth
    · exact inductionHypothesis later
  | case2 data short => simp at member

/-- A byte is recovered from the field that it fills. -/
theorem byte_of_field (bit : Nat) (word : Int) (byte : UInt8)
    (value : word / weight bit % 256 = byte.toNat) :
    UInt8.ofBitVec (field bit 8 word) = byte := by
  apply UInt8.toNat_inj.mp
  have reading := toNat_field bit 8 word
  have width : (weight 8 : Int) = 256 := rfl
  rw [width, value] at reading
  exact Int.ofNat_inj.mp reading

/-- Writing a word of four bytes out gives the bytes back. -/
theorem bytesOfWord_bigEndian (first second third fourth : UInt8) :
    bytesOfWord (bigEndian first second third fourth) = [first, second, third, fourth] := by
  have firstBound := first.toNat_lt
  have secondBound := second.toNat_lt
  have thirdBound := third.toNat_lt
  have fourthBound := fourth.toNat_lt
  have top : (weight 24 : Int) = 16777216 := rfl
  have upper : (weight 16 : Int) = 65536 := rfl
  have lower : (weight 8 : Int) = 256 := rfl
  simp only [bytesOfWord, List.map_cons, List.map_nil, List.cons.injEq, and_true]
  refine ⟨byte_of_field 24 _ first ?_, byte_of_field 16 _ second ?_,
    byte_of_field 8 _ third ?_, byte_of_field 0 _ fourth ?_⟩
  · rw [top, bigEndian]
    omega
  · rw [upper, bigEndian]
    omega
  · rw [lower, bigEndian]
    omega
  · rw [weight_zero, bigEndian]
    omega

/-- Writing the words of a buffer of whole words out gives the buffer back. -/
theorem bytes_words (data : List UInt8) (aligned : data.length % 4 = 0) :
    bytes (words data) = data := by
  fun_induction words data with
  | case1 first second third fourth rest inductionHypothesis =>
    have shorter : rest.length % 4 = 0 := by
      simp only [List.length_cons] at aligned
      omega
    rw [bytes, List.flatMap_cons, bytesOfWord_bigEndian, ← bytes, inductionHypothesis shorter]
    rfl
  | case2 data short =>
    have bound := length_lt_of_short data short
    exact (List.length_eq_zero_iff.mp (by omega)).symm

/-- Words fill four bytes each. -/
theorem length_bytes (words : List Int) : (bytes words).length = 4 * words.length := by
  induction words with
  | nil => rfl
  | cons word rest inductionHypothesis =>
    have four : (bytesOfWord word).length = 4 := rfl
    rw [bytes, List.flatMap_cons, List.length_append, ← bytes, inductionHypothesis, four,
      List.length_cons]
    omega

/-- Rows by number: the address of a row is the base and four for each row before it. -/
theorem rowsFrom_eq_mapIdx (base : Int) (words : List Int) :
    rowsFrom base words = words.mapIdx fun index word => Row.read (base + 4 * index) word := by
  induction words generalizing base with
  | nil => rfl
  | cons word rest inductionHypothesis =>
    rw [rowsFrom, inductionHypothesis, List.mapIdx_cons]
    have first : base + 4 * ((0 : Nat) : Int) = base := by omega
    have next (index : Nat) :
        base + 4 + 4 * (index : Int) = base + 4 * ((index + 1 : Nat) : Int) := by
      omega
    simp only [first, next]

/-- What is read off the rows, by number. -/
theorem map_rowsFrom {α : Type} (seen : Row → α) (base : Int) (words : List Int) :
    (rowsFrom base words).map seen =
      words.mapIdx fun index word => seen (Row.read (base + 4 * index) word) := by
  rw [rowsFrom_eq_mapIdx]
  apply List.ext_getElem?
  intro index
  rw [List.getElem?_map, List.getElem?_mapIdx, List.getElem?_mapIdx, Option.map_map]
  rfl

/-- The rows have the words in order. -/
theorem words_of_rowsFrom (base : Int) (words : List Int) :
    (rowsFrom base words).map Row.word = words := by
  rw [map_rowsFrom]
  apply List.ext_getElem?
  intro index
  rw [List.getElem?_mapIdx]
  exact Option.map_id'

/-- A row shows a word of its buffer. -/
theorem exists_word_of_mem_rowsFrom (base : Int) (words : List Int) (row : Row)
    (member : row ∈ rowsFrom base words) :
    ∃ address, ∃ word ∈ words, row = Row.read address word := by
  rw [rowsFrom_eq_mapIdx, List.mem_mapIdx] at member
  obtain ⟨index, bound, same⟩ := member
  exact ⟨base + 4 * index, words[index], List.getElem_mem bound, same.symm⟩

/-- Rows depend on the base only modulo the size of the address space. -/
theorem rowsFrom_mod (base : Int) (words : List Int) :
    rowsFrom (base % 0x100000000) words = rowsFrom base words := by
  have read (index : Nat) (word : Int) :
      Row.read (base % 0x100000000 + 4 * index) word = Row.read (base + 4 * index) word := by
    simp only [Row.read, Int.emod_add_emod]
  simp only [rowsFrom_eq_mapIdx, read]

/-- The lines of a buffer of whole words are those of its laid-out rows. -/
theorem lines_of_aligned (style : PrintStyle) (data : List UInt8) (base : Int)
    (aligned : data.length % 4 = 0) :
    lines style data base =
      .ok ((layout (rowsFrom base (words data))).map (Line.text style)) := by
  rw [lines, rows, if_pos aligned]
  rfl

/-- Rows that fit into the address space have distinct addresses: two of them differ
by less than its size. -/
theorem rowsFrom_addresses_distinct (base : Int) (words : List Int)
    (fits : 4 * words.length ≤ 0x100000000) :
    ((rowsFrom base words).map Row.address).Nodup := by
  rw [rowsFrom_eq_mapIdx, List.nodup_iff_pairwise_ne, List.pairwise_iff_getElem]
  intro left right leftBound rightBound before
  simp only [List.length_map, List.length_mapIdx] at leftBound rightBound
  simp only [List.getElem_map, List.getElem_mapIdx, Row.read]
  omega

end Microcode.Listing
