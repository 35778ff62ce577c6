import Forwarding.Proofs.Address.Number
import Forwarding.Range.Cidr

/-!
Blocks of addresses as sets of numbers. Comparing byte by byte under a mask compares the numbers
under the number of the mask, and a block of a common prefix is an interval of numbers.
-/
namespace Forwarding

def onesThenZeros (ones zeros : Nat) : Nat := 2 ^ zeros * (2 ^ ones - 1)

/-- A mask of ones and zeros cuts off the low part of a number. -/
theorem land_onesThenZeros {n ones zeros : Nat} (h : n < 2 ^ (ones + zeros)) :
    n &&& onesThenZeros ones zeros = 2 ^ zeros * (n / 2 ^ zeros) := by
  have hlow : n % 2 ^ zeros < 2 ^ zeros := Nat.mod_lt _ (Nat.two_pow_pos zeros)
  have hhigh : n / 2 ^ zeros < 2 ^ ones := by
    rw [Nat.div_lt_iff_lt_mul (Nat.two_pow_pos zeros), ← Nat.pow_add]
    exact h
  calc n &&& onesThenZeros ones zeros
      = (2 ^ zeros * (n / 2 ^ zeros) + n % 2 ^ zeros) &&& (2 ^ zeros * (2 ^ ones - 1) + 0) := by
        rw [Nat.div_add_mod, Nat.add_zero, onesThenZeros]
    _ = 2 ^ zeros * (n / 2 ^ zeros &&& 2 ^ ones - 1) + (n % 2 ^ zeros &&& 0) :=
        two_pow_mul_add_land hlow (Nat.two_pow_pos zeros)
    _ = 2 ^ zeros * (n / 2 ^ zeros) := by
        rw [Nat.and_two_pow_sub_one_eq_mod, Nat.mod_eq_of_lt hhigh, Nat.and_zero, Nat.add_zero]

/-- The numbers that agree with a base in the ones of a mask form an interval from the base on. -/
theorem land_eq_iff_interval {n base ones zeros : Nat} (hn : n < 2 ^ (ones + zeros))
    (hbase : base < 2 ^ (ones + zeros)) (haligned : base &&& onesThenZeros ones zeros = base) :
    n &&& onesThenZeros ones zeros = base ↔ base ≤ n ∧ n ≤ base + 2 ^ zeros - 1 := by
  have hpos : 0 < 2 ^ zeros := Nat.two_pow_pos zeros
  rw [land_onesThenZeros hbase] at haligned
  rw [land_onesThenZeros hn]
  calc 2 ^ zeros * (n / 2 ^ zeros) = base
      ↔ n / 2 ^ zeros = base / 2 ^ zeros := by
        nth_rewrite 1 [← haligned]
        exact Nat.mul_right_inj hpos.ne'
    _ ↔ base ≤ n ∧ n ≤ base + 2 ^ zeros - 1 := by
        rw [Nat.div_eq_iff hpos, Nat.mul_comm, haligned]

namespace AddressRange

variable {as bs ms : List UInt8} {base a : Address} {length : Nat}

theorem agree_iff_zipWith (has : as.length = ms.length) (hbs : bs.length = ms.length) :
    agree as bs ms ↔ List.zipWith (· &&& ·) as ms = List.zipWith (· &&& ·) bs ms := by
  induction ms generalizing as bs with
  | nil =>
    obtain rfl := List.length_eq_zero_iff.mp has
    simp [agree]
  | cons m ms ih =>
    obtain ⟨a, as, rfl⟩ := List.exists_cons_of_length_eq_add_one has
    obtain ⟨b, bs, rfl⟩ := List.exists_cons_of_length_eq_add_one hbs
    simp [agree, @ih as bs (by simpa using has) (by simpa using hbs)]

/-- Bytes that agree under a mask stand for numbers that agree under its number. -/
theorem agree_iff_land (has : as.length = ms.length) (hbs : bs.length = ms.length) :
    agree as bs ms ↔ bigEndian as &&& bigEndian ms = bigEndian bs &&& bigEndian ms := by
  rw [agree_iff_zipWith has hbs, ← bigEndian_zipWith_land has, ← bigEndian_zipWith_land hbs]
  constructor
  · intro h
    rw [h]
  · exact bigEndian_injective (by simp [has, hbs])

theorem contains_iff_land (r : AddressRange) (a : Address) :
    r.contains a ↔ a.family = r.family ∧
      a.number &&& bigEndian r.mask = bigEndian r.base &&& bigEndian r.mask := by
  rw [contains, Bool.and_eq_true, decide_eq_true_eq]
  refine and_congr_right fun hfamily => agree_iff_land ?_ ?_
  · rw [a.bytes_length, r.mask_length, hfamily]
  · rw [r.base_length, r.mask_length]

theorem toNat_leadingOnes (count : Nat) :
    (leadingOnes count).toNat = onesThenZeros (min 8 count) (8 - min 8 count) := by
  have hall : ∀ k < 9, (UInt8.ofNat (0xff00 >>> k)).toNat = onesThenZeros k (8 - k) := by decide
  exact hall _ (Nat.lt_succ_of_le (Nat.min_le_left 8 count))

theorem prefixMask_succ (width length : Nat) :
    prefixMask (width + 1) length = leadingOnes length :: prefixMask width (length - 8) := by
  rw [prefixMask, prefixMask, List.range_succ_eq_map, List.map_cons, List.map_map]
  congr 1
  apply List.map_congr_left
  intro i _
  rw [Function.comp_apply]
  congr 1
  omega

/-- A prefix mask is ones and then zeros. -/
theorem bigEndian_prefixMask {width length : Nat} (h : length ≤ 8 * width) :
    bigEndian (prefixMask width length) = onesThenZeros length (8 * width - length) := by
  induction width generalizing length with
  | zero =>
    obtain rfl : length = 0 := by omega
    rfl
  | succ width ih =>
    rw [prefixMask_succ, bigEndian_cons, prefixMask_length, toNat_leadingOnes, ih (by omega)]
    by_cases hshort : length ≤ 8
    · -- the first byte has all ones, and no bit is left for the others
      have hzeros : 8 * (width + 1) - length = 8 * width + (8 - length) := by omega
      rw [Nat.min_eq_right hshort, Nat.sub_eq_zero_of_le hshort, hzeros]
      simp [onesThenZeros, Nat.pow_add, Nat.mul_assoc]
    · have hzeros : 8 * (width + 1) - length = 8 * width - (length - 8) := by omega
      have hwidth : 2 ^ (8 * width) = 2 ^ (8 * width - (length - 8)) * 2 ^ (length - 8) := by
        rw [← Nat.pow_add]
        congr 1
        omega
      have hlength : 2 ^ length = 2 ^ (length - 8) * 2 ^ 8 := by
        rw [← Nat.pow_add]
        congr 1
        omega
      have hones : 1 ≤ 2 ^ (length - 8) := Nat.one_le_two_pow
      rw [Nat.min_eq_left (by omega), hzeros, hwidth, onesThenZeros, onesThenZeros, onesThenZeros,
        hlength, Nat.mul_assoc, ← Nat.mul_add]
      congr 1
      omega

theorem isAligned_iff_land (a : Address) {mask : List UInt8}
    (h : mask.length = a.family.width) :
    isAligned a.bytes mask ↔ a.number &&& bigEndian mask = a.number := by
  have hlength : a.bytes.length = mask.length := a.bytes_length.trans h.symm
  rw [isAligned, decide_eq_true_eq, Address.number, ← bigEndian_zipWith_land hlength]
  constructor
  · intro heq
    rw [heq]
  · exact bigEndian_injective (by simp [hlength])

/-- A block of a common prefix, whose base has no other bits, is an interval of its family. -/
theorem contains_ofPrefix_iff {label : Text} (hlength : length ≤ 8 * base.family.width)
    (haligned : isAligned base.bytes (prefixMask base.family.width length)) :
    (ofPrefix base length label).contains a ↔ a.family = base.family ∧ base.number ≤ a.number ∧
      a.number ≤ base.number + 2 ^ (8 * base.family.width - length) - 1 := by
  have hmask := bigEndian_prefixMask hlength
  have hnumber {b : Address} (hfamily : b.family = base.family) :
      b.number < 2 ^ (length + (8 * base.family.width - length)) := by
    rw [Nat.add_sub_of_le hlength, ← hfamily, ← b.bytes_length]
    exact bigEndian_lt b.bytes
  rw [isAligned_iff_land base (prefixMask_length ..), hmask] at haligned
  rw [contains_iff_land]
  refine and_congr_right fun hfamily => ?_
  change a.number &&& bigEndian (prefixMask _ _) = base.number &&& bigEndian (prefixMask _ _) ↔ _
  rw [hmask, haligned]
  exact land_eq_iff_interval (hnumber hfamily) (hnumber rfl) haligned

end AddressRange
end Forwarding
