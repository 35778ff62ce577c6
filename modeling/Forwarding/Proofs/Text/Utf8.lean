import Forwarding.Text.Utf8
import Mathlib.Algebra.Group.Nat.Defs

/-! UTF-8 read back: the bytes of a text decode to the text. -/
namespace Forwarding.Text.Utf8

variable {n count low high : Nat} {lead : UInt8}

def tailByte (n : Nat) : UInt8 := UInt8.ofNat (0x80 + n % 0x40)

def tailBytes (n : Nat) : Nat → List UInt8
  | 0 => []
  | count + 1 => tailByte (n / 0x40 ^ count) :: tailBytes n count

/-- A first byte that asks for one continuation byte and as many more as are counted. It holds what
these leave of a number, and the first of them is in the range that it asks for. -/
structure Leads (lead : UInt8) (n count low high : Nat) : Prop where
  follow?_eq : follow? lead = some (count + 1, low, high)
  leadValue_eq : leadValue lead (count + 1) = n / 0x40 ^ (count + 1)
  low_le : low ≤ (tailByte (n / 0x40 ^ count)).toNat
  le_high : (tailByte (n / 0x40 ^ count)).toNat ≤ high

theorem toNat_tailByte (n : Nat) : (tailByte n).toNat = 0x80 + n % 0x40 := by
  rw [tailByte, UInt8.toNat_ofNat']
  omega

theorem decodeFrom_single {b : UInt8} (h : b.toNat < 0x80) (offset : Nat) (rest : List UInt8) :
    decodeFrom offset none (b :: rest) =
      (decodeFrom (offset + 1) none rest).map (Char.ofNat b.toNat :: ·) := by
  have hfollow : follow? b = some (0, 0x80, 0xbf) := by simp [follow?, h]
  rw [decodeFrom, hfollow]
  cases decodeFrom (offset + 1) none rest <;> rfl

/-- Continuation bytes complete the number that the bytes before them have begun. -/
theorem decodeFrom_tailBytes (first : UInt8) (seen : Nat)
    (hlow : low ≤ (tailByte (n / 0x40 ^ count)).toNat)
    (hhigh : (tailByte (n / 0x40 ^ count)).toNat ≤ high) (offset : Nat) (rest : List UInt8) :
    decodeFrom offset (some ⟨first, seen, n / 0x40 ^ (count + 1), count + 1, low, high⟩)
        (tailBytes n (count + 1) ++ rest) =
      (decodeFrom (offset + (count + 1)) none rest).map (Char.ofNat n :: ·) := by
  -- the bits that are read already and six more
  have hvalue (k : Nat) : 0x40 * (n / 0x40 ^ (k + 1)) + (tailByte (n / 0x40 ^ k)).toNat % 0x40 =
      n / 0x40 ^ k := by
    rw [toNat_tailByte, pow_succ, ← Nat.div_div_eq_div_mul]
    omega
  induction count generalizing seen low high offset with
  | zero =>
    rw [tailBytes, List.cons_append, decodeFrom, if_pos ⟨hlow, hhigh⟩, if_pos (Nat.le_refl 1), hvalue]
    simp only [pow_zero, Nat.div_one]
    cases hrest : decodeFrom (offset + 1) none rest <;> simp [tailBytes, hrest] <;> rfl
  | succ count ih =>
    have hrange := toNat_tailByte (n / 0x40 ^ count)
    rw [tailBytes, List.cons_append, decodeFrom, if_pos ⟨hlow, hhigh⟩, if_neg (by simp), hvalue,
      Nat.add_sub_cancel, ih _ (by omega) (by omega)]
    congr 2
    omega

theorem Leads.decodeFrom_eq (h : Leads lead n count low high) (offset : Nat) (rest : List UInt8) :
    decodeFrom offset none (lead :: tailBytes n (count + 1) ++ rest) =
      (decodeFrom (offset + (count + 2)) none rest).map (Char.ofNat n :: ·) := by
  rw [List.cons_append, decodeFrom, h.follow?_eq]
  simp only [h.leadValue_eq]
  rw [decodeFrom_tailBytes lead 1 h.low_le h.le_high]
  congr 2
  omega

theorem follow?_two (h : 0xc2 ≤ lead.toNat) (h' : lead.toNat < 0xe0) :
    follow? lead = some (1, 0x80, 0xbf) := by
  unfold follow?
  simp (disch := omega) only [if_neg, if_pos]

theorem follow?_three (h : 0xe0 ≤ lead.toNat) (h' : lead.toNat < 0xf0) :
    follow? lead = some (2, if lead.toNat = 0xe0 then 0xa0 else 0x80,
      if lead.toNat = 0xed then 0x9f else 0xbf) := by
  unfold follow?
  simp (disch := omega) only [if_neg, if_pos]

theorem follow?_four (h : 0xf0 ≤ lead.toNat) (h' : lead.toNat < 0xf5) :
    follow? lead = some (3, if lead.toNat = 0xf0 then 0x90 else 0x80,
      if lead.toNat = 0xf4 then 0x8f else 0xbf) := by
  unfold follow?
  simp (disch := omega) only [if_neg, if_pos]

theorem leads_two (h : 0x80 ≤ n) (h' : n < 0x800) :
    ∃ low high, Leads (UInt8.ofNat (0xc0 + n / 0x40)) n 0 low high := by
  have hlead : (UInt8.ofNat (0xc0 + n / 0x40)).toNat = 0xc0 + n / 0x40 := by
    rw [UInt8.toNat_ofNat']
    omega
  have htail := toNat_tailByte (n / 0x40 ^ 0)
  refine ⟨_, _, follow?_two (by omega) (by omega), ?_, by omega, by omega⟩
  simp only [leadValue, hlead]
  omega

theorem leads_three (h : 0x800 ≤ n) (h' : n < 0x10000) (hvalid : n.isValidChar) :
    ∃ low high, Leads (UInt8.ofNat (0xe0 + n / 0x1000)) n 1 low high := by
  have hlead : (UInt8.ofNat (0xe0 + n / 0x1000)).toNat = 0xe0 + n / 0x1000 := by
    rw [UInt8.toNat_ofNat']
    omega
  have htail := toNat_tailByte (n / 0x40 ^ 1)
  unfold Nat.isValidChar at hvalid
  refine ⟨_, _, follow?_three (by omega) (by omega), ?_, ?_, ?_⟩
  · simp only [leadValue, hlead]
    omega
  · split <;> omega
  · split <;> omega

theorem leads_four (h : 0x10000 ≤ n) (hvalid : n.isValidChar) :
    ∃ low high, Leads (UInt8.ofNat (0xf0 + n / 0x40000)) n 2 low high := by
  unfold Nat.isValidChar at hvalid
  have hlead : (UInt8.ofNat (0xf0 + n / 0x40000)).toNat = 0xf0 + n / 0x40000 := by
    rw [UInt8.toNat_ofNat']
    omega
  have htail := toNat_tailByte (n / 0x40 ^ 2)
  refine ⟨_, _, follow?_four (by omega) (by omega), ?_, ?_, ?_⟩
  · simp only [leadValue, hlead]
    omega
  · split <;> omega
  · split <;> omega

/-- A character is one ASCII byte, or a first byte with the continuation bytes that it asks for. -/
theorem encodeChar_cases (c : Char) :
    (c.toNat < 0x80 ∧ encodeChar c = [UInt8.ofNat c.toNat]) ∨
    ∃ lead count low high, Leads lead c.toNat count low high ∧
      encodeChar c = lead :: tailBytes c.toNat (count + 1) := by
  have hvalid : c.toNat.isValidChar := c.valid
  unfold encodeChar
  by_cases hone : c.toNat < 0x80
  · exact Or.inl ⟨hone, if_pos hone⟩
  · right
    simp only [if_neg hone]
    by_cases htwo : c.toNat < 0x800
    · obtain ⟨low, high, hleads⟩ := leads_two (by omega) htwo
      exact ⟨_, _, low, high, hleads, by simp [htwo, tailBytes, tailByte]⟩
    · by_cases hthree : c.toNat < 0x10000
      · obtain ⟨low, high, hleads⟩ := leads_three (by omega) hthree hvalid
        exact ⟨_, _, low, high, hleads, by simp [htwo, hthree, tailBytes, tailByte]⟩
      · obtain ⟨low, high, hleads⟩ := leads_four (by omega) hvalid
        exact ⟨_, _, low, high, hleads, by simp [htwo, hthree, tailBytes, tailByte]⟩

theorem decodeFrom_encodeChar (c : Char) (offset : Nat) (rest : List UInt8) :
    ∃ next, decodeFrom offset none (encodeChar c ++ rest) =
      (decodeFrom next none rest).map (c :: ·) := by
  rcases encodeChar_cases c with ⟨hascii, hbytes⟩ | ⟨lead, count, low, high, hleads, hbytes⟩
  · have hbyte : (UInt8.ofNat c.toNat).toNat = c.toNat := by
      rw [UInt8.toNat_ofNat']
      omega
    have hsingle := decodeFrom_single (by rwa [hbyte]) offset rest
    rw [hbyte, Char.ofNat_toNat] at hsingle
    rw [hbytes]
    exact ⟨offset + 1, hsingle⟩
  · rw [hbytes, hleads.decodeFrom_eq, Char.ofNat_toNat]
    exact ⟨_, rfl⟩

theorem decodeFrom_encode (t : Text) (offset : Nat) : decodeFrom offset none (encode t) = .ok t := by
  induction t generalizing offset with
  | nil => rfl
  | cons c t ih =>
    have hcons : encode (c :: t) = encodeChar c ++ encode t := List.flatMap_cons
    obtain ⟨next, hnext⟩ := decodeFrom_encodeChar c offset (encode t)
    rw [hcons, hnext, ih]
    rfl

/-- Every text is read back from its bytes. -/
theorem decode_encode (t : Text) : decode (encode t) = .ok t := decodeFrom_encode t 0

end Forwarding.Text.Utf8
