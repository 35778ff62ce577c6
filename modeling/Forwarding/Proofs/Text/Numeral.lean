import Forwarding.Text.Digit
import Mathlib.Data.List.Forall2
import Mathlib.Data.Nat.Digits.Defs
import Mathlib.Tactic.IntervalCases

/-!
Numbers in positional notation: the number that a row of digits spells, that reading digits finds
it, and that written digits spell the number written.
-/
namespace Forwarding.Text

def lowerDigits : Text :=
  ['0', '1', '2', '3', '4', '5', '6', '7', '8', '9', 'a', 'b', 'c', 'd', 'e', 'f']

def upperDigits : Text :=
  ['0', '1', '2', '3', '4', '5', '6', '7', '8', '9', 'A', 'B', 'C', 'D', 'E', 'F']

def IsDigit (base : Nat) (c : Char) (d : Nat) : Prop :=
  d < base ∧ (lowerDigits[d]? = some c ∨ upperDigits[d]? = some c)

/-- The text is a nonempty row of digits of the base that spells the number. -/
def IsNumeral (base : Nat) (t : Text) (n : Nat) : Prop :=
  t ≠ [] ∧ ∃ digits, List.Forall₂ (IsDigit base) t digits ∧ n = Nat.ofDigits base digits.reverse

theorem toNat_lt_of_digitValue? {c : Char} {d : Nat} (h : digitValue? c = some d) :
    c.toNat < 128 := by
  by_contra hc
  have hdigit : ¬('0' ≤ c ∧ c ≤ '9') := fun hrange => hc (Nat.lt_of_le_of_lt hrange.2 (by decide))
  have hlower : ¬('a' ≤ c ∧ c ≤ 'f') := fun hrange => hc (Nat.lt_of_le_of_lt hrange.2 (by decide))
  have hupper : ¬('A' ≤ c ∧ c ≤ 'F') := fun hrange => hc (Nat.lt_of_le_of_lt hrange.2 (by decide))
  simp [digitValue?, hdigit, hlower, hupper] at h

theorem mem_digits_of_digitValue? : ∀ k < 128, ∀ d ∈ digitValue? (Char.ofNat k),
    lowerDigits[d]? = some (Char.ofNat k) ∨ upperDigits[d]? = some (Char.ofNat k) := by
  decide

theorem digitValue?_digits : ∀ d < 16, lowerDigits[d]?.bind digitValue? = some d ∧
    upperDigits[d]?.bind digitValue? = some d := by
  decide

theorem digitValue?_eq_some_iff {c : Char} {d : Nat} :
    digitValue? c = some d ↔ lowerDigits[d]? = some c ∨ upperDigits[d]? = some c := by
  constructor
  · intro h
    have hc := mem_digits_of_digitValue? c.toNat (toNat_lt_of_digitValue? h) d
    rw [Char.ofNat_toNat] at hc
    exact hc h
  · intro h
    rcases h with h | h
    · obtain ⟨hd, -⟩ := List.getElem?_eq_some_iff.mp h
      simpa [h] using (digitValue?_digits d hd).1
    · obtain ⟨hd, -⟩ := List.getElem?_eq_some_iff.mp h
      simpa [h] using (digitValue?_digits d hd).2

theorem digit?_eq_some_iff {base : Nat} {c : Char} {d : Nat} :
    digit? base c = some d ↔ IsDigit base c d := by
  simp only [digit?, Option.filter_eq_some_iff, digitValue?_eq_some_iff, decide_eq_true_eq]
  exact and_comm

/-- Reading goes on from a number by shifting it for each digit. -/
theorem foldlM_addDigit?_eq_some_iff {base : Nat} {t : Text} {start n : Nat} :
    t.foldlM (addDigit? base) start = some n ↔
      ∃ digits, List.Forall₂ (IsDigit base) t digits ∧
        n = digits.foldl (fun value d => base * value + d) start := by
  induction t generalizing start with
  | nil => simp [eq_comm]
  | cons c rest ih =>
    simp only [List.foldlM_cons, addDigit?, Option.bind_eq_bind, Option.bind_map,
      Option.bind_eq_some_iff, digit?_eq_some_iff, Function.comp_apply, ih,
      List.forall₂_cons_left_iff]
    constructor
    · intro h
      obtain ⟨d, hd, digits, hdigits, hn⟩ := h
      exact ⟨d :: digits, ⟨d, digits, hd, hdigits, rfl⟩, hn⟩
    · intro h
      obtain ⟨_, ⟨d, digits, hd, hdigits, rfl⟩, hn⟩ := h
      exact ⟨d, hd, digits, hdigits, hn⟩

theorem foldl_digits_eq_ofDigits (base : Nat) (digits : List Nat) :
    digits.foldl (fun value d => base * value + d) 0 = Nat.ofDigits base digits.reverse := by
  simp [Nat.ofDigits_eq_foldr, List.foldr_reverse, Nat.add_comm]

theorem numeral?_eq_some_iff {base : Nat} {t : Text} {n : Nat} :
    numeral? base t = some n ↔ IsNumeral base t n := by
  by_cases ht : t = []
  · simp [numeral?, IsNumeral, ht]
  · simp only [numeral?, number?, IsNumeral, ht, if_false, foldlM_addDigit?_eq_some_iff,
      foldl_digits_eq_ofDigits, ne_eq, not_false_eq_true, true_and]

theorem isDigit_digitChar {base d : Nat} (hbase : base ≤ 16) (hd : d < base) :
    IsDigit base d.digitChar d := by
  have hd' : d < 16 := by omega
  refine ⟨hd, Or.inl ?_⟩
  interval_cases d <;> rfl

/-- Written digits spell the number written. -/
theorem isNumeral_ofNat {base : Nat} (hlow : 2 ≤ base) (hhigh : base ≤ 16) (n : Nat) :
    IsNumeral base (ofNat base n) n := by
  refine ⟨Nat.toDigits_ne_nil, ?_⟩
  induction n using Nat.strongRecOn with
  | ind n ih =>
    rw [ofNat, Nat.toDigits_eq_if (by omega)]
    split
    · next hn => exact ⟨[n], by simpa using isDigit_digitChar hhigh hn, by simp⟩
    · next hn =>
      obtain ⟨digits, hdigits, hvalue⟩ := ih (n / base) (Nat.div_lt_self (by omega) (by omega))
      have hlast := isDigit_digitChar hhigh (Nat.mod_lt n (by omega : 0 < base))
      refine ⟨digits ++ [n % base], List.rel_append hdigits (.cons hlast .nil), ?_⟩
      rw [List.reverse_append, List.reverse_singleton, List.singleton_append, Nat.ofDigits_cons,
        ← hvalue]
      exact (Nat.mod_add_div n base).symm

/-- Characters that belong to a numeral are digits in lower or upper case. -/
theorem IsNumeral.mem_digits {base : Nat} {t : Text} {n : Nat} (h : IsNumeral base t n) {c : Char}
    (hc : c ∈ t) : c ∈ lowerDigits ++ upperDigits := by
  obtain ⟨-, digits, hdigits, -⟩ := h
  induction hdigits with
  | nil => simp at hc
  | cons hd _ ih =>
    rcases List.mem_cons.mp hc with rfl | hrest
    · obtain ⟨-, h | h⟩ := hd
      · exact List.mem_append_left _ (List.mem_of_getElem? h)
      · exact List.mem_append_right _ (List.mem_of_getElem? h)
    · exact ih hrest

theorem IsNumeral.not_mem {base : Nat} {t : Text} {n : Nat} (h : IsNumeral base t n) {c : Char}
    (hc : c ∉ lowerDigits ++ upperDigits) : c ∉ t :=
  fun hmem => hc (h.mem_digits hmem)

theorem isDigit_digits : ∀ d < 16, (lowerDigits[d]?.toList ++ upperDigits[d]?.toList).all
    fun c => c.isDigit = decide (d < 10) := by
  decide

/-- A digit is decimal when its value is below ten. -/
theorem IsDigit.isDigit_iff {base : Nat} {c : Char} {d : Nat} (hbase : base ≤ 16)
    (h : IsDigit base c d) : c.isDigit ↔ d < 10 := by
  obtain ⟨hd, hc⟩ := h
  have hall := List.all_eq_true.mp (isDigit_digits d (by omega)) c (by simpa using hc)
  rw [of_decide_eq_true hall, decide_eq_true_eq]

theorem ofDigits_lt_of_forall₂ {base : Nat} {t : Text} {digits : List Nat} (hbase : 1 < base)
    (h : List.Forall₂ (IsDigit base) t digits) :
    Nat.ofDigits base digits.reverse < base ^ t.length := by
  have hlt : ∀ d ∈ digits, d < base := by
    induction h with
    | nil => simp
    | cons hd _ ih => exact List.forall_mem_cons.mpr ⟨hd.1, ih⟩
  rw [h.length_eq, ← List.length_reverse]
  exact Nat.ofDigits_lt_base_pow_length hbase fun d hd => hlt d (List.mem_reverse.mp hd)

theorem IsNumeral.lt_pow {base : Nat} {t : Text} {n : Nat} (hbase : 1 < base)
    (h : IsNumeral base t n) : n < base ^ t.length := by
  obtain ⟨-, digits, hdigits, rfl⟩ := h
  exact ofDigits_lt_of_forall₂ hbase hdigits

theorem ofDigits_reverse_cons (base d : Nat) (digits : List Nat) :
    Nat.ofDigits base (d :: digits).reverse =
      d * base ^ digits.length + Nat.ofDigits base digits.reverse := by
  rw [List.reverse_cons, Nat.ofDigits_append, Nat.ofDigits_singleton, List.length_reverse,
    Nat.add_comm, Nat.mul_comm]

/-- The first digit of a numeral gives the number up to what the other digits can add. -/
theorem IsNumeral.exists_lead {base : Nat} {c : Char} {rest : Text} {n : Nat} (hbase : 1 < base)
    (h : IsNumeral base (c :: rest) n) :
    ∃ d, IsDigit base c d ∧ d * base ^ rest.length ≤ n ∧ n < (d + 1) * base ^ rest.length := by
  obtain ⟨-, digits, hdigits, rfl⟩ := h
  cases hdigits with
  | @cons _ d _ digits hd hrest =>
    have hlt := ofDigits_lt_of_forall₂ hbase hrest
    refine ⟨d, hd, ?_, ?_⟩
    · rw [ofDigits_reverse_cons, hrest.length_eq]
      exact Nat.le_add_right _ _
    · rw [ofDigits_reverse_cons, ← hrest.length_eq, Nat.add_mul, Nat.one_mul]
      exact Nat.add_lt_add_left hlt _

/-- A zero in front does not change the number. -/
theorem IsNumeral.zero_cons {base : Nat} {t : Text} {n : Nat} (hbase : 0 < base)
    (h : IsNumeral base t n) : IsNumeral base ('0' :: t) n := by
  obtain ⟨-, digits, hdigits, rfl⟩ := h
  exact ⟨by simp, 0 :: digits, .cons ⟨hbase, Or.inl rfl⟩ hdigits, by simp⟩

theorem isNumeral_ofNatPadded {base : Nat} (hlow : 2 ≤ base) (hhigh : base ≤ 16) (width n : Nat) :
    IsNumeral base (ofNatPadded base width n) n := by
  rw [ofNatPadded]
  induction width - (ofNat base n).length with
  | zero => exact isNumeral_ofNat hlow hhigh n
  | succ count ih => exact ih.zero_cons (by omega)

end Forwarding.Text
