import Mathlib.Data.Nat.Digits.Lemmas
import TcdOran.Lib.Text

/-! Decimal notation of integers, as `printf` writes it. -/
namespace TcdOran.Lib

def isDigit (u : ℕ) : Bool := 48 ≤ u ∧ u ≤ 57

/-- The digits of a natural number, most significant first; zero has one digit. -/
def decimalDigits (n : ℕ) : List ℕ := if n = 0 then [0] else (Nat.digits 10 n).reverse

/-- The digit characters of a natural number. -/
def decimalUnits (n : ℕ) : List ℕ := (decimalDigits n).map (48 + ·)

/-- `%u`, `%llu`. -/
def decimal (n : ℕ) : List UInt8 := (decimalUnits n).map UInt8.ofNat

/-- `%lld`. -/
def signedDecimal (z : ℤ) : List UInt8 :=
  if z < 0 then 45 :: decimal z.natAbs else decimal z.natAbs

/-- The number a list of digit characters denotes. -/
def digitsValue (ds : List ℕ) : ℕ := Nat.ofDigits 10 (ds.reverse.map (· - 48))

theorem decimalDigits_lt {n d : ℕ} (hd : d ∈ decimalDigits n) : d < 10 := by
  unfold decimalDigits at hd
  split at hd
  · simp_all
  · exact Nat.digits_lt_base (by norm_num) (List.mem_reverse.mp hd)

theorem decimalDigits_ne_nil (n : ℕ) : decimalDigits n ≠ [] := by
  unfold decimalDigits
  split
  · simp
  · simpa using Nat.digits_ne_nil_iff_ne_zero.mpr ‹_›

/-- Only zero is written with a leading zero. -/
theorem decimalDigits_head {n d : ℕ} {ds : List ℕ} (h : decimalDigits n = d :: ds) :
    (d = 0 ∧ ds = [] ∧ n = 0) ∨ (0 < d ∧ n ≠ 0) := by
  unfold decimalDigits at h
  split at h
  · simp_all
  · next hn =>
    right
    have hlast := Nat.getLast_digit_ne_zero 10 hn
    rw [List.getLast_eq_head_reverse] at hlast
    simp only [h, List.head_cons] at hlast
    exact ⟨Nat.pos_of_ne_zero hlast, hn⟩

theorem ofDigits_decimalDigits (n : ℕ) : Nat.ofDigits 10 (decimalDigits n).reverse = n := by
  unfold decimalDigits
  split
  · simp_all
  · simpa using Nat.ofDigits_digits 10 n

theorem length_decimalDigits_le {n k : ℕ} (hk : 0 < k) (hn : n < 10 ^ k) :
    (decimalDigits n).length ≤ k := by
  unfold decimalDigits
  split
  · exact hk
  · simpa using (Nat.digits_length_le_iff (by norm_num) n).mpr hn

theorem isDigit_of_mem_decimalUnits {n u : ℕ} (hu : u ∈ decimalUnits n) : isDigit u := by
  obtain ⟨d, hd, rfl⟩ := List.mem_map.mp hu
  have := decimalDigits_lt hd
  simp only [isDigit, decide_eq_true_eq]
  omega

/-- Units below 256 survive the passage through bytes. -/
theorem toNat_ofNat_units {us : List ℕ} (h : ∀ u ∈ us, u < 256) :
    (us.map UInt8.ofNat).map UInt8.toNat = us := by
  rw [List.map_map]
  conv_rhs => rw [← List.map_id us]
  apply List.map_congr_left
  intro u hu
  simpa using Nat.mod_eq_of_lt (h u hu)

theorem lt_256_of_isDigit {u : ℕ} (h : isDigit u) : u < 256 := by
  simp only [isDigit, decide_eq_true_eq] at h
  omega

@[simp] theorem toNat_decimal (n : ℕ) : (decimal n).map UInt8.toNat = decimalUnits n :=
  toNat_ofNat_units fun _ hu => lt_256_of_isDigit (isDigit_of_mem_decimalUnits hu)

@[simp] theorem digitsValue_decimalUnits (n : ℕ) : digitsValue (decimalUnits n) = n := by
  rw [digitsValue, decimalUnits, ← List.map_reverse, List.map_map]
  have hid : ((fun x : ℕ => x - 48) ∘ fun x => 48 + x) = id := by
    funext x
    simp
  rw [hid, List.map_id, ofDigits_decimalDigits]

theorem length_decimalUnits_le {n k : ℕ} (hk : 0 < k) (hn : n < 10 ^ k) :
    (decimalUnits n).length ≤ k := by
  simpa [decimalUnits] using length_decimalDigits_le hk hn

theorem length_decimal_le {n k : ℕ} (hk : 0 < k) (hn : n < 10 ^ k) :
    (decimal n).length ≤ k := by
  simpa [decimal] using length_decimalUnits_le hk hn

theorem length_signedDecimal_le {z : ℤ} {k : ℕ} (hk : 0 < k) (hz : z.natAbs < 10 ^ k) :
    (signedDecimal z).length ≤ k + 1 := by
  have := length_decimal_le hk hz
  unfold signedDecimal
  split
  · simpa using this
  · omega

theorem plainAscii_decimal (n : ℕ) : PlainAscii (decimal n) := by
  intro b hb
  obtain ⟨u, hu, rfl⟩ := List.mem_map.mp hb
  have hdigit := isDigit_of_mem_decimalUnits hu
  simp only [isDigit, decide_eq_true_eq] at hdigit
  have hval : (UInt8.ofNat u).toNat = u := by
    rw [UInt8.toNat_ofNat', Nat.mod_eq_of_lt (by omega)]
  refine ⟨fun h0 => ?_, by omega⟩
  rw [h0] at hval
  simp only [UInt8.toNat_zero] at hval
  omega

theorem decimalUnits_ne_nil (n : ℕ) : decimalUnits n ≠ [] := by
  simpa [decimalUnits] using decimalDigits_ne_nil n

/-- A leading zero character is the whole text of zero. -/
theorem decimalUnits_head {n u : ℕ} {us : List ℕ} (h : decimalUnits n = u :: us) :
    (u = 48 ∧ us = [] ∧ n = 0) ∨ (49 ≤ u ∧ n ≠ 0) := by
  obtain ⟨d, ds, hds, rfl, rfl⟩ := List.map_eq_cons_iff.mp h
  rcases decimalDigits_head hds with ⟨rfl, rfl, hn⟩ | ⟨hd, hn⟩
  · exact .inl ⟨rfl, rfl, hn⟩
  · exact .inr ⟨by omega, hn⟩

theorem digitsValue_append (as bs : List ℕ) :
    digitsValue (as ++ bs) = digitsValue as * 10 ^ bs.length + digitsValue bs := by
  simp only [digitsValue, List.reverse_append, List.map_append, Nat.ofDigits_append,
    List.length_map, List.length_reverse]
  ring

@[simp] theorem digitsValue_replicate_zero (n : ℕ) :
    digitsValue (List.replicate n 48) = 0 := by
  induction n with
  | zero => rfl
  | succ n ih => rw [List.replicate_succ', digitsValue_append, ih]; rfl

/-- The length of the text of a number with a known number of digits. -/
theorem length_decimalUnits {n k : ℕ} (hlo : 10 ^ k ≤ n) (hhi : n < 10 ^ (k + 1)) :
    (decimalUnits n).length = k + 1 := by
  have hn : n ≠ 0 := by
    have : 0 < 10 ^ k := by positivity
    omega
  have hle := length_decimalUnits_le (Nat.succ_pos k) hhi
  have hge : ¬ (Nat.digits 10 n).length ≤ k := by
    rw [Nat.digits_length_le_iff (by norm_num)]
    omega
  have hlen : (decimalUnits n).length = (Nat.digits 10 n).length := by
    simp [decimalUnits, decimalDigits, hn]
  omega

example : decimal 1805 = bytes "1805" := by decide

end TcdOran.Lib
