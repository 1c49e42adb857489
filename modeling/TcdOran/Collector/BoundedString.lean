import Mathlib.Tactic
import TcdOran.Lib.Text

/-! `bounded_string_valid` of canonical_serialize.c: its scan accepts exactly the terminated
arrays whose string is well-formed UTF-8. -/
namespace TcdOran.Collector
open TcdOran.Lib

/-- The payload bits of a multi-byte lead and the number of continuation bytes it announces. -/
def leadPayload (lead : UInt8) : Option (ℕ × ℕ) :=
  if 0xC2 ≤ lead ∧ lead ≤ 0xDF then some ((lead &&& 0x1F).toNat, 1)
  else if 0xE0 ≤ lead ∧ lead ≤ 0xEF then some ((lead &&& 0x0F).toNat, 2)
  else if 0xF0 ≤ lead ∧ lead ≤ 0xF4 then some ((lead &&& 0x07).toNat, 3)
  else none

def appendContinuation (codepoint : ℕ) (next : UInt8) : Option ℕ :=
  if next &&& 0xC0 ≠ 0x80 then none
  else some ((codepoint <<< 6) ||| (next &&& 0x3F).toNat)

/-- Overlong forms, values past U+10FFFF and surrogates. -/
def codepointRejected (continuationCount codepoint : ℕ) : Bool :=
  (continuationCount == 1 && codepoint < 0x80) ||
  (continuationCount == 2 && codepoint < 0x800) ||
  (continuationCount == 3 && codepoint < 0x10000) ||
  codepoint > 0x10FFFF ||
  (codepoint ≥ 0xD800 && codepoint ≤ 0xDFFF)

/-- One round of the scan: what is left behind the character at the front. -/
def scanCharacter (lead : UInt8) (rest : List UInt8) : Option (List UInt8) :=
  if lead ≤ 0x7F then some rest
  else do
    let (payload, continuationCount) ← leadPayload lead
    if continuationCount > rest.length then none
    else
      let codepoint ← (rest.take continuationCount).foldlM appendContinuation payload
      if codepointRejected continuationCount codepoint then none
      else some (rest.drop continuationCount)

/-- `while (index < length)`; every round consumes at least one of the bytes. -/
def scanUtf8 : ℕ → List UInt8 → Bool
  | 0, text => text.isEmpty
  | _ + 1, [] => true
  | fuel + 1, lead :: rest =>
      match scanCharacter lead rest with
      | none => false
      | some left => scanUtf8 fuel left

def boundedStringValid {capacity : ℕ} (value : CharArray capacity) : Bool :=
  decide value.Terminated && scanUtf8 capacity value.cString

def optionalStringValid {capacity : ℕ} (present : Bool) (value : CharArray capacity) : Bool :=
  !present || boundedStringValid value

/-- What the scan accepts. -/
def ValidString {capacity : ℕ} (value : CharArray capacity) : Prop :=
  value.Terminated ∧ WellFormedUtf8 value.cString

/-! ### The bit operations as arithmetic -/

theorem toNat_and_mask (b : UInt8) {m k : ℕ} (hm : m = 2 ^ k - 1) (hk : m < 256) :
    (b &&& UInt8.ofNat m).toNat = b.toNat % 2 ^ k := by
  have hmod : m % 2 ^ 8 = m := Nat.mod_eq_of_lt hk
  rw [UInt8.toNat_and, UInt8.toNat_ofNat', hmod, hm, Nat.and_two_pow_sub_one_eq_mod]

theorem and_continuation_iff (b : UInt8) : b &&& 0xC0 = 0x80 ↔ b.toNat / 64 = 2 := by
  have h : ∀ n : Fin 256, (UInt8.ofNat n.val &&& 0xC0 = 0x80) ↔ n.val / 64 = 2 := by
    decide +kernel
  have := h ⟨b.toNat, b.toNat_lt⟩
  simpa using this

theorem appendContinuation_eq_some {codepoint v : ℕ} {next : UInt8} :
    appendContinuation codepoint next = some v ↔
      next.toNat / 64 = 2 ∧ v = codepoint * 64 + next.toNat % 64 := by
  have hmask : (next &&& 0x3F).toNat = next.toNat % 64 :=
    toNat_and_mask next (m := 63) (k := 6) (by norm_num) (by norm_num)
  have hor : (codepoint <<< 6) ||| (next.toNat % 64) = codepoint * 64 + next.toNat % 64 := by
    rw [← Nat.shiftLeft_add_eq_or_of_lt (Nat.mod_lt _ (by norm_num)), Nat.shiftLeft_eq]
  unfold appendContinuation
  rw [hmask, hor, ite_not]
  split
  · next h => simp [(and_continuation_iff next).mp h, eq_comm]
  · next h =>
    have h' : next.toNat / 64 ≠ 2 := fun h' => h ((and_continuation_iff next).mpr h')
    simp [h']

theorem leadPayload_eq_some {lead : UInt8} {payload count : ℕ} :
    leadPayload lead = some (payload, count) ↔
      (0xC2 ≤ lead.toNat ∧ lead.toNat ≤ 0xDF ∧ payload = lead.toNat % 32 ∧ count = 1) ∨
      (0xE0 ≤ lead.toNat ∧ lead.toNat ≤ 0xEF ∧ payload = lead.toNat % 16 ∧ count = 2) ∨
      (0xF0 ≤ lead.toNat ∧ lead.toNat ≤ 0xF4 ∧ payload = lead.toNat % 8 ∧ count = 3) := by
  have h1F : (lead &&& 0x1F).toNat = lead.toNat % 32 :=
    toNat_and_mask lead (m := 31) (k := 5) (by norm_num) (by norm_num)
  have h0F : (lead &&& 0x0F).toNat = lead.toNat % 16 :=
    toNat_and_mask lead (m := 15) (k := 4) (by norm_num) (by norm_num)
  have h07 : (lead &&& 0x07).toNat = lead.toNat % 8 :=
    toNat_and_mask lead (m := 7) (k := 3) (by norm_num) (by norm_num)
  simp only [leadPayload, h1F, h0F, h07, UInt8.le_iff_toNat_le, UInt8.reduceToNat]
  split_ifs <;> simp only [Option.some.injEq, Prod.mk.injEq, false_iff] <;> omega

theorem codepointRejected_eq_false {count codepoint : ℕ} :
    codepointRejected count codepoint = false ↔
      (count = 1 → 0x80 ≤ codepoint) ∧ (count = 2 → 0x800 ≤ codepoint) ∧
      (count = 3 → 0x10000 ≤ codepoint) ∧ codepoint ≤ 0x10FFFF ∧
      ¬ (0xD800 ≤ codepoint ∧ codepoint ≤ 0xDFFF) := by
  simp only [codepointRejected, Bool.or_eq_false_iff, Bool.and_eq_false_iff, beq_eq_false_iff_ne,
    decide_eq_false_iff_not]
  omega

/-! ### One character -/

theorem scanCharacter_eq_some {lead : UInt8} {rest left : List UInt8} :
    scanCharacter lead rest = some left ↔
      (lead.toNat ≤ 0x7F ∧ rest = left) ∨
      (0x7F < lead.toNat ∧ ∃ payload continuation v, rest = continuation ++ left ∧
        leadPayload lead = some (payload, continuation.length) ∧
        continuation.foldlM appendContinuation payload = some v ∧
        codepointRejected continuation.length v = false) := by
  have hle : lead ≤ 0x7F ↔ lead.toNat ≤ 0x7F := UInt8.le_iff_toNat_le
  unfold scanCharacter
  split
  · next h => simp [hle.mp h, Nat.not_lt.mpr (hle.mp h)]
  · next h =>
    have hgt : 0x7F < lead.toNat := Nat.lt_of_not_le fun h' => h (hle.mpr h')
    simp only [Nat.not_le.mpr hgt, false_and, false_or, hgt, true_and, Option.bind_eq_bind,
      Option.bind_eq_some_iff]
    constructor
    · rintro ⟨⟨payload, count⟩, hlead, hscan⟩
      simp only at hscan
      split at hscan
      · simp at hscan
      · next hlen =>
        simp only [Option.bind_eq_some_iff] at hscan
        obtain ⟨v, hfold, hv⟩ := hscan
        split at hv
        · simp at hv
        · next hrej =>
          have htake : (rest.take count).length = count := by
            rw [List.length_take]
            omega
          refine ⟨payload, rest.take count, v, ?_, by rw [htake]; exact hlead, hfold, ?_⟩
          · rw [← Option.some.inj hv, List.take_append_drop]
          · simpa [htake] using hrej
    · rintro ⟨payload, cs, v, rfl, hlead, hfold, hrej⟩
      refine ⟨(payload, cs.length), hlead, ?_⟩
      simp [hfold, hrej]

theorem ofNat_eq {k : ℕ} {b : UInt8} (h : k = b.toNat) : UInt8.ofNat k = b := by
  rw [h, UInt8.ofNat_toNat]

theorem encode_of_scanCharacter {lead : UInt8} {rest left : List UInt8}
    (h : scanCharacter lead rest = some left) :
    ∃ c, lead :: rest = String.utf8EncodeChar c ++ left := by
  rcases scanCharacter_eq_some.mp h with ⟨hle, rfl⟩ | ⟨-, payload, cs, v, rfl, hlead, hfold, hrej⟩
  · obtain ⟨c, hc⟩ := exists_char (v := lead.toNat) (.inl (by omega))
    exact ⟨c, by simp [String.utf8EncodeChar, hc, hle]⟩
  obtain ⟨h1, h2, h3, hmax, hsur⟩ := codepointRejected_eq_false.mp hrej
  obtain ⟨c, hc⟩ := exists_char (v := v) (by omega)
  refine ⟨c, ?_⟩
  rcases leadPayload_eq_some.mp hlead with ⟨hlo, hhi, rfl, hn⟩ | ⟨hlo, hhi, rfl, hn⟩ |
    ⟨hlo, hhi, rfl, hn⟩
  · obtain ⟨b₁, rfl⟩ := List.length_eq_one_iff.mp hn
    simp only [List.foldlM_cons, List.foldlM_nil, Option.bind_eq_bind, Option.bind_eq_some_iff,
      appendContinuation_eq_some] at hfold
    obtain ⟨v₁, ⟨hb₁, rfl⟩, hv⟩ := hfold
    obtain rfl := Option.some.inj hv
    have := h1 rfl
    rw [String.utf8EncodeChar]
    simp only [hc]
    rw [if_neg (by omega), if_pos (by omega), ofNat_eq (b := lead) (by omega),
      ofNat_eq (b := b₁) (by omega)]
    rfl
  · obtain ⟨b₁, b₂, rfl⟩ := List.length_eq_two.mp hn
    simp only [List.foldlM_cons, List.foldlM_nil, Option.bind_eq_bind, Option.bind_eq_some_iff,
      appendContinuation_eq_some] at hfold
    obtain ⟨v₁, ⟨hb₁, rfl⟩, v₂, ⟨hb₂, rfl⟩, hv⟩ := hfold
    obtain rfl := Option.some.inj hv
    have := h2 rfl
    rw [String.utf8EncodeChar]
    simp only [hc]
    rw [if_neg (by omega), if_neg (by omega), if_pos (by omega), ofNat_eq (b := lead) (by omega),
      ofNat_eq (b := b₁) (by omega), ofNat_eq (b := b₂) (by omega)]
    rfl
  · obtain ⟨b₁, b₂, b₃, rfl⟩ := List.length_eq_three.mp hn
    simp only [List.foldlM_cons, List.foldlM_nil, Option.bind_eq_bind, Option.bind_eq_some_iff,
      appendContinuation_eq_some] at hfold
    obtain ⟨v₁, ⟨hb₁, rfl⟩, v₂, ⟨hb₂, rfl⟩, v₃, ⟨hb₃, rfl⟩, hv⟩ := hfold
    obtain rfl := Option.some.inj hv
    have := h3 rfl
    rw [String.utf8EncodeChar]
    simp only [hc]
    rw [if_neg (by omega), if_neg (by omega), if_neg (by omega), ofNat_eq (b := lead) (by omega),
      ofNat_eq (b := b₁) (by omega), ofNat_eq (b := b₂) (by omega), ofNat_eq (b := b₃) (by omega)]
    rfl

theorem scanCharacter_encode (c : Char) (left : List UInt8) :
    ∃ lead rest, String.utf8EncodeChar c ++ left = lead :: rest ∧
      scanCharacter lead rest = some left := by
  have hvalid : c.val.toNat < 0xD800 ∨ (0xDFFF < c.val.toNat ∧ c.val.toNat < 0x110000) := c.valid
  have hbyte (k : ℕ) (hk : k < 256) : (UInt8.ofNat k).toNat = k := by
    rw [UInt8.toNat_ofNat', Nat.mod_eq_of_lt hk]
  rw [String.utf8EncodeChar]
  set v := c.val.toNat
  split_ifs with h₁ h₂ h₃
  · refine ⟨_, _, rfl, scanCharacter_eq_some.mpr (.inl ⟨?_, rfl⟩)⟩
    rw [hbyte _ (by omega)]
    exact h₁
  · refine ⟨_, _, rfl, scanCharacter_eq_some.mpr (.inr ⟨?_, v / 64 % 32, [_], v, rfl, ?_, ?_, ?_⟩)⟩
    · rw [hbyte _ (by omega)]
      omega
    · refine leadPayload_eq_some.mpr (.inl ?_)
      rw [hbyte _ (by omega)]
      simp only [List.length_singleton, and_true]
      omega
    · simp only [List.foldlM_cons, List.foldlM_nil, Option.bind_eq_bind, Option.bind_eq_some_iff,
        appendContinuation_eq_some]
      exact ⟨v, ⟨by rw [hbyte _ (by omega)]; omega, by rw [hbyte _ (by omega)]; omega⟩, rfl⟩
    · rw [codepointRejected_eq_false, List.length_singleton]
      omega
  · refine ⟨_, _, rfl, scanCharacter_eq_some.mpr
      (.inr ⟨?_, v / 4096 % 16, [_, _], v, rfl, ?_, ?_, ?_⟩)⟩
    · rw [hbyte _ (by omega)]
      omega
    · refine leadPayload_eq_some.mpr (.inr (.inl ?_))
      rw [hbyte _ (by omega)]
      simp only [List.length_cons, List.length_nil, Nat.reduceAdd, and_true]
      omega
    · simp only [List.foldlM_cons, List.foldlM_nil, Option.bind_eq_bind, Option.bind_eq_some_iff,
        appendContinuation_eq_some]
      exact ⟨v / 64, ⟨by rw [hbyte _ (by omega)]; omega, by rw [hbyte _ (by omega)]; omega⟩,
        v, ⟨by rw [hbyte _ (by omega)]; omega, by rw [hbyte _ (by omega)]; omega⟩, rfl⟩
    · simp only [codepointRejected_eq_false, List.length_cons, List.length_nil]
      omega
  · refine ⟨_, _, rfl, scanCharacter_eq_some.mpr
      (.inr ⟨?_, v / 262144 % 8, [_, _, _], v, rfl, ?_, ?_, ?_⟩)⟩
    · rw [hbyte _ (by omega)]
      omega
    · refine leadPayload_eq_some.mpr (.inr (.inr ?_))
      rw [hbyte _ (by omega)]
      simp only [List.length_cons, List.length_nil, Nat.reduceAdd, and_true]
      omega
    · simp only [List.foldlM_cons, List.foldlM_nil, Option.bind_eq_bind, Option.bind_eq_some_iff,
        appendContinuation_eq_some]
      exact ⟨v / 4096, ⟨by rw [hbyte _ (by omega)]; omega, by rw [hbyte _ (by omega)]; omega⟩,
        v / 64, ⟨by rw [hbyte _ (by omega)]; omega, by rw [hbyte _ (by omega)]; omega⟩,
        v, ⟨by rw [hbyte _ (by omega)]; omega, by rw [hbyte _ (by omega)]; omega⟩, rfl⟩
    · simp only [codepointRejected_eq_false, List.length_cons, List.length_nil]
      omega

theorem scanCharacter_length {lead : UInt8} {rest left : List UInt8}
    (h : scanCharacter lead rest = some left) : left.length ≤ rest.length := by
  rcases scanCharacter_eq_some.mp h with ⟨-, rfl⟩ | ⟨-, _, cs, _, rfl, -⟩ <;> simp

/-! ### The scan -/

theorem scanUtf8_iff {fuel : ℕ} {text : List UInt8} (h : text.length ≤ fuel) :
    scanUtf8 fuel text = true ↔ WellFormedUtf8 text := by
  induction fuel generalizing text with
  | zero =>
    obtain rfl : text = [] := List.eq_nil_of_length_eq_zero (by omega)
    simpa [scanUtf8] using ⟨[], rfl⟩
  | succ fuel ih =>
    cases text with
    | nil => simpa [scanUtf8] using ⟨[], rfl⟩
    | cons lead rest =>
      have hrest : rest.length ≤ fuel := by simpa using h
      rw [scanUtf8]
      constructor
      · intro hscan
        split at hscan
        · simp at hscan
        · next left hchar =>
          have hleft := (scanCharacter_length hchar).trans hrest
          obtain ⟨c, hc⟩ := encode_of_scanCharacter hchar
          obtain ⟨cs, rfl⟩ := (ih hleft).mp hscan
          exact ⟨c :: cs, hc⟩
      · rintro ⟨cs, hcs⟩
        cases cs with
        | nil => simp [encodeUtf8] at hcs
        | cons c cs =>
          obtain ⟨lead', rest', heq, hchar⟩ := scanCharacter_encode c (encodeUtf8 cs)
          obtain ⟨rfl, rfl⟩ := List.cons.inj (hcs.trans heq)
          have hleft := (scanCharacter_length hchar).trans hrest
          simp only [hchar]
          exact (ih hleft).mpr ⟨cs, rfl⟩

theorem boundedStringValid_iff {capacity : ℕ} {value : CharArray capacity} :
    boundedStringValid value = true ↔ ValidString value := by
  rw [boundedStringValid, Bool.and_eq_true, decide_eq_true_eq, ValidString]
  exact and_congr_right fun hterm => scanUtf8_iff (CharArray.length_cString_lt hterm).le

theorem optionalStringValid_iff {capacity : ℕ} {present : Bool} {value : CharArray capacity} :
    optionalStringValid present value = true ↔ (present = true → ValidString value) := by
  rw [optionalStringValid, Bool.or_eq_true, boundedStringValid_iff]
  cases present <;> simp

theorem validString_store {n : ℕ} (d : CharArray n) {text : List UInt8} (hn : 0 < n)
    (h : PlainAscii text) : ValidString (d.store text) := by
  refine ⟨CharArray.terminated_store d text hn, ?_⟩
  rw [CharArray.cString_store d hn h.zero_notMem]
  exact (h.take _).wellFormedUtf8

end TcdOran.Collector
