import Mathlib.Data.List.Range
import TcdOran.Lib.Decimal
import TcdOran.Lib.Text

/-! Dates and times of Python's `datetime` in the proleptic Gregorian calendar. -/
namespace TcdOran.Lib.Python

def isLeap (year : ℕ) : Bool := year % 4 = 0 ∧ (year % 100 ≠ 0 ∨ year % 400 = 0)

def daysInMonth (year month : ℕ) : ℕ :=
  if month = 2 then (if isLeap year then 29 else 28)
  else if month ∈ [4, 6, 9, 11] then 30 else 31

def daysBeforeYear (year : ℕ) : ℕ :=
  (year - 1) * 365 + (year - 1) / 4 - (year - 1) / 100 + (year - 1) / 400

def daysBeforeMonth (year month : ℕ) : ℕ :=
  ((List.range (month - 1)).map fun m => daysInMonth year (m + 1)).sum

structure DateTime where
  year : ℕ
  month : ℕ
  day : ℕ
  hour : ℕ
  minute : ℕ
  second : ℕ
  deriving DecidableEq

namespace DateTime

/-- What the constructor of `datetime` accepts. -/
def valid (t : DateTime) : Bool :=
  (1 ≤ t.year ∧ t.year ≤ 9999) ∧ (1 ≤ t.month ∧ t.month ≤ 12) ∧
    (1 ≤ t.day ∧ t.day ≤ daysInMonth t.year t.month) ∧ t.hour < 24 ∧ t.minute < 60 ∧ t.second < 60

/-- `date.toordinal`. -/
def ordinal (t : DateTime) : ℕ :=
  daysBeforeYear t.year + daysBeforeMonth t.year t.month + t.day

/-- The ordinal of 1970-01-01. -/
def epochOrdinal : ℕ := 719163

/-- `calendar.timegm`. -/
def epochSeconds (t : DateTime) : ℤ :=
  ((t.ordinal : ℤ) - epochOrdinal) * 86400 + t.hour * 3600 + t.minute * 60 + t.second

/-- `n` with leading zeros in two places. -/
def twoDigits (n : ℕ) : List ℕ := [48 + n / 10 % 10, 48 + n % 10]

/-- `isoformat` without an offset. -/
def iso (t : DateTime) : List ℕ :=
  twoDigits (t.year / 100) ++ twoDigits t.year ++ chars "-" ++ twoDigits t.month ++ chars "-" ++
    twoDigits t.day ++ chars "T" ++ twoDigits t.hour ++ chars ":" ++ twoDigits t.minute ++
    chars ":" ++ twoDigits t.second

theorem lt_of_mem_twoDigits {n u : ℕ} (h : u ∈ twoDigits n) : u < 128 := by
  simp only [twoDigits, List.mem_cons, List.not_mem_nil, or_false] at h
  omega

theorem lt_of_mem_iso {t : DateTime} {u : ℕ} (h : u ∈ t.iso) : u < 128 := by
  simp only [iso, List.mem_append] at h
  rcases h with (((((((((((h | h) | h) | h) | h) | h) | h) | h) | h) | h) | h) | h)
  all_goals first
    | exact lt_of_mem_twoDigits h
    | simp [chars] at h; omega

/-- The time of a text as `iso` writes it. -/
def ofIso (text : List ℕ) : Option DateTime :=
  let field (start width : ℕ) : ℕ := digitsValue ((text.drop start).take width)
  let t : DateTime := ⟨field 0 4, field 5 2, field 8 2, field 11 2, field 14 2, field 17 2⟩
  if t.valid ∧ t.iso = text then some t else none

theorem digitsValue_twoDigits {n : ℕ} (h : n < 100) : digitsValue (twoDigits n) = n := by
  have hsum : digitsValue (twoDigits n) = n / 10 % 10 * 10 + n % 10 := by
    simp [twoDigits, digitsValue, Nat.ofDigits_cons]
    omega
  omega

theorem ofIso_iso {t : DateTime} (h : t.valid = true) : ofIso t.iso = some t := by
  have hvalid := h
  simp only [valid, decide_eq_true_eq] at hvalid
  obtain ⟨⟨-, hyear⟩, ⟨-, hmonth⟩, ⟨-, hday⟩, hhour, hminute, hsecond⟩ := hvalid
  have hdays : daysInMonth t.year t.month ≤ 31 := by
    unfold daysInMonth
    split_ifs <;> omega
  have hfour : digitsValue (twoDigits (t.year / 100) ++ twoDigits t.year) = t.year := by
    have hsum : digitsValue (twoDigits (t.year / 100) ++ twoDigits t.year) =
        t.year / 100 / 10 % 10 * 1000 + t.year / 100 % 10 * 100 + t.year / 10 % 10 * 10 +
          t.year % 10 := by
      simp [twoDigits, digitsValue, Nat.ofDigits_cons]
      omega
    omega
  have hfields : (⟨digitsValue ((t.iso.drop 0).take 4), digitsValue ((t.iso.drop 5).take 2),
      digitsValue ((t.iso.drop 8).take 2), digitsValue ((t.iso.drop 11).take 2),
      digitsValue ((t.iso.drop 14).take 2), digitsValue ((t.iso.drop 17).take 2)⟩ : DateTime) =
      t := by
    rw [show (t.iso.drop 0).take 4 = twoDigits (t.year / 100) ++ twoDigits t.year from rfl,
      show (t.iso.drop 5).take 2 = twoDigits t.month from rfl,
      show (t.iso.drop 8).take 2 = twoDigits t.day from rfl,
      show (t.iso.drop 11).take 2 = twoDigits t.hour from rfl,
      show (t.iso.drop 14).take 2 = twoDigits t.minute from rfl,
      show (t.iso.drop 17).take 2 = twoDigits t.second from rfl, hfour,
      digitsValue_twoDigits (by omega), digitsValue_twoDigits (by omega),
      digitsValue_twoDigits (by omega), digitsValue_twoDigits (by omega),
      digitsValue_twoDigits (by omega)]
  simp only [ofIso, hfields, h, and_self, if_true]

end DateTime

/-- A reading of the clock in UTC. -/
structure UtcReading where
  time : DateTime
  microsecond : ℕ
  time_valid : time.valid = true
  microsecond_lt : microsecond < 1000000

/-- Microseconds since the epoch. -/
def UtcReading.micros (now : UtcReading) : ℤ := now.time.epochSeconds * 1000000 + now.microsecond

/-- `replace(microsecond=0)` rounds down to the second. -/
theorem UtcReading.micros_ediv (now : UtcReading) :
    now.micros / 1000000 = now.time.epochSeconds := by
  have := now.microsecond_lt
  unfold micros
  omega

example : (DateTime.mk 1970 1 1 0 0 0).epochSeconds = 0 ∧
    (DateTime.mk 2026 10 4 9 18 27).epochSeconds = 1791105507 := by decide

end TcdOran.Lib.Python
