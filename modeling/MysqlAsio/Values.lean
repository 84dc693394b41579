import MysqlAsio.CommonMessages
import MysqlAsio.Lib.Civil

/-!
Database values and their ranges.

Dates are days and datetimes microseconds from 1970-01-01, times are microseconds;
floating-point numbers are their bit patterns.
-/

namespace MysqlAsio.Values

open MysqlAsio.Errors MysqlAsio.Lib.Civil

/-- `value::variant_type`. -/
inductive Value
  | null
  | int64 (v : Int64)
  | uint64 (v : UInt64)
  | string (v : Bytes)
  | float (bits : UInt32)
  | double (bits : UInt64)
  | date (days : ℤ)
  | datetime (micros : ℤ)
  | time (micros : ℤ)
  deriving DecidableEq, Repr

def Value.isNull (v : Value) : Bool := v = .null

/-! ### Durations, in microseconds -/

def second : ℕ := 1000000
def minute : ℕ := 60 * second
def hour : ℕ := 60 * minute
def day : ℕ := 24 * hour

/-! ### Ranges -/

def maxYear : ℕ := 9999
def maxMonth : ℕ := 12
def maxDay : ℕ := 31
def maxHour : ℕ := 23
def maxMin : ℕ := 59
def maxSec : ℕ := 59
def maxMicro : ℕ := 999999

def minDate : ℤ := toDays ⟨0, 1, 1⟩
def maxDate : ℤ := toDays ⟨9999, 12, 31⟩
def minDatetime : ℤ := minDate * day
def maxDatetime : ℤ := maxDate * day + 24 * hour - 1
def minTime : ℤ := -(839 * hour)
def maxTime : ℤ := 839 * hour

def isOutOfRange (d : ℤ) : Bool := d < minDate || maxDate < d

/-- `std::isnan(v) || std::isinf(v)`: the bits of the exponent are all set. -/
def floatNotFinite (bits : UInt32) : Bool := bits.toNat / 2 ^ 23 % 2 ^ 8 = 2 ^ 8 - 1

/-- The same for a `double`. -/
def doubleNotFinite (bits : UInt64) : Bool := bits.toNat / 2 ^ 52 % 2 ^ 11 = 2 ^ 11 - 1

/-- The documented range of a value. The length of a string is a `size_t`. -/
def Value.InRange : Value → Prop
  | .null | .int64 _ | .uint64 _ => True
  | .string v => v.length < 2 ^ 64
  | .float bits => floatNotFinite bits = false
  | .double bits => doubleNotFinite bits = false
  | .date d => minDate ≤ d ∧ d ≤ maxDate
  | .datetime t => minDatetime ≤ t ∧ t ≤ maxDatetime
  | .time t => minTime ≤ t ∧ t ≤ maxTime

instance (v : Value) : Decidable v.InRange := by
  cases v <;> unfold Value.InRange <;> infer_instance

lemma isOutOfRange_eq_false_iff (d : ℤ) :
    isOutOfRange d = false ↔ minDate ≤ d ∧ d ≤ maxDate := by
  simp [isOutOfRange]

lemma inRange_iff_year (d : ℤ) :
    minDate ≤ d ∧ d ≤ maxDate ↔ 0 ≤ (ofDays d).year ∧ (ofDays d).year ≤ 9999 := by
  have h0 := le_year_iff 0 d
  have h1 := le_year_iff 10000 d
  have hmax : toDays ⟨10000, 1, 1⟩ = maxDate + 1 := by decide
  rw [hmax] at h1
  rw [show minDate = toDays ⟨0, 1, 1⟩ from rfl, ← h0]
  omega

end MysqlAsio.Values
