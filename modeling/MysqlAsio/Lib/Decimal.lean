import Mathlib.Data.Nat.Log
import Mathlib.Tactic.Ring

/-!
Numbers as ASCII decimal digits, in a fixed width or in a width they may exceed.
-/

namespace MysqlAsio.Lib.Decimal

/-- The `width` low digits of `n`, most significant first. -/
def decimal : ℕ → ℕ → List UInt8
  | 0, _ => []
  | width + 1, n => decimal width (n / 10) ++ [UInt8.ofNat (0x30 + n % 10)]

/-- The number that digits stand for. -/
def ofDecimal (digits : List UInt8) : ℕ := digits.foldl (fun n b => 10 * n + (b.toNat - 0x30)) 0

@[simp] lemma decimal_length (width n : ℕ) : (decimal width n).length = width := by
  induction width generalizing n with
  | zero => rfl
  | succ width ih => rw [decimal, List.length_append, ih, List.length_singleton]

lemma digit_toNat (n : ℕ) : (UInt8.ofNat (0x30 + n % 10)).toNat = 0x30 + n % 10 :=
  UInt8.toNat_ofNat_of_lt' (by
    show 0x30 + n % 10 < 256
    omega)

lemma mem_decimal {width n : ℕ} {b : UInt8} (h : b ∈ decimal width n) :
    0x30 ≤ b.toNat ∧ b.toNat ≤ 0x39 := by
  induction width generalizing n with
  | zero => cases h
  | succ width ih =>
    rw [decimal, List.mem_append, List.mem_singleton] at h
    rcases h with h | rfl
    · exact ih h
    · rw [digit_toNat]
      omega

lemma ofDecimal_decimal (width n : ℕ) : ofDecimal (decimal width n) = n % 10 ^ width := by
  induction width generalizing n with
  | zero => simp [decimal, ofDecimal, Nat.mod_one]
  | succ width ih =>
    calc ofDecimal (decimal (width + 1) n)
        = 10 * ofDecimal (decimal width (n / 10)) + (0x30 + n % 10 - 0x30) := by
          rw [ofDecimal, decimal, List.foldl_append, List.foldl_cons, List.foldl_nil, digit_toNat]
          rfl
      _ = n % 10 + 10 * (n / 10 % 10 ^ width) := by rw [ih]; omega
      _ = n % 10 ^ (width + 1) := by rw [pow_succ', Nat.mod_mul]

lemma ofDecimal_decimal_of_lt {width n : ℕ} (h : n < 10 ^ width) :
    ofDecimal (decimal width n) = n := by
  rw [ofDecimal_decimal, Nat.mod_eq_of_lt h]

/-! ### Widths that a number may exceed -/

/-- How many digits a number has. -/
def digitCount (n : ℕ) : ℕ := Nat.log 10 n + 1

/-- All the digits of a number, with zeros before them where it has less than `width`. -/
def zeroPadded (width n : ℕ) : List UInt8 := decimal (max width (digitCount n)) n

lemma lt_pow_digitCount (n : ℕ) : n < 10 ^ digitCount n := Nat.lt_pow_succ_log_self (by decide) n

lemma digitCount_le {width n : ℕ} (h0 : width ≠ 0) (h : n < 10 ^ width) : digitCount n ≤ width :=
  Nat.log_lt_of_lt_pow' h0 h

lemma zeroPadded_of_lt {width n : ℕ} (h0 : width ≠ 0) (h : n < 10 ^ width) :
    zeroPadded width n = decimal width n := by
  rw [zeroPadded, max_eq_left (digitCount_le h0 h)]

end MysqlAsio.Lib.Decimal
