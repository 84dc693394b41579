import Mathlib.Data.Nat.Bitwise
import Mathlib.Tactic.IntervalCases
import MysqlAsio.Errors

/-!
The bitmap that says which fields of a binary row, or which parameters, are NULL.
-/

namespace MysqlAsio.NullBitmap

open MysqlAsio.Errors

/-- `null_bitmap_traits`. -/
structure NullBitmapTraits where
  offset : ℕ
  numFields : ℕ
  deriving DecidableEq, Repr

namespace NullBitmapTraits

def bytePos (t : NullBitmapTraits) (fieldPos : ℕ) : ℕ := (fieldPos + t.offset) / 8
def bitPos (t : NullBitmapTraits) (fieldPos : ℕ) : ℕ := (fieldPos + t.offset) % 8
def byteCount (t : NullBitmapTraits) : ℕ := (t.numFields + 7 + t.offset) / 8

/-- `1 << bit_pos(field_pos)`. -/
def mask (t : NullBitmapTraits) (fieldPos : ℕ) : UInt8 := 1 <<< UInt8.ofNat (t.bitPos fieldPos)

def isNull (t : NullBitmapTraits) (bitmap : Bytes) (fieldPos : ℕ) : Bool :=
  bitmap.getD (t.bytePos fieldPos) 0 &&& t.mask fieldPos ≠ 0

def setNull (t : NullBitmapTraits) (bitmap : Bytes) (fieldPos : ℕ) : Bytes :=
  bitmap.set (t.bytePos fieldPos) (bitmap.getD (t.bytePos fieldPos) 0 ||| t.mask fieldPos)

end NullBitmapTraits

def stmtExecuteNullBitmapOffset : ℕ := 0
def binaryRowNullBitmapOffset : ℕ := 2

/-! ### Bits -/

/-- Bit `i` of a bitmap, from the low bit of its first byte on. -/
def bitAt (bitmap : Bytes) (i : ℕ) : Bool := (bitmap.getD (i / 8) 0).toNat.testBit (i % 8)

section Bits

variable (traits : NullBitmapTraits)

lemma mask_toNat (i : ℕ) : (traits.mask i).toNat = 2 ^ ((i + traits.offset) % 8) := by
  have h : (i + traits.offset) % 8 < 8 := Nat.mod_lt _ (by decide)
  simp only [NullBitmapTraits.mask, NullBitmapTraits.bitPos]
  generalize (i + traits.offset) % 8 = k at h
  interval_cases k <;> rfl

lemma isNull_eq_bitAt (bitmap : Bytes) (i : ℕ) :
    traits.isNull bitmap i = bitAt bitmap (i + traits.offset) := by
  set b := bitmap.getD ((i + traits.offset) / 8) 0 with hb
  set k := (i + traits.offset) % 8 with hk
  have h : (b &&& traits.mask i).toNat = 2 ^ k * (b.toNat.testBit k).toNat := by
    rw [UInt8.toNat_and, mask_toNat, Nat.land_comm, ← hk, Nat.two_pow_and]
  have hz : b &&& traits.mask i = 0 ↔ b.toNat.testBit k = false := by
    rw [← UInt8.toNat_inj, h]
    cases b.toNat.testBit k <;> simp
  calc traits.isNull bitmap i
      = decide (b &&& traits.mask i ≠ 0) := rfl
    _ = b.toNat.testBit k := by
        rw [Bool.eq_iff_iff, decide_eq_true_iff, ne_eq, hz, Bool.not_eq_false]
    _ = bitAt bitmap (i + traits.offset) := rfl

/-- Marking a field sets its bit and no other. -/
lemma bitAt_setNull {bitmap : Bytes} {i : ℕ} (hi : (i + traits.offset) / 8 < bitmap.length)
    (j : ℕ) :
    bitAt (traits.setNull bitmap i) j = (bitAt bitmap j || decide (i + traits.offset = j)) := by
  simp only [bitAt, NullBitmapTraits.setNull, NullBitmapTraits.bytePos]
  by_cases hb : (i + traits.offset) / 8 = j / 8
  · rw [← hb]
    simp only [List.getD_eq_getElem?_getD, List.getElem?_set_self hi, Option.getD_some,
      UInt8.toNat_or, Nat.testBit_or, mask_toNat, Nat.testBit_two_pow]
    congr 1
    rw [decide_eq_decide]
    omega
  · have hij : i + traits.offset ≠ j := fun h => hb (by rw [h])
    simp [List.getD_eq_getElem?_getD, List.getElem?_set_ne hb, hij]

end Bits

end MysqlAsio.NullBitmap
