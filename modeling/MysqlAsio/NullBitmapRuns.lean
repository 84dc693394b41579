import MysqlAsio.NullBitmap

/-!
Marking one field after another in a bitmap of zeros, with positions that are `std::size_t`.

Where the sums of the traits fit a `size_t` their positions are those of the traits over the
naturals, and a bitmap keeps exactly the fields that were marked. Where they do not fit, the
count of bytes is too small.
-/

namespace MysqlAsio.NullBitmapRuns

open MysqlAsio.Errors MysqlAsio.NullBitmap

/-- `null_bitmap_traits`, with the arithmetic of `std::size_t`. -/
structure SizedTraits where
  offset : UInt64
  numFields : UInt64
  deriving DecidableEq, Repr

namespace SizedTraits

def bytePos (t : SizedTraits) (fieldPos : UInt64) : UInt64 := (fieldPos + t.offset) / 8
def bitPos (t : SizedTraits) (fieldPos : UInt64) : UInt64 := (fieldPos + t.offset) % 8
def byteCount (t : SizedTraits) : UInt64 := (t.numFields + 7 + t.offset) / 8

def mask (t : SizedTraits) (fieldPos : UInt64) : UInt8 := 1 <<< (t.bitPos fieldPos).toUInt8

def isNull (t : SizedTraits) (bitmap : Bytes) (fieldPos : UInt64) : Bool :=
  bitmap.getD (t.bytePos fieldPos).toNat 0 &&& t.mask fieldPos ≠ 0

def setNull (t : SizedTraits) (bitmap : Bytes) (fieldPos : UInt64) : Bytes :=
  bitmap.set (t.bytePos fieldPos).toNat
    (bitmap.getD (t.bytePos fieldPos).toNat 0 ||| t.mask fieldPos)

/-- `set_null` on one field after another. -/
def setNulls (t : SizedTraits) (fields : List UInt64) (bitmap : Bytes) : Bytes :=
  fields.foldl t.setNull bitmap

/-- `byte_count()` bytes that are zero. -/
def zeros (t : SizedTraits) : Bytes := List.replicate t.byteCount.toNat 0

/-- The traits over the naturals. -/
def toTraits (t : SizedTraits) : NullBitmapTraits := ⟨t.offset.toNat, t.numFields.toNat⟩

/-- The sums of the traits are less than `2 ^ 64`. -/
def Fits (t : SizedTraits) : Prop := t.offset.toNat + t.numFields.toNat + 7 < 2 ^ 64

/-- So many bytes have the bit before the end of the fields, and fewer have not; there need be
none where there is no such bit. -/
def LeastBytes (t : SizedTraits) (count : ℕ) : Prop :=
  if t.offset.toNat + t.numFields.toNat = 0 then count = 0
  else ∀ k, t.offset.toNat + t.numFields.toNat - 1 < 8 * k ↔ count ≤ k

/-- What a bitmap keeps of the fields marked in it, in whatever order and however often. -/
structure Keeps (t : SizedTraits) : Prop where
  inside : ∀ i < t.numFields, t.bytePos i < t.byteCount
  marked : ∀ fields : List UInt64, (∀ i ∈ fields, i < t.numFields) →
    ∀ i < t.numFields, t.isNull (t.setNulls fields t.zeros) i = true ↔ i ∈ fields
  others : ∀ fields : List UInt64, (∀ i ∈ fields, i < t.numFields) →
    ∀ j, (∀ i ∈ fields, i.toNat + t.offset.toNat ≠ j) →
      bitAt (t.setNulls fields t.zeros) j = bitAt t.zeros j
  least : t.LeastBytes t.byteCount.toNat

end SizedTraits

/-! ### Positions -/

section Positions

variable {t : SizedTraits} {i : UInt64}

lemma byteCount_toNat (h : t.Fits) : t.byteCount.toNat = t.toTraits.byteCount := by
  have hf : t.offset.toNat + t.numFields.toNat + 7 < 2 ^ 64 := h
  simp only [SizedTraits.byteCount, SizedTraits.toTraits, NullBitmapTraits.byteCount,
    UInt64.toNat_div, UInt64.toNat_add, UInt64.reduceToNat]
  omega

lemma position_toNat (h : t.Fits) (hi : i < t.numFields) :
    (i + t.offset).toNat = i.toNat + t.offset.toNat := by
  have hf : t.offset.toNat + t.numFields.toNat + 7 < 2 ^ 64 := h
  have hlt : i.toNat < t.numFields.toNat := UInt64.lt_iff_toNat_lt.mp hi
  rw [UInt64.toNat_add]
  exact Nat.mod_eq_of_lt (by omega)

lemma bytePos_toNat (h : t.Fits) (hi : i < t.numFields) :
    (t.bytePos i).toNat = t.toTraits.bytePos i.toNat := by
  rw [SizedTraits.bytePos, UInt64.toNat_div, position_toNat h hi]
  rfl

lemma mask_eq (h : t.Fits) (hi : i < t.numFields) : t.mask i = t.toTraits.mask i.toNat := by
  have hb : (t.bitPos i).toUInt8 = UInt8.ofNat (t.toTraits.bitPos i.toNat) := by
    rw [← UInt8.toNat_inj, UInt64.toNat_toUInt8, SizedTraits.bitPos, UInt64.toNat_mod,
      position_toNat h hi]
    rfl
  rw [SizedTraits.mask, hb, NullBitmapTraits.mask]

lemma bytePos_lt (h : t.Fits) (hi : i < t.numFields) : t.bytePos i < t.byteCount := by
  have hlt : i.toNat < t.numFields.toNat := UInt64.lt_iff_toNat_lt.mp hi
  rw [UInt64.lt_iff_toNat_lt, bytePos_toNat h hi, byteCount_toNat h]
  simp only [SizedTraits.toTraits, NullBitmapTraits.bytePos, NullBitmapTraits.byteCount]
  omega

lemma setNull_eq (h : t.Fits) (hi : i < t.numFields) (bitmap : Bytes) :
    t.setNull bitmap i = t.toTraits.setNull bitmap i.toNat := by
  rw [SizedTraits.setNull, bytePos_toNat h hi, mask_eq h hi, NullBitmapTraits.setNull]

lemma isNull_eq (h : t.Fits) (hi : i < t.numFields) (bitmap : Bytes) :
    t.isNull bitmap i = t.toTraits.isNull bitmap i.toNat := by
  rw [SizedTraits.isNull, bytePos_toNat h hi, mask_eq h hi, NullBitmapTraits.isNull]

end Positions

/-! ### Runs -/

section Runs

variable {t : SizedTraits}

lemma bitAt_setNull (h : t.Fits) {i : UInt64} (hi : i < t.numFields) {bitmap : Bytes}
    (hl : bitmap.length = t.byteCount.toNat) (j : ℕ) :
    bitAt (t.setNull bitmap i) j =
      (bitAt bitmap j || decide (i.toNat + t.offset.toNat = j)) := by
  have hlt := UInt64.lt_iff_toNat_lt.mp (bytePos_lt h hi)
  rw [bytePos_toNat h hi, ← hl] at hlt
  rw [setNull_eq h hi]
  exact NullBitmap.bitAt_setNull t.toTraits hlt j

/-- After a run the bits of its fields are set, and the others are what they were. -/
lemma bitAt_setNulls (h : t.Fits) {fields : List UInt64} (hf : ∀ i ∈ fields, i < t.numFields)
    {bitmap : Bytes} (hl : bitmap.length = t.byteCount.toNat) (j : ℕ) :
    bitAt (t.setNulls fields bitmap) j = true ↔
      bitAt bitmap j = true ∨ ∃ i ∈ fields, i.toNat + t.offset.toNat = j := by
  induction fields generalizing bitmap with
  | nil => simp [SizedTraits.setNulls]
  | cons i fields ih =>
    have hi := hf i List.mem_cons_self
    have hl' : (t.setNull bitmap i).length = t.byteCount.toNat := by
      rw [SizedTraits.setNull, List.length_set, hl]
    have hrun : t.setNulls (i :: fields) bitmap = t.setNulls fields (t.setNull bitmap i) := rfl
    rw [hrun, ih (fun k hk => hf k (List.mem_cons_of_mem _ hk)) hl', bitAt_setNull h hi hl,
      Bool.or_eq_true, decide_eq_true_iff]
    simp only [List.mem_cons, exists_eq_or_imp, or_assoc]

lemma bitAt_zeros (t : SizedTraits) (j : ℕ) : bitAt t.zeros j = false := by
  simp only [bitAt, SizedTraits.zeros, List.getD_eq_getElem?_getD, List.getElem?_replicate]
  split_ifs <;> simp

lemma zeros_length (t : SizedTraits) : t.zeros.length = t.byteCount.toNat := by
  simp [SizedTraits.zeros]

lemma isNull_setNulls (h : t.Fits) {fields : List UInt64} (hf : ∀ i ∈ fields, i < t.numFields)
    {i : UInt64} (hi : i < t.numFields) :
    t.isNull (t.setNulls fields t.zeros) i = true ↔ i ∈ fields := by
  have hoff : t.toTraits.offset = t.offset.toNat := rfl
  rw [isNull_eq h hi, isNull_eq_bitAt, hoff, bitAt_setNulls h hf (zeros_length t), bitAt_zeros]
  constructor
  · rintro (hz | ⟨k, hk, he⟩)
    · cases hz
    · obtain rfl : k = i := UInt64.toNat_inj.mp (by omega)
      exact hk
  · exact fun hm => .inr ⟨i, hm, rfl⟩

lemma bitAt_others (h : t.Fits) {fields : List UInt64} (hf : ∀ i ∈ fields, i < t.numFields)
    {j : ℕ} (hj : ∀ i ∈ fields, i.toNat + t.offset.toNat ≠ j) :
    bitAt (t.setNulls fields t.zeros) j = bitAt t.zeros j := by
  rw [Bool.eq_iff_iff, bitAt_setNulls h hf (zeros_length t)]
  exact ⟨fun hb => hb.resolve_right fun ⟨i, hi, he⟩ => hj i hi he, .inl⟩

/-- The sum is rounded up to whole bytes. -/
lemma leastBytes_iff (t : SizedTraits) (count : ℕ) :
    t.LeastBytes count ↔ count = t.toTraits.byteCount := by
  have hbc : t.toTraits.byteCount = (t.numFields.toNat + 7 + t.offset.toNat) / 8 := rfl
  rw [hbc]
  unfold SizedTraits.LeastBytes
  generalize t.offset.toNat = offset, t.numFields.toNat = numFields
  split_ifs with h0
  · omega
  · constructor
    · intro h
      have h1 := h count
      have h2 := h ((numFields + 7 + offset) / 8)
      omega
    · rintro rfl k
      omega

end Runs

/-- **A bitmap of `byte_count()` bytes keeps exactly the fields that are marked in it where the
sums of its traits fit a `size_t`, and the count is right nowhere else.** -/
theorem keeps_iff (t : SizedTraits) :
    t.Keeps ↔ t.offset.toNat + t.numFields.toNat + 7 < 2 ^ 64 := by
  constructor
  · intro h
    have hl := (leastBytes_iff t _).mp h.least
    have hbc : t.toTraits.byteCount = (t.numFields.toNat + 7 + t.offset.toNat) / 8 := rfl
    simp only [SizedTraits.byteCount, UInt64.toNat_div, UInt64.toNat_add, UInt64.reduceToNat]
      at hl
    -- the sum has lost a multiple of `2 ^ 64`
    omega
  · intro h
    refine ⟨fun i hi => bytePos_lt h hi, fun fields hf i hi => isNull_setNulls h hf hi,
      fun fields hf j hj => bitAt_others h hf hj, ?_⟩
    exact (leastBytes_iff t _).mpr (byteCount_toNat h)

/-- With as many fields as a `size_t` can count, a bitmap has no byte. -/
theorem not_keeps : ¬ ∀ t : SizedTraits, t.Keeps := fun h =>
  absurd ((h ⟨0, 0xffffffffffffffff⟩).inside 0 (by decide)) (by decide)

end MysqlAsio.NullBitmapRuns
