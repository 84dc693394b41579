import MysqlAsio.FieldTypes
import MysqlAsio.Lib.Floats

/-!
What users get out of values: the alternatives, and the conversions between them.

A conversion is made exactly where a number is one of the requested type.
-/

namespace MysqlAsio.ValueConversions

open MysqlAsio.Errors MysqlAsio.CommonMessages MysqlAsio.Values MysqlAsio.FieldTypes
open MysqlAsio.Lib.Floats MysqlAsio.Lib.Floats.Format

/-! ### Floating-point numbers -/

def single : Format := ⟨8, 23, by decide⟩
def double : Format := ⟨11, 52, by decide⟩

/-- The conversion of a `float` to a `double`. -/
def floatToDouble (bits : UInt32) : UInt64 := .ofNat (single.widenBits double bits.toNat)

lemma double_widens : Widens single double := ⟨by decide, by decide⟩

/-! ### Getting values -/

/-- A type of `value::variant_type`: that of an alternative, or `std::nullptr_t`. -/
def Carrier : Option Alternative → Type
  | none => Unit
  | some .int64 => Int64
  | some .uint64 => UInt64
  | some .string => Bytes
  | some .float => UInt32
  | some .double => UInt64
  | some .date | some .datetime | some .time => ℤ

/-- A value of such a type. -/
def construct : (t : Option Alternative) → Carrier t → Value
  | none, _ => .null
  | some .int64, v => .int64 v
  | some .uint64, v => .uint64 v
  | some .string, v => .string v
  | some .float, bits => .float bits
  | some .double, bits => .double bits
  | some .date, days => .date days
  | some .datetime, micros => .datetime micros
  | some .time, micros => .time micros

/-- `std::get_if`. -/
def getIf : (t : Option Alternative) → Value → Option (Carrier t)
  | none, .null => some ()
  | some .int64, .int64 v => some v
  | some .uint64, .uint64 v => some v
  | some .string, .string v => some v
  | some .float, .float bits => some bits
  | some .double, .double bits => some bits
  | some .date, .date days => some days
  | some .datetime, .datetime micros => some micros
  | some .time, .time micros => some micros
  | _, _ => none

/-- `std::numeric_limits<std::int64_t>::max()`. -/
def int64Max : UInt64 := 0x7fffffffffffffff

/-- `value::get_optional`, with its specializations. -/
def getOptional : (t : Option Alternative) → Value → Option (Carrier t)
  | some .uint64, v => (getIf (some .uint64) v).orElse fun _ =>
      (getIf (some .int64) v).bind fun (val : Int64) => if 0 ≤ val then some val.toUInt64 else none
  | some .int64, v => (getIf (some .int64) v).orElse fun _ =>
      (getIf (some .uint64) v).bind fun (val : UInt64) =>
        if val ≤ int64Max then some val.toInt64 else none
  | some .double, v => (getIf (some .double) v).orElse fun _ =>
      (getIf (some .float) v).map floatToDouble
  | t, v => getIf t v

def isAlternative (t : Option Alternative) (v : Value) : Bool := alternative v = t

def isConvertibleTo (t : Option Alternative) (v : Value) : Bool := (getOptional t v).isSome

/-- `std::bad_variant_access`. -/
inductive BadVariantAccess
  | mk

/-- `value::get`. -/
def get (t : Option Alternative) (v : Value) : Except BadVariantAccess (Carrier t) :=
  match getOptional t v with
  | none => .error .mk
  | some x => .ok x

/-! ### What values mean -/

inductive Meaning
  | null
  | integer (z : ℤ)
  | number (x : Number)
  | string (s : Bytes)
  | date (days : ℤ)
  | datetime (micros : ℤ)
  | time (micros : ℤ)

def meaning : Value → Meaning
  | .null => .null
  | .int64 v => .integer v.toInt
  | .uint64 v => .integer v.toNat
  | .string s => .string s
  | .float bits => .number (single.decode bits.toNat)
  | .double bits => .number (double.decode bits.toNat)
  | .date days => .date days
  | .datetime micros => .datetime micros
  | .time micros => .time micros

lemma toUInt64_exact {v : Int64} (h : 0 ≤ v) : (v.toUInt64.toNat : ℤ) = v.toInt := by
  have hv : v.toInt = if 2 * v.toUInt64.toNat < 2 ^ 64 then (v.toUInt64.toNat : ℤ)
      else v.toUInt64.toNat - (2 ^ 64 : ℕ) := BitVec.toInt_eq_toNat_cond v.toBitVec
  have hlt : v.toUInt64.toNat < 2 ^ 64 := v.toUInt64.toNat_lt
  have h0 : 0 ≤ v.toInt := Int64.le_iff_toInt_le.mp h
  split_ifs at hv <;> omega

lemma toInt64_exact {v : UInt64} (h : v ≤ int64Max) : v.toInt64.toInt = v.toNat := by
  have hv : v.toInt64.toInt = if 2 * v.toNat < 2 ^ 64 then (v.toNat : ℤ)
      else v.toNat - (2 ^ 64 : ℕ) := BitVec.toInt_eq_toNat_cond v.toBitVec
  have hle : v.toNat ≤ 0x7fffffffffffffff := UInt64.le_iff_toNat_le.mp h
  split_ifs at hv <;> omega

lemma floatToDouble_exact (bits : UInt32) :
    double.decode (floatToDouble bits).toNat = single.decode bits.toNat := by
  have hlt : single.widenBits double bits.toNat < 2 ^ 64 := double_widens.widenBits_lt bits.toNat
  rw [floatToDouble, UInt64.toNat_ofNat_of_lt' hlt, double_widens.decode]

lemma double_injective {x y : UInt64} (h : double.decode x.toNat = double.decode y.toNat)
    (hn : double.decode x.toNat ≠ .nan) : x = y :=
  UInt64.toNat_inj.mp (@decode_injective double _ _ x.toNat_lt y.toNat_lt h hn)

lemma single_injective {x y : UInt32} (h : single.decode x.toNat = single.decode y.toNat)
    (hn : single.decode x.toNat ≠ .nan) : x = y :=
  UInt32.toNat_inj.mp (@decode_injective single _ _ x.toNat_lt y.toNat_lt h hn)

/-! ### The conversions -/

/-- The conversions that are documented, beside that of a value to its own type. -/
inductive Converts : (t : Option Alternative) → Value → Carrier t → Prop
  | same (t : Option Alternative) (x : Carrier t) : Converts t (construct t x) x
  | uint64 {v : Int64} (h : 0 ≤ v) : Converts (some .uint64) (.int64 v) v.toUInt64
  | int64 {v : UInt64} (h : v ≤ int64Max) : Converts (some .int64) (.uint64 v) v.toInt64
  | double (bits : UInt32) : Converts (some .double) (.float bits) (floatToDouble bits)

lemma getIf_construct (t : Option Alternative) (x : Carrier t) : getIf t (construct t x) = some x := by
  rcases t with _ | a
  · rfl
  · cases a <;> rfl

lemma getOptional_construct (t : Option Alternative) (x : Carrier t) :
    getOptional t (construct t x) = some x := by
  have h := getIf_construct t x
  rcases t with _ | a
  · exact h
  · cases a <;> exact h

lemma getOptional_of_converts {t : Option Alternative} {v : Value} {x : Carrier t}
    (h : Converts t v x) : getOptional t v = some x := by
  cases h with
  | same => exact getOptional_construct t x
  | uint64 h => exact if_pos h
  | int64 h => exact if_pos h
  | double => rfl

lemma converts_of_getOptional {t : Option Alternative} {v : Value} {x : Carrier t}
    (h : getOptional t v = some x) : Converts t v x := by
  have hsame (hv : v = construct t x) : Converts t v x := hv ▸ .same t x
  rcases t with _ | a
  · cases v <;> cases h
    exact hsame rfl
  · cases a with
    | int64 =>
      cases v with
      | int64 v => cases h; exact hsame rfl
      | uint64 v =>
        have hif : (if v ≤ int64Max then some v.toInt64 else none) = some x := h
        split_ifs at hif with hle
        cases hif
        exact .int64 hle
      | _ => cases h
    | uint64 =>
      cases v with
      | uint64 v => cases h; exact hsame rfl
      | int64 v =>
        have hif : (if 0 ≤ v then some v.toUInt64 else none) = some x := h
        split_ifs at hif with hle
        cases hif
        exact .uint64 hle
      | _ => cases h
    | double =>
      cases v with
      | double bits => cases h; exact hsame rfl
      | float bits => cases h; exact .double bits
      | _ => cases h
    | _ =>
      cases v <;> cases h
      exact hsame rfl

/-- A value is got as another type exactly by a documented conversion. -/
lemma getOptional_iff {t : Option Alternative} {v : Value} {x : Carrier t} :
    getOptional t v = some x ↔ Converts t v x :=
  ⟨converts_of_getOptional, getOptional_of_converts⟩

lemma Converts.meaning_eq {t : Option Alternative} {v : Value} {x : Carrier t}
    (h : Converts t v x) : meaning (construct t x) = meaning v := by
  cases h with
  | same => rfl
  | uint64 h => exact congrArg Meaning.integer (toUInt64_exact h)
  | int64 h => exact congrArg Meaning.integer (toInt64_exact h)
  | double bits => exact congrArg Meaning.number (floatToDouble_exact bits)

/-- Of what means the same, only what is no number may not be the same. -/
lemma construct_unique {t : Option Alternative} {x y : Carrier t}
    (h : meaning (construct t x) = meaning (construct t y))
    (hn : meaning (construct t x) ≠ .number .nan) : x = y := by
  rcases t with _ | a
  · rfl
  · cases a with
    | int64 => exact Int64.toInt_inj.mp (Meaning.integer.inj h)
    | uint64 =>
      have hxy := Int.ofNat.inj (Meaning.integer.inj h)
      exact UInt64.toNat_inj.mp hxy
    | float => exact single_injective (Meaning.number.inj h) fun hx => hn (congrArg _ hx)
    | double => exact double_injective (Meaning.number.inj h) fun hx => hn (congrArg _ hx)
    | string => exact Meaning.string.inj h
    | date => exact Meaning.date.inj h
    | datetime => exact Meaning.datetime.inj h
    | time => exact Meaning.time.inj h

/-- Whatever type is requested, but `float`, a value is converted where there is one of the type
that means the same. -/
lemma converts_of_meaning {t : Option Alternative} (ht : t ≠ some .float) {v : Value}
    {x : Carrier t} (h : meaning (construct t x) = meaning v) : ∃ y, Converts t v y := by
  rcases t with _ | a
  · cases v <;> cases h
    exact ⟨(), .same none ()⟩
  · cases a with
    | float => exact absurd rfl ht
    | int64 =>
      cases v with
      | int64 v => exact ⟨v, .same (some .int64) v⟩
      | uint64 v =>
        have hx : Int64.toInt x = v.toNat := Meaning.integer.inj h
        have hlt : Int64.toInt x < 2 ^ 63 := Int64.toInt_lt x
        have hle : v ≤ int64Max := by
          rw [UInt64.le_iff_toNat_le]
          change v.toNat ≤ 0x7fffffffffffffff
          omega
        exact ⟨_, .int64 hle⟩
      | _ => cases h
    | uint64 =>
      cases v with
      | uint64 v => exact ⟨v, .same (some .uint64) v⟩
      | int64 v =>
        have hx : (UInt64.toNat x : ℤ) = v.toInt := Meaning.integer.inj h
        have hle : 0 ≤ v := by
          rw [Int64.le_iff_toInt_le, ← hx]
          exact Int.natCast_nonneg _
        exact ⟨_, .uint64 hle⟩
      | _ => cases h
    | double =>
      cases v with
      | double bits => exact ⟨bits, .same (some .double) bits⟩
      | float bits => exact ⟨_, .double bits⟩
      | _ => cases h
    | string | date | datetime | time =>
      cases v <;> cases h
      exact ⟨_, .same _ _⟩

/-- **Values are converted exactly where nothing is lost.** What is got as another type means what
the value means, and is all there is of that meaning unless it is no number. Only what is not
convertible is refused: that of which nothing of the type has the meaning, and, as a `float`, what
is not one. -/
theorem get_exact (t : Option Alternative) (v : Value) :
    (∀ x, get t v = .ok x → meaning (construct t x) = meaning v ∧
      ∀ y, meaning (construct t y) = meaning v → meaning v ≠ .number .nan → y = x) ∧
    (get t v = .error .mk ↔ isConvertibleTo t v = false) ∧
    (isConvertibleTo t v = true ↔
      if t = some .float then isAlternative t v = true
      else ∃ x, meaning (construct t x) = meaning v) := by
  have hok (x : Carrier t) : get t v = .ok x ↔ Converts t v x := by
    rw [← getOptional_iff, get]
    split <;> simp [*]
  have herror : get t v = .error .mk ↔ isConvertibleTo t v = false := by
    rw [isConvertibleTo, get]
    split <;> simp [*]
  have hconvertible : isConvertibleTo t v = true ↔ ∃ x, Converts t v x := by
    simp only [← getOptional_iff, isConvertibleTo, Option.isSome_iff_exists]
  refine ⟨fun x hx => ?_, herror, ?_⟩
  · have hm := ((hok x).mp hx).meaning_eq
    exact ⟨hm, fun y hy hn => construct_unique (hy.trans hm.symm) (by rwa [hy])⟩
  · rw [hconvertible]
    split_ifs with ht
    · subst ht
      rw [isAlternative, decide_eq_true_eq]
      constructor
      · rintro ⟨x, ⟨⟩⟩
        rfl
      · intro ha
        cases v <;> cases ha
        exact ⟨_, .same (some .float) _⟩
    · constructor
      · exact fun ⟨x, hx⟩ => ⟨x, hx.meaning_eq⟩
      · exact fun ⟨x, hx⟩ => converts_of_meaning ht hx

end MysqlAsio.ValueConversions
