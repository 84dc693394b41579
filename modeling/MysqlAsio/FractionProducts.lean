import MysqlAsio.TextForms

/-!
The microseconds of a text: the product of the fraction that was read and a power of ten, in the
arithmetic of `unsigned`.

The fraction may have six digits whatever the decimals of the column are. A datetime has no room
for more digits than its product can bear, but a time has, and a minus makes a number that is
close to `2 ^ 32` of any fraction.
-/

namespace MysqlAsio.FractionProducts

open MysqlAsio.Errors MysqlAsio.CommonMessages MysqlAsio.Values MysqlAsio.TextDeserialization
open MysqlAsio.Temporal MysqlAsio.Scanning MysqlAsio.TextReadings MysqlAsio.TextForms

/-! ### Columns with a time of day -/

inductive ClockColumn
  | datetime
  | time
  deriving DecidableEq, Repr

namespace ClockColumn

def hoursWidth : ClockColumn → ℕ
  | .datetime => 2
  | .time => 3

/-- The size check. -/
def SizeOk (column : ClockColumn) (decimals : ℕ) (s : Bytes) : Prop :=
  match column with
  | .datetime => s.length = datetimeMinSz + fractionSz decimals
  | .time => timeMinSz + fractionSz decimals ≤ s.length ∧
      s.length ≤ timeMinSz + fractionSz decimals + 1 + 1

instance (column : ClockColumn) (decimals : ℕ) (s : Bytes) : Decidable (column.SizeOk decimals s) :=
  match column with
  | .datetime => inferInstanceAs (Decidable (_ = _))
  | .time => inferInstanceAs (Decidable (_ ∧ _))

/-- The part of the text that `sscanf` reads the time from. -/
def clock : ClockColumn → Bytes → Bytes
  | .datetime, s => s.drop (dateSz + 1)
  | .time, s => unsignedPart s

def deserialize : ClockColumn → Bytes → FieldMetadata → Except Errc Value
  | .datetime => deserializeTextValueDatetime
  | .time => deserializeTextValueTime

/-- The fraction of the text, as it is written. -/
def FractionWritten (column : ClockColumn) (s : Bytes) (f : Number) : Prop :=
  ∃ hours minutes seconds,
    ReadsAs column.hoursWidth microsFields (column.clock s) hours [minutes, seconds, f]

/-- The fraction has no minus, unless nothing is scaled or it is 0; and a time with one decimal or
two has not too many digits. -/
def Bearable (column : ClockColumn) (decimals : ℕ) (f : Number) : Prop :=
  if f.sign = [dash] then decimals = 6 ∨ digitsValue f.digits = 0
  else column = .time →
    (decimals = 1 → digitsValue f.digits ≤ 42949) ∧ (decimals = 2 → digitsValue f.digits ≤ 429496)

end ClockColumn

/-- The product is that of the numbers, and a fraction that is out of range is an error. -/
structure ExactMicros (column : ClockColumn) (s : Bytes) (fieldMeta : FieldMetadata)
    (micros : UInt32) : Prop where
  product : (computeMicros micros (sanitizeDecimals fieldMeta.decimals)).toNat =
    micros.toNat * 10 ^ (maxDecimals - sanitizeDecimals fieldMeta.decimals)
  rejected : maxMicro < micros.toNat * 10 ^ (maxDecimals - sanitizeDecimals fieldMeta.decimals) →
    column.deserialize s fieldMeta = .error .protocolValueError

/-! ### Products -/

/-- The power of ten is that of `std::pow`, converted to `unsigned`. -/
lemma computeMicros_mod (micros : UInt32) (decimals : ℕ) :
    (computeMicros micros decimals).toNat =
      micros.toNat * 10 ^ (maxDecimals - decimals) % 2 ^ 32 := by
  have hle : 10 ^ (maxDecimals - decimals) ≤ 10 ^ maxDecimals :=
    Nat.pow_le_pow_right (by decide) (Nat.sub_le _ _)
  rw [computeMicros, UInt32.toNat_mul,
    UInt32.toNat_ofNat_of_lt' (lt_of_le_of_lt hle (by decide))]

lemma computeMicros_exact_iff (micros : UInt32) (decimals : ℕ) :
    (computeMicros micros decimals).toNat = micros.toNat * 10 ^ (maxDecimals - decimals) ↔
      micros.toNat * 10 ^ (maxDecimals - decimals) < 2 ^ 32 := by
  rw [computeMicros_mod]
  constructor
  · intro h
    rw [← h]
    exact Nat.mod_lt _ (by decide)
  · exact Nat.mod_eq_of_lt

/-- Three digits more than there are decimals make nine when they are scaled. -/
lemma product_lt {decimals n : ℕ} (h6 : decimals ≤ 6) (hn : n < 10 ^ (decimals + 3)) :
    n * 10 ^ (6 - decimals) < 2 ^ 32 :=
  calc n * 10 ^ (6 - decimals)
    _ < 10 ^ (decimals + 3) * 10 ^ (6 - decimals) :=
      Nat.mul_lt_mul_of_pos_right hn (Nat.pow_pos (by decide))
    _ = 10 ^ 9 := by
      rw [← pow_add]
      congr 1
      omega
    _ < 2 ^ 32 := by decide

/-- Six digits are too many for one decimal and two. -/
lemma sixDigits_lt_iff {decimals n : ℕ} (h1 : 1 ≤ decimals) (h6 : decimals ≤ 6)
    (hn : n < 10 ^ 6) :
    n * 10 ^ (6 - decimals) < 2 ^ 32 ↔
      (decimals = 1 → n ≤ 42949) ∧ (decimals = 2 → n ≤ 429496) := by
  rcases lt_or_ge decimals 3 with h3 | h3
  · interval_cases decimals
    · rw [show 6 - 1 = 5 from rfl]
      omega
    · rw [show 6 - 2 = 4 from rfl]
      omega
  · have hlt : n < 10 ^ (decimals + 3) :=
      lt_of_lt_of_le hn (Nat.pow_le_pow_right (by decide) (by omega))
    exact iff_of_true (product_lt h6 hlt) ⟨by omega, by omega⟩

lemma product_lt_iff {column : ClockColumn} {decimals n : ℕ} (h1 : 1 ≤ decimals)
    (h6 : decimals ≤ 6) (hn : n < 10 ^ 6) (hc : column = .datetime → n < 10 ^ (decimals + 3)) :
    n * 10 ^ (6 - decimals) < 2 ^ 32 ↔
      (column = .time → (decimals = 1 → n ≤ 42949) ∧ (decimals = 2 → n ≤ 429496)) := by
  rw [sixDigits_lt_iff h1 h6 hn]
  cases column with
  | datetime =>
    have hlt := (sixDigits_lt_iff h1 h6 hn).mp (product_lt h6 (hc rfl))
    exact iff_of_true hlt fun _ => hlt
  | time => exact ⟨fun h _ => h, fun h => h rfl⟩

/-- Scaled at all, a negative number is too large. -/
lemma negative_lt_iff {decimals n : ℕ} (h6 : decimals ≤ 6) (hn : n < 10 ^ 6) :
    (2 ^ 32 - n) % 2 ^ 32 * 10 ^ (6 - decimals) < 2 ^ 32 ↔ decimals = 6 ∨ n = 0 := by
  rcases Nat.eq_zero_or_pos n with rfl | hpos
  · rw [Nat.sub_zero, Nat.mod_self, Nat.zero_mul]
    exact iff_of_true (by decide) (.inr rfl)
  rw [Nat.mod_eq_of_lt (Nat.sub_lt (by decide) hpos)]
  constructor
  · intro h
    by_contra hne
    have hten : 10 ^ 1 ≤ 10 ^ (6 - decimals) := Nat.pow_le_pow_right (by decide) (by omega)
    have hle := Nat.mul_le_mul_left (2 ^ 32 - n) hten
    omega
  · intro h
    obtain rfl : decimals = 6 := h.resolve_right hpos.ne'
    rw [Nat.sub_self, pow_zero, Nat.mul_one]
    exact Nat.sub_lt (by decide) hpos

/-! ### Room for digits -/

lemma bytes_length_pos {n : Number} {width : ℕ} (h : n.Fits width) : 1 ≤ n.bytes.length := by
  have := List.length_pos_of_ne_nil h.digitsNonempty
  simp only [Number.bytes, List.length_append]
  omega

section Written

variable {hoursWidth : ℕ} {t : Bytes} {hours minutes seconds f : Number}

/-- The other numbers have a digit each, and there are three separators. -/
lemma fraction_slack (h : ReadsAs hoursWidth microsFields t hours [minutes, seconds, f]) :
    f.digits.length + 6 ≤ t.length := by
  obtain _ | ⟨hm, _ | ⟨hs, _ | ⟨-, _⟩⟩⟩ := h.others
  have h1 := bytes_length_pos h.first
  have h2 := bytes_length_pos hm
  have h3 := bytes_length_pos hs
  have hle : (cString t).length ≤ t.length := (List.takeWhile_sublist _).length_le
  have hlen := congrArg List.length h.bytes
  simp only [microsFields, joined, List.length_append, List.length_cons, List.length_nil] at hlen
  have hf : f.digits.length ≤ f.bytes.length := by
    simp only [Number.bytes, List.length_append]
    omega
  omega

lemma fraction_fits (h : ReadsAs hoursWidth microsFields t hours [minutes, seconds, f]) :
    f.Fits 6 := by
  obtain _ | ⟨-, _ | ⟨-, _ | ⟨hf, _⟩⟩⟩ := h.others
  exact hf

end Written

lemma digitsValue_lt_of_length {f : Number} {width k : ℕ} (h : f.Fits width)
    (hk : f.digits.length ≤ k) : digitsValue f.digits < 10 ^ k :=
  lt_of_lt_of_le (digitsValue_lt h.digits) (Nat.pow_le_pow_right (by decide) hk)

lemma value_toNat {f : Number} (h : digitsValue f.digits < 10 ^ 6) :
    f.value.toNat = if f.sign = [dash] then (2 ^ 32 - digitsValue f.digits) % 2 ^ 32
      else digitsValue f.digits := by
  have hn : (UInt32.ofNat (digitsValue f.digits)).toNat = digitsValue f.digits :=
    UInt32.toNat_ofNat_of_lt' (lt_trans h (by decide))
  unfold Number.value
  have hd : ([0x2d] : Bytes) = [dash] := rfl
  rw [hd]
  split_ifs
  · rw [UInt32.toNat_neg, hn, show UInt32.size = 2 ^ 32 from rfl]
  · exact hn

lemma product_bearable_iff {column : ClockColumn} {decimals : ℕ} {s : Bytes} {f : Number}
    (h1 : 1 ≤ decimals) (h6 : decimals ≤ 6) (hs : column.SizeOk decimals s)
    (hf : column.FractionWritten s f) :
    f.value.toNat * 10 ^ (6 - decimals) < 2 ^ 32 ↔ column.Bearable decimals f := by
  obtain ⟨hours, minutes, seconds, hr⟩ := hf
  have hfits := fraction_fits hr
  have hn : digitsValue f.digits < 10 ^ 6 :=
    digitsValue_lt_of_length hfits (le_trans (Nat.le_add_left _ _) hfits.width)
  have hc : column = .datetime → digitsValue f.digits < 10 ^ (decimals + 3) := by
    rintro rfl
    have hlen : s.length = datetimeMinSz + fractionSz decimals := hs
    have hslack : f.digits.length + 6 ≤ (s.drop (dateSz + 1)).length := fraction_slack hr
    have hfr : fractionSz decimals = decimals + 1 := if_pos (Nat.one_le_iff_ne_zero.mp h1)
    rw [List.length_drop, hlen, hfr] at hslack
    simp only [datetimeMinSz, timeMinSz, dateSz] at hslack
    exact digitsValue_lt_of_length hfits (by omega)
  rw [value_toNat hn, ClockColumn.Bearable]
  split_ifs with hneg
  · exact negative_lt_iff h6 hn
  · exact product_lt_iff h1 h6 hn hc

/-! ### Fractions out of range -/

lemma clock_unique {column : ClockColumn} {decimals : ℕ} (hd : decimals ≠ 0) {s : Bytes}
    {f : Number} (hf : column.FractionWritten s f) {c : ClockWritten}
    (hc : c.Reads column.hoursWidth decimals (column.clock s)) :
    (c.parts decimals).micros = (computeMicros f.value decimals).toNat := by
  obtain ⟨hours, minutes, seconds, hr⟩ := hf
  have hw : (⟨hours, minutes, seconds, some f⟩ : ClockWritten).Reads column.hoursWidth decimals
      (column.clock s) := ⟨hd, hr⟩
  rw [hc.unique hw]
  rfl

lemma deserialize_cases (column : ClockColumn) (s : Bytes) (fieldMeta : FieldMetadata) :
    column.deserialize s fieldMeta = .error .protocolValueError ∨
      ∃ c : ClockWritten,
        c.Reads column.hoursWidth (sanitizeDecimals fieldMeta.decimals) (column.clock s) ∧
          (c.parts (sanitizeDecimals fieldMeta.decimals)).micros ≤ maxMicro := by
  cases column with
  | datetime =>
    rcases hv : deserializeTextValueDatetime s fieldMeta with e | v
    · left
      rw [ClockColumn.deserialize, hv,
        orValueError_error (fun _ => datetimeValue_error) ((textDatetime_eq s fieldMeta).symm.trans hv)]
    · obtain ⟨⟨d, c⟩, hr⟩ := (datetime_accepted_iff s fieldMeta).mp ⟨v, hv⟩
      exact .inr ⟨c, hr.clock, hr.clockInLimits.2.2.2⟩
  | time =>
    rcases hv : deserializeTextValueTime s fieldMeta with e | v
    · left
      rw [ClockColumn.deserialize, hv,
        orValueError_error (fun _ => timeValue_error) ((textTime_eq s fieldMeta).symm.trans hv)]
    · obtain ⟨c, hr⟩ := (time_accepted_iff s fieldMeta).mp ⟨v, hv⟩
      exact .inr ⟨c, hr.clock, hr.clockInLimits.2.2.2⟩

lemma micros_rejected {column : ClockColumn} {fieldMeta : FieldMetadata}
    (hd : sanitizeDecimals fieldMeta.decimals ≠ 0) {s : Bytes} {f : Number}
    (hf : column.FractionWritten s f)
    (hgt : maxMicro < (computeMicros f.value (sanitizeDecimals fieldMeta.decimals)).toNat) :
    column.deserialize s fieldMeta = .error .protocolValueError := by
  rcases deserialize_cases column s fieldMeta with he | ⟨c, hc, hm⟩
  · exact he
  · rw [clock_unique hd hf hc] at hm
    exact absurd hm (not_le.mpr hgt)

lemma of_sscanf {column : ClockColumn} {s : Bytes} {hours minutes seconds micros : UInt32}
    (h : sscanf column.hoursWidth microsFields (column.clock s) =
      some [hours, minutes, seconds, micros]) :
    ∃ f, column.FractionWritten s f ∧ micros = f.value := by
  obtain ⟨n, ns, hr, hv⟩ := (sscanf_iff microsFields_sep _ _).mp h
  obtain _ | @⟨_, m, _, _, hm, _ | @⟨_, k, _, _, hk, _ | @⟨_, f, _, _, hf, _ | _⟩⟩⟩ := hr.others
  simp only [List.map_cons, List.map_nil, List.cons.injEq, and_true] at hv
  exact ⟨f, ⟨n, m, k, hr⟩, hv.2.2.2⟩

lemma fractionWritten_unique {column : ClockColumn} {s : Bytes} {f g : Number}
    (hf : column.FractionWritten s f) (hg : column.FractionWritten s g) : f = g := by
  obtain ⟨h, m, k, hr⟩ := hf
  obtain ⟨h', m', k', hr'⟩ := hg
  obtain ⟨-, he⟩ := hr.unique microsFields_sep hr'
  simp only [List.cons.injEq, and_true] at he
  exact he.2.2

/-- **The product of a fraction that is read is exact, and then out-of-range fractions are errors,
just where the fraction is not written as more than an `unsigned` can bear.** -/
theorem exactMicros_iff (column : ClockColumn) (fieldMeta : FieldMetadata) (s : Bytes)
    (hd : fieldMeta.decimals ≠ 0)
    (hsize : column.SizeOk (sanitizeDecimals fieldMeta.decimals) s)
    {hours minutes seconds micros : UInt32}
    (hscan : sscanf column.hoursWidth [(colon, 2), (colon, 2), (dot, 6)] (column.clock s) =
      some [hours, minutes, seconds, micros]) :
    ExactMicros column s fieldMeta micros ↔
      ∃ f, column.FractionWritten s f ∧
        column.Bearable (sanitizeDecimals fieldMeta.decimals) f := by
  obtain ⟨f, hf, rfl⟩ := of_sscanf hscan
  have h6 : sanitizeDecimals fieldMeta.decimals ≤ 6 := Nat.min_le_right _ _
  have h1 : 1 ≤ sanitizeDecimals fieldMeta.decimals :=
    Nat.le_min.mpr ⟨Nat.one_le_iff_ne_zero.mpr hd, by decide⟩
  have hb := product_bearable_iff h1 h6 hsize hf
  constructor
  · intro h
    exact ⟨f, hf, hb.mp ((computeMicros_exact_iff _ _).mp h.product)⟩
  · rintro ⟨g, hg, hbear⟩
    obtain rfl := fractionWritten_unique hf hg
    have hexact := (computeMicros_exact_iff _ _).mpr (hb.mpr hbear)
    refine ⟨hexact, fun hgt => ?_⟩
    rw [← hexact] at hgt
    exact micros_rejected (Nat.one_le_iff_ne_zero.mp h1) hf hgt

def fractionField (type : ProtocolFieldType) (decimals : UInt8) : FieldMetadata :=
  ⟨⟨[], [], [], [], [], [], ⟨0⟩, 0, type, 0, decimals⟩⟩

/-- A time of three numbers with one digit each. -/
theorem exactMicros_iff_shortTime :
    ExactMicros .time (ascii "1:2:3.45678") (fractionField .time 1) 45678 ↔
      ∃ f, ClockColumn.time.FractionWritten (ascii "1:2:3.45678") f ∧
        ClockColumn.time.Bearable 1 f :=
  exactMicros_iff .time (fractionField .time 1) (ascii "1:2:3.45678") (by decide) (by decide)
    (show sscanf 3 [(colon, 2), (colon, 2), (dot, 6)] (unsignedPart (ascii "1:2:3.45678")) =
      some [1, 2, 3, 45678] by decide)

/-- Five digits with one decimal are 32704 microseconds. -/
theorem not_exactMicros :
    ¬ ∀ (column : ClockColumn) (fieldMeta : FieldMetadata) (s : Bytes)
      (hours minutes seconds micros : UInt32), fieldMeta.decimals ≠ 0 →
      column.SizeOk (sanitizeDecimals fieldMeta.decimals) s →
      sscanf column.hoursWidth [(colon, 2), (colon, 2), (dot, 6)] (column.clock s) =
        some [hours, minutes, seconds, micros] →
      ExactMicros column s fieldMeta micros := by
  intro h
  have hx := h .time (fractionField .time 1) (ascii "0:0:0.42950") 0 0 0 42950 (by decide)
    (by decide) (show sscanf 3 [(colon, 2), (colon, 2), (dot, 6)]
      (unsignedPart (ascii "0:0:0.42950")) = some [0, 0, 0, 42950] by decide)
  have hok : deserializeTextValueTime (ascii "0:0:0.42950") (fractionField .time 1) =
      .ok (.time 32704) := by decide +kernel
  have hr := hx.rejected (by decide)
  rw [ClockColumn.deserialize, hok] at hr
  cases hr

end MysqlAsio.FractionProducts
