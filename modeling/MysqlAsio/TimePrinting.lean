import MysqlAsio.TemporalAgreement

/-!
Streaming a time: the sign, and the absolute values of truncated quotients and remainders.

The text is one of those a server sends for six decimals, so that it is decoded to the time.
-/

namespace MysqlAsio.TimePrinting

open MysqlAsio.Errors MysqlAsio.CommonMessages MysqlAsio.Values MysqlAsio.TextDeserialization
open MysqlAsio.Temporal MysqlAsio.TextReadings MysqlAsio.TemporalAgreement MysqlAsio.Lib.Decimal

/-! ### `snprintf` -/

/-- `%0Nd`: a minus counts for the width. -/
def formatInt (width : ℕ) (n : Int32) : Bytes :=
  if n.toInt < 0 then dash :: zeroPadded (width - 1) n.toInt.natAbs
  else zeroPadded width n.toInt.natAbs

/-- `%0Nu`. -/
def formatUnsigned (width : ℕ) (n : UInt32) : Bytes := zeroPadded width n.toNat

/-- `print_visitor`, for a time: `"%s%02d:%02u:%02u.%06u"`. -/
def printTime (value : ℤ) : Bytes :=
  let sign := if value < 0 then [dash] else []
  let hours := (value.tdiv hour).natAbs
  let mins := ((value.tmod hour).tdiv minute).natAbs
  let secs := ((value.tmod minute).tdiv second).natAbs
  let micros := (value.tmod second).natAbs
  sign ++ (formatInt 2 (.ofNat hours) ++ colon :: (formatUnsigned 2 (.ofNat mins) ++
    colon :: (formatUnsigned 2 (.ofNat secs) ++ dot :: formatUnsigned 6 (.ofNat micros))))

lemma formatInt_ofNat {width n : ℕ} (h : n < 2 ^ 31) :
    formatInt width (.ofNat n) = zeroPadded width n := by
  have hn : (Int32.ofNat n).toInt = n := Int32.toInt_ofNat_of_lt h
  rw [formatInt, hn, if_neg (not_lt.mpr (Int.natCast_nonneg n)), Int.natAbs_natCast]

lemma formatUnsigned_ofNat {width n : ℕ} (h0 : width ≠ 0) (hw : width ≤ 9) (h : n < 10 ^ width) :
    formatUnsigned width (.ofNat n) = decimal width n := by
  have hpow : 10 ^ width ≤ 10 ^ 9 := Nat.pow_le_pow_right (by decide) hw
  have hn : (UInt32.ofNat n).toNat = n :=
    UInt32.toNat_ofNat_of_lt' (lt_of_lt_of_le h (hpow.trans (by decide)))
  rw [formatUnsigned, hn, zeroPadded_of_lt h0 h]

/-! ### Parts -/

/-- The parts of so many microseconds. -/
def partsOf (micros : ℕ) : TimeParts :=
  ⟨micros / hour, micros % hour / minute, micros % minute / second, micros % second⟩

lemma partsOf_total (micros : ℕ) : (partsOf micros).total = micros := by
  simp only [partsOf, TimeParts.total, hour, minute, second]
  omega

lemma partsOf_inLimits {micros : ℕ} (h : micros < 839 * hour) : (partsOf micros).InLimits 838 := by
  simp only [hour, minute, second] at h
  simp only [TimeParts.InLimits, partsOf, hour, minute, second, maxMin, maxSec, maxMicro]
  omega

/-- The sign and the parts of a time. -/
def durationOf (t : ℤ) (h : t.natAbs < 839 * hour) : Duration where
  isNegative := decide (t < 0)
  time := partsOf t.natAbs
  decimals := 6
  hours_le := (partsOf_inLimits h).1
  minutes_le := (partsOf_inLimits h).2.1
  seconds_le := (partsOf_inLimits h).2.2.1
  micros_le := (partsOf_inLimits h).2.2.2
  decimals_le := le_rfl
  dvd := one_dvd _

lemma durationOf_value (t : ℤ) (h : t.natAbs < 839 * hour) :
    signedTime (durationOf t h).isNegative (durationOf t h).time = .time t := by
  simp only [signedTime, durationOf, partsOf_total, decide_eq_true_eq]
  split_ifs <;> congr 1 <;> omega

/-- The hours are printed with two digits, or with three if there are so many. -/
def hoursWidth (hours : ℕ) : ℕ := max 2 (digitCount hours)

lemma durationOf_hoursWidth (t : ℤ) (h : t.natAbs < 839 * hour) :
    (durationOf t h).HoursWidth (hoursWidth (partsOf t.natAbs).hours) := by
  have hlt : (partsOf t.natAbs).hours < 10 ^ 3 :=
    lt_of_le_of_lt (partsOf_inLimits h).1 (by decide)
  have hle := digitCount_le (by decide) hlt
  refine ⟨?_, lt_of_lt_of_le (lt_pow_digitCount _) ?_⟩
  · unfold hoursWidth
    omega
  · exact Nat.pow_le_pow_right (by decide) (le_max_right _ _)

/-! ### Printing and decoding -/

lemma printTime_eq (t : ℤ) (h : t.natAbs < 839 * hour) :
    printTime t = (durationOf t h).text (hoursWidth (partsOf t.natAbs).hours) := by
  have hl := partsOf_inLimits h
  have hh : (t.tdiv hour).natAbs = (partsOf t.natAbs).hours := by
    rw [Int.natAbs_tdiv, Int.natAbs_natCast]
    rfl
  have hm : ((t.tmod hour).tdiv minute).natAbs = (partsOf t.natAbs).minutes := by
    rw [Int.natAbs_tdiv, Int.natAbs_tmod, Int.natAbs_natCast, Int.natAbs_natCast]
    rfl
  have hs : ((t.tmod minute).tdiv second).natAbs = (partsOf t.natAbs).seconds := by
    rw [Int.natAbs_tdiv, Int.natAbs_tmod, Int.natAbs_natCast, Int.natAbs_natCast]
    rfl
  have hu : (t.tmod second).natAbs = (partsOf t.natAbs).micros := by
    rw [Int.natAbs_tmod, Int.natAbs_natCast]
    rfl
  simp only [printTime, hh, hm, hs, hu]
  rw [formatInt_ofNat (lt_of_le_of_lt hl.1 (by decide)),
    formatUnsigned_ofNat (by decide) (by decide) (lt_of_le_of_lt hl.2.1 (by decide)),
    formatUnsigned_ofNat (by decide) (by decide) (lt_of_le_of_lt hl.2.2.1 (by decide)),
    formatUnsigned_ofNat (by decide) (by decide) (lt_of_le_of_lt hl.2.2.2 (by decide))]
  have hf : fractionDigits 6 (partsOf t.natAbs).micros = decimal 6 (partsOf t.natAbs).micros := by
    rw [fractionDigits, maxDecimals, Nat.sub_self, pow_zero, Nat.div_one]
  simp only [Duration.text, durationOf, clockOf, clockText, fractionText, hf, hoursWidth,
    zeroPadded, decide_eq_true_eq]
  rfl

/-- **A time that is streamed is decoded to itself.** -/
theorem printTime_decoded (lexical : LexicalConvert) {fieldMeta : FieldMetadata}
    (hf : fieldMeta.protocolType = .time) (hd : fieldMeta.decimals = 6) {t : ℤ}
    (ht : |t| < 839 * hour) :
    deserializeTextValue lexical (printTime t) fieldMeta = .ok (.time t) := by
  have h : t.natAbs < 839 * hour := by
    rw [Int.abs_eq_natAbs] at ht
    exact_mod_cast ht
  rw [printTime_eq t h, (time_agree hf hd (.inl rfl) (durationOf_hoursWidth t h) []).1,
    durationOf_value]

example : printTime (-1) = ascii "-00:00:00.000001" := by decide +kernel

/-- The last microsecond before zero. -/
theorem printTime_decoded_negative :
    let lexical : LexicalConvert := ⟨fun _ => none, fun _ => none, fun _ => none, fun _ => none⟩
    let fieldMeta : FieldMetadata := ⟨⟨[], [], [], [], [], [], ⟨0⟩, 0, .time, 0, 6⟩⟩
    deserializeTextValue lexical (printTime (-1)) fieldMeta = .ok (.time (-1)) :=
  printTime_decoded _ rfl rfl (by decide)

end MysqlAsio.TimePrinting
