import MysqlAsio.TextReadings
import MysqlAsio.Lib.Decimal

/-!
The two protocols decode a date, a datetime or a time to the same value.

The text has all the digits of every part; the binary form has the parts its length announces,
and may leave out what is zero.
-/

namespace MysqlAsio.TemporalAgreement

open MysqlAsio.Errors MysqlAsio.CommonMessages MysqlAsio.Values MysqlAsio.BinarySerialization
open MysqlAsio.BinaryDeserialization MysqlAsio.TextDeserialization MysqlAsio.Temporal
open MysqlAsio.Scanning MysqlAsio.TextReadings MysqlAsio.BinaryRoundTrip
open MysqlAsio.Lib.Civil MysqlAsio.Lib.Decoding MysqlAsio.Lib.Decimal

/-! ### Digits -/

lemma decimal_digits (width n : ℕ) : Digits width (decimal width n) :=
  ⟨decimal_length width n, fun _ hb => isDigit_iff.mpr (mem_decimal hb)⟩

lemma digitsValue_decimal {width n : ℕ} (h : n < 10 ^ width) :
    digitsValue (decimal width n) = n := ofDecimal_decimal_of_lt h

/-- The digits of a fraction of a second. -/
def fractionDigits (decimals micros : ℕ) : Bytes :=
  decimal decimals (micros / 10 ^ (maxDecimals - decimals))

/-- No digit of the microseconds is lost. -/
lemma fractionDigits_value {decimals micros : ℕ} (hd : decimals ≤ maxDecimals)
    (hm : micros ≤ maxMicro) (hdvd : 10 ^ (maxDecimals - decimals) ∣ micros) :
    digitsValue (fractionDigits decimals micros) * 10 ^ (maxDecimals - decimals) = micros := by
  have hlt : micros / 10 ^ (maxDecimals - decimals) < 10 ^ decimals := by
    rw [Nat.div_lt_iff_lt_mul (Nat.pow_pos (by decide)), ← pow_add, Nat.add_sub_cancel' hd]
    exact Nat.lt_succ_of_le hm
  rw [fractionDigits, digitsValue_decimal hlt, Nat.div_mul_cancel hdvd]

/-- A time with all the digits of its parts, of the hours so many. -/
def clockOf (width decimals : ℕ) (t : TimeParts) : Bytes :=
  clockText decimals (decimal width t.hours) (decimal 2 t.minutes) (decimal 2 t.seconds)
    (fractionDigits decimals t.micros)

section Clock

variable {width hoursWidth decimals : ℕ} {t : TimeParts}

lemma clockOf_length (width decimals : ℕ) (t : TimeParts) :
    (clockOf width decimals t).length = width + 6 + fractionSz decimals :=
  clockText_length (decimal_digits _ _) (decimal_digits _ _) (decimal_digits _ _)
    (decimal_digits _ _)

lemma scanTimeParts_clockOf (h0 : 0 < width) (hw : width ≤ hoursWidth) (h9 : hoursWidth ≤ 9)
    (hh : t.hours < 10 ^ width) (hm : t.minutes ≤ 99) (hs : t.seconds ≤ 99)
    (hu : t.micros ≤ maxMicro) (hd : decimals ≤ maxDecimals)
    (hdvd : 10 ^ (maxDecimals - decimals) ∣ t.micros) :
    scanTimeParts hoursWidth decimals (clockOf width decimals t) = some t := by
  have hhD := decimal_digits width t.hours
  have hmD := decimal_digits 2 t.minutes
  have hsD := decimal_digits 2 t.seconds
  have hfD : Digits decimals (fractionDigits decimals t.micros) := decimal_digits _ _
  refine (scanTimeParts_iff _ _ _ _).mpr ⟨_, clockText_reads hhD hmD hsD hfD h0 hw hd, ?_⟩
  rw [clockText_parts hhD hmD hsD hfD (hw.trans h9) hd, digitsValue_decimal hh,
    digitsValue_decimal (show t.minutes < 10 ^ 2 by omega),
    digitsValue_decimal (show t.seconds < 10 ^ 2 by omega), fractionDigits_value hd hu hdvd]

end Clock

/-! ### Dates and datetimes -/

lemma toNat_ofNat8 {k : ℕ} (h : k ≤ 99) : (UInt8.ofNat k).toNat = k :=
  UInt8.toNat_ofNat_of_lt' (lt_of_le_of_lt h (by decide))

/-- The parts of a date and a time of day, that may be no date and no time of day. -/
structure Components where
  date : DateParts
  time : TimeParts
  decimals : ℕ
  year_le : date.year ≤ 9999
  month_le : date.month ≤ 99
  day_le : date.day ≤ 99
  hours_le : time.hours ≤ 99
  minutes_le : time.minutes ≤ 99
  seconds_le : time.seconds ≤ 99
  micros_le : time.micros ≤ 999999
  decimals_le : decimals ≤ 6
  dvd : 10 ^ (6 - decimals) ∣ time.micros

namespace Components

variable (c : Components)

def dateText : Bytes :=
  TextReadings.dateText (decimal 4 c.date.year) (decimal 2 c.date.month) (decimal 2 c.date.day)

def datetimeText : Bytes := c.dateText ++ space :: clockOf 2 c.decimals c.time

lemma scanDate_text : scanDate c.dateText = some c.date := by
  have hyD := decimal_digits 4 c.date.year
  have hmD := decimal_digits 2 c.date.month
  have hdD := decimal_digits 2 c.date.day
  refine (scanDate_iff _ _).mpr ⟨_, dateText_reads hyD hmD hdD, ?_⟩
  have hy : c.date.year < 10 ^ 4 := Nat.lt_succ_of_le c.year_le
  have hm : c.date.month < 10 ^ 2 := Nat.lt_succ_of_le c.month_le
  have hd : c.date.day < 10 ^ 2 := Nat.lt_succ_of_le c.day_le
  rw [dateText_parts hyD hmD hdD, digitsValue_decimal hy, digitsValue_decimal hm,
    digitsValue_decimal hd]

lemma scanDatetime_text : scanDatetime c.decimals c.datetimeText = some (c.date, c.time) := by
  have hlen : c.dateText.length = TextDeserialization.dateSz := by
    simp [dateText, TextReadings.dateText, TextDeserialization.dateSz]
  obtain ⟨htake, hdrop⟩ := split_datetime hlen (clockOf 2 c.decimals c.time)
  refine (scanDatetime_iff _ _ _ _).mpr ⟨?_, ?_, ?_⟩
  · rw [datetimeText, List.length_append, List.length_cons, hlen, clockOf_length]
    simp only [datetimeMinSz, timeMinSz]
    omega
  · rw [datetimeText, htake, c.scanDate_text]
  · rw [datetimeText, hdrop]
    exact scanTimeParts_clockOf (by decide) (le_refl 2) (by decide) (Nat.lt_succ_of_le c.hours_le)
      c.minutes_le c.seconds_le c.micros_le c.decimals_le c.dvd

/-- The lengths of a binary DATE. -/
def DateLength (n : ℕ) : Prop := n = 4 ∨ n = 0 ∧ c.date = ⟨0, 0, 0⟩

/-- The lengths of a binary DATETIME: what is left out is zero. -/
def DatetimeLength (n : ℕ) : Prop :=
  n = 11 ∨ n = 7 ∧ c.time.micros = 0 ∨ n = 4 ∧ c.time = ⟨0, 0, 0, 0⟩ ∨
    n = 0 ∧ c.date = ⟨0, 0, 0⟩ ∧ c.time = ⟨0, 0, 0, 0⟩

variable {c} {n : ℕ}

def dateFields (h : c.DateLength n) : DateFields where
  length := .ofNat n
  year := .ofNat c.date.year
  month := .ofNat c.date.month
  day := .ofNat c.date.day
  absent hlt := by
    obtain rfl | ⟨rfl, hz⟩ := h
    · exact absurd hlt (by decide)
    · rw [hz]
      exact ⟨rfl, rfl, rfl⟩

def datetimeFields (h : c.DatetimeLength n) : DatetimeFields where
  length := .ofNat n
  year := .ofNat c.date.year
  month := .ofNat c.date.month
  day := .ofNat c.date.day
  hours := .ofNat c.time.hours
  minutes := .ofNat c.time.minutes
  seconds := .ofNat c.time.seconds
  micros := .ofNat c.time.micros
  absent hlt := by
    obtain rfl | ⟨rfl, -⟩ | ⟨rfl, -⟩ | ⟨rfl, hz, -⟩ := h
    case inr.inr.inr =>
      rw [hz]
      exact ⟨rfl, rfl, rfl⟩
    all_goals exact absurd hlt (by decide)
  hmsAbsent hlt := by
    obtain rfl | ⟨rfl, -⟩ | ⟨rfl, hz⟩ | ⟨rfl, -, hz⟩ := h
    case inr.inr.inl | inr.inr.inr =>
      rw [hz]
      exact ⟨rfl, rfl, rfl⟩
    all_goals exact absurd hlt (by decide)
  microsAbsent hlt := by
    obtain rfl | ⟨rfl, hz⟩ | ⟨rfl, hz⟩ | ⟨rfl, -, hz⟩ := h
    · exact absurd hlt (by decide)
    all_goals
      rw [hz]
      rfl

lemma dateFields_parts (h : c.DateLength n) : (dateFields h).parts = c.date := by
  have hy : (UInt16.ofNat c.date.year).toNat = c.date.year :=
    UInt16.toNat_ofNat_of_lt' (lt_of_le_of_lt c.year_le (by decide))
  simp only [dateFields, DateFields.parts, hy, toNat_ofNat8 c.month_le, toNat_ofNat8 c.day_le]

lemma datetimeFields_parts (h : c.DatetimeLength n) : (datetimeFields h).parts = c.date := by
  have hy : (UInt16.ofNat c.date.year).toNat = c.date.year :=
    UInt16.toNat_ofNat_of_lt' (lt_of_le_of_lt c.year_le (by decide))
  simp only [datetimeFields, DateFields.parts, hy, toNat_ofNat8 c.month_le, toNat_ofNat8 c.day_le]

lemma datetimeFields_time (h : c.DatetimeLength n) : (datetimeFields h).time = c.time := by
  have hu : (UInt32.ofNat c.time.micros).toNat = c.time.micros :=
    UInt32.toNat_ofNat_of_lt' (lt_of_le_of_lt c.micros_le (by decide))
  simp only [datetimeFields, DatetimeFields.time, hu, toNat_ofNat8 c.hours_le,
    toNat_ofNat8 c.minutes_le, toNat_ofNat8 c.seconds_le]

end Components

/-! ### Times -/

/-- A sign and the parts of a duration, within the limits of the server. -/
structure Duration where
  isNegative : Bool
  time : TimeParts
  decimals : ℕ
  hours_le : time.hours ≤ 838
  minutes_le : time.minutes ≤ 59
  seconds_le : time.seconds ≤ 59
  micros_le : time.micros ≤ 999999
  decimals_le : decimals ≤ 6
  dvd : 10 ^ (6 - decimals) ∣ time.micros

namespace Duration

variable (d : Duration)

/-- The widths of the hours. -/
def HoursWidth (width : ℕ) : Prop := (width = 2 ∨ width = 3) ∧ d.time.hours < 10 ^ width

def text (width : ℕ) : Bytes :=
  (if d.isNegative then [dash] else []) ++ clockOf width d.decimals d.time

/-- The lengths of a binary TIME. -/
def TimeLength (n : ℕ) : Prop :=
  n = 12 ∨ n = 8 ∧ d.time.micros = 0 ∨ n = 0 ∧ d.time = ⟨0, 0, 0, 0⟩

variable {d} {n width : ℕ}

/-- There is no sign without parts. -/
def timeFields (h : d.TimeLength n) : TimeFields where
  length := .ofNat n
  isNegative := if d.isNegative ∧ n ≠ 0 then 1 else 0
  days := .ofNat (d.time.hours / 24)
  hours := .ofNat (d.time.hours % 24)
  minutes := .ofNat d.time.minutes
  seconds := .ofNat d.time.seconds
  micros := .ofNat d.time.micros
  dhmsAbsent hlt := by
    obtain rfl | ⟨rfl, -⟩ | ⟨rfl, hz⟩ := h
    case inr.inr =>
      rw [hz]
      exact ⟨if_neg fun hn => hn.2 rfl, rfl, rfl, rfl, rfl⟩
    all_goals exact absurd hlt (by decide)
  microsAbsent hlt := by
    obtain rfl | ⟨rfl, hz⟩ | ⟨rfl, hz⟩ := h
    · exact absurd hlt (by decide)
    all_goals
      rw [hz]
      rfl

lemma clockOf_head (hw : 0 < width) (decimals : ℕ) (t : TimeParts) :
    (clockOf width decimals t).head? ≠ some dash := by
  have hD := decimal_digits width t.hours
  intro hb
  cases hl : decimal width t.hours with
  | nil =>
    rw [hl] at hD
    exact absurd hD.1 hw.ne
  | cons b l =>
    obtain rfl : b = dash := by simpa [clockOf, clockText, hl] using hb
    exact absurd (hD.2 dash (hl ▸ List.mem_cons_self)) (by decide)

lemma scanDuration_text (hw : d.HoursWidth width) :
    scanDuration d.decimals (d.text width) = some (d.isNegative, d.time) := by
  obtain ⟨hw, hh⟩ := hw
  have h0 : 0 < width := by omega
  have hscan : scanTimeParts 3 d.decimals (clockOf width d.decimals d.time) = some d.time :=
    scanTimeParts_clockOf h0 (by omega) (by decide) hh (d.minutes_le.trans (by decide))
      (d.seconds_le.trans (by decide)) d.micros_le d.decimals_le d.dvd
  have hlen := clockOf_length width d.decimals d.time
  have hhead := clockOf_head h0 d.decimals d.time
  refine (scanDuration_iff _ _ _ _).mpr ?_
  cases hneg : d.isNegative with
  | false =>
    have ht : d.text width = clockOf width d.decimals d.time := by simp [text, hneg]
    rw [ht, unsignedPart, if_neg hhead, hlen, timeMinSz]
    exact ⟨by omega, by omega, (decide_eq_false hhead).symm, hscan⟩
  | true =>
    have ht : d.text width = dash :: clockOf width d.decimals d.time := by simp [text, hneg]
    rw [ht, List.length_cons, hlen, timeMinSz]
    exact ⟨by omega, by omega, rfl, hscan⟩

lemma timeFields_toNat (h : d.TimeLength n) :
    (timeFields h).days.toNat = d.time.hours / 24 ∧
      (timeFields h).hours.toNat = d.time.hours % 24 ∧
      (timeFields h).minutes.toNat = d.time.minutes ∧
      (timeFields h).seconds.toNat = d.time.seconds ∧
      (timeFields h).micros.toNat = d.time.micros := by
  have hle := d.hours_le
  have hm := d.minutes_le
  have hs := d.seconds_le
  refine ⟨UInt32.toNat_ofNat_of_lt' ?_, toNat_ofNat8 (by omega), toNat_ofNat8 (by omega),
    toNat_ofNat8 (by omega), UInt32.toNat_ofNat_of_lt' ?_⟩
  · exact lt_of_le_of_lt ((Nat.div_le_self _ _).trans hle) (by decide)
  · exact lt_of_le_of_lt d.micros_le (by decide)

lemma timeFields_time (h : d.TimeLength n) : (timeFields h).time = d.time := by
  obtain ⟨hd, hh, hm, hs, hu⟩ := timeFields_toNat h
  simp only [TimeFields.time, hd, hh, hm, hs, hu, Nat.div_add_mod']

lemma timeFields_inLimits (h : d.TimeLength n) : (timeFields h).InLimits := by
  obtain ⟨hd, hh, hm, hs, hu⟩ := timeFields_toNat h
  have hle := d.hours_le
  simp only [TimeFields.InLimits, TimeParts.InLimits, hd, hh, hm, hs, hu, timeMaxDays, maxHour]
  exact ⟨by omega, by omega, d.minutes_le, d.seconds_le, d.micros_le⟩

lemma signedTime_zero (isNegative : Bool) : signedTime isNegative ⟨0, 0, 0, 0⟩ = .time 0 := by
  cases isNegative <;> rfl

lemma TimeLength.eq_zero (h : d.TimeLength 0) : d.time = ⟨0, 0, 0, 0⟩ := by
  obtain h | ⟨h, -⟩ | ⟨-, hz⟩ := h
  · cases h
  · cases h
  · exact hz

lemma timeFields_value (h : d.TimeLength n) :
    (timeFields h).value = .ok (signedTime d.isNegative d.time) := by
  rw [TimeFields.value, if_pos (timeFields_inLimits h), timeFields_time h]
  by_cases hn : n = 0
  · subst hn
    rw [h.eq_zero, signedTime_zero, signedTime_zero]
  · have hneg : decide ((timeFields h).isNegative ≠ 0) = d.isNegative := by
      cases hd : d.isNegative <;> simp [timeFields, hd, hn]
    rw [hneg]

end Duration

/-! ### Agreement -/

/-- Both decoders refuse what is not `valid`; the rest is NULL or the value `v`. -/
inductive Agree (text : Except Errc Value) (binary : Except Errc (Value × Bytes)) (rest : Bytes)
    (valid isDate : Prop) (v : Value) : Prop
  | invalid (h : ¬ valid) (ht : text = .error .protocolValueError)
      (hb : binary = .error .protocolValueError)
  | null (h : valid) (hd : ¬ isDate) (ht : text = .ok .null) (hb : binary = .ok (.null, rest))
  | value (h : valid) (hd : isDate) (ht : text = .ok v) (hb : binary = .ok (v, rest))

/-- Both decoders come to the value of the parts, which is decided in this order. -/
lemma agree {text result : Except Errc Value} {binary : Except Errc (Value × Bytes)} {rest : Bytes}
    {valid isDate : Prop} [Decidable valid] [Decidable isDate] {v : Value} (ht : text = result)
    (hb : binary = result.map fun v => (v, rest))
    (hr : result = if valid then if isDate then .ok v else .ok .null
      else .error .protocolValueError) :
    Agree text binary rest valid isDate v := by
  rw [hr] at ht hb
  by_cases hl : valid
  · rw [if_pos hl] at ht hb
    by_cases hd : isDate
    · rw [if_pos hd] at ht hb
      exact .value hl hd ht hb
    · rw [if_neg hd] at ht hb
      exact .null hl hd ht hb
  · rw [if_neg hl] at ht hb
    exact .invalid hl ht hb

lemma sanitizeDecimals_of_le {decimals : ℕ} (h : decimals ≤ 6) :
    sanitizeDecimals decimals = decimals := min_eq_left h

/-- The date of the components, or NULL if there is none, in both protocols. -/
lemma date_agree {lexical : LexicalConvert} {fieldMeta : FieldMetadata}
    (hf : fieldMeta.protocolType = .date) {c : Components} {n : ℕ} (h : c.DateLength n)
    (rest : Bytes) :
    Agree (deserializeTextValue lexical c.dateText fieldMeta)
      (deserializeBinaryValue fieldMeta ((Components.dateFields h).bytes ++ rest)) rest
      c.date.InLimits (c.date.ymd.ok = true) (.date (toDays c.date.ymd)) := by
  have ht : deserializeTextValue lexical c.dateText fieldMeta =
      deserializeTextValueDate c.dateText := by rw [deserializeTextValue, hf]
  have hb : deserializeBinaryValue fieldMeta = deserializeBinaryValueDate := by
    rw [deserializeBinaryValue, hf]
  refine @agree _ (dateValue c.date) _ _ _ _ _ _ _ ?_ ?_ rfl
  · rw [ht, textDate_eq, c.scanDate_text, orValueError]
  · rw [hb, date_yields, Components.dateFields_parts]

lemma datetime_agree {lexical : LexicalConvert} {fieldMeta : FieldMetadata}
    (hf : fieldMeta.protocolType = .datetime ∨ fieldMeta.protocolType = .timestamp)
    {c : Components} (hd : fieldMeta.decimals = c.decimals) {n : ℕ} (h : c.DatetimeLength n)
    (rest : Bytes) :
    Agree (deserializeTextValue lexical c.datetimeText fieldMeta)
      (deserializeBinaryValue fieldMeta ((Components.datetimeFields h).bytes ++ rest)) rest
      (c.date.InLimits ∧ c.time.InLimits maxHour) (c.date.ymd.ok = true)
      (.datetime (toDays c.date.ymd * Values.day + c.time.total)) := by
  have ht : deserializeTextValue lexical c.datetimeText fieldMeta =
      deserializeTextValueDatetime c.datetimeText fieldMeta := by
    obtain hf | hf := hf <;> rw [deserializeTextValue, hf]
  have hb : deserializeBinaryValue fieldMeta = deserializeBinaryValueDatetime := by
    obtain hf | hf := hf <;> rw [deserializeBinaryValue, hf]
  refine @agree _ (datetimeValue c.date c.time) _ _ _ _ _ _ _ ?_ ?_ rfl
  · rw [ht, textDatetime_eq, hd, sanitizeDecimals_of_le c.decimals_le, c.scanDatetime_text,
      orValueError]
  · rw [hb, datetime_yields, Components.datetimeFields_parts, Components.datetimeFields_time]

lemma time_agree {lexical : LexicalConvert} {fieldMeta : FieldMetadata}
    (hf : fieldMeta.protocolType = .time) {d : Duration} (hd : fieldMeta.decimals = d.decimals)
    {n width : ℕ} (h : d.TimeLength n) (hw : d.HoursWidth width) (rest : Bytes) :
    deserializeTextValue lexical (d.text width) fieldMeta =
        .ok (signedTime d.isNegative d.time) ∧
      deserializeBinaryValue fieldMeta ((Duration.timeFields h).bytes ++ rest) =
        .ok (signedTime d.isNegative d.time, rest) := by
  have hl : d.time.InLimits TextDeserialization.timeMaxHour :=
    ⟨d.hours_le, d.minutes_le, d.seconds_le, d.micros_le⟩
  have ht : deserializeTextValue lexical (d.text width) fieldMeta =
      deserializeTextValueTime (d.text width) fieldMeta := by rw [deserializeTextValue, hf]
  have hb : deserializeBinaryValue fieldMeta = deserializeBinaryValueTime := by
    rw [deserializeBinaryValue, hf]
  constructor
  · rw [ht, textTime_eq, hd, sanitizeDecimals_of_le d.decimals_le, Duration.scanDuration_text hw,
      orValueError, timeValue, if_pos hl]
  · rw [hb, time_yields, Duration.timeFields_value]
    rfl

/-- **The two protocols decode the same temporal value to the same result: a date or a datetime
with these components, NULL, or an error for both; and a time always to its duration.** -/
theorem text_binary_agree (lexical : LexicalConvert) (fieldMeta : FieldMetadata) (rest : Bytes) :
    (∀ (c : Components) (n : ℕ) (h : c.DateLength n), fieldMeta.protocolType = .date →
      Agree (deserializeTextValue lexical c.dateText fieldMeta)
        (deserializeBinaryValue fieldMeta ((Components.dateFields h).bytes ++ rest)) rest
        c.date.InLimits (c.date.ymd.ok = true) (.date (toDays c.date.ymd))) ∧
    (∀ (c : Components) (n : ℕ) (h : c.DatetimeLength n),
      fieldMeta.protocolType = .datetime ∨ fieldMeta.protocolType = .timestamp →
      fieldMeta.decimals = c.decimals →
      Agree (deserializeTextValue lexical c.datetimeText fieldMeta)
        (deserializeBinaryValue fieldMeta ((Components.datetimeFields h).bytes ++ rest)) rest
        (c.date.InLimits ∧ c.time.InLimits maxHour) (c.date.ymd.ok = true)
        (.datetime (toDays c.date.ymd * Values.day + c.time.total))) ∧
    (∀ (d : Duration) (n width : ℕ) (h : d.TimeLength n), d.HoursWidth width →
      fieldMeta.protocolType = .time → fieldMeta.decimals = d.decimals →
      deserializeTextValue lexical (d.text width) fieldMeta =
          .ok (signedTime d.isNegative d.time) ∧
        deserializeBinaryValue fieldMeta ((Duration.timeFields h).bytes ++ rest) =
          .ok (signedTime d.isNegative d.time, rest)) :=
  ⟨fun _ _ h hf => date_agree hf h rest, fun _ _ h hf hd => datetime_agree hf hd h rest,
    fun _ _ _ h hw hf hd => time_agree hf hd h hw rest⟩

/-- A quarter of a second before the end of a leap day. -/
def leapDay : Components where
  date := ⟨2012, 2, 29⟩
  time := ⟨23, 59, 59, 750000⟩
  decimals := 2
  year_le := by decide
  month_le := by decide
  day_le := by decide
  hours_le := by decide
  minutes_le := by decide
  seconds_le := by decide
  micros_le := by decide
  decimals_le := by decide
  dvd := by decide

example : leapDay.datetimeText = "2012-02-29 23:59:59.75".toList.map Char.toUInt8 := by decide

/-- Minus a hundred hours. -/
def hundredHours : Duration where
  isNegative := true
  time := ⟨100, 0, 0, 0⟩
  decimals := 2
  hours_le := by decide
  minutes_le := by decide
  seconds_le := by decide
  micros_le := by decide
  decimals_le := by decide
  dvd := by decide

def hundredthsField (type : ProtocolFieldType) : FieldMetadata :=
  ⟨⟨[], [], [], [], [], [], ⟨0⟩, 0, type, 0, 2⟩⟩

theorem text_binary_agree_hundredths :
    let lexical : LexicalConvert := ⟨fun _ => none, fun _ => none, fun _ => none, fun _ => none⟩
    Agree (deserializeTextValue lexical leapDay.dateText (hundredthsField .date))
      (deserializeBinaryValue (hundredthsField .date) ([4, 0xdc, 7, 2, 29] ++ [7])) [7]
      leapDay.date.InLimits (leapDay.date.ymd.ok = true)
      (.date (toDays leapDay.date.ymd)) ∧
    Agree (deserializeTextValue lexical leapDay.datetimeText (hundredthsField .datetime))
      (deserializeBinaryValue (hundredthsField .datetime)
        ([11, 0xdc, 7, 2, 29, 23, 59, 59, 0xb0, 0x71, 0x0b, 0] ++ [7])) [7]
      (leapDay.date.InLimits ∧ leapDay.time.InLimits maxHour) (leapDay.date.ymd.ok = true)
      (.datetime (toDays leapDay.date.ymd * Values.day + leapDay.time.total)) ∧
    deserializeTextValue lexical (hundredHours.text 3) (hundredthsField .time) =
        .ok (signedTime true hundredHours.time) ∧
      deserializeBinaryValue (hundredthsField .time) ([8, 1, 4, 0, 0, 0, 4, 0, 0] ++ [7]) =
        .ok (signedTime true hundredHours.time, [7]) :=
  ⟨(text_binary_agree _ (hundredthsField .date) [7]).1 leapDay 4 (.inl rfl) rfl,
    (text_binary_agree _ (hundredthsField .datetime) [7]).2.1 leapDay 11 (.inl rfl) (.inl rfl) rfl,
    (text_binary_agree _ (hundredthsField .time) [7]).2.2 hundredHours 8 3 (.inr (.inl ⟨rfl, rfl⟩))
      ⟨.inr rfl, by decide⟩ rfl rfl⟩

end MysqlAsio.TemporalAgreement
