import MysqlAsio.BinaryRoundTrip
import MysqlAsio.TextDeserialization

/-!
What the parts of a temporal value stand for, and the decoders in these terms.

A text decoder is a scan of the parts and their meaning. A binary one reads the fields its
length announces, the others being zero, and the meaning of a date and a datetime is the same.
-/

namespace MysqlAsio.Temporal

open MysqlAsio.Errors MysqlAsio.Serialization MysqlAsio.CommonMessages MysqlAsio.Values
open MysqlAsio.BinarySerialization MysqlAsio.BinaryDeserialization MysqlAsio.TextDeserialization
open MysqlAsio.Lib.Civil MysqlAsio.Lib.Decoding

/-! ### Parts -/

structure DateParts where
  year : ℕ
  month : ℕ
  day : ℕ
  deriving DecidableEq, Repr

structure TimeParts where
  hours : ℕ
  minutes : ℕ
  seconds : ℕ
  micros : ℕ
  deriving DecidableEq, Repr

def DateParts.ymd (d : DateParts) : YearMonthDay := ⟨d.year, d.month, d.day⟩

def DateParts.InLimits (d : DateParts) : Prop :=
  d.year ≤ maxYear ∧ d.month ≤ maxMonth ∧ d.day ≤ maxDay

def TimeParts.InLimits (t : TimeParts) (hourLimit : ℕ) : Prop :=
  t.hours ≤ hourLimit ∧ t.minutes ≤ maxMin ∧ t.seconds ≤ maxSec ∧ t.micros ≤ maxMicro

instance (d : DateParts) : Decidable d.InLimits := by
  unfold DateParts.InLimits
  infer_instance

instance (t : TimeParts) (hourLimit : ℕ) : Decidable (t.InLimits hourLimit) := by
  unfold TimeParts.InLimits
  infer_instance

/-- In microseconds. -/
def TimeParts.total (t : TimeParts) : ℕ :=
  t.hours * hour + t.minutes * minute + t.seconds * second + t.micros

/-- A duration with a sign. -/
def signedTime (isNegative : Bool) (t : TimeParts) : Value :=
  .time (if isNegative then -(t.total : ℤ) else t.total)

/-! ### Meaning -/

/-- Parts within their limits that are no date make NULL. -/
def dateValue (d : DateParts) : Except Errc Value :=
  if d.InLimits then
    if d.ymd.ok then .ok (.date (toDays d.ymd)) else .ok .null
  else .error .protocolValueError

/-- The limits of all the parts come first. -/
def datetimeValue (d : DateParts) (t : TimeParts) : Except Errc Value :=
  if d.InLimits ∧ t.InLimits maxHour then
    if d.ymd.ok then .ok (.datetime (toDays d.ymd * Values.day + t.total)) else .ok .null
  else .error .protocolValueError

def timeValue (isNegative : Bool) (t : TimeParts) : Except Errc Value :=
  if t.InLimits TextDeserialization.timeMaxHour then .ok (signedTime isNegative t)
  else .error .protocolValueError

lemma datetimeValue_of_inLimits {d : DateParts} {t : TimeParts} (hd : d.InLimits)
    (ht : t.InLimits maxHour) : datetimeValue d t =
      if d.ymd.ok then .ok (.datetime (toDays d.ymd * Values.day + t.total)) else .ok .null :=
  if_pos ⟨hd, ht⟩

lemma datetimeValue_of_not {d : DateParts} {t : TimeParts}
    (h : ¬ (d.InLimits ∧ t.InLimits maxHour)) :
    datetimeValue d t = .error .protocolValueError := if_neg h

/-- Parts beyond their limits are value errors, and the only ones. -/
lemma dateValue_error {d : DateParts} {e : Errc} (h : dateValue d = .error e) :
    e = .protocolValueError := by
  unfold dateValue at h
  split_ifs at h
  cases h
  rfl

lemma datetimeValue_error {d : DateParts} {t : TimeParts} {e : Errc}
    (h : datetimeValue d t = .error e) : e = .protocolValueError := by
  unfold datetimeValue at h
  split_ifs at h
  cases h
  rfl

lemma timeValue_error {isNegative : Bool} {t : TimeParts} {e : Errc}
    (h : timeValue isNegative t = .error e) : e = .protocolValueError := by
  unfold timeValue at h
  split_ifs at h
  cases h
  rfl

lemma inRange_of_ok {d : DateParts} (h : d.InLimits) (hok : d.ymd.ok = true) :
    minDate ≤ toDays d.ymd ∧ toDays d.ymd ≤ maxDate := by
  rw [inRange_iff_year, ofDays_toDays hok]
  obtain ⟨hy, -, -⟩ := h
  simp only [DateParts.ymd, maxYear] at hy ⊢
  omega

lemma not_isOutOfRange {d : DateParts} (h : d.InLimits) (hok : d.ymd.ok = true) :
    isOutOfRange (toDays d.ymd) = false :=
  (isOutOfRange_eq_false_iff _).mpr (inRange_of_ok h hok)

lemma total_lt_day {t : TimeParts} (h : t.InLimits maxHour) : t.total < 24 * hour := by
  obtain ⟨h1, h2, h3, h4⟩ := h
  simp only [TimeParts.total, hour, minute, second, maxHour, maxMin, maxSec, maxMicro] at *
  omega

lemma dateValue_inRange {d : DateParts} {v : Value} (h : dateValue d = .ok v) : v.InRange := by
  unfold dateValue at h
  split_ifs at h with hl hok <;> cases h
  · exact inRange_of_ok hl hok
  · trivial

lemma datetimeValue_inRange {d : DateParts} {t : TimeParts} {v : Value}
    (h : datetimeValue d t = .ok v) : v.InRange := by
  unfold datetimeValue at h
  split_ifs at h with hl hok <;> cases h
  · obtain ⟨hd, ht⟩ := hl
    have hr := inRange_of_ok hd hok
    have htot := total_lt_day ht
    simp only [Value.InRange, minDatetime, maxDatetime, Values.day, hour, minute, second] at *
    omega
  · trivial

lemma timeValue_inRange {isNegative : Bool} {t : TimeParts} {v : Value}
    (h : timeValue isNegative t = .ok v) : v.InRange := by
  unfold timeValue at h
  split_ifs at h with hl
  cases h
  obtain ⟨h1, h2, h3, h4⟩ := hl
  simp only [TextDeserialization.timeMaxHour, maxMin, maxSec, maxMicro] at h1 h2 h3 h4
  simp only [signedTime, Value.InRange, minTime, maxTime, TimeParts.total, hour, minute, second]
  split <;> omega

/-! ### The text decoders -/

def scanDate (source : Bytes) : Option DateParts :=
  if source.length ≠ TextDeserialization.dateSz then none
  else
    match sscanf 4 [(dash, 2), (dash, 2)] source with
    | some [year, month, day] => some ⟨year.toNat, month.toNat, day.toNat⟩
    | _ => none

def scanTimeParts (hoursWidth decimals : ℕ) (source : Bytes) : Option TimeParts :=
  (scanTime hoursWidth decimals source).map fun (hours, minutes, seconds, micros) =>
    ⟨hours.toNat, minutes.toNat, seconds.toNat, micros.toNat⟩

/-- The size of the fraction with its dot. -/
abbrev fractionSz (decimals : ℕ) : ℕ := if decimals ≠ 0 then decimals + 1 else 0

def scanDatetime (decimals : ℕ) (source : Bytes) : Option (DateParts × TimeParts) :=
  if source.length ≠ datetimeMinSz + fractionSz decimals then none
  else do
    let d ← scanDate (source.take TextDeserialization.dateSz)
    let t ← scanTimeParts 2 decimals (source.drop (TextDeserialization.dateSz + 1))
    pure (d, t)

def scanDuration (decimals : ℕ) (source : Bytes) : Option (Bool × TimeParts) :=
  if source.length < timeMinSz + fractionSz decimals ∨
      source.length > timeMinSz + fractionSz decimals + 1 + 1 then none
  else
    let isNegative : Bool := source.head? = some dash
    (scanTimeParts 3 decimals (if isNegative then source.drop 1 else source)).map (isNegative, ·)

/-- Each decoder is a scan and the meaning of what it finds. -/
def orValueError {α : Type} (scan : Option α) (value : α → Except Errc Value) :
    Except Errc Value :=
  match scan with
  | some a => value a
  | none => .error .protocolValueError

lemma textYmd_eq (source : Bytes) : deserializeTextYmd source =
    match scanDate source with
    | some d => if d.InLimits then .ok d.ymd else .error .protocolValueError
    | none => .error .protocolValueError := by
  unfold deserializeTextYmd scanDate
  by_cases hs : source.length = TextDeserialization.dateSz
  · rw [if_neg (not_not.mpr hs), if_neg (not_not.mpr hs)]
    rcases sscanf 4 [(dash, 2), (dash, 2)] source with
      _ | _ | ⟨year, _ | ⟨month, _ | ⟨day, _ | _⟩⟩⟩
    case some.cons.cons.cons.nil =>
      by_cases hl : DateParts.InLimits ⟨year.toNat, month.toNat, day.toNat⟩
      · refine (if_neg ?_).trans (if_pos hl).symm
        simp only [DateParts.InLimits] at hl
        omega
      · refine (if_pos ?_).trans (if_neg hl).symm
        simp only [DateParts.InLimits] at hl
        omega
    -- no three numbers
    all_goals rfl
  · rw [if_pos hs, if_pos hs]

lemma textDate_eq (source : Bytes) :
    deserializeTextValueDate source = orValueError (scanDate source) dateValue := by
  unfold deserializeTextValueDate orValueError
  rw [textYmd_eq]
  cases scanDate source with
  | none => rfl
  | some d =>
    simp only [dateValue]
    by_cases hl : d.InLimits
    · simp only [if_pos hl, bind, Except.bind]
      cases hok : d.ymd.ok with
      | false => rfl
      | true =>
        rw [not_isOutOfRange hl hok]
        rfl
    · simp only [if_neg hl]
      rfl

lemma TimeParts.beyond_iff (t : TimeParts) (hourLimit : ℕ) :
    (t.hours > hourLimit ∨ t.minutes > maxMin ∨ t.seconds > maxSec ∨ t.micros > maxMicro) ↔
      ¬ t.InLimits hourLimit := by
  simp only [TimeParts.InLimits]
  omega

/-- The limits of the time of day are checked after those of the date, and before the date. -/
lemma textDatetime_eq (source : Bytes) (fieldMeta : FieldMetadata) :
    deserializeTextValueDatetime source fieldMeta =
      orValueError (scanDatetime (sanitizeDecimals fieldMeta.decimals) source)
        fun p => datetimeValue p.1 p.2 := by
  unfold deserializeTextValueDatetime scanDatetime
  simp only [textYmd_eq, scanTimeParts]
  generalize sanitizeDecimals fieldMeta.decimals = decimals
  by_cases hsize : source.length ≠ datetimeMinSz + fractionSz decimals
  · simp only [if_pos hsize]
    rfl
  simp only [if_neg hsize]
  cases scanDate (source.take TextDeserialization.dateSz) with
  | none => rfl
  | some d =>
    rcases scanTime 2 decimals (source.drop (TextDeserialization.dateSz + 1)) with
      _ | ⟨hours, minutes, seconds, micros⟩
    · by_cases hl : d.InLimits
      · simp only [if_pos hl]
        rfl
      · simp only [if_neg hl]
        rfl
    have hb := TimeParts.beyond_iff
      ⟨hours.toNat, minutes.toNat, seconds.toNat, micros.toNat⟩ maxHour
    simp only at hb
    by_cases hl : d.InLimits
    · by_cases ht : TimeParts.InLimits
        ⟨hours.toNat, minutes.toNat, seconds.toNat, micros.toNat⟩ maxHour
      · simp only [bind, Except.bind, hb, ht, not_true, if_false, orValueError,
          Option.bind, Option.map_some, pure, datetimeValue, hl, and_self, if_true]
        cases hok : d.ymd.ok with
        | false => rfl
        | true =>
          rw [not_isOutOfRange hl hok]
          rfl
      · simp only [if_pos hl, bind, Except.bind, hb, ht, not_false_iff, if_true, orValueError,
          Option.bind, Option.map_some, pure, datetimeValue, and_false, if_false]
        rfl
    · simp only [bind, Except.bind, orValueError, Option.bind, Option.map_some, pure,
        datetimeValue, hl, false_and, if_false]

lemma textTime_eq (source : Bytes) (fieldMeta : FieldMetadata) :
    deserializeTextValueTime source fieldMeta =
      orValueError (scanDuration (sanitizeDecimals fieldMeta.decimals) source)
        fun p => timeValue p.1 p.2 := by
  unfold deserializeTextValueTime scanDuration
  simp only [scanTimeParts]
  generalize sanitizeDecimals fieldMeta.decimals = decimals
  generalize decide (source.head? = some dash) = isNegative
  by_cases hsize : source.length < timeMinSz + fractionSz decimals ∨
      source.length > timeMinSz + fractionSz decimals + 1 + 1
  · simp only [if_pos hsize]
    rfl
  simp only [if_neg hsize]
  rcases scanTime 3 decimals (if isNegative = true then source.drop 1 else source) with
    _ | ⟨hours, minutes, seconds, micros⟩
  · rfl
  have hb := TimeParts.beyond_iff
    ⟨hours.toNat, minutes.toNat, seconds.toNat, micros.toNat⟩ TextDeserialization.timeMaxHour
  simp only at hb
  simp only [hb, orValueError, Option.map_some, timeValue]
  by_cases ht : TimeParts.InLimits
    ⟨hours.toNat, minutes.toNat, seconds.toNat, micros.toNat⟩ TextDeserialization.timeMaxHour
  · rw [if_pos ht, if_neg (not_not.mpr ht)]
    rfl
  · rw [if_neg ht, if_pos ht]

/-! ### The binary decoders -/

/-- A date is read or left out, as the length says. -/
structure DateFields where
  length : UInt8
  year : UInt16
  month : UInt8
  day : UInt8
  absent : length.toNat < datetimeDSz → year = 0 ∧ month = 0 ∧ day = 0

structure DatetimeFields extends DateFields where
  hours : UInt8
  minutes : UInt8
  seconds : UInt8
  micros : UInt32
  hmsAbsent : length.toNat < datetimeDhmsSz → hours = 0 ∧ minutes = 0 ∧ seconds = 0
  microsAbsent : length.toNat < datetimeDhmsuSz → micros = 0

structure TimeFields where
  length : UInt8
  isNegative : UInt8
  days : UInt32
  hours : UInt8
  minutes : UInt8
  seconds : UInt8
  micros : UInt32
  dhmsAbsent : length.toNat < timeDhmsSz →
    isNegative = 0 ∧ days = 0 ∧ hours = 0 ∧ minutes = 0 ∧ seconds = 0
  microsAbsent : length.toNat < timeDhmsuSz → micros = 0

def DateFields.ymdBytes (f : DateFields) : Bytes :=
  serializeInt2 f.year ++ (serializeInt1 f.month ++ serializeInt1 f.day)

def DatetimeFields.hmsBytes (f : DatetimeFields) : Bytes :=
  serializeInt1 f.hours ++ (serializeInt1 f.minutes ++ serializeInt1 f.seconds)

def TimeFields.dhmsBytes (f : TimeFields) : Bytes :=
  serializeInt1 f.isNegative ++ (serializeInt4 f.days ++
    (serializeInt1 f.hours ++ (serializeInt1 f.minutes ++ serializeInt1 f.seconds)))

def DateFields.bytes (f : DateFields) : Bytes :=
  serializeInt1 f.length ++
    if f.length.toNat ≥ datetimeDSz then f.ymdBytes else []

def DatetimeFields.bytes (f : DatetimeFields) : Bytes :=
  serializeInt1 f.length ++
    ((if f.length.toNat ≥ datetimeDSz then f.ymdBytes else []) ++
      ((if f.length.toNat ≥ datetimeDhmsSz then f.hmsBytes else []) ++
        if f.length.toNat ≥ datetimeDhmsuSz then serializeInt4 f.micros else []))

def TimeFields.bytes (f : TimeFields) : Bytes :=
  serializeInt1 f.length ++
    ((if f.length.toNat ≥ timeDhmsSz then f.dhmsBytes else []) ++
      if f.length.toNat ≥ timeDhmsuSz then serializeInt4 f.micros else [])

def DateFields.parts (f : DateFields) : DateParts := ⟨f.year.toNat, f.month.toNat, f.day.toNat⟩

def DatetimeFields.time (f : DatetimeFields) : TimeParts :=
  ⟨f.hours.toNat, f.minutes.toNat, f.seconds.toNat, f.micros.toNat⟩

/-- The days are hours like others. -/
def TimeFields.time (f : TimeFields) : TimeParts :=
  ⟨f.days.toNat * 24 + f.hours.toNat, f.minutes.toNat, f.seconds.toNat, f.micros.toNat⟩

/-- The limits of a binary TIME are those of a time of day, and one for the days. -/
def TimeFields.InLimits (f : TimeFields) : Prop :=
  f.days.toNat ≤ timeMaxDays ∧
    (TimeParts.mk f.hours.toNat f.minutes.toNat f.seconds.toNat f.micros.toNat).InLimits maxHour

instance (f : TimeFields) : Decidable f.InLimits := by
  unfold TimeFields.InLimits
  infer_instance

def TimeFields.value (f : TimeFields) : Except Errc Value :=
  if f.InLimits then .ok (signedTime (f.isNegative ≠ 0) f.time)
  else .error .protocolValueError

lemma ymd_yields (f : DateFields) : Yields deserializeBinaryYmd f.ymdBytes
    (if f.parts.InLimits then .ok f.parts.ymd else .error .protocolValueError) := by
  refine (int2_reads _).bind_yields ((int1_reads _).bind_yields
    ((int1_reads _).bind_yields_nil fun rest => ?_))
  by_cases hl : f.parts.InLimits
  · rw [if_pos hl, if_neg (by simp only [DateFields.parts, DateParts.InLimits] at hl; omega)]
    rfl
  · rw [if_neg hl, if_pos (by simp only [DateFields.parts, DateParts.InLimits] at hl; omega)]
    rfl

/-- A date that is left out is within the limits, and no date. -/
lemma DateFields.parts_absent (f : DateFields) (h : ¬ f.length.toNat ≥ datetimeDSz) :
    f.parts = ⟨0, 0, 0⟩ := by
  obtain ⟨hy, hm, hd⟩ := f.absent (not_le.mp h)
  simp only [DateFields.parts, hy, hm, hd]
  rfl

lemma date_yields (f : DateFields) :
    Yields deserializeBinaryValueDate f.bytes (dateValue f.parts) := by
  unfold deserializeBinaryValueDate DateFields.bytes
  refine (int1_reads _).bind_yields ?_
  by_cases h : f.length.toNat ≥ datetimeDSz
  · have h' : ¬ f.length.toNat < BinarySerialization.dateSz := not_lt.mpr h
    rw [if_neg h', if_pos h]
    have hy := ymd_yields f
    by_cases hl : f.parts.InLimits
    · rw [if_pos hl] at hy
      refine Reads.bind_yields_nil hy fun rest => ?_
      rw [dateValue, if_pos hl]
      cases hok : f.parts.ymd.ok with
      | false => rfl
      | true =>
        rw [not_isOutOfRange hl hok]
        rfl
    · rw [if_neg hl] at hy
      rw [dateValue, if_neg hl]
      simpa using hy.bind_error []
  · have h' : f.length.toNat < BinarySerialization.dateSz := not_le.mp h
    rw [if_pos h', if_neg h, f.parts_absent h]
    exact reads_pure _

lemma datetime_end {d : DateParts} (hl : d.InLimits) (hours minutes seconds : UInt8)
    (micros : UInt32) :
    Yields (if hours.toNat > maxHour ∨ minutes.toNat > maxMin ∨ seconds.toNat > maxSec ∨
          micros.toNat > maxMicro then throw .protocolValueError
        else if !d.ymd.ok then pure .null
        else if isOutOfRange (toDays d.ymd) then throw .protocolValueError
        else pure (.datetime (toDays d.ymd * Values.day + (hours.toNat * hour +
          minutes.toNat * minute + seconds.toNat * second + micros.toNat : ℕ))) :
        Deserializer Value)
      [] (datetimeValue d ⟨hours.toNat, minutes.toNat, seconds.toNat, micros.toNat⟩) := by
  have hb := TimeParts.beyond_iff
    ⟨hours.toNat, minutes.toNat, seconds.toNat, micros.toNat⟩ maxHour
  simp only at hb
  by_cases ht : TimeParts.InLimits
    ⟨hours.toNat, minutes.toNat, seconds.toNat, micros.toNat⟩ maxHour
  · rw [if_neg (fun h => hb.mp h ht), datetimeValue_of_inLimits hl ht]
    intro rest
    cases hok : d.ymd.ok with
    | false => rfl
    | true =>
      rw [not_isOutOfRange hl hok]
      rfl
  · rw [if_pos (hb.mpr ht), datetimeValue_of_not (fun h => ht h.2)]
    exact fun rest => rfl

lemma micros_end (f : DatetimeFields) (hl : f.parts.InLimits) :
    Yields (do
        let micros ← if f.length.toNat ≥ datetimeDhmsuSz then deserializeInt4 else pure 0
        if f.hours.toNat > maxHour ∨ f.minutes.toNat > maxMin ∨ f.seconds.toNat > maxSec ∨
          micros.toNat > maxMicro then throw .protocolValueError
        else if !f.parts.ymd.ok then pure .null
        else if isOutOfRange (toDays f.parts.ymd) then throw .protocolValueError
        else pure (.datetime (toDays f.parts.ymd * Values.day + (f.hours.toNat * hour +
          f.minutes.toNat * minute + f.seconds.toNat * second + micros.toNat : ℕ))) :
        Deserializer Value)
      (if f.length.toNat ≥ datetimeDhmsuSz then serializeInt4 f.micros else [])
      (datetimeValue f.parts f.time) := by
  exact Reads.ite_bind_yields_nil (fun _ => int4_reads _)
    (fun h => (f.microsAbsent (not_le.mp h)).symm) (datetime_end hl _ _ _ _)

/-- The limits of the time of day are checked after those of the date, and before the date. -/
lemma datetime_yields (f : DatetimeFields) :
    Yields deserializeBinaryValueDatetime f.bytes (datetimeValue f.parts f.time) := by
  unfold deserializeBinaryValueDatetime DatetimeFields.bytes
  refine (int1_reads _).bind_yields ?_
  have hy := ymd_yields f.toDateFields
  by_cases hl : f.parts.InLimits
  · rw [if_pos hl] at hy
    refine Reads.ite_bind_yields (fun _ => hy) (fun h => ?_) (yields_ite (fun _ => ?_) fun h => ?_)
    · rw [f.parts_absent h]
      rfl
    · rw [DatetimeFields.hmsBytes, List.append_assoc, List.append_assoc]
      refine (int1_reads _).bind_yields ((int1_reads _).bind_yields ((int1_reads _).bind_yields ?_))
      exact micros_end f hl
    · obtain ⟨h1, h2, h3⟩ := f.hmsAbsent (not_le.mp h)
      have hm := micros_end f hl
      rw [h1, h2, h3] at hm
      exact hm
  · rw [if_neg hl] at hy
    rw [datetimeValue_of_not fun h => hl h.1]
    refine yields_ite (fun _ => hy.bind_error _) fun h => ?_
    exact absurd (f.parts_absent h ▸ by decide) hl

lemma TimeFields.beyond_iff (f : TimeFields) :
    (f.days.toNat > timeMaxDays ∨ f.hours.toNat > maxHour ∨ f.minutes.toNat > maxMin ∨
      f.seconds.toNat > maxSec ∨ f.micros.toNat > maxMicro) ↔ ¬ f.InLimits := by
  simp only [TimeFields.InLimits, TimeParts.InLimits]
  omega

lemma TimeFields.total_eq (f : TimeFields) :
    f.days.toNat * Values.day + f.hours.toNat * hour + f.minutes.toNat * minute +
      f.seconds.toNat * second + f.micros.toNat = f.time.total := by
  simp only [TimeFields.time, TimeParts.total, Values.day]
  ring

lemma time_end (f : TimeFields) :
    Yields (do
        let microseconds ← if f.length.toNat ≥ timeDhmsuSz then deserializeInt4 else pure 0
        if f.days.toNat > timeMaxDays ∨ f.hours.toNat > maxHour ∨ f.minutes.toNat > maxMin ∨
          f.seconds.toNat > maxSec ∨ microseconds.toNat > maxMicro then throw .protocolValueError
        else
          let sum := f.days.toNat * Values.day + f.hours.toNat * hour + f.minutes.toNat * minute +
            f.seconds.toNat * second + microseconds.toNat
          pure (.time ((if f.isNegative ≠ 0 then -1 else 1) * (sum : ℤ))) : Deserializer Value)
      (if f.length.toNat ≥ timeDhmsuSz then serializeInt4 f.micros else []) f.value := by
  refine Reads.ite_bind_yields_nil (fun _ => int4_reads _)
    (fun h => (f.microsAbsent (not_le.mp h)).symm) ?_
  dsimp only
  by_cases hl : f.InLimits
  · rw [if_neg (fun h => f.beyond_iff.mp h hl), f.total_eq, TimeFields.value, if_pos hl, signedTime]
    have hsign : (if f.isNegative ≠ 0 then -1 else 1) * (f.time.total : ℤ) =
        if decide (f.isNegative ≠ 0) = true then -(f.time.total : ℤ) else f.time.total := by
      by_cases hn : f.isNegative = 0 <;> simp [hn]
    rw [← hsign]
    exact reads_pure _
  · rw [if_pos (f.beyond_iff.mpr hl), TimeFields.value, if_neg hl]
    exact fun rest => rfl

lemma time_yields (f : TimeFields) : Yields deserializeBinaryValueTime f.bytes f.value := by
  unfold deserializeBinaryValueTime TimeFields.bytes
  refine (int1_reads _).bind_yields (yields_ite (fun _ => ?_) fun h => ?_)
  · simp only [TimeFields.dhmsBytes, List.append_assoc]
    exact (int1_reads _).bind_yields ((int4_reads _).bind_yields ((int1_reads _).bind_yields
      ((int1_reads _).bind_yields ((int1_reads _).bind_yields (time_end f)))))
  · obtain ⟨h1, h2, h3, h4, h5⟩ := f.dhmsAbsent (not_le.mp h)
    have he := time_end f
    rw [h1, h2, h3, h4, h5] at he
    exact he

/-! ### What was read is an encoding of fields -/

lemma of_ymd_ok {s t : Bytes} {ymd : YearMonthDay} (h : deserializeBinaryYmd s = .ok (ymd, t)) :
    ∃ year : UInt16, ∃ month day : UInt8,
      s = serializeInt2 year ++ (serializeInt1 month ++ serializeInt1 day) ++ t := by
  obtain ⟨year, s1, h1, h⟩ := of_bind_ok h
  obtain ⟨month, s2, h2, h⟩ := of_bind_ok h
  obtain ⟨day, s3, h3, h⟩ := of_bind_ok h
  refine ⟨year, month, day, ?_⟩
  split_ifs at h <;> cases h
  rw [int2_sound _ _ _ h1, int1_sound _ _ _ h2, int1_sound _ _ _ h3]
  simp only [List.append_assoc]

lemma of_date_ok {s t : Bytes} {v : Value} (h : deserializeBinaryValueDate s = .ok (v, t)) :
    ∃ f : DateFields, s = f.bytes ++ t ∧ dateValue f.parts = .ok v := by
  suffices hf : ∃ (f : DateFields) (t' : Bytes), s = f.bytes ++ t' by
    obtain ⟨f, t', rfl⟩ := hf
    obtain ⟨hv, rfl⟩ := (date_yields f).of_ok h
    exact ⟨f, rfl, hv⟩
  obtain ⟨length, s1, h1, h⟩ := of_bind_ok h
  rw [int1_sound _ _ _ h1]
  rcases of_ite_ok h with ⟨hd, -⟩ | ⟨hd, h⟩
  · have hd' : ¬ length.toNat ≥ datetimeDSz := not_le.mpr hd
    exact ⟨⟨length, 0, 0, 0, fun _ => ⟨rfl, rfl, rfl⟩⟩, s1,
      by simp only [DateFields.bytes, if_neg hd', List.append_nil]⟩
  · have hd' : length.toNat ≥ datetimeDSz := not_lt.mp hd
    obtain ⟨ymd, s2, h2, -⟩ := of_bind_ok h
    obtain ⟨year, month, day, rfl⟩ := of_ymd_ok h2
    exact ⟨⟨length, year, month, day, fun hn => absurd hd' (not_le.mpr hn)⟩, s2,
      by simp only [DateFields.bytes, DateFields.ymdBytes, if_pos hd', List.append_assoc]⟩

/-- The last number of a value, which its length announces or leaves out. -/
lemma of_micros_ok {s t : Bytes} {v : Value} {length : UInt8} {size : ℕ}
    {f : UInt32 → Deserializer Value}
    (h : (if length.toNat ≥ size then deserializeInt4 >>= f else pure 0 >>= f) s = .ok (v, t)) :
    ∃ micros s', s = (if length.toNat ≥ size then serializeInt4 micros else []) ++ s' ∧
      (length.toNat < size → micros = 0) ∧ f micros s' = .ok (v, t) := by
  rcases of_ite_ok h with ⟨hc, h⟩ | ⟨hc, h⟩
  · obtain ⟨micros, s', h1, h⟩ := of_bind_ok h
    exact ⟨micros, s', by rw [if_pos hc]; exact int4_sound _ _ _ h1, fun hn => by omega, h⟩
  · exact ⟨0, s, by rw [if_neg hc]; rfl, fun _ => rfl, h⟩

lemma of_time_ok {s t : Bytes} {v : Value} (h : deserializeBinaryValueTime s = .ok (v, t)) :
    ∃ f : TimeFields, s = f.bytes ++ t ∧ f.value = .ok v := by
  suffices hf : ∃ (f : TimeFields) (t' : Bytes), s = f.bytes ++ t' by
    obtain ⟨f, t', rfl⟩ := hf
    obtain ⟨hv, rfl⟩ := (time_yields f).of_ok h
    exact ⟨f, rfl, hv⟩
  obtain ⟨length, s1, h1, h⟩ := of_bind_ok h
  rw [int1_sound _ _ _ h1]
  rcases of_ite_ok h with ⟨hd, h⟩ | ⟨hd, h⟩
  · obtain ⟨isNegative, s2, h2, h⟩ := of_bind_ok h
    obtain ⟨days, s3, h3, h⟩ := of_bind_ok h
    obtain ⟨hours, s4, h4, h⟩ := of_bind_ok h
    obtain ⟨minutes, s5, h5, h⟩ := of_bind_ok h
    obtain ⟨seconds, s6, h6, h⟩ := of_bind_ok h
    obtain ⟨micros, s7, h7, h0, -⟩ := of_micros_ok h
    refine ⟨⟨length, isNegative, days, hours, minutes, seconds, micros,
      fun hn => absurd hd (not_le.mpr hn), h0⟩, s7, ?_⟩
    rw [int1_sound _ _ _ h2, int4_sound _ _ _ h3, int1_sound _ _ _ h4, int1_sound _ _ _ h5,
      int1_sound _ _ _ h6, h7]
    simp only [TimeFields.bytes, TimeFields.dhmsBytes, if_pos hd, List.append_assoc]
  · obtain ⟨micros, s7, h7, h0, -⟩ := of_micros_ok h
    refine ⟨⟨length, 0, 0, 0, 0, 0, micros, fun _ => ⟨rfl, rfl, rfl, rfl, rfl⟩, h0⟩, s7, ?_⟩
    rw [h7]
    simp only [TimeFields.bytes, if_neg hd, List.append_assoc, List.nil_append]

lemma of_hms_ok {s t : Bytes} {v : Value} {length : UInt8}
    {f : UInt8 × UInt8 × UInt8 → Deserializer Value}
    (h : (if length.toNat ≥ datetimeDhmsSz then do
          let hours ← deserializeInt1
          let minutes ← deserializeInt1
          let seconds ← deserializeInt1
          let p ← pure (hours, minutes, seconds)
          f p
        else do
          let p ← pure (0, 0, 0)
          f p) s = .ok (v, t)) :
    ∃ (hours minutes seconds : UInt8) (s' : Bytes),
      s = (if length.toNat ≥ datetimeDhmsSz then
        serializeInt1 hours ++ (serializeInt1 minutes ++ serializeInt1 seconds) else []) ++ s' ∧
      (length.toNat < datetimeDhmsSz → hours = 0 ∧ minutes = 0 ∧ seconds = 0) ∧
      f (hours, minutes, seconds) s' = .ok (v, t) := by
  rcases of_ite_ok h with ⟨hc, h⟩ | ⟨hc, h⟩
  · obtain ⟨hours, s2, h2, h⟩ := of_bind_ok h
    obtain ⟨minutes, s3, h3, h⟩ := of_bind_ok h
    obtain ⟨seconds, s4, h4, h⟩ := of_bind_ok h
    refine ⟨hours, minutes, seconds, s4, ?_, fun hn => absurd hc (not_le.mpr hn), h⟩
    rw [int1_sound _ _ _ h2, int1_sound _ _ _ h3, int1_sound _ _ _ h4, if_pos hc]
    simp only [List.append_assoc]
  · exact ⟨0, 0, 0, s, by rw [if_neg hc]; rfl, fun _ => ⟨rfl, rfl, rfl⟩, h⟩

lemma of_datetime_ok {s t : Bytes} {v : Value}
    (h : deserializeBinaryValueDatetime s = .ok (v, t)) :
    ∃ f : DatetimeFields, s = f.bytes ++ t ∧ datetimeValue f.parts f.time = .ok v := by
  suffices hf : ∃ (f : DatetimeFields) (t' : Bytes), s = f.bytes ++ t' by
    obtain ⟨f, t', rfl⟩ := hf
    obtain ⟨hv, rfl⟩ := (datetime_yields f).of_ok h
    exact ⟨f, rfl, hv⟩
  obtain ⟨length, s1, h1, h⟩ := of_bind_ok h
  rw [int1_sound _ _ _ h1]
  rcases of_ite_ok h with ⟨hd, h⟩ | ⟨hd, h⟩
  · obtain ⟨ymd, s2, h2, h⟩ := of_bind_ok h
    obtain ⟨year, month, day, h3⟩ := of_ymd_ok h2
    obtain ⟨hours, minutes, seconds, s3, h4, hh, h⟩ := of_hms_ok h
    obtain ⟨micros, s4, h5, hu, -⟩ := of_micros_ok h
    refine ⟨⟨⟨length, year, month, day, fun hn => absurd hd (not_le.mpr hn)⟩,
      hours, minutes, seconds, micros, hh, hu⟩, s4, ?_⟩
    rw [h3, h4, h5]
    simp only [DatetimeFields.bytes, DateFields.ymdBytes, DatetimeFields.hmsBytes, if_pos hd,
      List.append_assoc]
  · obtain ⟨hours, minutes, seconds, s3, h4, hh, h⟩ := of_hms_ok h
    obtain ⟨micros, s4, h5, hu, -⟩ := of_micros_ok h
    refine ⟨⟨⟨length, 0, 0, 0, fun _ => ⟨rfl, rfl, rfl⟩⟩, hours, minutes, seconds, micros, hh, hu⟩,
      s4, ?_⟩
    rw [h4, h5]
    simp only [DatetimeFields.bytes, DatetimeFields.hmsBytes, if_neg hd, List.append_assoc,
      List.nil_append]

end MysqlAsio.Temporal
