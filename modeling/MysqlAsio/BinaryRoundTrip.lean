import MysqlAsio.BinaryDeserialization
import MysqlAsio.PreparedStatementMessages

/-!
What the client encodes as a parameter, it decodes as a field of a row.
-/

namespace MysqlAsio.BinaryRoundTrip

open MysqlAsio.Errors MysqlAsio.Serialization MysqlAsio.CommonMessages MysqlAsio.Values
open MysqlAsio.BinarySerialization MysqlAsio.BinaryDeserialization
open MysqlAsio.PreparedStatementMessages MysqlAsio.Lib.Civil MysqlAsio.Lib.Decoding

/-! ### Dates -/

lemma toNat_ofNat1 {n : ℕ} (h : n < 256) : (UInt8.ofNat n).toNat = n :=
  UInt8.toNat_ofNat_of_lt' h

lemma toNat_ofNat4 {n : ℕ} (h : n < 2 ^ 32) : (UInt32.ofNat n).toNat = n :=
  UInt32.toNat_ofNat_of_lt' h

lemma lastDay_le (y : ℤ) (m : ℕ) : lastDay y m ≤ 31 := by
  unfold lastDay
  split_ifs <;> omega

/-- The years that are written are those the reader lets pass. -/
lemma ymd_reads {d : YearMonthDay} (hok : d.ok = true) (h0 : 0 ≤ d.year) (h1 : d.year ≤ 9999) :
    Reads deserializeBinaryYmd (serializeBinaryYmd d) d := by
  obtain ⟨hm1, hm2, hd1, hd2⟩ := (ok_iff d).mp hok
  have hd : d.day ≤ 31 := le_trans hd2 (lastDay_le _ _)
  have hy : (UInt16.ofInt d.year).toNat = d.year.toNat := by
    obtain ⟨n, hn⟩ := Int.eq_ofNat_of_zero_le h0
    rw [hn, Int.toNat_natCast]
    simp only [UInt16.ofInt, UInt16.toNat_ofNat']
    omega
  unfold deserializeBinaryYmd serializeBinaryYmd
  rw [List.append_assoc]
  refine (int2_reads _).bind ((int1_reads _).bind ((int1_reads _).bind_pure ?_))
  rw [hy, toNat_ofNat1 (by omega), toNat_ofNat1 (by omega), if_neg]
  · have : (⟨d.year.toNat, d.month, d.day⟩ : YearMonthDay) = d := by
      rw [Int.toNat_of_nonneg h0]
    rw [this]
    exact reads_pure d
  · simp only [maxYear, maxMonth, maxDay]
    omega

lemma ofDays_reads {z : ℤ} (h : minDate ≤ z ∧ z ≤ maxDate) :
    Reads deserializeBinaryYmd (serializeBinaryYmd (ofDays z)) (ofDays z) := by
  obtain ⟨h0, h1⟩ := (inRange_iff_year z).mp h
  exact ymd_reads (ofDays_ok_toDays z).1 h0 h1

lemma date_reads {z : ℤ} (h : minDate ≤ z ∧ z ≤ maxDate) :
    Reads deserializeBinaryValueDate (serializeDate z) (.date z) := by
  obtain ⟨hok, hz⟩ := ofDays_ok_toDays z
  unfold deserializeBinaryValueDate serializeDate
  refine (int1_reads _).bind ?_
  rw [if_neg (by decide)]
  refine (ofDays_reads h).bind_pure ?_
  rw [hok, hz, (isOutOfRange_eq_false_iff z).mpr h]
  exact reads_pure _

/-! ### Datetimes -/

lemma parts_sum (n : ℕ) :
    n / hour * hour + n % hour / minute * minute + n % minute / second * second + n % second =
      n := by
  simp only [hour, minute, second]
  omega

lemma parts_bounds (n : ℕ) :
    n % hour / minute < 60 ∧ n % minute / second < 60 ∧ n % second < 1000000 := by
  simp only [hour, minute, second]
  omega

lemma day_inRange {t : ℤ} (h : minDatetime ≤ t ∧ t ≤ maxDatetime) :
    minDate ≤ t / day ∧ t / day ≤ maxDate := by
  simp only [minDatetime, maxDatetime, day, hour, minute, second] at h ⊢
  omega

lemma datetime_reads {t : ℤ} (h : minDatetime ≤ t ∧ t ≤ maxDatetime) :
    Reads deserializeBinaryValueDatetime (serializeDatetime t) (.datetime t) := by
  have hr := day_inRange h
  obtain ⟨hok, hz⟩ := ofDays_ok_toDays (t / day)
  have htod : ((t - t / day * day).toNat : ℤ) = t - t / day * day ∧
      (t - t / day * day).toNat < 24 * hour := by
    simp only [day, hour, minute, second]
    omega
  unfold deserializeBinaryValueDatetime serializeDatetime
  simp only [List.append_assoc]
  generalize (t - t / day * day).toNat = n at htod
  obtain ⟨hn, hlt⟩ := htod
  have hb := parts_bounds n
  have hh : n / hour < 24 := Nat.div_lt_of_lt_mul (by rwa [mul_comm])
  refine (int1_reads _).bind ?_
  rw [if_pos (by decide)]
  refine (ofDays_reads hr).bind ?_
  rw [if_pos (by decide)]
  refine (int1_reads _).bind ((int1_reads _).bind ((int1_reads _).bind ?_))
  rw [pure_bind, if_pos (by decide)]
  refine (int4_reads _).bind_pure ?_
  rw [toNat_ofNat1 (by omega), toNat_ofNat1 (by omega), toNat_ofNat1 (by omega),
    toNat_ofNat4 (by omega), if_neg (by simp only [maxHour, maxMin, maxSec, maxMicro]; omega),
    hok, hz, (isOutOfRange_eq_false_iff _).mpr hr, parts_sum, hn, add_sub_cancel]
  exact reads_pure _

/-! ### Times -/

/-- The parts of a negative time are those of its absolute value. -/
lemma time_parts (t : ℤ) :
    (t.tdiv day).natAbs = t.natAbs / day ∧
    ((t.tmod day).tdiv hour).natAbs = t.natAbs % day / hour ∧
    ((t.tmod hour).tdiv minute).natAbs = t.natAbs % hour / minute ∧
    ((t.tmod minute).tdiv second).natAbs = t.natAbs % minute / second ∧
    (t.tmod second).natAbs = t.natAbs % second := by
  simp only [Int.natAbs_tdiv, Int.natAbs_tmod, Int.natAbs_natCast]
  exact ⟨rfl, rfl, rfl, rfl, trivial⟩

lemma days_sum (n : ℕ) :
    n / day * day + n % day / hour * hour + n % hour / minute * minute +
      n % minute / second * second + n % second = n := by
  simp only [day, hour, minute, second]
  omega

lemma days_bounds {n : ℕ} (h : n ≤ 839 * hour) :
    n / day ≤ timeMaxDays ∧ n % day / hour < 24 := by
  simp only [day, hour, minute, second, timeMaxDays] at h ⊢
  omega

lemma time_reads {t : ℤ} (h : minTime ≤ t ∧ t ≤ maxTime) :
    Reads deserializeBinaryValueTime (serializeTime t) (.time t) := by
  have habs : t.natAbs ≤ 839 * hour := by
    simp only [minTime, maxTime, hour, minute, second] at h ⊢
    omega
  have hsign : (if (if t < 0 then 1 else 0 : UInt8) ≠ 0 then -1 else 1) * (t.natAbs : ℤ) = t := by
    by_cases ht : t < 0
    · rw [if_pos ht, if_pos (by decide)]
      omega
    · rw [if_neg ht, if_neg (by decide)]
      omega
  obtain ⟨hd, hh, hm, hs, hu⟩ := time_parts t
  unfold deserializeBinaryValueTime serializeTime
  simp only [hd, hh, hm, hs, hu, List.append_assoc]
  generalize t.natAbs = n at habs hsign
  have hb := parts_bounds n
  have hb' := days_bounds habs
  simp only [timeMaxDays] at hb'
  refine (int1_reads _).bind ?_
  rw [if_pos (by decide)]
  refine (int1_reads _).bind ((int4_reads _).bind ((int1_reads _).bind ((int1_reads _).bind
    ((int1_reads _).bind ?_))))
  rw [pure_bind, if_pos (by decide)]
  refine (int4_reads _).bind_pure ?_
  rw [toNat_ofNat4 (by omega), toNat_ofNat1 (by omega), toNat_ofNat1 (by omega),
    toNat_ofNat1 (by omega), toNat_ofNat4 (by omega),
    if_neg (by simp only [timeMaxDays, maxHour, maxMin, maxSec, maxMicro]; omega), days_sum, hsign]
  exact reads_pure _

/-! ### Values -/

/-- A field of which only the type and the sign are known. -/
def typedField (type : ProtocolFieldType) (unsigned : Bool) : FieldMetadata :=
  ⟨⟨[], [], [], [], [], [], ⟨0⟩, 0, type, if unsigned then columnFlagUnsigned else 0, 0⟩⟩

@[simp] lemma typedField_protocolType (type : ProtocolFieldType) (unsigned : Bool) :
    (typedField type unsigned).protocolType = type := rfl

@[simp] lemma typedField_isUnsigned (type : ProtocolFieldType) (unsigned : Bool) :
    (typedField type unsigned).isUnsigned = unsigned := by
  cases unsigned <;> simp [typedField, FieldMetadata.isUnsigned, columnFlagUnsigned]

lemma float_reads {T : Type} {bits : Deserializer T} {notFinite : T → Bool} {value : T → Value}
    {w : Bytes} {v : T} (h : Reads bits w v) (hf : notFinite v = false) :
    Reads (deserializeBinaryValueFloat bits notFinite value) w (value v) := by
  refine h.bind_pure ?_
  rw [hf]
  exact reads_pure _

/-- The decoder of the type a parameter is sent with reads the parameter. -/
lemma binaryValue_reads {v : Value} (hn : v ≠ .null) (hr : v.InRange) {fieldMeta : FieldMetadata}
    (ht : fieldMeta.protocolType = getProtocolFieldType v)
    (hu : fieldMeta.isUnsigned = isUnsigned v) :
    Reads (deserializeBinaryValue fieldMeta) (serializeBinaryValue v) v := by
  unfold deserializeBinaryValue
  rw [ht]
  cases v with
  | null => exact absurd rfl hn
  | int64 v =>
    simp only [getProtocolFieldType, deserializeBinaryValueInt, hu, isUnsigned]
    exact (int8Signed_reads v).map _
  | uint64 v =>
    simp only [getProtocolFieldType, deserializeBinaryValueInt, hu, isUnsigned]
    exact (int8_reads v).map _
  | string v => exact (stringLenenc_reads hr).map _
  | float bits => exact float_reads (int4_reads bits) hr
  | double bits => exact float_reads (int8_reads bits) hr
  | date d => exact date_reads hr
  | datetime t => exact datetime_reads hr
  | time t => exact time_reads hr

/-- **A parameter is read back from its own bytes**, whatever follows them, and takes as many
bytes as were computed for it. -/
theorem binaryValue_roundTrip {v : Value} (hn : v ≠ .null) (hr : v.InRange)
    {fieldMeta : FieldMetadata} (ht : fieldMeta.protocolType = getProtocolFieldType v)
    (hu : fieldMeta.isUnsigned = isUnsigned v) (rest : Bytes) :
    (serializeBinaryValue v).length = getBinaryValueSize v ∧
    deserializeBinaryValue fieldMeta (serializeBinaryValue v ++ rest) = .ok (v, rest) :=
  ⟨serializeBinaryValue_length v, binaryValue_reads hn hr ht hu rest⟩

theorem binaryValue_roundTrip_beforeEpoch :
    (serializeBinaryValue (.datetime (-1))).length = getBinaryValueSize (.datetime (-1)) ∧
    deserializeBinaryValue (typedField .datetime false)
      (serializeBinaryValue (.datetime (-1)) ++ [7]) = .ok (.datetime (-1), [7]) :=
  binaryValue_roundTrip (by decide) (by decide) rfl (typedField_isUnsigned _ _) [7]

end MysqlAsio.BinaryRoundTrip
