import MysqlAsio.Temporal

/-!
Whether the dates, datetimes and times that a field decodes to are in their documented ranges.

The limits are those of the parts. They bound the whole value, but for a binary TIME: of 34
days and 23 hours, which are the 839 hours of the maximum, any minutes are too much.
-/

namespace MysqlAsio.TemporalRanges

open MysqlAsio.Errors MysqlAsio.CommonMessages MysqlAsio.Values MysqlAsio.BinarySerialization
open MysqlAsio.BinaryDeserialization MysqlAsio.TextDeserialization MysqlAsio.Temporal
open MysqlAsio.Lib.Decoding

inductive Protocol
  | text
  | binary
  deriving DecidableEq, Repr

/-- The value of a field; the binary one is taken off the front of the bytes of its row. -/
def deserializeValue (lexical : LexicalConvert) (protocol : Protocol) (fieldMeta : FieldMetadata)
    (s : Bytes) : Except Errc Value :=
  match protocol with
  | .text => deserializeTextValue lexical s fieldMeta
  | .binary => (deserializeBinaryValue fieldMeta s).map Prod.fst

def IsTemporal : Value → Prop
  | .date _ | .datetime _ | .time _ => True
  | _ => False

/-- The bytes of a binary TIME within its limits, of more than 34 days and 23 hours. -/
def PastMaxTime (s : Bytes) : Prop :=
  ∃ (f : TimeFields) (rest : Bytes), s = f.bytes ++ rest ∧ f.InLimits ∧
    f.days.toNat = BinarySerialization.timeMaxDays ∧ f.hours.toNat = maxHour ∧
    (f.minutes ≠ 0 ∨ f.seconds ≠ 0 ∨ f.micros ≠ 0)

/-! ### The text protocol -/

lemma orValueError_ok {α : Type} {scan : Option α} {value : α → Except Errc Value} {v : Value}
    (h : orValueError scan value = .ok v) : ∃ a, scan = some a ∧ value a = .ok v := by
  unfold orValueError at h
  split at h
  · next a => exact ⟨a, rfl, h⟩
  · cases h

lemma textValue_inRange {lexical : LexicalConvert} {s : Bytes} {fieldMeta : FieldMetadata}
    {v : Value} (h : deserializeTextValue lexical s fieldMeta = .ok v) (hv : IsTemporal v) :
    v.InRange := by
  have hint : deserializeTextValueInt lexical s fieldMeta ≠ .ok v := by
    intro h
    unfold deserializeTextValueInt at h
    split at h <;> split at h <;> cases h <;> exact hv
  have hfloat : ∀ {T : Type} (convert : Bytes → Option T) (notFinite : T → Bool)
      (value : T → Value), (∀ x, ¬ IsTemporal (value x)) →
      deserializeTextValueFloat convert notFinite value s ≠ .ok v := by
    intro T convert notFinite value hn h
    unfold deserializeTextValueFloat at h
    split at h
    · split at h <;> cases h
      exact hn _ hv
    · cases h
  unfold deserializeTextValue at h
  split at h
  case h_7 => exact absurd h (hfloat _ _ _ fun _ h => h)
  case h_8 => exact absurd h (hfloat _ _ _ fun _ h => h)
  case h_9 | h_10 =>
    rw [textDatetime_eq] at h
    obtain ⟨p, -, hp⟩ := orValueError_ok h
    exact datetimeValue_inRange hp
  case h_11 =>
    rw [textDate_eq] at h
    obtain ⟨d, -, hd⟩ := orValueError_ok h
    exact dateValue_inRange hd
  case h_12 =>
    rw [textTime_eq] at h
    obtain ⟨p, -, hp⟩ := orValueError_ok h
    exact timeValue_inRange hp
  case h_13 =>
    cases h
    exact absurd hv id
  all_goals exact absurd h hint

/-! ### The binary protocol -/

lemma signedTime_inRange_iff (isNegative : Bool) (t : TimeParts) :
    (signedTime isNegative t).InRange ↔ t.total ≤ 839 * hour := by
  simp only [signedTime, Value.InRange, minTime, maxTime]
  split <;> omega

/-- The limits of the parts leave a total of 839 hours and what is less than an hour. -/
lemma total_le_iff {f : TimeFields} (h : f.InLimits) : f.time.total ≤ 839 * hour ↔
    ¬ (f.days.toNat = BinarySerialization.timeMaxDays ∧ f.hours.toNat = maxHour ∧
      (f.minutes ≠ 0 ∨ f.seconds ≠ 0 ∨ f.micros ≠ 0)) := by
  obtain ⟨hd, hh, hm, hs, hu⟩ := h
  have h1 : f.minutes ≠ 0 ↔ f.minutes.toNat ≠ 0 := not_congr UInt8.toNat_inj.symm
  have h2 : f.seconds ≠ 0 ↔ f.seconds.toNat ≠ 0 := not_congr UInt8.toNat_inj.symm
  have h3 : f.micros ≠ 0 ↔ f.micros.toNat ≠ 0 := not_congr UInt32.toNat_inj.symm
  rw [h1, h2, h3]
  simp only [BinarySerialization.timeMaxDays, maxHour, maxMin, maxSec, maxMicro] at *
  simp only [TimeFields.time, TimeParts.total, hour, minute, second]
  omega

lemma binaryTime_inRange_iff (s : Bytes) :
    (∀ v t, deserializeBinaryValueTime s = .ok (v, t) → v.InRange) ↔ ¬ PastMaxTime s := by
  constructor
  · rintro hr ⟨f, rest, rfl, hl, hpast⟩
    have hd := time_yields f rest
    rw [TimeFields.value, if_pos hl] at hd
    have hin := hr _ _ hd
    rw [signedTime_inRange_iff, total_le_iff hl] at hin
    exact hin hpast
  · intro hpast v t hd
    obtain ⟨f, rfl, hv⟩ := of_time_ok hd
    unfold TimeFields.value at hv
    split_ifs at hv with hl
    cases hv
    rw [signedTime_inRange_iff, total_le_iff hl]
    exact fun h => hpast ⟨f, t, rfl, hl, h⟩

lemma binaryValue_inRange {s t : Bytes} {fieldMeta : FieldMetadata} {v : Value}
    (h : deserializeBinaryValue fieldMeta s = .ok (v, t)) (hv : IsTemporal v)
    (htime : fieldMeta.protocolType ≠ .time) : v.InRange := by
  have hint : ∀ {U S : Type} (unsigned : Decoder UInt8 Errc U) (signed : Decoder UInt8 Errc S)
      (toUInt64 : U → UInt64) (toInt64 : S → Int64),
      deserializeBinaryValueInt unsigned signed toUInt64 toInt64 fieldMeta s ≠ .ok (v, t) := by
    intro U S unsigned signed toUInt64 toInt64 h
    unfold deserializeBinaryValueInt at h
    split at h <;> obtain ⟨x, -, rfl⟩ := of_map_ok h <;> exact hv
  have hfloat : ∀ {T : Type} (bits : Decoder UInt8 Errc T) (notFinite : T → Bool)
      (value : T → Value), (∀ x, ¬ IsTemporal (value x)) →
      deserializeBinaryValueFloat bits notFinite value s ≠ .ok (v, t) := by
    intro T bits notFinite value hn h
    obtain ⟨x, s', -, h⟩ := of_bind_ok h
    split at h <;> cases h
    exact hn _ hv
  generalize hd : deserializeBinaryValue fieldMeta = d at h
  unfold deserializeBinaryValue at hd
  split at hd <;> subst hd
  case h_7 => exact absurd h (hfloat _ _ _ fun _ h => h)
  case h_8 => exact absurd h (hfloat _ _ _ fun _ h => h)
  case h_9 | h_10 =>
    obtain ⟨f, -, hf⟩ := of_datetime_ok h
    exact datetimeValue_inRange hf
  case h_11 =>
    obtain ⟨f, -, hf⟩ := of_date_ok h
    exact dateValue_inRange hf
  case h_12 ht => exact absurd ht htime
  case h_13 =>
    obtain ⟨x, -, rfl⟩ := of_map_ok h
    exact absurd hv id
  all_goals exact absurd h (hint _ _ _ _)

/-! ### The guarantee -/

lemma deserializeValue_binary_ok {lexical : LexicalConvert} {fieldMeta : FieldMetadata} {s : Bytes}
    {v : Value} : deserializeValue lexical .binary fieldMeta s = .ok v ↔
      ∃ t, deserializeBinaryValue fieldMeta s = .ok (v, t) := by
  unfold deserializeValue
  rcases deserializeBinaryValue fieldMeta s with e | ⟨a, t⟩
  · refine ⟨fun h => ?_, fun ⟨_, h⟩ => ?_⟩ <;> cases h
  · refine ⟨fun h => ?_, fun ⟨_, h⟩ => ?_⟩
    · cases h
      exact ⟨t, rfl⟩
    · cases h
      rfl

/-- **The temporal values of a field are in range, except those of a binary TIME of 34 days and
23 hours with anything over.** -/
theorem inRange_iff (lexical : LexicalConvert) (protocol : Protocol) (fieldMeta : FieldMetadata)
    (s : Bytes) :
    (∀ v, deserializeValue lexical protocol fieldMeta s = .ok v → IsTemporal v → v.InRange) ↔
      ¬ (protocol = .binary ∧ fieldMeta.protocolType = .time ∧ PastMaxTime s) := by
  cases protocol with
  | text => exact iff_of_true (fun v h hv => textValue_inRange h hv) fun h => by cases h.1
  | binary =>
    by_cases ht : fieldMeta.protocolType = .time
    · have hd : deserializeBinaryValue fieldMeta = deserializeBinaryValueTime := by
        rw [deserializeBinaryValue, ht]
      have htemporal : ∀ {v : Value} {t : Bytes}, deserializeBinaryValueTime s = .ok (v, t) →
          IsTemporal v := by
        intro v t h
        obtain ⟨f, -, hf⟩ := of_time_ok h
        unfold TimeFields.value at hf
        split_ifs at hf
        cases hf
        trivial
      have hb := binaryTime_inRange_iff s
      constructor
      · rintro hr ⟨-, -, hpast⟩
        refine hb.mp (fun v t h => hr v ?_ (htemporal h)) hpast
        exact deserializeValue_binary_ok.mpr ⟨t, by rw [hd, h]⟩
      · intro hpast v h hv
        obtain ⟨t, h⟩ := deserializeValue_binary_ok.mp h
        rw [hd] at h
        exact hb.mpr (fun hp => hpast ⟨rfl, ht, hp⟩) v t h
    · refine iff_of_true (fun v h hv => ?_) fun h => ht h.2.1
      obtain ⟨t, h⟩ := deserializeValue_binary_ok.mp h
      exact binaryValue_inRange h hv ht

/-- A binary TIME of 34 days, 23 hours and a second is beyond the maximum of 839 hours. -/
theorem not_inRange_binaryTime :
    ¬ ∀ (lexical : LexicalConvert) (protocol : Protocol) (fieldMeta : FieldMetadata) (s : Bytes)
      (v : Value), deserializeValue lexical protocol fieldMeta s = .ok v → IsTemporal v →
        v.InRange := by
  intro h
  have hr := h ⟨fun _ => none, fun _ => none, fun _ => none, fun _ => none⟩ .binary
    (BinaryRoundTrip.typedField .time false) [8, 0, 34, 0, 0, 0, 23, 0, 1]
    (.time (839 * hour + second)) (by decide +kernel) trivial
  exact absurd hr (by decide)

end MysqlAsio.TemporalRanges
