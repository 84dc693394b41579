import MysqlAsio.Temporal

/-!
The forms of a binary DATE, DATETIME or TIME, and the lengths that announce them.

The decoders compare the length with thresholds, so that they also read fields behind a length
that no form has.
-/

namespace MysqlAsio.TemporalLengths

open MysqlAsio.Errors MysqlAsio.Serialization MysqlAsio.CommonMessages MysqlAsio.Values
open MysqlAsio.BinarySerialization MysqlAsio.BinaryDeserialization MysqlAsio.Temporal
open MysqlAsio.Lib.Civil MysqlAsio.Lib.Decoding

/-! ### The values of fields within their limits -/

def DatetimeFields.InLimits (f : DatetimeFields) : Prop :=
  f.parts.InLimits ∧ f.time.InLimits maxHour

/-- Zero dates and invalid ones are NULL. -/
def DateFields.dateOf (f : DateFields) : Value :=
  if f.parts.ymd.ok then .date (toDays f.parts.ymd) else .null

def DatetimeFields.datetimeOf (f : DatetimeFields) : Value :=
  if f.parts.ymd.ok then .datetime (toDays f.parts.ymd * Values.day + f.time.total) else .null

lemma date_reads {f : DateFields} (h : f.parts.InLimits) :
    Reads deserializeBinaryValueDate f.bytes (DateFields.dateOf f) := by
  have hd := date_yields f
  rw [dateValue, if_pos h] at hd
  unfold DateFields.dateOf
  split_ifs at hd ⊢ <;> exact hd

lemma datetime_reads {f : DatetimeFields} (h : DatetimeFields.InLimits f) :
    Reads deserializeBinaryValueDatetime f.bytes (DatetimeFields.datetimeOf f) := by
  have hd := datetime_yields f
  rw [datetimeValue_of_inLimits h.1 h.2] at hd
  unfold DatetimeFields.datetimeOf
  split_ifs at hd ⊢ <;> exact hd

lemma time_reads {f : TimeFields} (h : f.InLimits) :
    Reads deserializeBinaryValueTime f.bytes (signedTime (f.isNegative ≠ 0) f.time) := by
  have ht := time_yields f
  rw [TimeFields.value, if_pos h] at ht
  exact ht

/-! ### Fields that are cut short -/

lemma int1_short (v : UInt8) : Short deserializeInt1 (serializeInt1 v) .incompleteMessage :=
  fixedSizeInt_short

lemma int4_short (v : UInt32) : Short deserializeInt4 (serializeInt4 v) .incompleteMessage :=
  fixedSizeInt_short

lemma ymd_short (f : DateFields) : Short deserializeBinaryYmd f.ymdBytes .incompleteMessage := by
  have h2 : Short deserializeInt2 (serializeInt2 f.year) .incompleteMessage := fixedSizeInt_short
  exact h2.bind (int2_reads _) ((int1_short _).bind (int1_reads _) ((int1_short _).bind_any _))

lemma date_short (f : DateFields) :
    Short deserializeBinaryValueDate f.bytes .incompleteMessage := by
  unfold deserializeBinaryValueDate DateFields.bytes
  refine (int1_short _).bind (int1_reads _) ?_
  by_cases h : f.length.toNat ≥ datetimeDSz
  · have h' : ¬ f.length.toNat < dateSz := not_lt.mpr h
    rw [if_neg h', if_pos h]
    exact (ymd_short f).bind_any _
  · have h' : f.length.toNat < dateSz := not_le.mp h
    rw [if_pos h', if_neg h]
    exact short_nil _ _

lemma datetime_short {f : DatetimeFields} (h : f.parts.InLimits) :
    Short deserializeBinaryValueDatetime f.bytes .incompleteMessage := by
  have hy := ymd_yields f.toDateFields
  rw [if_pos h] at hy
  unfold deserializeBinaryValueDatetime DatetimeFields.bytes
  refine (int1_short _).bind (int1_reads _) (Reads.ite_bind_short (fun _ => hy)
    (fun _ => ymd_short _) (fun hn => ?_) (short_ite (fun _ => ?_) fun _ => ?_))
  · rw [f.parts_absent hn]
    rfl
  · rw [DatetimeFields.hmsBytes, List.append_assoc, List.append_assoc]
    refine (int1_short _).bind (int1_reads _) ((int1_short _).bind (int1_reads _)
      ((int1_short _).bind (int1_reads _) ?_))
    exact short_ite_bind_any fun _ => int4_short _
  · exact short_ite_bind_any fun _ => int4_short _

lemma time_short (f : TimeFields) :
    Short deserializeBinaryValueTime f.bytes .incompleteMessage := by
  unfold deserializeBinaryValueTime TimeFields.bytes
  refine (int1_short _).bind (int1_reads _) (short_ite (fun _ => ?_) fun _ => ?_)
  · simp only [TimeFields.dhmsBytes, List.append_assoc]
    exact (int1_short _).bind (int1_reads _) ((int4_short _).bind (int4_reads _)
      ((int1_short _).bind (int1_reads _) ((int1_short _).bind (int1_reads _)
        ((int1_short _).bind (int1_reads _) (short_ite_bind_any fun _ => int4_short _)))))
  · exact short_ite_bind_any fun _ => int4_short _

/-! ### Forms -/

/-- A type of temporal values on the wire: its decoder, the fields a message has of it, and the
lengths that announce just the bytes of these. -/
structure TemporalForm where
  deserialize : Deserializer Value
  sizes : List ℕ
  Fields : Type
  length : Fields → UInt8
  bytes : Fields → Bytes
  InLimits : Fields → Prop
  valueOf : Fields → Value
  bytes_head : ∀ f, ∃ body, bytes f = length f :: body
  sizes_iff : ∀ f, (bytes f).length = 1 + (length f).toNat ↔ (length f).toNat ∈ sizes
  reads : ∀ f, InLimits f → Reads deserialize (bytes f) (valueOf f)
  short : ∀ f, InLimits f → Short deserialize (bytes f) .incompleteMessage
  of_ok : ∀ s v t, deserialize s = .ok (v, t) → ∃ f, InLimits f ∧ s = bytes f ++ t

lemma DateFields.bytes_length (f : DateFields) :
    f.bytes.length = 1 + if f.length.toNat ≥ datetimeDSz then 4 else 0 := by
  simp only [DateFields.bytes, List.length_append, serializeInt1_length]
  split_ifs <;> simp [DateFields.ymdBytes]

lemma DatetimeFields.bytes_length (f : DatetimeFields) :
    f.bytes.length = 1 + ((if f.length.toNat ≥ datetimeDSz then 4 else 0) +
      ((if f.length.toNat ≥ datetimeDhmsSz then 3 else 0) +
        if f.length.toNat ≥ datetimeDhmsuSz then 4 else 0)) := by
  simp only [DatetimeFields.bytes, List.length_append, serializeInt1_length]
  split_ifs <;> simp [DateFields.ymdBytes, DatetimeFields.hmsBytes]

lemma TimeFields.bytes_length (f : TimeFields) :
    f.bytes.length = 1 + ((if f.length.toNat ≥ timeDhmsSz then 8 else 0) +
      if f.length.toNat ≥ timeDhmsuSz then 4 else 0) := by
  simp only [TimeFields.bytes, List.length_append, serializeInt1_length]
  split_ifs <;> simp [TimeFields.dhmsBytes]

lemma DateFields.sizes_iff (f : DateFields) : f.bytes.length = 1 + f.length.toNat ↔
    f.length.toNat ∈ [0, dateSz] := by
  rw [DateFields.bytes_length]
  simp only [List.mem_cons, List.not_mem_nil, or_false]
  split_ifs <;> simp only [datetimeDSz, dateSz] at * <;> omega

/-- Zero dates may be left out. -/
def dateForm : TemporalForm where
  deserialize := deserializeBinaryValueDate
  sizes := [0, dateSz]
  Fields := DateFields
  length f := f.length
  bytes f := f.bytes
  InLimits f := f.parts.InLimits
  valueOf := DateFields.dateOf
  bytes_head f := ⟨_, by rw [DateFields.bytes, serializeInt1_eq]; rfl⟩
  sizes_iff := DateFields.sizes_iff
  reads _ h := date_reads h
  short f _ := date_short f
  of_ok s v t h := by
    obtain ⟨f, hs, hv⟩ := of_date_ok h
    refine ⟨f, ?_, hs⟩
    by_contra hl
    rw [dateValue, if_neg hl] at hv
    cases hv

lemma DatetimeFields.sizes_iff (f : DatetimeFields) : f.bytes.length = 1 + f.length.toNat ↔
    f.length.toNat ∈ [0, datetimeDSz, datetimeDhmsSz, datetimeDhmsuSz] := by
  rw [DatetimeFields.bytes_length]
  simp only [List.mem_cons, List.not_mem_nil, or_false]
  split_ifs <;> simp only [datetimeDhmsuSz, datetimeDhmsSz, datetimeDSz, dateSz] at * <;> omega

/-- What is zero at the end may be left out. -/
def datetimeForm : TemporalForm where
  deserialize := deserializeBinaryValueDatetime
  sizes := [0, datetimeDSz, datetimeDhmsSz, datetimeDhmsuSz]
  Fields := DatetimeFields
  length f := f.length
  bytes f := f.bytes
  InLimits := DatetimeFields.InLimits
  valueOf := DatetimeFields.datetimeOf
  bytes_head f := ⟨_, by rw [DatetimeFields.bytes, serializeInt1_eq]; rfl⟩
  sizes_iff := DatetimeFields.sizes_iff
  reads _ h := datetime_reads h
  short _ h := datetime_short h.1
  of_ok s v t h := by
    obtain ⟨f, hs, hv⟩ := of_datetime_ok h
    refine ⟨f, ?_, hs⟩
    by_contra hl
    rw [datetimeValue_of_not hl] at hv
    cases hv

lemma TimeFields.sizes_iff (f : TimeFields) : f.bytes.length = 1 + f.length.toNat ↔
    f.length.toNat ∈ [0, timeDhmsSz, timeDhmsuSz] := by
  rw [TimeFields.bytes_length]
  simp only [List.mem_cons, List.not_mem_nil, or_false]
  split_ifs <;> simp only [timeDhmsuSz, timeDhmsSz] at * <;> omega

def timeForm : TemporalForm where
  deserialize := deserializeBinaryValueTime
  sizes := [0, timeDhmsSz, timeDhmsuSz]
  Fields := TimeFields
  length f := f.length
  bytes f := f.bytes
  InLimits f := f.InLimits
  valueOf f := signedTime (f.isNegative ≠ 0) f.time
  bytes_head f := ⟨_, by rw [TimeFields.bytes, serializeInt1_eq]; rfl⟩
  sizes_iff := TimeFields.sizes_iff
  reads _ h := time_reads h
  short f _ := time_short f
  of_ok s v t h := by
    obtain ⟨f, hs, hv⟩ := of_time_ok h
    refine ⟨f, ?_, hs⟩
    by_contra hl
    rw [TimeFields.value, if_neg hl] at hv
    cases hv

/-- The form of a field, of the types that have one. -/
def temporalForm : ProtocolFieldType → Option TemporalForm
  | .date => some dateForm
  | .timestamp | .datetime => some datetimeForm
  | .time => some timeForm
  | _ => none

lemma temporalForm_deserialize {field : FieldMetadata} {form : TemporalForm}
    (h : temporalForm field.protocolType = some form) :
    deserializeBinaryValue field = form.deserialize := by
  unfold deserializeBinaryValue
  cases ht : field.protocolType <;> rw [ht] at h <;> cases h <;> rfl

/-! ### What the decoders consume -/

/-- A decoder that succeeds has taken the bytes that the length announces, and a length that no
form has is an error. -/
structure ConsumesAnnounced (form : TemporalForm) (length : UInt8) (body : Bytes) : Prop where
  exact : ∀ v left, form.deserialize (length :: body) = .ok (v, left) →
    length.toNat ≤ body.length ∧ left = body.drop length.toNat
  unknown : length.toNat ∉ form.sizes → ∃ e, form.deserialize (length :: body) = .error e

/-- A buffer begins with fields, as many as the thresholds below its length ask for, that are
all within their limits. -/
def TemporalForm.BeginsInLimits (form : TemporalForm) (buffer : Bytes) : Prop :=
  ∃ f : form.Fields, form.InLimits f ∧ form.bytes f <+: buffer

/-- A length that has a form announces what is read, and so does one that is not read. -/
lemma TemporalForm.consumesAnnounced_iff (form : TemporalForm) (length : UInt8) (body : Bytes) :
    ConsumesAnnounced form length body ↔
      length.toNat ∈ form.sizes ∨ ¬ form.BeginsInLimits (length :: body) := by
  constructor
  · rintro ⟨-, hunknown⟩
    by_contra h
    obtain ⟨hsize, hbegins⟩ := not_or.mp h
    obtain ⟨f, hl, rest, hrest⟩ := not_not.mp hbegins
    -- the fields are read, whatever the length says
    obtain ⟨e, he⟩ := hunknown hsize
    rw [← hrest, form.reads f hl rest] at he
    cases he
  · intro h
    have hlen : ∀ v left, form.deserialize (length :: body) = .ok (v, left) →
        ∃ f, form.bytes f ++ left = length :: body ∧ form.InLimits f ∧ form.length f = length := by
      intro v left hd
      obtain ⟨f, hl, hs⟩ := form.of_ok _ v left hd
      obtain ⟨tail, ht⟩ := form.bytes_head f
      rw [ht] at hs
      exact ⟨f, by rw [ht]; exact hs.symm, hl, (List.head_eq_of_cons_eq hs).symm⟩
    refine ⟨fun v left hd => ?_, fun hsize => ?_⟩
    · obtain ⟨f, hs, hl, hf⟩ := hlen v left hd
      have hmem := h.resolve_right (not_not.mpr ⟨f, hl, left, hs⟩)
      have hbytes := (form.sizes_iff f).mpr (hf ▸ hmem)
      rw [hf] at hbytes
      have hleft : left = (length :: body).drop (1 + length.toNat) := by
        rw [← hs, ← hbytes, List.drop_left]
      have hle := congrArg List.length hs
      rw [List.length_append, hbytes, List.length_cons] at hle
      exact ⟨by omega, by rw [hleft, Nat.add_comm, List.drop_succ_cons]⟩
    · rcases hd : form.deserialize (length :: body) with e | ⟨v, left⟩
      · exact ⟨e, rfl⟩
      · obtain ⟨f, hs, hl, -⟩ := hlen v left hd
        exact absurd ⟨f, hl, left, hs⟩ (h.resolve_left hsize)

/-- **A decoder consumes what the length announces, and rejects the lengths of no form, exactly
when** a form has the length, or the buffer does not begin with fields within their limits. -/
theorem temporal_consumesAnnounced_iff (length : UInt8) (body : Bytes) :
    (ConsumesAnnounced dateForm length body ↔
      length.toNat ∈ dateForm.sizes ∨ ¬ dateForm.BeginsInLimits (length :: body)) ∧
    (ConsumesAnnounced datetimeForm length body ↔
      length.toNat ∈ datetimeForm.sizes ∨ ¬ datetimeForm.BeginsInLimits (length :: body)) ∧
    (ConsumesAnnounced timeForm length body ↔
      length.toNat ∈ timeForm.sizes ∨ ¬ timeForm.BeginsInLimits (length :: body)) :=
  ⟨dateForm.consumesAnnounced_iff length body, datetimeForm.consumesAnnounced_iff length body,
    timeForm.consumesAnnounced_iff length body⟩

/-- Five bytes are announced for a date, and four are read. -/
theorem date_five_not_consumed :
    ¬ ConsumesAnnounced dateForm 5 [0xe5, 0x07, 0x02, 0x1c, 0x63] := by
  intro h
  have hread := dateForm.reads ⟨5, 0x07e5, 0x02, 0x1c, fun h => absurd h (by decide)⟩
    (by decide : DateParts.InLimits ⟨2021, 2, 28⟩) [0x63]
  obtain ⟨-, hleft⟩ := h.exact _ _ hread
  exact absurd hleft (by decide)

end MysqlAsio.TemporalLengths
