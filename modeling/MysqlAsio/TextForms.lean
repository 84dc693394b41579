import MysqlAsio.TextReadings

/-!
Which texts of a temporal column are accepted.

The decoders read numbers the way `sscanf` does, and check the size of the whole. They accept
all the documented texts, and others too: those whose numbers have spaces, signs or other than
all their digits, those with another character between the date and the time of a datetime,
and those that a NUL ends before their end.
-/

namespace MysqlAsio.TextForms

open MysqlAsio.Errors MysqlAsio.CommonMessages MysqlAsio.Values MysqlAsio.TextDeserialization
open MysqlAsio.Temporal MysqlAsio.Scanning MysqlAsio.TextReadings

inductive TemporalType
  | date
  | datetime
  | timestamp
  | time
  deriving DecidableEq, Repr

def TemporalType.protocolType : TemporalType → ProtocolFieldType
  | .date => .date
  | .datetime => .datetime
  | .timestamp => .timestamp
  | .time => .time

/-! ### Documented texts -/

def DatetimeForm (decimals : ℕ) (s : Bytes) : Prop :=
  ∃ date clock, DateForm date ∧ ClockForm [2] maxHour decimals clock ∧ s = date ++ space :: clock

def DurationForm (decimals : ℕ) (s : Bytes) : Prop :=
  ∃ clock, ClockForm [2, 3] timeMaxHour decimals clock ∧ (s = clock ∨ s = dash :: clock)

def Documented (type : TemporalType) (decimals : ℕ) (s : Bytes) : Prop :=
  match type with
  | .date => DateForm s
  | .datetime | .timestamp => DatetimeForm decimals s
  | .time => DurationForm decimals s

/-! ### Texts that are read -/

/-- A text of the size of a datetime, which is read as a date and a time of day. -/
structure ReadsDatetime (decimals : ℕ) (s : Bytes) (d : DateWritten) (c : ClockWritten) :
    Prop where
  size : s.length = datetimeMinSz + fractionSz decimals
  date : d.Reads (s.take dateSz)
  clock : c.Reads 2 decimals (s.drop (dateSz + 1))
  dateInLimits : d.parts.InLimits
  clockInLimits : (c.parts decimals).InLimits maxHour

/-- A text of one of the sizes of a time, which is read as one. -/
structure ReadsDuration (decimals : ℕ) (s : Bytes) (c : ClockWritten) : Prop where
  minSize : timeMinSz + fractionSz decimals ≤ s.length
  maxSize : s.length ≤ timeMinSz + fractionSz decimals + 1 + 1
  clock : c.Reads 3 decimals (unsignedPart s)
  clockInLimits : (c.parts decimals).InLimits timeMaxHour

/-- A text that is read within the limits although it is not written as documented: a number
has spaces, a sign, or not all its digits and no more; the character before the time of day is
no space; or the text goes on after a NUL. -/
def LooselyWritten (type : TemporalType) (decimals : ℕ) (s : Bytes) : Prop :=
  match type with
  | .date => ∃ d : DateWritten, (d.Reads s ∧ d.parts.InLimits) ∧ ¬ d.Exact
  | .datetime | .timestamp =>
    ∃ p : DateWritten × ClockWritten, ReadsDatetime decimals s p.1 p.2 ∧
      ¬ (p.1.Exact ∧ s[dateSz]? = some space ∧ p.2.Exact [2] decimals)
  | .time => ∃ c, ReadsDuration decimals s c ∧ ¬ (c.Exact [2, 3] decimals ∧ 0 ∉ s)

/-! ### What is accepted -/

lemma orValueError_ok_iff {α : Type} {scan : Option α} {value : α → Except Errc Value} :
    (∃ v, orValueError scan value = .ok v) ↔ ∃ a, scan = some a ∧ ∃ v, value a = .ok v := by
  cases scan with
  | none => simp [orValueError]
  | some a => simp [orValueError]

lemma dateValue_ok_iff (d : DateParts) : (∃ v, dateValue d = .ok v) ↔ d.InLimits := by
  unfold dateValue
  split_ifs with hl hok <;> simp [hl]

lemma datetimeValue_ok_iff (d : DateParts) (t : TimeParts) :
    (∃ v, datetimeValue d t = .ok v) ↔ d.InLimits ∧ t.InLimits maxHour := by
  unfold datetimeValue
  split_ifs with hl hok <;> simp [hl]

lemma timeValue_ok_iff (isNegative : Bool) (t : TimeParts) :
    (∃ v, timeValue isNegative t = .ok v) ↔ t.InLimits timeMaxHour := by
  unfold timeValue
  split_ifs with hl <;> simp [hl]

lemma date_accepted_iff (s : Bytes) :
    (∃ v, deserializeTextValueDate s = .ok v) ↔
      ∃ d : DateWritten, d.Reads s ∧ d.parts.InLimits := by
  rw [textDate_eq, orValueError_ok_iff]
  constructor
  · rintro ⟨p, hp, hv⟩
    obtain ⟨d, hd, rfl⟩ := (scanDate_iff s p).mp hp
    exact ⟨d, hd, (dateValue_ok_iff _).mp hv⟩
  · rintro ⟨d, hd, hl⟩
    exact ⟨_, (scanDate_iff s _).mpr ⟨d, hd, rfl⟩, (dateValue_ok_iff _).mpr hl⟩

lemma datetime_accepted_iff (s : Bytes) (fieldMeta : FieldMetadata) :
    (∃ v, deserializeTextValueDatetime s fieldMeta = .ok v) ↔
      ∃ p : DateWritten × ClockWritten,
        ReadsDatetime (sanitizeDecimals fieldMeta.decimals) s p.1 p.2 := by
  rw [textDatetime_eq, orValueError_ok_iff]
  constructor
  · rintro ⟨⟨d, t⟩, hp, hv⟩
    obtain ⟨hs, hd, ht⟩ := (scanDatetime_iff _ s d t).mp hp
    obtain ⟨dw, hdr, rfl⟩ := (scanDate_iff _ d).mp hd
    obtain ⟨cw, hcr, rfl⟩ := (scanTimeParts_iff _ _ _ t).mp ht
    obtain ⟨hdl, hcl⟩ := (datetimeValue_ok_iff _ _).mp hv
    exact ⟨(dw, cw), hs, hdr, hcr, hdl, hcl⟩
  · rintro ⟨⟨dw, cw⟩, hr⟩
    refine ⟨(dw.parts, cw.parts (sanitizeDecimals fieldMeta.decimals)),
      (scanDatetime_iff _ s _ _).mpr ⟨hr.size, ?_, ?_⟩, ?_⟩
    · exact (scanDate_iff _ _).mpr ⟨dw, hr.date, rfl⟩
    · exact (scanTimeParts_iff _ _ _ _).mpr ⟨cw, hr.clock, rfl⟩
    · exact (datetimeValue_ok_iff _ _).mpr ⟨hr.dateInLimits, hr.clockInLimits⟩

lemma time_accepted_iff (s : Bytes) (fieldMeta : FieldMetadata) :
    (∃ v, deserializeTextValueTime s fieldMeta = .ok v) ↔
      ∃ c, ReadsDuration (sanitizeDecimals fieldMeta.decimals) s c := by
  rw [textTime_eq, orValueError_ok_iff]
  constructor
  · rintro ⟨⟨isNegative, t⟩, hp, hv⟩
    obtain ⟨hmin, hmax, -, ht⟩ := (scanDuration_iff _ s isNegative t).mp hp
    obtain ⟨c, hc, rfl⟩ := (scanTimeParts_iff _ _ _ t).mp ht
    exact ⟨c, hmin, hmax, hc, (timeValue_ok_iff _ _).mp hv⟩
  · rintro ⟨c, hr⟩
    refine ⟨(decide (s.head? = some dash), c.parts (sanitizeDecimals fieldMeta.decimals)),
      (scanDuration_iff _ s _ _).mpr ⟨hr.minSize, hr.maxSize, rfl, ?_⟩, ?_⟩
    · exact (scanTimeParts_iff _ _ _ _).mpr ⟨c, hr.clock, rfl⟩
    · exact (timeValue_ok_iff _ _).mpr hr.clockInLimits

/-! ### What is documented -/

lemma clockForm_length {hoursWidths : List ℕ} {hourLimit decimals : ℕ} {s : Bytes}
    (h : ClockForm hoursWidths hourLimit decimals s) :
    ∃ width ∈ hoursWidths, s.length = width + 6 + fractionSz decimals := by
  obtain ⟨hours, minutes, seconds, fraction, ⟨width, hw, hh⟩, hm, hs, hf, rfl, -⟩ := h
  exact ⟨width, hw, clockText_length hh hm hs hf⟩

lemma datetimeForm_iff {decimals : ℕ} (hd : decimals ≤ maxDecimals) (s : Bytes) :
    DatetimeForm decimals s ↔ ∃ p : DateWritten × ClockWritten, ReadsDatetime decimals s p.1 p.2 ∧
      p.1.Exact ∧ s[dateSz]? = some space ∧ p.2.Exact [2] decimals := by
  have hws : ∀ w ∈ [2], 0 < w ∧ w ≤ 2 := by decide
  constructor
  · rintro ⟨date, clock, hdate, hclock, rfl⟩
    obtain ⟨width, hw, hlen⟩ := clockForm_length hclock
    obtain rfl := List.mem_singleton.mp hw
    obtain ⟨d, hdr, hdl, hde⟩ := (dateForm_iff date).mp hdate
    obtain ⟨c, hcr, hcl, hce, -⟩ := (clockForm_iff hws (by decide) hd clock).mp hclock
    obtain ⟨htake, hdrop⟩ := split_datetime hdr.1 clock
    refine ⟨(d, c), ⟨?_, by rwa [htake], by rwa [hdrop], hdl, hcl⟩, hde, ?_, hce⟩
    · simp only [List.length_append, List.length_cons, hdr.1, hlen, datetimeMinSz, timeMinSz]
      omega
    · rw [← hdr.1]
      simp
  · rintro ⟨⟨d, c⟩, hr, hde, hspace, hce⟩
    obtain ⟨hours, minutes, seconds, fraction, ⟨width, hw, hh⟩, hm, hs, hf, -, htext⟩ :=
      hr.clock.exact_text hce
    obtain rfl := List.mem_singleton.mp hw
    have hwhole : cString (s.drop (dateSz + 1)) = s.drop (dateSz + 1) := by
      refine cString_of_length ?_
      rw [htext, clockText_length hh hm hs hf, List.length_drop, hr.size]
      simp only [datetimeMinSz, timeMinSz]
      omega
    have h0 : 0 ∉ s.drop (dateSz + 1) := hwhole ▸ cString_noNul _
    refine ⟨s.take dateSz, s.drop (dateSz + 1),
      (dateForm_iff _).mpr ⟨d, hr.date, hr.dateInLimits, hde⟩,
      (clockForm_iff hws (by decide) hd _).mpr ⟨c, hr.clock, hr.clockInLimits, hce, h0⟩, ?_⟩
    obtain ⟨hlt, hget⟩ := List.getElem?_eq_some_iff.mp hspace
    rw [← hget, ← List.drop_eq_getElem_cons hlt, List.take_append_drop]

/-- The hours of a time begin with a digit, which is no sign. -/
lemma clockForm_unsigned {hoursWidths : List ℕ} {hourLimit decimals : ℕ} {s : Bytes}
    (hws : ∀ w ∈ hoursWidths, 0 < w) (h : ClockForm hoursWidths hourLimit decimals s) :
    s.head? ≠ some dash := by
  obtain ⟨hours, minutes, seconds, fraction, ⟨width, hw, hh⟩, -, -, -, rfl, -⟩ := h
  cases hours with
  | nil => exact absurd hh.1 (hws width hw).ne
  | cons b hours =>
    intro hb
    obtain rfl : b = dash := by simpa [clockText] using hb
    exact absurd (hh.2 dash List.mem_cons_self) (by decide)

lemma durationForm_iff {decimals : ℕ} (hd : decimals ≤ maxDecimals) (s : Bytes) :
    DurationForm decimals s ↔
      ∃ c, ReadsDuration decimals s c ∧ c.Exact [2, 3] decimals ∧ 0 ∉ s := by
  have hws : ∀ w ∈ [2, 3], 0 < w ∧ w ≤ 3 := by decide
  constructor
  · rintro ⟨clock, hclock, hs⟩
    obtain ⟨width, hw, hlen⟩ := clockForm_length hclock
    obtain ⟨c, hcr, hcl, hce, h0⟩ := (clockForm_iff hws (by decide) hd clock).mp hclock
    have hw23 : width = 2 ∨ width = 3 := by simpa using hw
    have hpart : unsignedPart s = clock := by
      obtain rfl | rfl := hs
      · exact if_neg (clockForm_unsigned (fun w hw => (hws w hw).1) hclock)
      · exact if_pos rfl
    have hsize : s.length = clock.length ∨ s.length = clock.length + 1 := by
      obtain rfl | rfl := hs
      · exact .inl rfl
      · exact .inr rfl
    have h0s : 0 ∉ s := by
      obtain rfl | rfl := hs
      · exact h0
      · simpa [dash] using h0
    refine ⟨c, ⟨?_, ?_, hpart ▸ hcr, hcl⟩, hce, h0s⟩ <;>
    · rw [hlen] at hsize
      simp only [timeMinSz]
      omega
  · rintro ⟨c, hr, hce, h0⟩
    by_cases hneg : s.head? = some dash
    · have hpart : unsignedPart s = s.drop 1 := if_pos hneg
      have h0' : 0 ∉ s.drop 1 := fun h => h0 (List.mem_of_mem_drop h)
      refine ⟨s.drop 1, (clockForm_iff hws (by decide) hd _).mpr
        ⟨c, hpart ▸ hr.clock, hr.clockInLimits, hce, h0'⟩, .inr ?_⟩
      cases s with
      | nil => cases hneg
      | cons b s =>
        cases hneg
        rfl
    · have hpart : unsignedPart s = s := if_neg hneg
      exact ⟨s, (clockForm_iff hws (by decide) hd s).mpr
        ⟨c, hpart ▸ hr.clock, hr.clockInLimits, hce, h0⟩, .inl rfl⟩

/-! ### The texts that are accepted are the documented ones, but for these -/

lemma ReadsDatetime.unique {decimals : ℕ} {s : Bytes} {p q : DateWritten × ClockWritten}
    (h : ReadsDatetime decimals s p.1 p.2) (h' : ReadsDatetime decimals s q.1 q.2) : p = q :=
  Prod.ext (h.date.unique h'.date) (h.clock.unique h'.clock)

/-- Where a text is read in one way at most, accepting the documented ones only is reading none
that is not exact. -/
lemma accepted_iff_exact {ρ : Type} {Reads Exact : ρ → Prop} {accepted documented : Prop}
    (ha : accepted ↔ ∃ r, Reads r) (hd : documented ↔ ∃ r, Reads r ∧ Exact r)
    (hu : ∀ r r', Reads r → Reads r' → r = r') :
    (accepted ↔ documented) ↔ ¬ ∃ r, Reads r ∧ ¬ Exact r := by
  constructor
  · rintro h ⟨r, hr, he⟩
    obtain ⟨r', hr', he'⟩ := hd.mp (h.mp (ha.mpr ⟨r, hr⟩))
    exact he (hu r r' hr hr' ▸ he')
  · intro h
    rw [ha, hd]
    refine ⟨fun ⟨r, hr⟩ => ⟨r, hr, ?_⟩, fun ⟨r, hr, _⟩ => ⟨r, hr⟩⟩
    by_contra he
    exact h ⟨r, hr, he⟩

lemma orValueError_error {α : Type} {scan : Option α} {value : α → Except Errc Value} {e : Errc}
    (hv : ∀ a, value a = .error e → e = .protocolValueError)
    (h : orValueError scan value = .error e) : e = .protocolValueError := by
  cases scan with
  | none => cases h; rfl
  | some a => exact hv a h

lemma temporal_error {lexical : LexicalConvert} {type : TemporalType} {fieldMeta : FieldMetadata}
    (h : fieldMeta.protocolType = type.protocolType) {s : Bytes} {e : Errc}
    (he : deserializeTextValue lexical s fieldMeta = .error e) : e = .protocolValueError := by
  unfold deserializeTextValue at he
  rw [h] at he
  cases type with
  | date => exact orValueError_error (fun _ => dateValue_error) ((textDate_eq s).symm.trans he)
  | datetime | timestamp =>
    exact orValueError_error (fun _ => datetimeValue_error)
      ((textDatetime_eq s fieldMeta).symm.trans he)
  | time =>
    exact orValueError_error (fun _ => timeValue_error) ((textTime_eq s fieldMeta).symm.trans he)

lemma accepted_iff_documented {lexical : LexicalConvert} {type : TemporalType}
    {fieldMeta : FieldMetadata} (h : fieldMeta.protocolType = type.protocolType) (s : Bytes) :
    ((∃ v, deserializeTextValue lexical s fieldMeta = .ok v) ↔
      Documented type (sanitizeDecimals fieldMeta.decimals) s) ↔
      ¬ LooselyWritten type (sanitizeDecimals fieldMeta.decimals) s := by
  have hd : sanitizeDecimals fieldMeta.decimals ≤ maxDecimals := Nat.min_le_right _ _
  unfold deserializeTextValue
  rw [h]
  cases type with
  | date =>
    refine accepted_iff_exact (date_accepted_iff s) ?_ fun r r' hr hr' => hr.1.unique hr'.1
    have hdate := dateForm_iff s
    simp only [← and_assoc] at hdate
    exact hdate
  | datetime | timestamp =>
    exact accepted_iff_exact (datetime_accepted_iff s fieldMeta) (datetimeForm_iff hd s)
      fun r r' hr hr' => hr.unique hr'
  | time =>
    exact accepted_iff_exact (time_accepted_iff s fieldMeta) (durationForm_iff hd s)
      fun r r' hr hr' => hr.clock.unique hr'.clock

/-- **The decoders accept the documented texts and reject the others, except those that are
written loosely.** -/
theorem decodes_documented_iff (lexical : LexicalConvert) (type : TemporalType)
    (fieldMeta : FieldMetadata) (h : fieldMeta.protocolType = type.protocolType) (s : Bytes) :
    ((Documented type (sanitizeDecimals fieldMeta.decimals) s →
        ∃ v, deserializeTextValue lexical s fieldMeta = .ok v) ∧
      (¬ Documented type (sanitizeDecimals fieldMeta.decimals) s →
        deserializeTextValue lexical s fieldMeta = .error .protocolValueError)) ↔
      ¬ LooselyWritten type (sanitizeDecimals fieldMeta.decimals) s := by
  rw [← @accepted_iff_documented lexical type fieldMeta h s]
  constructor
  · rintro ⟨hdoc, hnot⟩
    refine ⟨fun ⟨v, hv⟩ => ?_, hdoc⟩
    by_contra hn
    rw [hnot hn] at hv
    cases hv
  · intro hiff
    refine ⟨hiff.mpr, fun hn => ?_⟩
    rcases hv : deserializeTextValue lexical s fieldMeta with e | v
    · rw [temporal_error h hv]
    · exact absurd (hiff.mp ⟨v, hv⟩) hn

/-- The text of a date. -/
theorem decodes_documented_iff_date :
    let s : Bytes := [0x32, 0x30, 0x31, 0x30, 0x2d, 0x31, 0x30, 0x2d, 0x30, 0x35]
    let fieldMeta := BinaryRoundTrip.typedField .date false
    let lexical : LexicalConvert :=
      ⟨fun _ => none, fun _ => none, fun _ => none, fun _ => none⟩
    ((Documented .date 0 s → ∃ v, deserializeTextValue lexical s fieldMeta = .ok v) ∧
      (¬ Documented .date 0 s →
        deserializeTextValue lexical s fieldMeta = .error .protocolValueError)) ↔
      ¬ LooselyWritten .date 0 s :=
  decodes_documented_iff ⟨fun _ => none, fun _ => none, fun _ => none, fun _ => none⟩ .date
    (BinaryRoundTrip.typedField .date false) rfl
    [0x32, 0x30, 0x31, 0x30, 0x2d, 0x31, 0x30, 0x2d, 0x30, 0x35]

/-- A date with a space in its month and one digit for its day is accepted. -/
theorem not_decodes_documented :
    ¬ ∀ (lexical : LexicalConvert) (type : TemporalType) (fieldMeta : FieldMetadata) (s : Bytes),
      fieldMeta.protocolType = type.protocolType →
      (Documented type (sanitizeDecimals fieldMeta.decimals) s →
        ∃ v, deserializeTextValue lexical s fieldMeta = .ok v) ∧
      (¬ Documented type (sanitizeDecimals fieldMeta.decimals) s →
        deserializeTextValue lexical s fieldMeta = .error .protocolValueError) := by
  intro h
  have hs := (h ⟨fun _ => none, fun _ => none, fun _ => none, fun _ => none⟩ .date
    (BinaryRoundTrip.typedField .date false)
    [0x32, 0x30, 0x31, 0x30, 0x2d, 0x20, 0x30, 0x31, 0x2d, 0x31] rfl).2
  have hok : deserializeTextValue ⟨fun _ => none, fun _ => none, fun _ => none, fun _ => none⟩
      [0x32, 0x30, 0x31, 0x30, 0x2d, 0x20, 0x30, 0x31, 0x2d, 0x31]
      (BinaryRoundTrip.typedField .date false) = .ok (.date 14610) := by decide +kernel
  rw [hok] at hs
  have hform : ¬ DateForm [0x32, 0x30, 0x31, 0x30, 0x2d, 0x20, 0x30, 0x31, 0x2d, 0x31] := by
    rintro ⟨year, month, day, hy, hm, -, he, -⟩
    -- the first digit of the month would be the space
    obtain ⟨b, month', rfl⟩ := List.exists_cons_of_length_pos (hm.1 ▸ Nat.zero_lt_two)
    have h5 := congrArg (·.drop 5) he
    have hdrop : (dateText year (b :: month') day).drop 5 = b :: (month' ++ dash :: day) := by
      rw [dateText, show 5 = year.length + 1 by rw [hy.1], ← List.drop_drop, List.drop_left]
      rfl
    rw [hdrop] at h5
    obtain ⟨rfl, -⟩ := List.cons.inj h5
    exact absurd (hm.2 _ List.mem_cons_self) (by decide)
  cases hs hform

end MysqlAsio.TextForms
