import MysqlAsio.Temporal
import MysqlAsio.Scanning

/-!
The texts of dates and times of day: how they are read, and how they are documented.

A reading is the numbers that are found with all that is written around their digits; the
documented texts are those whose numbers have no spaces, no sign and all their digits.
-/

namespace MysqlAsio.TextReadings

open MysqlAsio.Errors MysqlAsio.Values MysqlAsio.TextDeserialization MysqlAsio.Temporal
open MysqlAsio.Scanning MysqlAsio.Lib.Spans

/-! ### Dates -/

def dateFields : List (UInt8 × ℕ) := [(dash, 2), (dash, 2)]

lemma dateFields_sep : ∀ f ∈ dateFields, isDigit f.1 = false := by decide

/-- A date as it is written. -/
structure DateWritten where
  year : Number
  month : Number
  day : Number
  deriving DecidableEq, Repr

def DateWritten.Reads (d : DateWritten) (s : Bytes) : Prop :=
  s.length = dateSz ∧ ReadsAs 4 dateFields s d.year [d.month, d.day]

def DateWritten.parts (d : DateWritten) : DateParts :=
  ⟨d.year.value.toNat, d.month.value.toNat, d.day.value.toNat⟩

def DateWritten.Exact (d : DateWritten) : Prop :=
  Number.Exact d.year 4 ∧ Number.Exact d.month 2 ∧ Number.Exact d.day 2

lemma scanDate_iff (s : Bytes) (p : DateParts) :
    scanDate s = some p ↔ ∃ d : DateWritten, d.Reads s ∧ p = d.parts := by
  unfold scanDate
  by_cases hl : s.length = dateSz
  · rw [if_neg (not_not.mpr hl)]
    constructor
    · intro h
      split at h
      · next year month day hs =>
        cases h
        obtain ⟨n, ns, hr, hv⟩ := (sscanf_iff dateFields_sep s _).mp hs
        obtain _ | ⟨_, _ | ⟨_, _ | _⟩⟩ := hr.others
        simp only [List.map_cons, List.map_nil, List.cons.injEq, and_true] at hv
        obtain ⟨rfl, rfl, rfl⟩ := hv
        exact ⟨⟨n, _, _⟩, ⟨hl, hr⟩, rfl⟩
      · cases h
    · rintro ⟨d, ⟨-, hr⟩, rfl⟩
      have hs := (sscanf_iff dateFields_sep s _).mpr ⟨_, _, hr, rfl⟩
      simp only [dateFields, List.map_cons, List.map_nil] at hs
      rw [hs]
      rfl
  · rw [if_pos hl]
    refine ⟨fun h => ?_, fun ⟨_, h, _⟩ => absurd h.1 hl⟩
    cases h

lemma DateWritten.Reads.unique {d d' : DateWritten} {s : Bytes} (h : d.Reads s)
    (h' : d'.Reads s) : d = d' := by
  obtain ⟨hy, hr⟩ := h.2.unique dateFields_sep h'.2
  simp only [List.cons.injEq, and_true] at hr
  obtain ⟨y, m, k⟩ := d
  obtain ⟨y', m', k'⟩ := d'
  simp only at hy hr
  rw [hy, hr.1, hr.2]

/-- The documented text of a date. -/
def dateText (year month day : Bytes) : Bytes := year ++ dash :: (month ++ dash :: day)

def DateForm (s : Bytes) : Prop :=
  ∃ year month day, Digits 4 year ∧ Digits 2 month ∧ Digits 2 day ∧ s = dateText year month day ∧
    digitsValue month ≤ maxMonth ∧ digitsValue day ≤ maxDay

lemma dateText_reads {year month day : Bytes} (hy : Digits 4 year) (hm : Digits 2 month)
    (hd : Digits 2 day) :
    (⟨.ofDigits year, .ofDigits month, .ofDigits day⟩ : DateWritten).Reads
      (dateText year month day) := by
  have h0 : 0 ∉ dateText year month day := by
    have h1 := noNul_of_digits hy.2
    have h2 := noNul_of_digits hm.2
    have h3 := noNul_of_digits hd.2
    simp [dateText, dash, h1, h2, h3]
  refine ⟨?_, ofDigits_fits hy (by decide) (by decide),
    .cons (ofDigits_fits hm (by decide) (by decide))
      (.cons (ofDigits_fits hd (by decide) (by decide)) .nil), ?_⟩
  · simp [dateText, hy.1, hm.1, hd.1, dateSz]
  · rw [cString_of_noNul h0]
    simp [dateText, dateFields, joined, ofDigits_bytes]

lemma dateText_parts {year month day : Bytes} (hy : Digits 4 year) (hm : Digits 2 month)
    (hd : Digits 2 day) :
    (⟨.ofDigits year, .ofDigits month, .ofDigits day⟩ : DateWritten).parts =
      ⟨digitsValue year, digitsValue month, digitsValue day⟩ := by
  simp only [DateWritten.parts, ofDigits_value hy (by decide), ofDigits_value hm (by decide),
    ofDigits_value hd (by decide)]

/-- The documented texts are those with an exact reading within the limits. -/
lemma dateForm_iff (s : Bytes) :
    DateForm s ↔ ∃ d : DateWritten, d.Reads s ∧ d.parts.InLimits ∧ d.Exact := by
  constructor
  · rintro ⟨year, month, day, hy, hm, hd, rfl, hm', hd'⟩
    refine ⟨_, dateText_reads hy hm hd, ?_, ofDigits_exact hy, ofDigits_exact hm,
      ofDigits_exact hd⟩
    have hy' := digitsValue_lt hy.2
    rw [hy.1] at hy'
    rw [dateText_parts hy hm hd]
    exact ⟨Nat.le_of_lt_succ hy', hm', hd'⟩
  · rintro ⟨d, ⟨hl, hr⟩, hlim, hy, hm, hd⟩
    obtain _ | ⟨hmf, _ | ⟨hdf, _ | _⟩⟩ := hr.others
    have hyD := digits_of_exact hr.first hy
    have hmD := digits_of_exact hmf hm
    have hdD := digits_of_exact hdf hd
    have hd_eq : d = ⟨.ofDigits d.year.digits, .ofDigits d.month.digits, .ofDigits d.day.digits⟩ := by
      rw [← hy.eq_ofDigits, ← hm.eq_ofDigits, ← hd.eq_ofDigits]
    have hb := hr.bytes
    rw [hy.eq_ofDigits, hm.eq_ofDigits, hd.eq_ofDigits] at hb
    have htext : cString s = dateText d.year.digits d.month.digits d.day.digits := by
      rw [hb]
      simp [dateText, dateFields, joined, ofDigits_bytes]
    have hs : cString s = s := cString_of_length (by
      rw [htext, hl]
      simp [dateText, hyD.1, hmD.1, hdD.1, dateSz])
    rw [hd_eq, dateText_parts hyD hmD hdD] at hlim
    exact ⟨_, _, _, hyD, hmD, hdD, hs.symm.trans htext, hlim.2.1, hlim.2.2⟩

/-! ### Times of day -/

def clockFields : List (UInt8 × ℕ) := [(colon, 2), (colon, 2)]
def microsFields : List (UInt8 × ℕ) := [(colon, 2), (colon, 2), (dot, 6)]

lemma clockFields_sep : ∀ f ∈ clockFields, isDigit f.1 = false := by decide
lemma microsFields_sep : ∀ f ∈ microsFields, isDigit f.1 = false := by decide

/-- A time of day as it is written; the fraction is there if there are decimals. -/
structure ClockWritten where
  hours : Number
  minutes : Number
  seconds : Number
  fraction : Option Number
  deriving DecidableEq, Repr

def ClockWritten.Reads (c : ClockWritten) (hoursWidth decimals : ℕ) (s : Bytes) : Prop :=
  match c.fraction with
  | some f => decimals ≠ 0 ∧ ReadsAs hoursWidth microsFields s c.hours [c.minutes, c.seconds, f]
  | none => decimals = 0 ∧ ReadsAs hoursWidth clockFields s c.hours [c.minutes, c.seconds]

def ClockWritten.parts (c : ClockWritten) (decimals : ℕ) : TimeParts :=
  ⟨c.hours.value.toNat, c.minutes.value.toNat, c.seconds.value.toNat,
    match c.fraction with
    | some f => (computeMicros f.value decimals).toNat
    | none => 0⟩

/-- All the digits, of the hours one of the widths that there may be. -/
def ClockWritten.Exact (c : ClockWritten) (hoursWidths : List ℕ) (decimals : ℕ) : Prop :=
  (∃ width ∈ hoursWidths, c.hours.Exact width) ∧ c.minutes.Exact 2 ∧ c.seconds.Exact 2 ∧
    ∀ f ∈ c.fraction, f.Exact decimals

lemma scanTimeParts_iff (hoursWidth decimals : ℕ) (s : Bytes) (t : TimeParts) :
    scanTimeParts hoursWidth decimals s = some t ↔
      ∃ c : ClockWritten, c.Reads hoursWidth decimals s ∧ t = c.parts decimals := by
  unfold scanTimeParts scanTime
  by_cases hd : decimals = 0
  · rw [if_neg (not_not.mpr hd)]
    constructor
    · intro h
      split at h
      · next hours minutes seconds hs =>
        cases h
        obtain ⟨n, ns, hr, hv⟩ := (sscanf_iff clockFields_sep s _).mp hs
        obtain _ | ⟨_, _ | ⟨_, _ | _⟩⟩ := hr.others
        simp only [List.map_cons, List.map_nil, List.cons.injEq, and_true] at hv
        obtain ⟨rfl, rfl, rfl⟩ := hv
        exact ⟨⟨n, _, _, none⟩, ⟨hd, hr⟩, rfl⟩
      · cases h
    · rintro ⟨⟨h, m, se, f⟩, hr, rfl⟩
      cases f with
      | some f => exact absurd hd hr.1
      | none =>
        have hs := (sscanf_iff clockFields_sep s _).mpr ⟨_, _, hr.2, rfl⟩
        simp only [clockFields, List.map_cons, List.map_nil] at hs
        rw [hs]
        rfl
  · rw [if_pos hd]
    constructor
    · intro h
      split at h
      · next hours minutes seconds micros hs =>
        cases h
        obtain ⟨n, ns, hr, hv⟩ := (sscanf_iff microsFields_sep s _).mp hs
        obtain _ | ⟨_, _ | ⟨_, _ | ⟨_, _ | _⟩⟩⟩ := hr.others
        simp only [List.map_cons, List.map_nil, List.cons.injEq, and_true] at hv
        obtain ⟨rfl, rfl, rfl, rfl⟩ := hv
        exact ⟨⟨n, _, _, some _⟩, ⟨hd, hr⟩, rfl⟩
      · cases h
    · rintro ⟨⟨h, m, se, f⟩, hr, rfl⟩
      cases f with
      | none => exact absurd hr.1 hd
      | some f =>
        have hs := (sscanf_iff microsFields_sep s _).mpr ⟨_, _, hr.2, rfl⟩
        simp only [microsFields, List.map_cons, List.map_nil] at hs
        rw [hs]
        rfl

lemma ClockWritten.Reads.unique {c c' : ClockWritten} {hoursWidth decimals : ℕ} {s : Bytes}
    (h : c.Reads hoursWidth decimals s) (h' : c'.Reads hoursWidth decimals s) : c = c' := by
  obtain ⟨a, b, d, f⟩ := c
  obtain ⟨a', b', d', f'⟩ := c'
  cases f with
  | none =>
    cases f' with
    | none =>
      obtain ⟨hh, hr⟩ := h.2.unique clockFields_sep h'.2
      simp only [List.cons.injEq, and_true] at hr
      simp only at hh
      rw [hh, hr.1, hr.2]
    | some f' => exact absurd h.1 h'.1
  | some f =>
    cases f' with
    | none => exact absurd h'.1 h.1
    | some f' =>
      obtain ⟨hh, hr⟩ := h.2.unique microsFields_sep h'.2
      simp only [List.cons.injEq, and_true] at hr
      simp only at hh
      rw [hh, hr.1, hr.2.1, hr.2.2]

def fractionText (decimals : ℕ) (fraction : Bytes) : Bytes :=
  if decimals ≠ 0 then dot :: fraction else []

/-- The documented text of a time of day. -/
def clockText (decimals : ℕ) (hours minutes seconds fraction : Bytes) : Bytes :=
  hours ++ colon :: (minutes ++ colon :: (seconds ++ fractionText decimals fraction))

def ClockForm (hoursWidths : List ℕ) (hourLimit decimals : ℕ) (s : Bytes) : Prop :=
  ∃ hours minutes seconds fraction, (∃ width ∈ hoursWidths, Digits width hours) ∧
    Digits 2 minutes ∧ Digits 2 seconds ∧ Digits decimals fraction ∧
    s = clockText decimals hours minutes seconds fraction ∧ digitsValue hours ≤ hourLimit ∧
    digitsValue minutes ≤ maxMin ∧ digitsValue seconds ≤ maxSec

/-- The reading of a documented text. -/
def ClockWritten.ofText (decimals : ℕ) (hours minutes seconds fraction : Bytes) : ClockWritten :=
  ⟨.ofDigits hours, .ofDigits minutes, .ofDigits seconds,
    if decimals ≠ 0 then some (.ofDigits fraction) else none⟩

section Clock

variable {width hoursWidth decimals : ℕ} {hours minutes seconds fraction : Bytes}

lemma clockText_noNul (hh : Digits width hours) (hm : Digits 2 minutes) (hs : Digits 2 seconds)
    (hf : Digits decimals fraction) : 0 ∉ clockText decimals hours minutes seconds fraction := by
  have h1 := noNul_of_digits hh.2
  have h2 := noNul_of_digits hm.2
  have h3 := noNul_of_digits hs.2
  have h4 := noNul_of_digits hf.2
  have h5 : 0 ∉ fractionText decimals fraction := by
    unfold fractionText
    split_ifs <;> simp [dot, h4]
  simp [clockText, colon, h1, h2, h3, h5]

lemma clockText_length (hh : Digits width hours) (hm : Digits 2 minutes) (hs : Digits 2 seconds)
    (hf : Digits decimals fraction) :
    (clockText decimals hours minutes seconds fraction).length =
      width + 6 + fractionSz decimals := by
  unfold clockText fractionText fractionSz
  split_ifs
  · simp [hh.1, hm.1, hs.1, hf.1]
    omega
  · simp [hh.1, hm.1, hs.1]

lemma clockText_reads (hh : Digits width hours) (hm : Digits 2 minutes) (hs : Digits 2 seconds)
    (hf : Digits decimals fraction) (h0 : 0 < width) (hw : width ≤ hoursWidth)
    (hd : decimals ≤ maxDecimals) :
    (ClockWritten.ofText decimals hours minutes seconds fraction).Reads hoursWidth decimals
      (clockText decimals hours minutes seconds fraction) := by
  have hnul := cString_of_noNul (clockText_noNul hh hm hs hf)
  have hhf := ofDigits_fits hh h0 hw
  have hmf := ofDigits_fits hm (by decide) (le_refl 2)
  have hsf := ofDigits_fits hs (by decide) (le_refl 2)
  by_cases h : decimals = 0
  · subst h
    refine ⟨rfl, hhf, .cons hmf (.cons hsf .nil), ?_⟩
    rw [hnul]
    simp [clockText, fractionText, ClockWritten.ofText, clockFields, joined, ofDigits_bytes]
  · have hc : (ClockWritten.ofText decimals hours minutes seconds fraction).fraction =
        some (Number.ofDigits fraction) := if_pos h
    unfold ClockWritten.Reads
    rw [hc]
    refine ⟨h, hhf, .cons hmf (.cons hsf (.cons (ofDigits_fits hf (Nat.pos_of_ne_zero h) hd) .nil)),
      ?_⟩
    rw [hnul]
    simp [clockText, fractionText, ClockWritten.ofText, microsFields, joined, ofDigits_bytes, h]

/-- The digits of a fraction, with zeros for those that are not there, are microseconds. -/
lemma fraction_lt (hf : Digits decimals fraction) (hd : decimals ≤ maxDecimals) :
    digitsValue fraction * 10 ^ (maxDecimals - decimals) < 10 ^ maxDecimals := by
  have hlt := digitsValue_lt hf.2
  rw [hf.1] at hlt
  calc digitsValue fraction * 10 ^ (maxDecimals - decimals)
      < 10 ^ decimals * 10 ^ (maxDecimals - decimals) :=
        Nat.mul_lt_mul_of_pos_right hlt (Nat.pow_pos (by decide))
    _ = 10 ^ maxDecimals := by rw [← pow_add, Nat.add_sub_cancel' hd]

lemma computeMicros_toNat (hf : Digits decimals fraction) (hd : decimals ≤ maxDecimals) :
    (computeMicros (Number.ofDigits fraction).value decimals).toNat =
      digitsValue fraction * 10 ^ (maxDecimals - decimals) := by
  have hle : 10 ^ (maxDecimals - decimals) ≤ 10 ^ maxDecimals :=
    Nat.pow_le_pow_right (by decide) (Nat.sub_le _ _)
  have hmax : 10 ^ maxDecimals < 2 ^ 32 := by decide
  rw [computeMicros, UInt32.toNat_mul, ofDigits_value hf (hd.trans (by decide)),
    UInt32.toNat_ofNat_of_lt' (lt_of_le_of_lt hle hmax)]
  exact Nat.mod_eq_of_lt ((fraction_lt hf hd).trans hmax)

lemma clockText_parts (hh : Digits width hours) (hm : Digits 2 minutes) (hs : Digits 2 seconds)
    (hf : Digits decimals fraction) (hw : width ≤ 9) (hd : decimals ≤ maxDecimals) :
    (ClockWritten.ofText decimals hours minutes seconds fraction).parts decimals =
      ⟨digitsValue hours, digitsValue minutes, digitsValue seconds,
        digitsValue fraction * 10 ^ (maxDecimals - decimals)⟩ := by
  have hmicros := computeMicros_toNat hf hd
  simp only [ClockWritten.parts, ClockWritten.ofText, ofDigits_value hh hw,
    ofDigits_value hm (by decide), ofDigits_value hs (by decide), TimeParts.mk.injEq, true_and]
  by_cases h : decimals = 0
  · subst h
    obtain rfl := List.length_eq_zero_iff.mp hf.1
    rfl
  · rw [if_pos h]
    exact hmicros

end Clock

lemma ClockWritten.Reads.exact_text {c : ClockWritten} {hoursWidth decimals : ℕ}
    {hoursWidths : List ℕ} {s : Bytes} (h : c.Reads hoursWidth decimals s)
    (he : c.Exact hoursWidths decimals) :
    ∃ hours minutes seconds fraction, (∃ width ∈ hoursWidths, Digits width hours) ∧
      Digits 2 minutes ∧ Digits 2 seconds ∧ Digits decimals fraction ∧
      c = .ofText decimals hours minutes seconds fraction ∧
      cString s = clockText decimals hours minutes seconds fraction := by
  obtain ⟨⟨width, hw, hh⟩, hm, hs, hf⟩ := he
  obtain ⟨ch, cm, cs, cf⟩ := c
  simp only at hh hm hs hf
  rw [hh.eq_ofDigits, hm.eq_ofDigits, hs.eq_ofDigits] at h ⊢
  cases cf with
  | none =>
    obtain ⟨rfl, hr⟩ := h
    obtain _ | ⟨hmf, _ | ⟨hsf, _ | _⟩⟩ := hr.others
    have hb := hr.bytes
    refine ⟨_, _, _, [], ⟨width, hw, hh.2.2, hr.first.digits⟩, ⟨hm.2.2, hmf.digits⟩,
      ⟨hs.2.2, hsf.digits⟩, ⟨rfl, fun _ hb => by cases hb⟩, rfl, hb.trans ?_⟩
    simp [clockText, fractionText, clockFields, joined, ofDigits_bytes]
  | some f =>
    have hfe := hf f rfl
    rw [hfe.eq_ofDigits] at h ⊢
    obtain ⟨hd, hr⟩ := h
    obtain _ | ⟨hmf, _ | ⟨hsf, _ | ⟨hff, _ | _⟩⟩⟩ := hr.others
    have hb := hr.bytes
    refine ⟨_, _, _, f.digits, ⟨width, hw, hh.2.2, hr.first.digits⟩, ⟨hm.2.2, hmf.digits⟩,
      ⟨hs.2.2, hsf.digits⟩, ⟨hfe.2.2, hff.digits⟩, ?_, hb.trans ?_⟩
    · simp [ClockWritten.ofText, hd]
    · simp [clockText, fractionText, microsFields, joined, ofDigits_bytes, hd]

/-- The documented texts are those with an exact reading up to the end, within the limits. -/
lemma clockForm_iff {hoursWidths : List ℕ} {hoursWidth hourLimit decimals : ℕ}
    (hws : ∀ w ∈ hoursWidths, 0 < w ∧ w ≤ hoursWidth) (h9 : hoursWidth ≤ 9)
    (hd : decimals ≤ maxDecimals) (s : Bytes) :
    ClockForm hoursWidths hourLimit decimals s ↔
      ∃ c : ClockWritten, c.Reads hoursWidth decimals s ∧ (c.parts decimals).InLimits hourLimit ∧
        c.Exact hoursWidths decimals ∧ 0 ∉ s := by
  constructor
  · rintro ⟨hours, minutes, seconds, fraction, ⟨w, hw, hh⟩, hm, hs, hf, rfl, h1, h2, h3⟩
    obtain ⟨hw0, hwle⟩ := hws w hw
    refine ⟨_, clockText_reads hh hm hs hf hw0 hwle hd, ?_,
      ⟨⟨w, hw, ofDigits_exact hh⟩, ofDigits_exact hm, ofDigits_exact hs, ?_⟩,
      clockText_noNul hh hm hs hf⟩
    · rw [clockText_parts hh hm hs hf (hwle.trans h9) hd]
      exact ⟨h1, h2, h3, Nat.le_of_lt_succ (fraction_lt hf hd)⟩
    · intro f hfm
      by_cases h : decimals = 0
      · simp [ClockWritten.ofText, h] at hfm
      · simp only [ClockWritten.ofText, ne_eq, h, not_false_iff, if_true] at hfm
        cases hfm
        exact ofDigits_exact hf
  · rintro ⟨c, hr, hlim, he, h0⟩
    obtain ⟨hours, minutes, seconds, fraction, ⟨w, hw, hh⟩, hm, hs, hf, rfl, htext⟩ :=
      hr.exact_text he
    rw [clockText_parts hh hm hs hf ((hws w hw).2.trans h9) hd] at hlim
    rw [cString_of_noNul h0] at htext
    exact ⟨hours, minutes, seconds, fraction, ⟨w, hw, hh⟩, hm, hs, hf, htext, hlim.1, hlim.2.1,
      hlim.2.2.1⟩

/-! ### Datetimes and times -/

def space : UInt8 := 0x20

lemma split_datetime {date : Bytes} (h : date.length = dateSz) (clock : Bytes) :
    (date ++ space :: clock).take dateSz = date ∧
      (date ++ space :: clock).drop (dateSz + 1) = clock := by
  refine ⟨by rw [← h, List.take_left], ?_⟩
  rw [← h, ← List.drop_drop, List.drop_left]
  rfl

lemma scanDatetime_iff (decimals : ℕ) (s : Bytes) (d : DateParts) (t : TimeParts) :
    scanDatetime decimals s = some (d, t) ↔
      s.length = datetimeMinSz + fractionSz decimals ∧
        scanDate (s.take dateSz) = some d ∧
        scanTimeParts 2 decimals (s.drop (dateSz + 1)) = some t := by
  unfold scanDatetime
  by_cases hs : s.length = datetimeMinSz + fractionSz decimals
  · rw [if_neg (not_not.mpr hs)]
    simp only [hs, true_and, Option.bind_eq_bind, Option.bind_eq_some_iff, Option.pure_def,
      Option.some.injEq, Prod.mk.injEq]
    constructor
    · rintro ⟨d', hd, t', ht, rfl, rfl⟩
      exact ⟨hd, ht⟩
    · rintro ⟨hd, ht⟩
      exact ⟨d, hd, t, ht, rfl, rfl⟩
  · rw [if_pos hs]
    refine ⟨fun h => ?_, fun h => absurd h.1 hs⟩
    cases h

/-- What is left of a time after its sign. -/
def unsignedPart (s : Bytes) : Bytes := if s.head? = some dash then s.drop 1 else s

lemma scanDuration_iff (decimals : ℕ) (s : Bytes) (isNegative : Bool) (t : TimeParts) :
    scanDuration decimals s = some (isNegative, t) ↔
      timeMinSz + fractionSz decimals ≤ s.length ∧
        s.length ≤ timeMinSz + fractionSz decimals + 1 + 1 ∧
        isNegative = decide (s.head? = some dash) ∧
        scanTimeParts 3 decimals (unsignedPart s) = some t := by
  unfold scanDuration unsignedPart
  simp only [decide_eq_true_eq]
  by_cases hs : s.length < timeMinSz + fractionSz decimals ∨
      s.length > timeMinSz + fractionSz decimals + 1 + 1
  · rw [if_pos hs]
    refine ⟨fun h => ?_, fun ⟨h1, h2, _⟩ => ?_⟩
    · cases h
    · omega
  · rw [if_neg hs, Option.map_eq_some_iff]
    constructor
    · rintro ⟨t', ht, he⟩
      cases he
      exact ⟨by omega, by omega, rfl, ht⟩
    · rintro ⟨-, -, rfl, ht⟩
      exact ⟨t, ht, rfl⟩

end MysqlAsio.TextReadings
