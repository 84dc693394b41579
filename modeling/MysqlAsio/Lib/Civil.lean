import Mathlib.Tactic.Ring
import Mathlib.Tactic.IntervalCases

/-!
The proleptic Gregorian calendar, as a bijection between civil dates and the days counted
from 1970-01-01.

Years begin in March in the computation, so that the leap day is the last of its year, and
are grouped in eras of 400 years, which all have the same number of days.
-/

namespace MysqlAsio.Lib.Civil

/-- A year, a month and a day, not necessarily those of a date. -/
structure YearMonthDay where
  year : ℤ
  month : ℕ
  day : ℕ
  deriving DecidableEq, Repr

def isLeap (y : ℤ) : Bool := y % 4 = 0 && (y % 100 ≠ 0 || y % 400 = 0)

/-- The last day of a month of a year. -/
def lastDay (y : ℤ) (m : ℕ) : ℕ :=
  if m = 2 then (if isLeap y then 29 else 28)
  else if m = 4 ∨ m = 6 ∨ m = 9 ∨ m = 11 then 30 else 31

/-- The components are those of a date. -/
def YearMonthDay.ok (d : YearMonthDay) : Bool :=
  1 ≤ d.month && d.month ≤ 12 && 1 ≤ d.day && d.day ≤ lastDay d.year d.month

/-- The days from 1970-01-01 to a date. -/
def toDays (d : YearMonthDay) : ℤ :=
  let y := if d.month ≤ 2 then d.year - 1 else d.year
  let era := y / 400
  let yoe := y - era * 400
  let mp : ℤ := if 2 < d.month then (d.month : ℤ) - 3 else d.month + 9
  let doy := (153 * mp + 2) / 5 + d.day - 1
  let doe := yoe * 365 + yoe / 4 - yoe / 100 + doy
  era * 146097 + doe - 719468

/-- The date a number of days after 1970-01-01. -/
def ofDays (z : ℤ) : YearMonthDay :=
  let z := z + 719468
  let era := z / 146097
  let doe := z - era * 146097
  let yoe := (doe - doe / 1460 + doe / 36524 - doe / 146096) / 365
  let doy := doe - (365 * yoe + yoe / 4 - yoe / 100)
  let mp := (5 * doy + 2) / 153
  let d := doy - (153 * mp + 2) / 5 + 1
  let m := if mp < 10 then mp + 3 else mp - 9
  let y := yoe + era * 400
  ⟨if m ≤ 2 then y + 1 else y, m.toNat, d.toNat⟩

/-! ### The day of an era -/

/-- The days of an era before its year `yoe`, counted from March. -/
def daysBefore (yoe : ℤ) : ℤ := 365 * yoe + yoe / 4 - yoe / 100

/-- The year of an era that its day `doe` lies in. -/
def yearOfEra (doe : ℤ) : ℤ := (doe - doe / 1460 + doe / 36524 - doe / 146096) / 365

/-- An era is 4 centuries of 25 groups of 4 years; the days of a year are numbered from 0, and
only the last year of a group has a day 365, unless the group ends one of the first three
centuries. -/
structure EraDay (doe c q r doy : ℤ) : Prop where
  century : 0 ≤ c ∧ c ≤ 3
  group : 0 ≤ q ∧ q ≤ 24
  year : 0 ≤ r ∧ r ≤ 3
  day : 0 ≤ doy ∧ (doy ≤ 364 ∨ doy = 365 ∧ r = 3 ∧ (q < 24 ∨ c = 3))
  sum : doe = 36524 * c + 1461 * q + 365 * r + doy

lemma exists_eraDay {doe : ℤ} (h0 : 0 ≤ doe) (h1 : doe < 146097) :
    ∃ c q r doy, EraDay doe c q r doy := by
  obtain ⟨c, hc, hrem0, hrem1⟩ : ∃ c : ℤ, (0 ≤ c ∧ c ≤ 3) ∧ 0 ≤ doe - 36524 * c ∧
      (doe - 36524 * c < 36524 ∨ c = 3 ∧ doe - 36524 * c ≤ 36524) := by
    rcases lt_or_ge doe 109572 with h | h
    · exact ⟨doe / 36524, by omega, by omega, by omega⟩
    · exact ⟨3, by omega, by omega, by omega⟩
  set rem := doe - 36524 * c with hrem
  obtain ⟨r, hr, hday0, hday1⟩ : ∃ r : ℤ, (0 ≤ r ∧ r ≤ 3) ∧ 0 ≤ rem % 1461 - 365 * r ∧
      (rem % 1461 - 365 * r ≤ 364 ∨ rem % 1461 - 365 * r = 365 ∧ r = 3) := by
    rcases lt_or_ge (rem % 1461) 1095 with h | h
    · exact ⟨rem % 1461 / 365, by omega, by omega, by omega⟩
    · exact ⟨3, by omega, by omega, by omega⟩
  exact ⟨c, rem / 1461, r, rem % 1461 - 365 * r, hc, by omega, hr, by omega, by omega⟩

lemma EraDay.yearOfEra {doe c q r doy : ℤ} (h : EraDay doe c q r doy) :
    yearOfEra doe = 100 * c + 4 * q + r := by
  obtain ⟨⟨hc0, hc1⟩, ⟨hq0, hq1⟩, ⟨hr0, hr1⟩, ⟨hd0, hd1⟩, rfl⟩ := h
  set doe := 36524 * c + 1461 * q + 365 * r + doy with hdoe
  -- the last day of the era is the only one that either quotient counts beyond its century
  have hcent : doe / 36524 - doe / 146096 = c := by
    rcases lt_or_ge doe 146096 with h | h
    · have : doe / 36524 = c := by omega
      omega
    · omega
  -- the days of the groups of four years, of which one in 1460 belongs to no common year
  have hgroup : doe / 1460 = 25 * c + q + (24 * c + q + 365 * r + doy) / 1460 := by
    have : doe = 24 * c + q + 365 * r + doy + 1460 * (25 * c + q) := by omega
    rw [this, Int.add_mul_ediv_left _ _ (by norm_num)]
    ring
  have hcarry : 0 ≤ doy - (24 * c + q + 365 * r + doy) / 1460 ∧
      doy - (24 * c + q + 365 * r + doy) / 1460 ≤ 364 := by
    omega
  have hnum : doe - doe / 1460 + doe / 36524 - doe / 146096 =
      doy - (24 * c + q + 365 * r + doy) / 1460 + 365 * (100 * c + 4 * q + r) := by
    omega
  rw [Civil.yearOfEra, hnum, Int.add_mul_ediv_left _ _ (by norm_num)]
  omega

lemma EraDay.daysBefore {doe c q r doy : ℤ} (h : EraDay doe c q r doy) :
    daysBefore (100 * c + 4 * q + r) = doe - doy := by
  obtain ⟨⟨hc0, hc1⟩, ⟨hq0, hq1⟩, ⟨hr0, hr1⟩, -, rfl⟩ := h
  unfold Civil.daysBefore
  omega

/-! ### The day of a year -/

/-- The day of the year, counted from March, on which month `mp` begins. -/
def monthStart (mp : ℤ) : ℤ := (153 * mp + 2) / 5

/-- The months of a March year: their lengths, and where a day of the year falls. -/
lemma month_of_day {doy : ℤ} (h0 : 0 ≤ doy) (h1 : doy ≤ 365) :
    0 ≤ (5 * doy + 2) / 153 ∧ (5 * doy + 2) / 153 ≤ 11 ∧
      monthStart ((5 * doy + 2) / 153) ≤ doy ∧ doy < monthStart ((5 * doy + 2) / 153 + 1) := by
  unfold monthStart
  omega

lemma day_of_month {mp k : ℤ} (h0 : 0 ≤ mp) (h1 : mp ≤ 11) (hk0 : 0 ≤ k)
    (hk1 : monthStart mp + k < monthStart (mp + 1)) :
    (5 * (monthStart mp + k) + 2) / 153 = mp := by
  unfold monthStart at *
  interval_cases mp <;> omega

lemma isLeap_iff (y : ℤ) : isLeap y = true ↔ y % 4 = 0 ∧ (y % 100 ≠ 0 ∨ y % 400 = 0) := by
  simp [isLeap]

lemma ok_iff (d : YearMonthDay) : d.ok = true ↔
    1 ≤ d.month ∧ d.month ≤ 12 ∧ 1 ≤ d.day ∧ d.day ≤ lastDay d.year d.month := by
  simp [YearMonthDay.ok, and_assoc]

/-- The year of a date when years begin in March. -/
def marchYear (d : YearMonthDay) : ℤ := if d.month ≤ 2 then d.year - 1 else d.year

/-- The month of a date when years begin in March, from 0. -/
def marchMonth (d : YearMonthDay) : ℤ := if 2 < d.month then (d.month : ℤ) - 3 else d.month + 9

/-- The day of the year of a date when years begin in March, from 0. -/
def marchDay (d : YearMonthDay) : ℤ := monthStart (marchMonth d) + d.day - 1

lemma toDays_eq (d : YearMonthDay) : toDays d =
    365 * marchYear d + marchYear d / 4 - marchYear d / 100 + marchYear d / 400 +
      marchDay d - 719468 := by
  show (marchYear d) / 400 * 146097 + ((marchYear d - marchYear d / 400 * 400) * 365 +
    (marchYear d - marchYear d / 400 * 400) / 4 - (marchYear d - marchYear d / 400 * 400) / 100 +
    ((153 * marchMonth d + 2) / 5 + d.day - 1)) - 719468 = _
  unfold marchDay monthStart
  generalize marchYear d = y
  omega

/-- January and February are the last months of the year before. -/
lemma marchMonth_bounds {d : YearMonthDay} (h1 : 1 ≤ d.month) (h12 : d.month ≤ 12) :
    0 ≤ marchMonth d ∧ marchMonth d ≤ 11 ∧ (10 ≤ marchMonth d ↔ d.month ≤ 2) := by
  unfold marchMonth
  split_ifs <;> omega

lemma marchMonth_february {d : YearMonthDay} (h1 : 1 ≤ d.month) (h12 : d.month ≤ 12) :
    marchMonth d = 11 ↔ d.month = 2 := by
  unfold marchMonth
  split_ifs <;> omega

lemma year_of_february {d : YearMonthDay} (h : d.month = 2) : d.year = marchYear d + 1 := by
  rw [marchYear, if_pos h.le, sub_add_cancel]

lemma lastDay_eq {d : YearMonthDay} (h1 : 1 ≤ d.month) (h12 : d.month ≤ 12) (h2 : d.month ≠ 2) :
    (lastDay d.year d.month : ℤ) = monthStart (marchMonth d + 1) - monthStart (marchMonth d) := by
  rw [lastDay, if_neg h2]
  unfold marchMonth monthStart
  generalize d.month = m at *
  interval_cases m <;> first | decide | exact absurd rfl h2

lemma lastDay_february (y : ℤ) : lastDay y 2 = if isLeap y then 29 else 28 := rfl

lemma monthStart_mono {mp mp' : ℤ} (h : mp ≤ mp') : monthStart mp ≤ monthStart mp' := by
  unfold monthStart
  omega

/-- A date lies in its March month, and on day 365 only at the end of a leap year. -/
lemma marchDay_bounds {d : YearMonthDay} (h : d.ok = true) :
    0 ≤ marchMonth d ∧ marchMonth d ≤ 11 ∧ marchDay d < monthStart (marchMonth d + 1) ∧
      0 ≤ marchDay d ∧ (marchDay d ≤ 364 ∨ marchDay d = 365 ∧ isLeap (marchYear d + 1)) := by
  obtain ⟨hm0, hm1, hk0, hk1⟩ := (ok_iff d).mp h
  obtain ⟨h0, h11, -⟩ := marchMonth_bounds hm0 hm1
  have hstart : 0 ≤ monthStart (marchMonth d) := monthStart_mono h0
  have hday : marchDay d = monthStart (marchMonth d) + d.day - 1 := rfl
  by_cases h2 : d.month = 2
  · have hmp : marchMonth d = 11 := (marchMonth_february hm0 hm1).mpr h2
    have hlast : monthStart 11 = 337 := rfl
    have hend : monthStart (11 + 1) = 367 := rfl
    rw [h2, lastDay_february, year_of_february h2] at hk1
    rw [hmp, hlast] at hday
    rw [hmp, hend]
    refine ⟨by decide, le_rfl, ?_⟩
    split_ifs at hk1 with hl
    · have hor : marchDay d ≤ 364 ∨ marchDay d = 365 := by omega
      exact ⟨by omega, by omega, hor.imp_right fun he => ⟨he, hl⟩⟩
    · exact ⟨by omega, by omega, .inl (by omega)⟩
  · have hlen := lastDay_eq hm0 hm1 h2
    have hne := mt (marchMonth_february hm0 hm1).mp h2
    have hend : monthStart (marchMonth d + 1) ≤ monthStart 11 := monthStart_mono (by omega)
    have hlast : monthStart 11 = 337 := rfl
    exact ⟨h0, h11, by omega, by omega, by omega⟩

lemma eraDay_of_ok {d : YearMonthDay} (h : d.ok = true) :
    EraDay (toDays d + 719468 - marchYear d / 400 * 146097) (marchYear d % 400 / 100)
      (marchYear d % 100 / 4) (marchYear d % 4) (marchDay d) := by
  obtain ⟨-, -, -, h0, h1⟩ := marchDay_bounds h
  rw [isLeap_iff] at h1
  rw [toDays_eq]
  generalize marchYear d = y at *
  exact ⟨by omega, by omega, by omega, ⟨h0, by omega⟩, by omega⟩

/-! ### The bijection -/

/-- The date on a day of a month of a year that begins in March. -/
def ofMarch (y mp day : ℤ) : YearMonthDay :=
  let m := if mp < 10 then mp + 3 else mp - 9
  ⟨if m ≤ 2 then y + 1 else y, m.toNat, day.toNat⟩

section March

variable {y mp day : ℤ}

lemma ofMarch_month (h0 : 0 ≤ mp) (h11 : mp ≤ 11) :
    1 ≤ (ofMarch y mp day).month ∧ (ofMarch y mp day).month ≤ 12 := by
  simp only [ofMarch]
  split_ifs <;> omega

lemma marchYear_ofMarch (h0 : 0 ≤ mp) (h11 : mp ≤ 11) : marchYear (ofMarch y mp day) = y := by
  simp only [marchYear, ofMarch]
  split_ifs <;> omega

lemma marchMonth_ofMarch (h0 : 0 ≤ mp) (h11 : mp ≤ 11) :
    marchMonth (ofMarch y mp day) = mp := by
  simp only [marchMonth, ofMarch]
  split_ifs <;> omega

/-- A day of a March year lies in its March month; the last day of the year needs a leap year. -/
lemma ofMarch_ok (h0 : 0 ≤ mp) (h11 : mp ≤ 11) (hday : 1 ≤ day)
    (hend : monthStart mp + day ≤ monthStart (mp + 1))
    (hlast : monthStart mp + day ≤ 365 ∨ monthStart mp + day = 366 ∧ isLeap (y + 1)) :
    (ofMarch y mp day).ok = true := by
  have hd : (ofMarch y mp day).day = day.toNat := rfl
  have hy : marchYear (ofMarch y mp day) = y := marchYear_ofMarch h0 h11
  have hmp : marchMonth (ofMarch y mp day) = mp := marchMonth_ofMarch h0 h11
  obtain ⟨hm1, hm12⟩ : 1 ≤ (ofMarch y mp day).month ∧ (ofMarch y mp day).month ≤ 12 :=
    ofMarch_month h0 h11
  refine (ok_iff _).mpr ⟨hm1, hm12, by omega, ?_⟩
  rw [hd]
  by_cases h2 : (ofMarch y mp day).month = 2
  · obtain rfl : mp = 11 := hmp.symm.trans ((marchMonth_february hm1 hm12).mpr h2)
    have hstart : monthStart 11 = 337 := rfl
    rw [h2, lastDay_february, year_of_february h2, hy]
    split_ifs with hl
    · omega
    · have hle : monthStart 11 + day ≤ 365 := hlast.resolve_right fun h => hl h.2
      omega
  · have hlen := lastDay_eq hm1 hm12 h2
    rw [hmp] at hlen
    omega

end March

lemma ofMarch_march {d : YearMonthDay} (h1 : 1 ≤ d.month) (h12 : d.month ≤ 12) :
    ofMarch (marchYear d) (marchMonth d) d.day = d := by
  obtain ⟨y, m, k⟩ := d
  simp only [ofMarch, marchYear, marchMonth, Int.toNat_natCast] at h1 h12 ⊢
  congr 1
  · split_ifs <;> omega
  · split_ifs <;> omega

lemma ofDays_eq {z c q r doy : ℤ}
    (h : EraDay (z + 719468 - (z + 719468) / 146097 * 146097) c q r doy) :
    ofDays z = ofMarch (100 * c + 4 * q + r + (z + 719468) / 146097 * 400)
      ((5 * doy + 2) / 153) (doy - monthStart ((5 * doy + 2) / 153) + 1) := by
  have hdoy : (z + 719468 - (z + 719468) / 146097 * 146097) -
      daysBefore (100 * c + 4 * q + r) = doy := by
    rw [h.daysBefore]
    ring
  have hy := h.yearOfEra
  unfold ofDays
  simp only [yearOfEra] at hy
  simp only [hy]
  unfold daysBefore at hdoy
  simp only [hdoy, monthStart, ofMarch]

/-- **A date comes back from its number of days.** -/
theorem ofDays_toDays {d : YearMonthDay} (h : d.ok = true) : ofDays (toDays d) = d := by
  have hera := eraDay_of_ok h
  obtain ⟨hm1, hm12, hk, -⟩ := (ok_iff d).mp h
  obtain ⟨hm0, hm11, hlt, h0, h1⟩ := marchDay_bounds h
  have hq : (toDays d + 719468) / 146097 = marchYear d / 400 := by
    have hsum := hera.sum
    have hc := hera.century
    have hg := hera.group
    have hr := hera.year
    have hd := hera.day
    generalize marchYear d = y at *
    omega
  have hday : marchDay d = monthStart (marchMonth d) + (d.day - 1) := by
    rw [marchDay]
    ring
  have hmp : (5 * marchDay d + 2) / 153 = marchMonth d := by
    rw [hday] at hlt ⊢
    exact day_of_month hm0 hm11 (by omega) hlt
  have hy : 100 * (marchYear d % 400 / 100) + 4 * (marchYear d % 100 / 4) + marchYear d % 4 +
      marchYear d / 400 * 400 = marchYear d := by
    omega
  have hk' : marchDay d - monthStart (marchMonth d) + 1 = d.day := by omega
  rw [← hq] at hera
  rw [ofDays_eq hera, hmp, hk', hq, hy]
  exact ofMarch_march hm1 hm12

/-- **Every number of days is that of a date.** -/
theorem ofDays_ok_toDays (z : ℤ) : (ofDays z).ok = true ∧ toDays (ofDays z) = z := by
  have hdoe0 : 0 ≤ z + 719468 - (z + 719468) / 146097 * 146097 := by omega
  have hdoe1 : z + 719468 - (z + 719468) / 146097 * 146097 < 146097 := by omega
  obtain ⟨c, q, r, doy, h⟩ := exists_eraDay hdoe0 hdoe1
  have hd := h.day
  have hd1 : doy ≤ 365 := by omega
  obtain ⟨hm0, hm1, hs0, hs1⟩ := month_of_day hd.1 hd1
  have hc := h.century
  have hg := h.group
  have hr := h.year
  have hsum := h.sum
  rw [ofDays_eq h]
  generalize (5 * doy + 2) / 153 = mp at *
  generalize hera : (z + 719468) / 146097 = era at *
  constructor
  · refine ofMarch_ok hm0 hm1 (by omega) (by omega) ?_
    rcases hd.2 with hle | ⟨rfl, hlast⟩
    · exact .inl (by omega)
    · exact .inr ⟨by omega, (isLeap_iff _).mpr ⟨by omega, by omega⟩⟩
  · have h4 : (100 * c + 4 * q + r + era * 400) / 4 = 25 * c + q + 100 * era := by omega
    have h100 : (100 * c + 4 * q + r + era * 400) / 100 = c + 4 * era := by omega
    have h400 : (100 * c + 4 * q + r + era * 400) / 400 = era := by omega
    have hday : ((doy - monthStart mp + 1).toNat : ℤ) = doy - monthStart mp + 1 :=
      Int.toNat_of_nonneg (by omega)
    rw [toDays_eq, marchYear_ofMarch hm0 hm1, marchDay, marchMonth_ofMarch hm0 hm1, h4, h100, h400,
      ofMarch, hday]
    omega

/-! ### The range of a year -/

/-- January and February are the days from 306 on. -/
lemma year_eq {d : YearMonthDay} (h : d.ok = true) :
    d.year = if 306 ≤ marchDay d then marchYear d + 1 else marchYear d := by
  obtain ⟨hm1, hm12, hk, -⟩ := (ok_iff d).mp h
  obtain ⟨-, -, hlt, -, -⟩ := marchDay_bounds h
  obtain ⟨-, -, h10⟩ := marchMonth_bounds hm1 hm12
  have hday : marchDay d = monthStart (marchMonth d) + d.day - 1 := rfl
  have hstart : monthStart 10 = 306 := rfl
  by_cases h2 : d.month ≤ 2
  · have hle : monthStart 10 ≤ monthStart (marchMonth d) := monthStart_mono (h10.mpr h2)
    rw [if_pos (by omega), marchYear, if_pos h2, sub_add_cancel]
  · have hlt10 := mt h10.mp h2
    have hle : monthStart (marchMonth d + 1) ≤ monthStart 10 := monthStart_mono (by omega)
    rw [if_neg (by omega), marchYear, if_neg h2]

/-- **The days of the years from `y` on** are those from the first of January of `y` on. -/
theorem le_year_iff (y z : ℤ) : y ≤ (ofDays z).year ↔ toDays ⟨y, 1, 1⟩ ≤ z := by
  obtain ⟨hok, hz⟩ := ofDays_ok_toDays z
  generalize ofDays z = d at *
  obtain ⟨-, -, -, h0, h1⟩ := marchDay_bounds hok
  have hfirst : marchYear ⟨y, 1, 1⟩ = y - 1 := rfl
  have hday : marchDay ⟨y, 1, 1⟩ = 306 := by simp [marchDay, marchMonth, monthStart]
  rw [isLeap_iff] at h1
  rw [← hz, toDays_eq, toDays_eq, hfirst, hday, year_eq hok]
  generalize marchYear d = y' at *
  split_ifs <;> omega

end MysqlAsio.Lib.Civil
