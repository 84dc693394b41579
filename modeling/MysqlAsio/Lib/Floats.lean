import Mathlib.Algebra.Order.Field.Rat
import Mathlib.Data.Nat.Log
import Mathlib.Order.Monotone.Basic
import Mathlib.Tactic.Ring

/-!
Binary floating-point numbers as bit patterns, and what it is to widen them.

Every finite number of a format is a multiple of the least positive one: its units.
-/

namespace MysqlAsio.Lib.Floats

/-- How many bits the exponents and the fractions of a format have. -/
structure Format where
  exponentBits : ℕ
  fractionBits : ℕ
  two_le : 2 ≤ exponentBits

/-- What a pattern stands for. -/
inductive Number
  | finite (negative : Bool) (magnitude : ℚ)
  | infinite (negative : Bool)
  | nan
  deriving DecidableEq

namespace Format

variable (F : Format)

/-- How many fractions there are. -/
def fractions : ℕ := 2 ^ F.fractionBits

def bias : ℕ := 2 ^ (F.exponentBits - 1) - 1

/-- The exponent of which every bit is set. -/
def allOnes : ℕ := 2 * F.bias + 1

/-- How many patterns there are without a sign. -/
def magnitudes : ℕ := (F.allOnes + 1) * F.fractions

/-- How many bits there are behind the point of the least positive number. -/
def scale : ℕ := F.bias + F.fractionBits - 1

lemma fractions_pos : 0 < F.fractions := Nat.two_pow_pos _

lemma bias_pos : 0 < F.bias := by
  have h : 2 ^ 1 ≤ 2 ^ (F.exponentBits - 1) :=
    Nat.pow_le_pow_right (by decide) (by have := F.two_le; omega)
  unfold bias
  omega

/-! ### Units -/

/-- The units of a pattern without a sign: its exponent comes first, and where that is not zero, a
bit before the fraction is not written. -/
def units (n : ℕ) : ℕ :=
  if n / F.fractions = 0 then n % F.fractions
  else (F.fractions + n % F.fractions) * 2 ^ (n / F.fractions - 1)

section Units

variable {F} {e f : ℕ}

lemma pattern_div (hf : f < F.fractions) : (e * F.fractions + f) / F.fractions = e := by
  rw [Nat.mul_comm, Nat.mul_add_div F.fractions_pos, Nat.div_eq_of_lt hf, Nat.add_zero]

lemma pattern_mod (hf : f < F.fractions) : (e * F.fractions + f) % F.fractions = f := by
  rw [Nat.mul_comm, Nat.mul_add_mod, Nat.mod_eq_of_lt hf]

lemma units_zero (hf : f < F.fractions) : F.units f = f := by
  rw [units, if_pos (Nat.div_eq_of_lt hf), Nat.mod_eq_of_lt hf]

lemma units_succ (hf : f < F.fractions) :
    F.units ((e + 1) * F.fractions + f) = (F.fractions + f) * 2 ^ e := by
  rw [units, pattern_div hf, pattern_mod hf, if_neg (Nat.succ_ne_zero e), Nat.add_sub_cancel]

variable (F)

lemma units_strictMono : StrictMono F.units := by
  refine strictMono_nat_of_lt_succ fun n => ?_
  have hpos := F.fractions_pos
  have hf : n % F.fractions < F.fractions := Nat.mod_lt n hpos
  obtain ⟨e, f, he, hf', rfl⟩ : ∃ e f, e = n / F.fractions ∧ f < F.fractions ∧
      n = e * F.fractions + f := ⟨_, _, rfl, hf, (Nat.div_add_mod' n F.fractions).symm⟩
  by_cases hcarry : f + 1 < F.fractions
  · rw [Nat.add_assoc]
    cases e with
    | zero =>
      rw [Nat.zero_mul, Nat.zero_add, Nat.zero_add, units_zero hf', units_zero hcarry]
      omega
    | succ e =>
      rw [units_succ hf', units_succ hcarry]
      exact Nat.mul_lt_mul_of_pos_right (by omega) (Nat.two_pow_pos e)
  · -- the fraction is full, and the exponent grows
    have hfull : f + 1 = F.fractions := by omega
    have hnext : e * F.fractions + f + 1 = (e + 1) * F.fractions + 0 := by
      rw [Nat.add_assoc, hfull, Nat.succ_mul, Nat.add_zero]
    rw [hnext, units_succ hpos]
    cases e with
    | zero =>
      rw [Nat.zero_mul, Nat.zero_add, units_zero hf', pow_zero]
      omega
    | succ e =>
      rw [units_succ hf', pow_succ', ← Nat.mul_assoc]
      exact Nat.mul_lt_mul_of_pos_right (by omega) (Nat.two_pow_pos e)

end Units

/-! ### Numbers -/

/-- What a pattern without a sign stands for, with one. -/
def number (negative : Bool) (n : ℕ) : Number :=
  if n / F.fractions < F.allOnes then .finite negative (F.units n / 2 ^ F.scale)
  else if n % F.fractions = 0 then .infinite negative
  else .nan

/-- What a pattern stands for. -/
def decode (bits : ℕ) : Number :=
  F.number (decide (F.magnitudes ≤ bits)) (bits % F.magnitudes)

lemma infinite_unique {n : ℕ} (h : n < F.magnitudes) (hn : ¬ n / F.fractions < F.allOnes)
    (hz : n % F.fractions = 0) : n = F.allOnes * F.fractions := by
  have hlt : n / F.fractions < F.allOnes + 1 := Nat.div_lt_of_lt_mul (by rwa [Nat.mul_comm])
  have he : n / F.fractions = F.allOnes := by omega
  rw [← Nat.div_add_mod' n F.fractions, hz, he, Nat.add_zero]

lemma number_injective {s s' : Bool} {n n' : ℕ} (h : n < F.magnitudes) (h' : n' < F.magnitudes)
    (heq : F.number s n = F.number s' n') (hn : F.number s n ≠ .nan) : s = s' ∧ n = n' := by
  unfold number at heq hn
  split_ifs at heq hn with h1 h2 h3 h4 h5 h6 <;> first | contradiction | skip
  · obtain ⟨rfl, hq⟩ := Number.finite.inj heq
    have hu : (F.units n : ℚ) = F.units n' := by
      have hpow : (2 : ℚ) ^ F.scale ≠ 0 := pow_ne_zero _ two_ne_zero
      exact (div_left_inj' hpow).mp hq
    exact ⟨rfl, F.units_strictMono.injective (by exact_mod_cast hu)⟩
  · exact ⟨Number.infinite.inj heq, by
      rw [F.infinite_unique h ‹_› ‹_›, F.infinite_unique h' ‹_› ‹_›]⟩

/-! ### Wider formats -/

/-- Every number of a format has a pattern in another, where it is written with a bit before the
fraction. -/
structure Widens (F G : Format) : Prop where
  fractionBits : F.fractionBits < G.fractionBits
  bias : F.bias + F.fractionBits ≤ G.bias

/-- A pattern without a sign in a wider format. What is no number becomes a quiet one. -/
def widen (G : Format) (n : ℕ) : ℕ :=
  let e := n / F.fractions
  let f := n % F.fractions
  if F.allOnes ≤ e then
    G.allOnes * G.fractions + (if f = 0 then 0
      else G.fractions / 2 + f * 2 ^ (G.fractionBits - F.fractionBits) % (G.fractions / 2))
  else if e ≠ 0 then
    (e + (G.bias - F.bias)) * G.fractions + f * 2 ^ (G.fractionBits - F.fractionBits)
  else if f = 0 then 0
  else
    (Nat.log 2 f + 1 + G.bias - (F.bias + F.fractionBits)) * G.fractions +
      (f - 2 ^ Nat.log 2 f) * 2 ^ (G.fractionBits - Nat.log 2 f)

variable {F} {G : Format}

section Widens

variable (h : Widens F G) {e f : ℕ}

include h

lemma Widens.scale : G.scale = F.scale + (G.fractionBits - F.fractionBits) + (G.bias - F.bias) := by
  have hf := h.fractionBits
  have hb := h.bias
  have hpos := F.bias_pos
  unfold Format.scale
  omega

lemma Widens.fraction_lt (hf : f < F.fractions) :
    f * 2 ^ (G.fractionBits - F.fractionBits) < G.fractions := by
  have hpow : F.fractions * 2 ^ (G.fractionBits - F.fractionBits) = G.fractions := by
    rw [fractions, fractions, ← pow_add, Nat.add_sub_cancel' h.fractionBits.le]
  rw [← hpow]
  exact Nat.mul_lt_mul_of_pos_right hf (Nat.two_pow_pos _)

/-- A number with a bit before its fraction keeps it. -/
lemma Widens.normal (hf : f < F.fractions) (he : e + 1 < F.allOnes) :
    (F.widen G ((e + 1) * F.fractions + f)) / G.fractions < G.allOnes ∧
      G.units (F.widen G ((e + 1) * F.fractions + f)) =
        (F.fractions + f) * 2 ^ e * 2 ^ (G.scale - F.scale) := by
  have hlt := h.fraction_lt hf
  have hw : F.widen G ((e + 1) * F.fractions + f) = (e + (G.bias - F.bias) + 1) * G.fractions +
      f * 2 ^ (G.fractionBits - F.fractionBits) := by
    simp only [widen, pattern_div hf, pattern_mod hf]
    rw [if_neg (by omega), if_pos (Nat.succ_ne_zero e), Nat.add_right_comm]
  rw [hw, pattern_div hlt, units_succ hlt]
  constructor
  · have hb := h.bias
    unfold allOnes at he ⊢
    omega
  · have hpow : G.fractions = F.fractions * 2 ^ (G.fractionBits - F.fractionBits) := by
      rw [fractions, fractions, ← pow_add, Nat.add_sub_cancel' h.fractionBits.le]
    have hs : G.scale - F.scale = (G.fractionBits - F.fractionBits) + (G.bias - F.bias) := by
      rw [h.scale]
      omega
    rw [hpow, hs, pow_add, pow_add]
    ring

/-- A number without one gets one, unless it is zero. -/
lemma Widens.subnormal (hf : f < F.fractions) :
    (F.widen G f) / G.fractions < G.allOnes ∧
      G.units (F.widen G f) = f * 2 ^ (G.scale - F.scale) := by
  have hall : ¬ F.allOnes ≤ 0 := by unfold allOnes; omega
  have hb := h.bias
  have hfb := h.fractionBits
  by_cases hz : f = 0
  · have hw : F.widen G f = 0 := by
      simp only [widen, Nat.div_eq_of_lt hf, Nat.mod_eq_of_lt hf]
      rw [if_neg hall, if_neg (not_not_intro rfl), if_pos hz]
    rw [hw, hz, Nat.zero_div, units_zero G.fractions_pos, Nat.zero_mul]
    exact ⟨by unfold allOnes; omega, rfl⟩
  · -- the greatest bit is no longer written
    obtain ⟨k, hk⟩ : ∃ k, k = Nat.log 2 f := ⟨_, rfl⟩
    have hle : 2 ^ k ≤ f := hk ▸ Nat.pow_log_le_self 2 hz
    have hlt : f < 2 ^ (k + 1) := hk ▸ Nat.lt_pow_succ_log_self (by decide) f
    have hkF : k < F.fractionBits := (Nat.pow_lt_pow_iff_right (by decide)).mp (hle.trans_lt hf)
    have hpow : 2 ^ k * 2 ^ (G.fractionBits - k) = G.fractions := by
      rw [fractions, ← pow_add, Nat.add_sub_cancel' (by omega)]
    have hrest : (f - 2 ^ k) * 2 ^ (G.fractionBits - k) < G.fractions := by
      rw [← hpow]
      exact Nat.mul_lt_mul_of_pos_right (by rw [pow_succ] at hlt; omega) (Nat.two_pow_pos _)
    have hw : F.widen G f = (k + (G.bias - (F.bias + F.fractionBits)) + 1) * G.fractions +
        (f - 2 ^ k) * 2 ^ (G.fractionBits - k) := by
      simp only [widen, Nat.div_eq_of_lt hf, Nat.mod_eq_of_lt hf]
      rw [if_neg hall, if_neg (not_not_intro rfl), if_neg hz, ← hk]
      congr 2
      omega
    rw [hw, pattern_div hrest, units_succ hrest]
    constructor
    · have hpos := F.bias_pos
      unfold allOnes
      omega
    · have hs : G.scale - F.scale =
          (G.fractionBits - k) + (k + (G.bias - (F.bias + F.fractionBits))) := by
        rw [h.scale]
        omega
      calc (G.fractions + (f - 2 ^ k) * 2 ^ (G.fractionBits - k)) *
            2 ^ (k + (G.bias - (F.bias + F.fractionBits)))
          = (2 ^ k + (f - 2 ^ k)) * 2 ^ (G.fractionBits - k) *
            2 ^ (k + (G.bias - (F.bias + F.fractionBits))) := by rw [← hpow, ← Nat.add_mul]
        _ = f * (2 ^ (G.fractionBits - k) * 2 ^ (k + (G.bias - (F.bias + F.fractionBits)))) := by
          rw [Nat.add_sub_cancel' hle, Nat.mul_assoc]
        _ = f * 2 ^ (G.scale - F.scale) := by rw [← pow_add, hs]

lemma Widens.finite {n : ℕ} (hn : n / F.fractions < F.allOnes) :
    F.widen G n / G.fractions < G.allOnes ∧
      G.units (F.widen G n) = F.units n * 2 ^ (G.scale - F.scale) := by
  obtain ⟨e, f, hf, rfl⟩ : ∃ e f, f < F.fractions ∧ n = e * F.fractions + f :=
    ⟨_, _, Nat.mod_lt n F.fractions_pos, (Nat.div_add_mod' n F.fractions).symm⟩
  rw [pattern_div hf] at hn
  cases e with
  | zero =>
    rw [Nat.zero_mul, Nat.zero_add, units_zero hf]
    exact h.subnormal hf
  | succ e =>
    rw [units_succ hf]
    exact h.normal hf hn

lemma Widens.extreme {n : ℕ} (hn : ¬ n / F.fractions < F.allOnes) :
    ∃ f, F.widen G n = G.allOnes * G.fractions + f ∧ f < G.fractions ∧
      (f = 0 ↔ n % F.fractions = 0) := by
  have hpos := G.fractions_pos
  have heven : 0 < G.fractions / 2 ∧ G.fractions = 2 * (G.fractions / 2) := by
    have hpow : G.fractions = 2 * 2 ^ (G.fractionBits - 1) := by
      rw [fractions, ← pow_succ', Nat.sub_add_cancel (by have := h.fractionBits; omega)]
    omega
  have hmod := Nat.mod_lt (n % F.fractions * 2 ^ (G.fractionBits - F.fractionBits)) heven.1
  simp only [widen]
  rw [if_pos (by omega)]
  refine ⟨_, rfl, ?_, ?_⟩
  · split_ifs <;> omega
  · split_ifs with h0
    · exact iff_of_true rfl h0
    · exact iff_of_false (by omega) h0

lemma Widens.widen_lt (n : ℕ) : F.widen G n < G.magnitudes := by
  have hlt : F.widen G n / G.fractions < G.allOnes + 1 := by
    by_cases hn : n / F.fractions < F.allOnes
    · have := (h.finite hn).1
      omega
    · obtain ⟨f, hw, hf, -⟩ := h.extreme hn
      rw [hw, pattern_div hf]
      omega
  exact (Nat.div_lt_iff_lt_mul G.fractions_pos).mp hlt

/-- **A number is the same in a wider format.** -/
theorem Widens.number (s : Bool) (n : ℕ) : G.number s (F.widen G n) = F.number s n := by
  by_cases hn : n / F.fractions < F.allOnes
  · obtain ⟨hfinite, hunits⟩ := h.finite hn
    have hle : F.scale ≤ G.scale := by
      rw [h.scale]
      omega
    have hscale : (2 : ℚ) ^ G.scale = 2 ^ (G.scale - F.scale) * 2 ^ F.scale := by
      rw [← pow_add, Nat.sub_add_cancel hle]
    have hq : (G.units (F.widen G n) : ℚ) / 2 ^ G.scale = F.units n / 2 ^ F.scale := by
      rw [hunits, hscale, Nat.cast_mul, Nat.cast_pow, Nat.cast_ofNat, mul_comm (F.units n : ℚ),
        mul_div_mul_left _ _ (pow_ne_zero _ two_ne_zero)]
    rw [Format.number, if_pos hfinite, Format.number, if_pos hn, hq]
  · obtain ⟨f, hw, hf, hz⟩ := h.extreme hn
    rw [Format.number, Format.number, hw, pattern_div hf, pattern_mod hf,
      if_neg (lt_irrefl _), if_neg hn]
    simp only [hz]

end Widens

/-! ### Patterns with a sign -/

/-- A pattern in a wider format. The sign is kept. -/
def widenBits (F G : Format) (bits : ℕ) : ℕ :=
  (if F.magnitudes ≤ bits then G.magnitudes else 0) + F.widen G (bits % F.magnitudes)

section Bits

variable {bits bits' : ℕ}

lemma magnitudes_pos (F : Format) : 0 < F.magnitudes :=
  Nat.mul_pos (Nat.succ_pos _) F.fractions_pos

lemma bits_eq (hb : bits < 2 * F.magnitudes) :
    bits = (if F.magnitudes ≤ bits then F.magnitudes else 0) + bits % F.magnitudes := by
  split_ifs with h
  · rw [Nat.mod_eq_sub_mod h, Nat.mod_eq_of_lt (by omega)]
    omega
  · rw [Nat.mod_eq_of_lt (by omega)]
    omega

lemma Widens.widenBits_lt (h : Widens F G) (bits : ℕ) :
    F.widenBits G bits < 2 * G.magnitudes := by
  have hlt := h.widen_lt (bits % F.magnitudes)
  unfold widenBits
  split_ifs <;> omega

/-- **Widening loses nothing**, whatever the pattern stands for. -/
theorem Widens.decode (h : Widens F G) (bits : ℕ) :
    G.decode (F.widenBits G bits) = F.decode bits := by
  have hlt := h.widen_lt (bits % F.magnitudes)
  have hmod : F.widenBits G bits % G.magnitudes = F.widen G (bits % F.magnitudes) := by
    unfold widenBits
    split_ifs
    · rw [Nat.add_mod_left, Nat.mod_eq_of_lt hlt]
    · rw [Nat.zero_add, Nat.mod_eq_of_lt hlt]
  have hsign : G.magnitudes ≤ F.widenBits G bits ↔ F.magnitudes ≤ bits := by
    unfold widenBits
    split_ifs with hs
    · exact iff_of_true (Nat.le_add_right _ _) hs
    · exact iff_of_false (by omega) hs
  rw [Format.decode, hmod, h.number, Format.decode]
  simp only [hsign]

theorem decode_injective (hb : bits < 2 * F.magnitudes) (hb' : bits' < 2 * F.magnitudes)
    (heq : F.decode bits = F.decode bits') (hn : F.decode bits ≠ .nan) : bits = bits' := by
  obtain ⟨hsign, hmod⟩ := F.number_injective (Nat.mod_lt _ F.magnitudes_pos)
    (Nat.mod_lt _ F.magnitudes_pos) heq hn
  rw [decide_eq_decide] at hsign
  rw [bits_eq hb, bits_eq hb', hmod]
  simp only [hsign]

end Bits

end Format

end MysqlAsio.Lib.Floats
