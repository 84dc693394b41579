import MysqlAsio.TextDeserialization
import MysqlAsio.Lib.Spans

/-!
What `sscanf` reads: numbers with spaces and a sign before their digits, and separators.

A string is read in one way at most, since the spaces, the sign and the digits of a number are
each as long as they can be.
-/

namespace MysqlAsio.Scanning

open MysqlAsio.Errors MysqlAsio.TextDeserialization MysqlAsio.Lib.Spans

/-! ### Numbers -/

/-- A number as it is written. -/
structure Number where
  blanks : Bytes
  sign : Bytes
  digits : Bytes
  deriving DecidableEq, Repr

def isSign (b : UInt8) : Bool := b = 0x2b || b = 0x2d

def Number.bytes (n : Number) : Bytes := n.blanks ++ (n.sign ++ n.digits)

/-- A minus gives the negative number of an `unsigned`. -/
def Number.value (n : Number) : UInt32 :=
  if n.sign = [0x2d] then -.ofNat (digitsValue n.digits) else .ofNat (digitsValue n.digits)

/-- The spaces do not count for the width. -/
structure Number.Fits (n : Number) (width : ℕ) : Prop where
  blanks : ∀ b ∈ n.blanks, isSpace b = true
  sign : ∀ b ∈ n.sign, isSign b = true
  signLength : n.sign.length ≤ 1
  digits : ∀ b ∈ n.digits, isDigit b = true
  digitsNonempty : n.digits ≠ []
  width : n.sign.length + n.digits.length ≤ width

lemma isDigit_iff {b : UInt8} : isDigit b = true ↔ 0x30 ≤ b.toNat ∧ b.toNat ≤ 0x39 := by
  simp [isDigit, UInt8.le_iff_toNat_le]

lemma isSpace_of_isDigit {b : UInt8} (h : isDigit b = true) : isSpace b = false := by
  rw [isDigit_iff] at h
  have hne : b ≠ 0x20 := by
    rintro rfl
    exact absurd h.1 (by decide)
  have hlt : ¬ b ≤ 13 := by
    rw [UInt8.le_iff_toNat_le]
    exact fun hle : b.toNat ≤ 13 => by omega
  simp [isSpace, hne, hlt]

lemma isSpace_of_isSign {b : UInt8} (h : isSign b = true) : isSpace b = false := by
  simp only [isSign, Bool.or_eq_true, decide_eq_true_eq] at h
  obtain rfl | rfl := h <;> rfl

lemma isSign_of_isDigit {b : UInt8} (h : isDigit b = true) : isSign b = false := by
  cases hs : isSign b with
  | false => rfl
  | true =>
    simp only [isSign, Bool.or_eq_true, decide_eq_true_eq] at hs
    obtain rfl | rfl := hs <;> exact absurd h (by decide)

lemma Number.Fits.stops_blanks {n : Number} {width : ℕ} (h : n.Fits width) (t : Bytes) :
    Stops isSpace (n.sign ++ (n.digits ++ t)) := by
  intro b hb
  cases hs : n.sign with
  | cons a l =>
    rw [hs] at hb
    cases hb
    exact isSpace_of_isSign (h.sign b (by rw [hs]; exact List.mem_cons_self))
  | nil =>
    cases hd : n.digits with
    | nil => exact absurd hd h.digitsNonempty
    | cons a l =>
      rw [hs, hd] at hb
      cases hb
      exact isSpace_of_isDigit (h.digits b (by rw [hd]; exact List.mem_cons_self))

lemma Number.Fits.stops_sign {n : Number} {width : ℕ} (h : n.Fits width) (t : Bytes) :
    Stops isSign (n.digits ++ t) := by
  intro b hb
  cases hd : n.digits with
  | nil => exact absurd hd h.digitsNonempty
  | cons a l =>
    rw [hd] at hb
    cases hb
    exact isSign_of_isDigit (h.digits b (by rw [hd]; exact List.mem_cons_self))

/-- A number and what follows it are determined by the whole. -/
lemma Number.Fits.unique {n n' : Number} {width width' : ℕ} {t t' : Bytes} (h : n.Fits width)
    (h' : n'.Fits width') (ht : Stops isDigit t) (ht' : Stops isDigit t')
    (he : n.bytes ++ t = n'.bytes ++ t') : n = n' ∧ t = t' := by
  simp only [Number.bytes, List.append_assoc] at he
  obtain ⟨hb, he⟩ := run_unique h.blanks (h.stops_blanks t) h'.blanks (h'.stops_blanks t') he
  obtain ⟨hs, he⟩ := run_unique h.sign (h.stops_sign t) h'.sign (h'.stops_sign t') he
  obtain ⟨hd, hrest⟩ := run_unique h.digits ht h'.digits ht' he
  obtain ⟨b, s, d⟩ := n
  obtain ⟨b', s', d'⟩ := n'
  simp only at hb hs hd
  exact ⟨by rw [hb, hs, hd], hrest⟩

lemma scanUnsigned_bytes {n : Number} {width : ℕ} {t : Bytes} (h : n.Fits width)
    (ht : Stops isDigit t) : scanUnsigned width (n.bytes ++ t) = some (n.value, t) := by
  have hblanks : (n.bytes ++ t).dropWhile isSpace = n.sign ++ (n.digits ++ t) := by
    rw [Number.bytes, List.append_assoc, List.append_assoc]
    exact dropWhile_run h.blanks (h.stops_blanks t)
  have hfield : (n.sign ++ (n.digits ++ t)).take width =
      n.sign ++ (n.digits ++ t.take (width - (n.sign.length + n.digits.length))) := by
    have hw := h.width
    rw [← List.append_assoc, List.take_append, List.take_of_length_le (by simpa using hw),
      List.length_append, List.append_assoc]
  have hstop : Stops isDigit (t.take (width - (n.sign.length + n.digits.length))) := by
    intro b hb
    cases t with
    | nil => simp at hb
    | cons a t =>
      cases hk : width - (n.sign.length + n.digits.length) with
      | zero => rw [hk] at hb; cases hb
      | succ k =>
        rw [hk] at hb
        exact ht b hb
  have hsign : (n.sign ++ (n.digits ++ t.take (width - (n.sign.length + n.digits.length)))).takeWhile
      (fun b => b = 0x2b || b = 0x2d) = n.sign := takeWhile_run h.sign (h.stops_sign _)
  have hlen := h.signLength
  unfold scanUnsigned
  simp only [hblanks, hfield, hsign, List.drop_left, takeWhile_run h.digits hstop]
  rw [if_neg (by simp only [h.digitsNonempty, false_or]; omega)]
  have hrest : (n.sign ++ (n.digits ++ t)).drop (n.sign.length + n.digits.length) = t := by
    rw [← List.append_assoc, ← List.length_append, List.drop_left]
  rw [hrest]
  rfl

lemma of_scanUnsigned {width : ℕ} {s t : Bytes} {v : UInt32}
    (h : scanUnsigned width s = some (v, t)) :
    ∃ n : Number, n.Fits width ∧ s = n.bytes ++ t ∧ v = n.value := by
  unfold scanUnsigned at h
  set s' := s.dropWhile isSpace with hs'
  set sign := (s'.take width).takeWhile isSign with hsign
  set digits := ((s'.take width).drop sign.length).takeWhile isDigit with hdigits
  have hsign' : (s'.take width).takeWhile (fun b => b = 0x2b || b = 0x2d) = sign := rfl
  simp only [hsign', ← hdigits] at h
  by_cases hc : digits = [] ∨ 1 < sign.length
  · rw [if_pos hc] at h
    cases h
  rw [if_neg hc, Option.some.injEq, Prod.mk.injEq] at h
  obtain ⟨rfl, rfl⟩ := h
  rw [not_or, not_lt] at hc
  have hfield : s'.take width = sign ++ (digits ++
      ((s'.take width).drop sign.length).dropWhile isDigit) := by
    rw [hdigits, List.takeWhile_append_dropWhile]
    exact List.prefix_iff_eq_append.mp (List.takeWhile_prefix _) |>.symm
  have hprefix : sign ++ digits <+: s' := by
    refine List.IsPrefix.trans ?_ (List.take_prefix width s')
    rw [hfield, ← List.append_assoc]
    exact List.prefix_append _ _
  refine ⟨⟨s.takeWhile isSpace, sign, digits⟩, ⟨?_, ?_, hc.2, ?_, hc.1, ?_⟩, ?_, rfl⟩
  · exact fun b hb => List.mem_takeWhile_imp hb
  · exact fun b hb => List.mem_takeWhile_imp hb
  · exact fun b hb => List.mem_takeWhile_imp hb
  · have hlen := congrArg List.length hfield
    simp only [List.length_append, List.length_take] at hlen
    show sign.length + digits.length ≤ width
    omega
  · have hrest : s' = sign ++ digits ++ s'.drop (sign.length + digits.length) := by
      rw [← List.length_append]
      exact (List.prefix_iff_eq_append.mp hprefix).symm
    rw [Number.bytes, List.append_assoc, ← hrest, hs', List.takeWhile_append_dropWhile]

/-! ### Formats -/

/-- The separators of a format with the numbers after them. -/
def joined : List (UInt8 × ℕ) → List Number → Bytes
  | (c, _) :: fields, n :: ns => c :: (n.bytes ++ joined fields ns)
  | _, _ => []

/-- The numbers fit their fields, one for one. -/
def FitAll (fields : List (UInt8 × ℕ)) (ns : List Number) : Prop :=
  List.Forall₂ (fun field n => Number.Fits n field.2) fields ns

lemma stops_joined {fields : List (UInt8 × ℕ)} (hsep : ∀ f ∈ fields, isDigit f.1 = false)
    (ns : List Number) : Stops isDigit (joined fields ns) := by
  cases fields with
  | nil => exact stops_nil _
  | cons f fields =>
    cases ns with
    | nil => exact stops_nil _
    | cons n ns => exact stops_cons (hsep f List.mem_cons_self) _

lemma scanNumbers_joined {fields : List (UInt8 × ℕ)} {ns : List Number}
    (hsep : ∀ f ∈ fields, isDigit f.1 = false) (h : FitAll fields ns) :
    scanNumbers fields (joined fields ns) = some (ns.map Number.value) := by
  induction h with
  | nil => rfl
  | @cons f n fields ns hn _ ih =>
    have hsep' : ∀ g ∈ fields, isDigit g.1 = false := fun g hg => hsep g (List.mem_cons_of_mem _ hg)
    obtain ⟨c, width⟩ := f
    rw [joined, scanNumbers, scanLiteral, if_pos rfl]
    simp only [Option.bind_eq_bind, Option.bind_some, scanUnsigned_bytes hn (stops_joined hsep' ns),
      ih hsep']
    rfl

lemma of_scanNumbers {fields : List (UInt8 × ℕ)} {s : Bytes} {vs : List UInt32}
    (h : scanNumbers fields s = some vs) :
    ∃ ns, FitAll fields ns ∧ s = joined fields ns ∧ vs = ns.map Number.value := by
  induction fields generalizing s vs with
  | nil =>
    unfold scanNumbers at h
    split_ifs at h with hs
    cases h
    exact ⟨[], .nil, hs, rfl⟩
  | cons f fields ih =>
    obtain ⟨c, width⟩ := f
    simp only [scanNumbers, Option.bind_eq_bind, Option.bind_eq_some_iff] at h
    obtain ⟨s1, h1, ⟨v, s2⟩, h2, vs', h3, h4⟩ := h
    cases h4
    obtain ⟨ns, hns, rfl, rfl⟩ := ih h3
    obtain ⟨n, hn, rfl, rfl⟩ := of_scanUnsigned h2
    refine ⟨n :: ns, .cons hn hns, ?_, rfl⟩
    cases s with
    | nil => cases h1
    | cons b s =>
      simp only [scanLiteral] at h1
      split_ifs at h1 with hb
      cases h1
      rw [hb, joined]

/-- The string up to its NUL is a number, and numbers behind their separators. -/
structure ReadsAs (width : ℕ) (fields : List (UInt8 × ℕ)) (s : Bytes) (n : Number)
    (ns : List Number) : Prop where
  first : n.Fits width
  others : FitAll fields ns
  bytes : cString s = n.bytes ++ joined fields ns

theorem sscanf_iff {width : ℕ} {fields : List (UInt8 × ℕ)}
    (hsep : ∀ f ∈ fields, isDigit f.1 = false) (s : Bytes) (vs : List UInt32) :
    sscanf width fields s = some vs ↔
      ∃ n ns, ReadsAs width fields s n ns ∧ vs = n.value :: ns.map Number.value := by
  constructor
  · intro h
    simp only [sscanf, Option.bind_eq_bind, Option.bind_eq_some_iff] at h
    obtain ⟨⟨v, t⟩, h1, vs', h2, h3⟩ := h
    cases h3
    obtain ⟨n, hn, hs, rfl⟩ := of_scanUnsigned h1
    obtain ⟨ns, hns, rfl, rfl⟩ := of_scanNumbers h2
    exact ⟨n, ns, ⟨hn, hns, hs⟩, rfl⟩
  · rintro ⟨n, ns, ⟨hn, hns, hs⟩, rfl⟩
    simp only [sscanf, hs, scanUnsigned_bytes hn (stops_joined hsep ns),
      scanNumbers_joined hsep hns, Option.bind_eq_bind, Option.bind_some]
    rfl

lemma joined_unique {fields : List (UInt8 × ℕ)} {ns ns' : List Number}
    (hsep : ∀ f ∈ fields, isDigit f.1 = false) (h : FitAll fields ns) (h' : FitAll fields ns')
    (he : joined fields ns = joined fields ns') : ns = ns' := by
  induction h generalizing ns' with
  | nil => cases h'; rfl
  | @cons f n fields ns hn _ ih =>
    have hsep' : ∀ g ∈ fields, isDigit g.1 = false := fun g hg => hsep g (List.mem_cons_of_mem _ hg)
    cases h' with
    | @cons _ n' _ ns' hn' hns' =>
      obtain ⟨c, width⟩ := f
      simp only [joined, List.cons.injEq, true_and] at he
      obtain ⟨rfl, hrest⟩ := hn.unique hn' (stops_joined hsep' ns) (stops_joined hsep' ns') he
      rw [ih hsep' hns' hrest]

/-- A string is read in one way at most. -/
lemma ReadsAs.unique {width : ℕ} {fields : List (UInt8 × ℕ)}
    (hsep : ∀ f ∈ fields, isDigit f.1 = false) {s : Bytes} {n n' : Number} {ns ns' : List Number}
    (h : ReadsAs width fields s n ns) (h' : ReadsAs width fields s n' ns') :
    n = n' ∧ ns = ns' := by
  obtain ⟨rfl, he⟩ := h.first.unique h'.first (stops_joined hsep ns) (stops_joined hsep ns')
    (h.bytes.symm.trans h'.bytes)
  exact ⟨rfl, joined_unique hsep h.others h'.others he⟩

/-! ### Numbers of digits only -/

def Digits (width : ℕ) (w : Bytes) : Prop := w.length = width ∧ ∀ b ∈ w, isDigit b = true

lemma digitsValue_concat (w : Bytes) (b : UInt8) :
    digitsValue (w ++ [b]) = 10 * digitsValue w + (b.toNat - 0x30) := by
  simp [digitsValue]

lemma digitsValue_lt {w : Bytes} (h : ∀ b ∈ w, isDigit b = true) :
    digitsValue w < 10 ^ w.length := by
  induction w using List.reverseRecOn with
  | nil => decide
  | append_singleton w b ih =>
    have hb := isDigit_iff.mp (h b (by simp))
    have hw := ih fun c hc => h c (by simp [hc])
    rw [digitsValue_concat, List.length_append, List.length_singleton, pow_succ]
    omega

/-- A number that is written as its digits and nothing else. -/
def Number.ofDigits (w : Bytes) : Number := ⟨[], [], w⟩

def Number.Exact (n : Number) (width : ℕ) : Prop :=
  n.blanks = [] ∧ n.sign = [] ∧ n.digits.length = width

lemma Number.Exact.eq_ofDigits {n : Number} {width : ℕ} (h : n.Exact width) :
    n = Number.ofDigits n.digits := by
  obtain ⟨hb, hs, -⟩ := h
  obtain ⟨b, s, d⟩ := n
  simp only at hb hs
  rw [hb, hs]
  rfl

lemma ofDigits_exact {width : ℕ} {w : Bytes} (h : Digits width w) :
    Number.Exact (Number.ofDigits w) width := ⟨rfl, rfl, h.1⟩

lemma ofDigits_fits {width field : ℕ} {w : Bytes} (h : Digits width w) (h0 : 0 < width)
    (hw : width ≤ field) : (Number.ofDigits w).Fits field where
  blanks := fun _ hb => by cases hb
  sign := fun _ hb => by cases hb
  signLength := by simp [Number.ofDigits]
  digits := h.2
  digitsNonempty := by
    rintro rfl
    exact absurd h.1 (by simpa using h0.ne)
  width := by
    simp only [Number.ofDigits, List.length_nil, Nat.zero_add, h.1]
    exact hw

lemma digits_of_exact {n : Number} {width field : ℕ} (hf : n.Fits field)
    (h : n.Exact width) : Digits width n.digits := ⟨h.2.2, hf.digits⟩

lemma ofDigits_bytes (w : Bytes) : (Number.ofDigits w).bytes = w := rfl

/-- Up to nine digits do not overflow an `unsigned`. -/
lemma ofDigits_value {width : ℕ} {w : Bytes} (h : Digits width w) (hw : width ≤ 9) :
    (Number.ofDigits w).value.toNat = digitsValue w := by
  have hlt := digitsValue_lt h.2
  have hpow : 10 ^ w.length ≤ 10 ^ 9 := Nat.pow_le_pow_right (by decide) (h.1 ▸ hw)
  simp only [Number.value, Number.ofDigits, List.nil_eq, reduceCtorEq, if_false]
  exact UInt32.toNat_ofNat_of_lt' (by
    have : (10 : ℕ) ^ 9 < 2 ^ 32 := by decide
    exact lt_of_lt_of_le hlt (hpow.trans this.le))

/-! ### Strings without NUL -/

lemma cString_of_noNul {s : Bytes} (h : 0 ∉ s) : cString s = s := by
  rw [cString, List.takeWhile_eq_self_iff]
  intro b hb
  simpa using fun h0 : b = 0 => h (h0 ▸ hb)

lemma cString_noNul (s : Bytes) : 0 ∉ cString s := by
  intro h
  have := List.mem_takeWhile_imp h
  simp at this

/-- A string that is read up to its end has no NUL. -/
lemma cString_of_length {s : Bytes} (h : (cString s).length = s.length) : cString s = s :=
  (List.takeWhile_prefix _).eq_of_length h

lemma noNul_of_digits {w : Bytes} (h : ∀ b ∈ w, isDigit b = true) : 0 ∉ w :=
  fun h0 => absurd (h 0 h0) (by decide)

end MysqlAsio.Scanning
