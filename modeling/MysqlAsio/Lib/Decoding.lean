import Mathlib.Data.List.Basic
import Mathlib.Data.List.Infix

/-!
Decoders that take what they need from the front of a list, and the two facts a codec is
built from: a decoder reads a word whatever follows it, and it rejects what is too short.

Both facts compose along `>>=`, so a decoder written field by field gets them field by
field.
-/

namespace MysqlAsio.Lib.Decoding

/-- A decoder consumes a front part of the input, or fails. -/
abbrev Decoder (β ε α : Type) := StateT (List β) (Except ε) α

variable {β ε α γ : Type}

/-- `d` reads `a` off the word `w`, whatever follows `w`. -/
def Reads (d : Decoder β ε α) (w : List β) (a : α) : Prop :=
  ∀ rest, d (w ++ rest) = .ok (a, rest)

/-- `d` fails with `e` on every strict prefix of `w`. -/
def Short (d : Decoder β ε α) (w : List β) (e : ε) : Prop :=
  ∀ p, p <+: w → p ≠ w → d p = .error e

lemma bind_ok {d : Decoder β ε α} {f : α → Decoder β ε γ} {s t : List β} {a : α}
    (h : d s = .ok (a, t)) : (d >>= f) s = f a t := by
  simp only [bind, StateT.bind, h, Except.bind]

lemma bind_error {d : Decoder β ε α} {f : α → Decoder β ε γ} {s : List β} {e : ε}
    (h : d s = .error e) : (d >>= f) s = .error e := by
  simp only [bind, StateT.bind, h, Except.bind]

@[simp] lemma pure_run (a : α) (s : List β) : (pure a : Decoder β ε α) s = .ok (a, s) := rfl

lemma map_ok {d : Decoder β ε α} {f : α → γ} {s t : List β} {a : α}
    (h : d s = .ok (a, t)) : (f <$> d) s = .ok (f a, t) := by
  simp only [Functor.map, StateT.map, h, bind, Except.bind, pure, Except.pure]

lemma map_error {d : Decoder β ε α} {f : α → γ} {s : List β} {e : ε}
    (h : d s = .error e) : (f <$> d) s = .error e := by
  simp only [Functor.map, StateT.map, h, bind, Except.bind]

/-! ### Reading a word -/

lemma reads_pure (a : α) : Reads (pure a : Decoder β ε α) [] a := fun _ => rfl

lemma Reads.bind {d : Decoder β ε α} {f : α → Decoder β ε γ} {u v : List β} {a : α} {c : γ}
    (hd : Reads d u a) (hf : Reads (f a) v c) : Reads (d >>= f) (u ++ v) c := by
  intro rest
  rw [List.append_assoc, bind_ok (hd _)]
  exact hf rest

lemma Reads.bind_pure {d : Decoder β ε α} {f : α → Decoder β ε γ} {u : List β} {a : α} {c : γ}
    (hd : Reads d u a) (hf : Reads (f a) [] c) : Reads (d >>= f) u c := by
  simpa using hd.bind hf

lemma Reads.map {d : Decoder β ε α} {u : List β} {a : α} (f : α → γ) (hd : Reads d u a) :
    Reads (f <$> d) u (f a) := fun rest => map_ok (hd rest)

lemma Reads.exact {d : Decoder β ε α} {u : List β} {a : α} (hd : Reads d u a) :
    d u = .ok (a, []) := by
  simpa using hd []

/-- `d` takes the word `w` off the input, and comes to the result `r`. -/
def Yields (d : Decoder β ε α) (w : List β) (r : Except ε α) : Prop :=
  ∀ rest, d (w ++ rest) = r.map fun a => (a, rest)

lemma Reads.bind_yields {d : Decoder β ε α} {f : α → Decoder β ε γ} {u v : List β} {a : α}
    {r : Except ε γ} (hd : Reads d u a) (hf : Yields (f a) v r) :
    Yields (d >>= f) (u ++ v) r := by
  intro rest
  rw [List.append_assoc, bind_ok (hd _)]
  exact hf rest

lemma Reads.bind_yields_nil {d : Decoder β ε α} {f : α → Decoder β ε γ} {u : List β} {a : α}
    {r : Except ε γ} (hd : Reads d u a) (hf : Yields (f a) [] r) : Yields (d >>= f) u r := by
  simpa using hd.bind_yields hf

lemma Yields.bind_error {d : Decoder β ε α} {f : α → Decoder β ε γ} {u : List β} {e : ε}
    (hd : Yields d u (.error e)) (v : List β) : Yields (d >>= f) (u ++ v) (.error e) := by
  intro rest
  rw [List.append_assoc]
  exact Decoding.bind_error (hd _)

lemma yields_ite {c : Prop} [Decidable c] {d d' : Decoder β ε α} {u v : List β} {r : Except ε α}
    (hd : c → Yields d (u ++ v) r) (hd' : ¬ c → Yields d' v r) :
    Yields (if c then d else d') ((if c then u else []) ++ v) r := by
  split_ifs with h
  · exact hd h
  · exact hd' h

/-- What is read only under a condition. -/
lemma Reads.ite_bind_yields {c : Prop} [Decidable c] {d : Decoder β ε α} {z a : α}
    {f : α → Decoder β ε γ} {u v : List β} {r : Except ε γ} (hd : c → Reads d u a)
    (hz : ¬ c → z = a) (hf : Yields (f a) v r) :
    Yields (if c then d >>= f else pure z >>= f) ((if c then u else []) ++ v) r :=
  yields_ite (fun h => (hd h).bind_yields hf) fun h => hz h ▸ hf

lemma Reads.ite_bind_yields_nil {c : Prop} [Decidable c] {d : Decoder β ε α} {z a : α}
    {f : α → Decoder β ε γ} {u : List β} {r : Except ε γ} (hd : c → Reads d u a)
    (hz : ¬ c → z = a) (hf : Yields (f a) [] r) :
    Yields (if c then d >>= f else pure z >>= f) (if c then u else []) r := by
  simpa using Reads.ite_bind_yields hd hz hf

lemma Yields.of_ok {d : Decoder β ε α} {w rest t : List β} {r : Except ε α} {a : α}
    (hd : Yields d w r) (h : d (w ++ rest) = .ok (a, t)) : r = .ok a ∧ t = rest := by
  rw [hd rest] at h
  cases r with
  | error e => cases h
  | ok b =>
    cases h
    exact ⟨rfl, rfl⟩

/-- What `d` took of the input is the encoding of what it returned. -/
def Sound (d : Decoder β ε α) (encode : α → List β) : Prop :=
  ∀ s a t, d s = .ok (a, t) → s = encode a ++ t

/-! ### Rejecting a strict prefix -/

lemma short_nil (d : Decoder β ε α) (e : ε) : Short d [] e :=
  fun _ hp hne => absurd (List.prefix_nil.mp hp) hne

/-- A strict prefix of `u ++ v` is one of `u`, or all of `u` and a strict prefix of `v`. -/
lemma prefix_append_cases {p u v : List β} (hp : p <+: u ++ v) (hne : p ≠ u ++ v) :
    (p <+: u ∧ p ≠ u) ∨ ∃ q, p = u ++ q ∧ q <+: v ∧ q ≠ v := by
  rcases Nat.lt_or_ge p.length u.length with h | h
  · refine Or.inl ⟨List.prefix_of_prefix_length_le hp (List.prefix_append u v) h.le, ?_⟩
    rintro rfl
    exact absurd h (lt_irrefl _)
  · obtain ⟨q, rfl⟩ := List.prefix_of_prefix_length_le (List.prefix_append u v) hp h
    refine Or.inr ⟨q, rfl, (List.prefix_append_right_inj u).mp hp, ?_⟩
    rintro rfl
    exact hne rfl

lemma Short.bind {d : Decoder β ε α} {f : α → Decoder β ε γ} {u v : List β} {a : α} {e : ε}
    (hd : Short d u e) (hr : Reads d u a) (hf : Short (f a) v e) :
    Short (d >>= f) (u ++ v) e := by
  intro p hp hne
  rcases prefix_append_cases hp hne with ⟨h1, h2⟩ | ⟨q, rfl, h1, h2⟩
  · exact bind_error (hd p h1 h2)
  · rw [bind_ok (hr q)]
    exact hf q h1 h2

/-- What follows the last word read does not matter. -/
lemma Short.bind_any {d : Decoder β ε α} (f : α → Decoder β ε γ) {u : List β} {e : ε}
    (hd : Short d u e) : Short (d >>= f) u e := fun p hp hne => bind_error (hd p hp hne)

lemma Short.map {d : Decoder β ε α} {u : List β} {e : ε} (f : α → γ) (hd : Short d u e) :
    Short (f <$> d) u e := fun p h1 h2 => map_error (hd p h1 h2)

lemma short_ite {c : Prop} [Decidable c] {d d' : Decoder β ε α} {u v : List β} {e : ε}
    (hd : c → Short d (u ++ v) e) (hd' : ¬ c → Short d' v e) :
    Short (if c then d else d') ((if c then u else []) ++ v) e := by
  split_ifs with h
  · exact hd h
  · exact hd' h

lemma Reads.ite_bind_short {c : Prop} [Decidable c] {d : Decoder β ε α} {z a : α}
    {f : α → Decoder β ε γ} {u v : List β} {e : ε} (hd : c → Reads d u a)
    (hs : c → Short d u e) (hz : ¬ c → z = a) (hf : Short (f a) v e) :
    Short (if c then d >>= f else pure z >>= f) ((if c then u else []) ++ v) e :=
  short_ite (fun h => (hs h).bind (hd h) hf) fun h => hz h ▸ hf

lemma short_ite_bind_any {c : Prop} [Decidable c] {d : Decoder β ε α} {z : α}
    {f : α → Decoder β ε γ} {u : List β} {e : ε} (hs : c → Short d u e) :
    Short (if c then d >>= f else pure z >>= f) (if c then u else []) e := by
  split_ifs with h
  · exact (hs h).bind_any f
  · exact short_nil _ e

/-! ### Words that end where the decoder says -/

/-- `d` reads `a` off the word `w`, and fails with `e` on less of it. -/
structure Delimits (d : Decoder β ε α) (w : List β) (a : α) (e : ε) : Prop where
  reads : Reads d w a
  short : Short d w e

lemma Delimits.bind {d : Decoder β ε α} {f : α → Decoder β ε γ} {u v : List β} {a : α} {c : γ}
    {e : ε} (hd : Delimits d u a e) (hf : Delimits (f a) v c e) :
    Delimits (d >>= f) (u ++ v) c e :=
  ⟨hd.reads.bind hf.reads, hd.short.bind hd.reads hf.short⟩

lemma Delimits.bind_pure {d : Decoder β ε α} {f : α → Decoder β ε γ} {u : List β} {a : α} {c : γ}
    {e : ε} (hd : Delimits d u a e) (hf : Reads (f a) [] c) : Delimits (d >>= f) u c e :=
  ⟨hd.reads.bind_pure hf, hd.short.bind_any f⟩

lemma Delimits.map {d : Decoder β ε α} {u : List β} {a : α} {e : ε} (f : α → γ)
    (hd : Delimits d u a e) : Delimits (f <$> d) u (f a) e :=
  ⟨hd.reads.map f, hd.short.map f⟩

/-! ### How a decoder fails -/

/-- `d` fails in no other way than with `e`. -/
def FailsOnly (d : Decoder β ε α) (e : ε) : Prop := ∀ s e', d s = .error e' → e' = e

lemma failsOnly_pure (a : α) (e : ε) : FailsOnly (pure a : Decoder β ε α) e := by
  intro s e' h
  cases h

lemma FailsOnly.bind {d : Decoder β ε α} {f : α → Decoder β ε γ} {e : ε}
    (hd : FailsOnly d e) (hf : ∀ a, FailsOnly (f a) e) : FailsOnly (d >>= f) e := by
  intro s e' h
  rcases hs : d s with e1 | ⟨a, t⟩
  · rw [bind_error hs] at h
    cases h
    exact hd s e' hs
  · rw [bind_ok hs] at h
    exact hf a t e' h

lemma FailsOnly.map {d : Decoder β ε α} {e : ε} (f : α → γ) (hd : FailsOnly d e) :
    FailsOnly (f <$> d) e := by
  intro s e' h
  rcases hs : d s with e1 | ⟨a, t⟩
  · rw [map_error hs] at h
    cases h
    exact hd s e' hs
  · rw [map_ok hs] at h
    cases h

/-! ### What a decoder leaves -/

/-- What `d` leaves of the input is a suffix of it. -/
def Consumes (d : Decoder β ε α) : Prop := ∀ s a t, d s = .ok (a, t) → t <:+ s

lemma consumes_pure (a : α) : Consumes (pure a : Decoder β ε α) := by
  intro s a' t h
  cases h
  exact List.suffix_refl s

lemma of_bind_ok {d : Decoder β ε α} {f : α → Decoder β ε γ} {s t : List β} {c : γ}
    (h : (d >>= f) s = .ok (c, t)) : ∃ a s', d s = .ok (a, s') ∧ f a s' = .ok (c, t) := by
  rcases hs : d s with e | ⟨a, s'⟩
  · rw [bind_error hs] at h
    cases h
  · rw [bind_ok hs] at h
    exact ⟨a, s', rfl, h⟩

lemma of_map_ok {d : Decoder β ε α} {f : α → γ} {s t : List β} {c : γ}
    (h : (f <$> d) s = .ok (c, t)) : ∃ a, d s = .ok (a, t) ∧ c = f a := by
  rcases hs : d s with e | ⟨a, s'⟩
  · rw [map_error hs] at h
    cases h
  · rw [map_ok hs] at h
    cases h
    exact ⟨a, rfl, rfl⟩

lemma of_ite_ok {c : Prop} [Decidable c] {d d' : Decoder β ε α} {a : α} {s t : List β}
    (h : (if c then d else d') s = .ok (a, t)) :
    (c ∧ d s = .ok (a, t)) ∨ (¬ c ∧ d' s = .ok (a, t)) := by
  split_ifs at h with hc
  · exact .inl ⟨hc, h⟩
  · exact .inr ⟨hc, h⟩

lemma Consumes.bind {d : Decoder β ε α} {f : α → Decoder β ε γ} (hd : Consumes d)
    (hf : ∀ a, Consumes (f a)) : Consumes (d >>= f) := by
  intro s c t h
  obtain ⟨a, s', h1, h2⟩ := of_bind_ok h
  exact (hf a s' c t h2).trans (hd s a s' h1)

lemma Consumes.map {d : Decoder β ε α} (f : α → γ) (hd : Consumes d) : Consumes (f <$> d) := by
  intro s c t h
  obtain ⟨a, h1, -⟩ := of_map_ok h
  exact hd s a t h1

/-! ### Taking a fixed number of elements -/

/-- Take `n` elements off the front, or fail with `e` when there are fewer. -/
def takeN (e : ε) (n : ℕ) : Decoder β ε (List β) := fun s =>
  if n ≤ s.length then .ok (s.take n, s.drop n) else .error e

lemma takeN_reads (e : ε) (w : List β) : Reads (takeN e w.length) w w := by
  intro rest
  simp [takeN]

lemma takeN_reads' (e : ε) {w : List β} {n : ℕ} (h : w.length = n) :
    Reads (takeN e n) w w := h ▸ takeN_reads e w

lemma takeN_short (e : ε) {w : List β} {n : ℕ} (h : w.length = n) :
    Short (takeN e n) w e := by
  intro p hp hne
  have hlt : p.length < w.length :=
    lt_of_le_of_ne hp.length_le fun hl => hne (hp.eq_of_length hl)
  have : ¬ n ≤ p.length := by omega
  simp [takeN, this]

lemma of_takeN_ok {e : ε} {n : ℕ} {s w t : List β} (h : takeN e n s = .ok (w, t)) :
    n ≤ s.length ∧ w = s.take n ∧ t = s.drop n := by
  unfold takeN at h
  split at h <;> cases h
  exact ⟨‹_›, rfl, rfl⟩

lemma takeN_consumes (e : ε) (n : ℕ) : Consumes (takeN e n : Decoder β ε (List β)) := by
  intro s w t h
  obtain ⟨-, -, rfl⟩ := of_takeN_ok h
  exact List.drop_suffix n s

lemma takeN_failsOnly (e : ε) (n : ℕ) : FailsOnly (takeN e n : Decoder β ε (List β)) e := by
  intro s e' h
  unfold takeN at h
  split at h <;> cases h
  rfl

end MysqlAsio.Lib.Decoding
