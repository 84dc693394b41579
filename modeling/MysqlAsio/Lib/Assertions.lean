import MysqlAsio.Lib.Decoding
import MysqlAsio.Lib.Programs

/-!
Code with assertions, and the code without them that it stands for.

Where an assertion fails the program ends, and nothing comes of the code. What has to hold
for a sequence to get to its end is computed from its parts, as a weakest precondition is.
-/

namespace MysqlAsio.Lib.Assertions

open MysqlAsio.Lib.Decoding MysqlAsio.Lib.Programs

variable {σ ρ β ε α γ : Type}

/-- Where `I` holds `f` does what `g` does, and elsewhere an assertion of `f` fails. -/
structure Guarded (I : σ → Prop) (f : σ → Option ρ) (g : σ → ρ) : Prop where
  holds : ∀ {s}, I s → f s = some (g s)
  fails : ∀ {s}, ¬ I s → f s = none

/-- No assertion of `f` fails, and it does what `g` does. -/
def Safe (f : σ → Option ρ) (g : σ → ρ) : Prop := ∀ s, f s = some (g s)

section Guarded

variable {I J : σ → Prop} {f : σ → Option ρ} {g : σ → ρ} {s : σ} {r : ρ}

lemma Safe.guarded (h : Safe f g) : Guarded (fun _ => True) f g :=
  ⟨fun _ => h _, fun hn => absurd trivial hn⟩

lemma Guarded.congr (h : Guarded I f g) (hI : ∀ s, I s ↔ J s) : Guarded J f g :=
  ⟨fun hs => h.holds ((hI _).mpr hs), fun hs => h.fails fun hi => hs ((hI _).mp hi)⟩

lemma Guarded.of_some (h : Guarded I f g) (hs : f s = some r) : I s ∧ g s = r := by
  by_cases hi : I s
  · rw [h.holds hi] at hs
    exact ⟨hi, Option.some.inj hs⟩
  · rw [h.fails hi] at hs
    cases hs

/-- The code gets to its end just where `I` holds. -/
lemma Guarded.eq_some_iff (h : Guarded I f g) : f s = some (g s) ↔ I s :=
  ⟨fun hs => (h.of_some hs).1, h.holds⟩

end Guarded

/-! ### Decoders -/

/-- A decoder with assertions. -/
abbrev AssertingDecoder (β ε α : Type) := StateT (List β) (ExceptT ε Option) α

section Decoders

variable {a : AssertingDecoder β ε α} {f : α → AssertingDecoder β ε γ}
variable {d : Decoder β ε α} {g : α → Decoder β ε γ}

lemma asserting_bind_ok {s t : List β} {x : α} (h : a s = some (.ok (x, t))) :
    (a >>= f) s = f x t := by
  simp only [bind, StateT.bind, ExceptT.bind, ExceptT.mk, h, Option.bind, ExceptT.bindCont]

lemma asserting_bind_error {s : List β} {e : ε} (h : a s = some (.error e)) :
    (a >>= f) s = some (.error e) := by
  simp only [bind, StateT.bind, ExceptT.bind, ExceptT.mk, h, Option.bind, ExceptT.bindCont]
  rfl

lemma asserting_bind_none {s : List β} (h : a s = none) : (a >>= f) s = none := by
  simp only [bind, StateT.bind, ExceptT.bind, ExceptT.mk, h, Option.bind]

/-- The assertions of a sequence hold where those of its first part do, and those of the second
where the first leads to. -/
lemma Guarded.bind {I : List β → Prop} {J : α → List β → Prop} (ha : Guarded I a d)
    (hf : ∀ x, Guarded (J x) (f x) (g x)) :
    Guarded (fun s => I s ∧ ∀ x t, d s = .ok (x, t) → J x t) (a >>= f) (d >>= g) where
  holds := by
    rintro s ⟨hi, hj⟩
    have hs := ha.holds hi
    rcases hd : d s with e | ⟨x, t⟩
    · rw [hd] at hs
      rw [asserting_bind_error hs, bind_error hd]
    · rw [hd] at hs
      rw [asserting_bind_ok hs, bind_ok hd]
      exact (hf x).holds (hj x t hd)
  fails := by
    intro s hn
    by_cases hi : I s
    · have hs := ha.holds hi
      rcases hd : d s with e | ⟨x, t⟩
      · refine absurd ⟨hi, fun x t h => ?_⟩ hn
        rw [hd] at h
        cases h
      · rw [hd] at hs
        rw [asserting_bind_ok hs]
        refine (hf x).fails fun hj => hn ⟨hi, fun x' t' h => ?_⟩
        rw [hd] at h
        cases h
        exact hj
    · exact asserting_bind_none (ha.fails hi)

lemma safe_pure (x : α) : Safe (pure x : AssertingDecoder β ε α) (pure x : Decoder β ε α) :=
  fun _ => rfl

lemma safe_throw (e : ε) : Safe (throw e : AssertingDecoder β ε α) (throw e : Decoder β ε α) :=
  fun _ => rfl

lemma Safe.bind (ha : Safe a d) (hf : ∀ x, Safe (f x) (g x)) : Safe (a >>= f) (d >>= g) :=
  fun _ => (ha.guarded.bind fun x => (hf x).guarded).holds ⟨trivial, fun _ _ _ => trivial⟩

lemma Safe.map {h : α → γ} (ha : Safe a d) : Safe (h <$> a) (h <$> d) := by
  rw [← bind_pure_comp, ← bind_pure_comp]
  exact ha.bind fun x => safe_pure (h x)

/-- `assert`. -/
def assertion (p : Prop) [Decidable p] : AssertingDecoder β ε Unit := fun s =>
  if p then some (.ok ((), s)) else none

lemma guarded_assertion_then {p : Prop} [Decidable p] (ha : Safe a d) :
    Guarded (fun _ => p) (assertion p >>= fun _ => a) d where
  holds hp := by
    rw [asserting_bind_ok (by rw [assertion, if_pos hp])]
    exact ha _
  fails hp := asserting_bind_none (by rw [assertion, if_neg hp])

lemma Safe.after_assertion {p : Prop} [Decidable p] (ha : Safe a d) (hp : p) :
    Safe (assertion p >>= fun _ => a) d := fun _ => (guarded_assertion_then ha).holds hp

/-- Go on behind the next `n` elements, and assert that they are there. -/
def advance (n : ℕ) : AssertingDecoder β ε Unit := fun s =>
  if n ≤ s.length then some (.ok ((), s.drop n)) else none

/-- Take `n` elements off the front where there are enough, and advance. -/
def takeAdvance (e : ε) (n : ℕ) : AssertingDecoder β ε (List β) := do
  let first ← get
  if n ≤ first.length then
    advance n
    pure (first.take n)
  else throw e

lemma asserting_get_bind {f : List β → AssertingDecoder β ε γ} (s : List β) :
    ((get : AssertingDecoder β ε (List β)) >>= f) s = f s s := asserting_bind_ok rfl

lemma advance_bind {f : Unit → AssertingDecoder β ε γ} {n : ℕ} {s : List β} (h : n ≤ s.length) :
    ((advance n : AssertingDecoder β ε Unit) >>= f) s = f () (s.drop n) :=
  asserting_bind_ok (by rw [advance, if_pos h])

lemma safe_takeAdvance (e : ε) (n : ℕ) :
    Safe (takeAdvance e n : AssertingDecoder β ε (List β)) (takeN e n) := by
  intro s
  rw [takeAdvance, asserting_get_bind, takeN]
  split_ifs with h
  · rw [advance_bind h]
    rfl
  · rfl

end Decoders

/-! ### Programs -/

/-- A program with assertions. -/
abbrev AssertingProgram (σ ε α : Type) := ExceptT ε (StateT σ Option) α

section Programs

variable {m : AssertingProgram σ ε α} {f : α → AssertingProgram σ ε γ}
variable {p : Program σ ε α} {g : α → Program σ ε γ}

lemma asserting_then_ok {s t : σ} {x : α} (h : m s = some (.ok x, t)) :
    (m >>= f) s = f x t := by
  simp only [bind, ExceptT.bind, ExceptT.mk, StateT.bind, h, Option.bind, ExceptT.bindCont]

lemma asserting_then_error {s t : σ} {e : ε} (h : m s = some (.error e, t)) :
    (m >>= f) s = some (.error e, t) := by
  simp only [bind, ExceptT.bind, ExceptT.mk, StateT.bind, h, Option.bind, ExceptT.bindCont]
  rfl

lemma asserting_then_none {s : σ} (h : m s = none) : (m >>= f) s = none := by
  simp only [bind, ExceptT.bind, ExceptT.mk, StateT.bind, h, Option.bind]

lemma Guarded.then {I : σ → Prop} {J : α → σ → Prop} (hm : Guarded I m p)
    (hf : ∀ x, Guarded (J x) (f x) (g x)) :
    Guarded (fun s => I s ∧ ∀ x t, p s = (.ok x, t) → J x t) (m >>= f) (p >>= g) where
  holds := by
    rintro s ⟨hi, hj⟩
    have hs := hm.holds hi
    rcases hp : p s with ⟨e | x, t⟩
    · rw [hp] at hs
      rw [asserting_then_error hs, then_error hp]
    · rw [hp] at hs
      rw [asserting_then_ok hs, then_ok hp]
      exact (hf x).holds (hj x t hp)
  fails := by
    intro s hn
    by_cases hi : I s
    · have hs := hm.holds hi
      rcases hp : p s with ⟨e | x, t⟩
      · refine absurd ⟨hi, fun x t h => ?_⟩ hn
        rw [hp] at h
        cases h
      · rw [hp] at hs
        rw [asserting_then_ok hs]
        refine (hf x).fails fun hj => hn ⟨hi, fun x' t' h => ?_⟩
        rw [hp] at h
        cases h
        exact hj
    · exact asserting_then_none (hm.fails hi)

lemma Safe.then_guarded {J : α → σ → Prop} (hm : Safe m p)
    (hf : ∀ x, Guarded (J x) (f x) (g x)) :
    Guarded (fun s => ∀ x t, p s = (.ok x, t) → J x t) (m >>= f) (p >>= g) :=
  (hm.guarded.then hf).congr fun _ => ⟨And.right, fun h => ⟨trivial, h⟩⟩

lemma Guarded.then_safe {I : σ → Prop} (hm : Guarded I m p) (hf : ∀ x, Safe (f x) (g x)) :
    Guarded I (m >>= f) (p >>= g) :=
  (hm.then fun x => (hf x).guarded).congr fun _ => ⟨And.left, fun h => ⟨h, fun _ _ _ => trivial⟩⟩

/-- A program without assertions. -/
def unasserted (p : Program σ ε α) : AssertingProgram σ ε α := fun s => some (p s)

lemma safe_unasserted (p : Program σ ε α) : Safe (unasserted p) p := fun _ => rfl

lemma safe_return (x : α) :
    Safe (pure x : AssertingProgram σ ε α) (pure x : Program σ ε α) := fun _ => rfl

lemma Safe.then (hm : Safe m p) (hf : ∀ x, Safe (f x) (g x)) : Safe (m >>= f) (p >>= g) :=
  fun _ => (hm.guarded.then_safe hf).holds trivial

lemma asserting_get_then (f : σ → AssertingProgram σ ε γ) (s : σ) :
    ((get : AssertingProgram σ ε σ) >>= f) s = f s s := asserting_then_ok rfl

lemma Guarded.get_then {I : σ → Prop} {f : σ → AssertingProgram σ ε γ} {g : σ → Program σ ε γ}
    (h : ∀ s, Guarded I (f s) (g s)) : Guarded I (get >>= f) (get >>= g) where
  holds := by
    intro s hi
    rw [asserting_get_then, Programs.get_then]
    exact (h s).holds hi
  fails := by
    intro s hn
    rw [asserting_get_then]
    exact (h s).fails hn

/-- `assert`, in a program. -/
def check (c : Prop) [Decidable c] : AssertingProgram σ ε Unit := fun s =>
  if c then some (.ok (), s) else none

lemma Guarded.after_check {c : Prop} [Decidable c] {I : σ → Prop} (hm : Guarded I m p) :
    Guarded (fun s => c ∧ I s) (check c >>= fun _ => m) p where
  holds := by
    rintro s ⟨hc, hi⟩
    rw [asserting_then_ok (by rw [check, if_pos hc])]
    exact hm.holds hi
  fails := by
    intro s hn
    by_cases hc : c
    · rw [asserting_then_ok (by rw [check, if_pos hc])]
      exact hm.fails fun hi => hn ⟨hc, hi⟩
    · exact asserting_then_none (by rw [check, if_neg hc])

end Programs

end MysqlAsio.Lib.Assertions
