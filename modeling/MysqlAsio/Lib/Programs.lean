import Mathlib.Init

/-!
Programs that change a state and may fail. What a program did to the state before it failed
stays done.

A program is run on a state by applying it. Sequences are taken apart by what their first
program does, and two runs of one program are compared step by step.
-/

namespace MysqlAsio.Lib.Programs

/-- A program over states `σ` that fails with an `ε`. -/
abbrev Program (σ ε α : Type) := ExceptT ε (StateM σ) α

variable {σ ε α β : Type}

lemma then_ok {m : Program σ ε α} {f : α → Program σ ε β} {s t : σ} {a : α}
    (h : m s = (.ok a, t)) : (m >>= f) s = f a t := by
  simp only [bind, ExceptT.bind, ExceptT.mk, StateT.bind, h, ExceptT.bindCont]

lemma then_error {m : Program σ ε α} {f : α → Program σ ε β} {s t : σ} {e : ε}
    (h : m s = (.error e, t)) : (m >>= f) s = (.error e, t) := by
  simp only [bind, ExceptT.bind, ExceptT.mk, StateT.bind, h, ExceptT.bindCont]
  rfl

lemma of_then_ok {m : Program σ ε α} {f : α → Program σ ε β} {s u : σ} {b : β}
    (h : (m >>= f) s = (.ok b, u)) : ∃ a t, m s = (.ok a, t) ∧ f a t = (.ok b, u) := by
  rcases hm : m s with ⟨e | a, t⟩
  · rw [then_error hm] at h
    cases h
  · rw [then_ok hm] at h
    exact ⟨a, t, rfl, h⟩

@[simp] lemma pure_apply (a : α) (s : σ) : (pure a : Program σ ε α) s = (.ok a, s) := rfl

@[simp] lemma throw_apply (e : ε) (s : σ) :
    (throw e : Program σ ε α) s = (.error e, s) := rfl

lemma get_then (f : σ → Program σ ε β) (s : σ) :
    ((get : Program σ ε σ) >>= f) s = f s s := then_ok rfl

/-! ### What programs preserve -/

/-- However it ends, the program leaves a state related to the one it began in. -/
def Preserves (R : σ → σ → Prop) (m : Program σ ε α) : Prop := ∀ s, R s (m s).2

section Preserves

variable {R : σ → σ → Prop}

lemma preserves_pure (hR : ∀ s, R s s) (a : α) : Preserves R (pure a : Program σ ε α) := hR

lemma Preserves.then (hR : ∀ s t u, R s t → R t u → R s u) {m : Program σ ε α}
    {f : α → Program σ ε β} (hm : Preserves R m) (hf : ∀ a, Preserves R (f a)) :
    Preserves R (m >>= f) := by
  intro s
  have hs := hm s
  rcases h : m s with ⟨e | a, t⟩
  · rw [then_error h]
    rwa [h] at hs
  · rw [then_ok h]
    rw [h] at hs
    exact hR s t _ hs (hf a t)

end Preserves

/-! ### What programs fail with -/

/-- The program fails with errors of this kind only. -/
def FailsWith (P : ε → Prop) (m : Program σ ε α) : Prop := ∀ s e t, m s = (.error e, t) → P e

section FailsWith

variable {P : ε → Prop}

lemma failsWith_pure (a : α) : FailsWith P (pure a : Program σ ε α) := nofun

lemma FailsWith.then {m : Program σ ε α} {f : α → Program σ ε β} (hm : FailsWith P m)
    (hf : ∀ a, FailsWith P (f a)) : FailsWith P (m >>= f) := by
  intro s e t h
  rcases hs : m s with ⟨e' | a, u⟩
  · rw [then_error hs] at h
    cases h
    exact hm s e _ hs
  · rw [then_ok hs] at h
    exact hf a u e t h

end FailsWith

/-! ### Two runs of one program -/

/-- How two runs end: in the same way, in states related by `S` where they succeed and by `E`
where they fail. -/
inductive Agree (S E : σ → σ → Prop) : Except ε α × σ → Except ε α × σ → Prop
  | ok (a : α) {s s' : σ} (h : S s s') : Agree S E (.ok a, s) (.ok a, s')
  | error (e : ε) {s s' : σ} (h : E s s') : Agree S E (.error e, s) (.error e, s')

/-- Run on states related by `R`, a program ends in the same way in both runs. -/
def Lockstep (R : σ → σ → Prop) (m : Program σ ε α) (S E : σ → σ → Prop) : Prop :=
  ∀ s s', R s s' → Agree S E (m s) (m s')

lemma lockstep_pure {R E : σ → σ → Prop} (a : α) :
    Lockstep R (pure a : Program σ ε α) R E := fun _ _ h => .ok a h

lemma Lockstep.then {R S T E : σ → σ → Prop} {m : Program σ ε α} {f : α → Program σ ε β}
    (hm : Lockstep R m S E) (hf : ∀ a, Lockstep S (f a) T E) : Lockstep R (m >>= f) T E := by
  intro s s' h
  have hs := hm s s' h
  rcases h1 : m s with ⟨r, t⟩
  rcases h2 : m s' with ⟨r', t'⟩
  rw [h1, h2] at hs
  cases hs with
  | ok a h =>
    rw [then_ok h1, then_ok h2]
    exact hf a t t' h
  | error e h =>
    rw [then_error h1, then_error h2]
    exact .error e h

lemma Lockstep.weaken {R R' S S' E E' : σ → σ → Prop} {m : Program σ ε α}
    (hm : Lockstep R m S E) (hR : ∀ s s', R' s s' → R s s') (hS : ∀ s s', S s s' → S' s s')
    (hE : ∀ s s', E s s' → E' s s') : Lockstep R' m S' E' := by
  intro s s' h
  have hs := hm s s' (hR s s' h)
  rcases h1 : m s with ⟨r, t⟩
  rcases h2 : m s' with ⟨r', t'⟩
  rw [h1, h2] at hs
  cases hs with
  | ok a h => exact .ok a (hS _ _ h)
  | error e h => exact .error e (hE _ _ h)

end MysqlAsio.Lib.Programs
