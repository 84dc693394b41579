import Mathlib.Init

/-!
Machines that answer events, and what it is for one to answer as another does.

A machine may be stuck at an event. A run is stuck when one of its events is.
-/

namespace MysqlAsio.Lib.Machines

/-- The answer to an event and the state after it. -/
abbrev Machine (σ ε ω : Type*) := σ → ε → Option (ω × σ)

variable {σ τ ε ω : Type*}

/-- The answers to events, one after the other. -/
def Machine.run (m : Machine σ ε ω) (s : σ) : List ε → Option (List ω × σ)
  | [] => some ([], s)
  | e :: es =>
    match m s e with
    | none => none
    | some (o, t) => (m.run t es).map fun r => (o :: r.1, r.2)

section Run

variable {m : Machine σ ε ω} {s t u : σ} {e : ε} {es : List ε} {o : ω} {os : List ω}

lemma run_cons (h : m s e = some (o, t)) (hr : m.run t es = some (os, u)) :
    m.run s (e :: es) = some (o :: os, u) := by
  simp only [Machine.run, h, hr, Option.map_some]

lemma of_run_cons (h : m.run s (e :: es) = some (os, u)) :
    ∃ o t os', m s e = some (o, t) ∧ m.run t es = some (os', u) ∧ os = o :: os' := by
  rw [Machine.run] at h
  split at h
  · cases h
  · next o t hm =>
    obtain ⟨⟨os', u'⟩, hr, hp⟩ := Option.map_eq_some_iff.mp h
    cases hp
    exact ⟨o, t, os', hm, hr, rfl⟩

lemma run_length (h : m.run s es = some (os, u)) : es.length = os.length := by
  induction es generalizing s os with
  | nil =>
    cases h
    rfl
  | cons e es ih =>
    obtain ⟨o, t, os', -, hr, rfl⟩ := of_run_cons h
    rw [List.length_cons, List.length_cons, ih hr]

lemma of_run (h : m.run s es = some (os, u)) : ∀ e ∈ es, ∃ t r, m t e = some r := by
  induction es generalizing s os with
  | nil => exact fun e he => absurd he List.not_mem_nil
  | cons e' es ih =>
    obtain ⟨o, t, os', hm, hr, -⟩ := of_run_cons h
    intro e he
    rcases List.mem_cons.mp he with rfl | he
    · exact ⟨s, _, hm⟩
    · exact ih hr e he

lemma run_answers {P : ω → Prop} (hP : ∀ s e o t, m s e = some (o, t) → P o)
    (h : m.run s es = some (os, u)) : ∀ o ∈ os, P o := by
  induction es generalizing s os with
  | nil =>
    cases h
    exact fun o ho => absurd ho List.not_mem_nil
  | cons e es ih =>
    obtain ⟨o, t, os', hm, hr, rfl⟩ := of_run_cons h
    intro o' ho
    rcases List.mem_cons.mp ho with rfl | ho
    · exact hP s e _ t hm
    · exact ih hr o' ho

end Run

/-- At these events the machine `n` answers as `m` does, in states related by `R`. -/
def Refines (R : σ → τ → Prop) (E : ε → Prop) (m : Machine σ ε ω) (n : Machine τ ε ω) : Prop :=
  ∀ s t e o s', R s t → E e → m s e = some (o, s') → ∃ t', n t e = some (o, t') ∧ R s' t'

/-- **Runs are answered alike** when events are. -/
theorem Refines.run {R : σ → τ → Prop} {E : ε → Prop} {m : Machine σ ε ω} {n : Machine τ ε ω}
    (h : Refines R E m n) {s s' : σ} {t : τ} {es : List ε} {os : List ω} (hR : R s t)
    (hE : ∀ e ∈ es, E e) (hr : m.run s es = some (os, s')) :
    ∃ t', n.run t es = some (os, t') ∧ R s' t' := by
  induction es generalizing s t os with
  | nil =>
    cases hr
    exact ⟨t, rfl, hR⟩
  | cons e es ih =>
    obtain ⟨o, s1, os', hm, hr', rfl⟩ := of_run_cons hr
    obtain ⟨t1, hn, hR1⟩ := h s t e o s1 hR (hE e (by simp)) hm
    obtain ⟨t', hn', hR'⟩ := ih hR1 (fun e he => hE e (by simp [he])) hr'
    exact ⟨t', run_cons hn hn', hR'⟩

/-! ### Monitors -/

/-- What is kept of the events and the answers so far, and the answers accepted then. -/
structure Monitor (μ ε ω : Type*) where
  next : μ → ε → ω → μ
  accepts : μ → ε → ω → Prop

/-- The answers to events, one after the other, are accepted. -/
def Monitor.Accepts {μ : Type*} (w : Monitor μ ε ω) : μ → List ε → List ω → Prop
  | _, [], [] => True
  | k, e :: es, o :: os => w.accepts k e o ∧ w.Accepts (w.next k e o) es os
  | _, [], _ :: _ => False
  | _, _ :: _, [] => False

/-- In states related by `R`, a monitor accepts what the machine `m` answers. -/
def Watches {μ : Type*} (R : σ → μ → Prop) (w : Monitor μ ε ω) (m : Machine σ ε ω) : Prop :=
  ∀ ⦃s k e o t⦄, R s k → m s e = some (o, t) → w.accepts k e o ∧ R t (w.next k e o)

/-- **Runs are accepted** when answers are. -/
theorem Watches.run {μ : Type*} {R : σ → μ → Prop} {w : Monitor μ ε ω} {m : Machine σ ε ω}
    (h : Watches R w m) {s t : σ} {k : μ} {es : List ε} {os : List ω} (hR : R s k)
    (hr : m.run s es = some (os, t)) : w.Accepts k es os := by
  induction es generalizing s k os with
  | nil =>
    cases hr
    exact trivial
  | cons e es ih =>
    obtain ⟨o, s1, os', hm, hr', rfl⟩ := of_run_cons hr
    obtain ⟨ha, hR1⟩ := h hR hm
    exact ⟨ha, ih hR1 hr'⟩

/-! ### Behaviours -/

/-- What may be answered to an event, and the states after it. -/
abbrev Behaviour (σ ε ω : Type*) := σ → ε → ω → σ → Prop

/-- Answers to events, one after the other, that a behaviour allows. -/
inductive Behaviour.Runs (b : Behaviour σ ε ω) : σ → List ε → List ω → σ → Prop
  | nil (s : σ) : b.Runs s [] [] s
  | cons {s t u : σ} {e : ε} {es : List ε} {o : ω} {os : List ω} (h : b s e o t)
      (hs : b.Runs t es os u) : b.Runs s (e :: es) (o :: os) u

/-- What every step relates, a run relates. -/
theorem Behaviour.Runs.relates {b : Behaviour σ ε ω} {P : σ → σ → Prop} (refl : ∀ s, P s s)
    (trans : ∀ s t u, P s t → P t u → P s u) (step : ∀ s e o t, b s e o t → P s t) {s t : σ}
    {es : List ε} {os : List ω} (h : b.Runs s es os t) : P s t := by
  induction h with
  | nil s => exact refl s
  | cons h _ ih => exact trans _ _ _ (step _ _ _ _ h) ih

section Allows

variable {δ : Type*} {R : σ → τ → Prop} {view : ε → δ} {b : Behaviour σ ε ω} {n : Machine τ δ ω}
variable {s : σ} {t : τ} {es : List ε} {os : List ω}

/-- In states related by `R`, a behaviour allows the answers of the machine `n`, which may know
less of an event. -/
def Allows (R : σ → τ → Prop) (view : ε → δ) (b : Behaviour σ ε ω) (n : Machine τ δ ω) : Prop :=
  ∀ ⦃s t e o t'⦄, R s t → n t (view e) = some (o, t') → ∃ s', b s e o s' ∧ R s' t'

/-- In states related by `R`, the machine `n` gives the answers a behaviour allows. -/
def Gives (R : σ → τ → Prop) (view : ε → δ) (b : Behaviour σ ε ω) (n : Machine τ δ ω) : Prop :=
  ∀ ⦃s t e o s'⦄, R s t → b s e o s' → ∃ t', n t (view e) = some (o, t') ∧ R s' t'

theorem Gives.run (h : Gives R view b n) (hR : R s t) {s' : σ} (hs : b.Runs s es os s') :
    ∃ t', n.run t (es.map view) = some (os, t') ∧ R s' t' := by
  induction hs generalizing t with
  | nil s => exact ⟨t, rfl, hR⟩
  | cons hb _ ih =>
    obtain ⟨t1, hn, hR1⟩ := h hR hb
    obtain ⟨t', hn', hR'⟩ := ih hR1
    exact ⟨t', run_cons hn hn', hR'⟩

theorem Allows.run (h : Allows R view b n) (hR : R s t) {t' : τ}
    (hn : n.run t (es.map view) = some (os, t')) : ∃ s', b.Runs s es os s' ∧ R s' t' := by
  induction es generalizing s t os with
  | nil =>
    cases hn
    exact ⟨s, .nil s, hR⟩
  | cons e es ih =>
    obtain ⟨o, t1, os', hm, hn', rfl⟩ := of_run_cons hn
    obtain ⟨s1, hb, hR1⟩ := h hR hm
    obtain ⟨s', hs, hR'⟩ := ih hR1 hn'
    exact ⟨s', .cons hb hs, hR'⟩

end Allows

end MysqlAsio.Lib.Machines
