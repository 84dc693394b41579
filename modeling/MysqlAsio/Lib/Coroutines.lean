import Mathlib.Init

/-!
Coroutines: operations that are suspended while they wait for others, and resumed with what
those completed with.

What a coroutine keeps while it is suspended is its frame; what it shares with the operations
it waits for is the environment.
-/

namespace MysqlAsio.Lib.Coroutines

/-- What a coroutine does when it is resumed: it waits for an operation, or it completes. -/
inductive Turn (ω σ ρ : Type*)
  | await (op : ω) (next : σ)
  | complete (result : ρ)

/-- A coroutine, by what it does from a frame in an environment with what it is resumed with. -/
abbrev Coroutine (σ ι ω ρ ε : Type*) := σ → ι → ε → Turn ω σ ρ × ε

/-- What operations complete with, and the environment they leave. -/
abbrev Performs (ω ι ε : Type*) := ω → ε → ι → ε → Prop

variable {σ ι ω ρ ε : Type*}

/-- A coroutine that is resumed completes in the end, with this result and environment. -/
inductive Completes (co : Coroutine σ ι ω ρ ε) (performs : Performs ω ι ε) :
    σ → ι → ε → ρ → ε → Prop
  | complete {s : σ} {i : ι} {e e' : ε} {r : ρ} (h : co s i e = (.complete r, e')) :
      Completes co performs s i e r e'
  | await {s next : σ} {i i' : ι} {e e1 e2 e' : ε} {op : ω} {r : ρ}
      (h : co s i e = (.await op next, e1)) (hp : performs op e1 i' e2)
      (hc : Completes co performs next i' e2 r e') : Completes co performs s i e r e'

/-- The same, from what the coroutine does next. -/
def CompletesFrom (co : Coroutine σ ι ω ρ ε) (performs : Performs ω ι ε) :
    Turn ω σ ρ × ε → ρ → ε → Prop
  | (.complete result, e), r, e' => r = result ∧ e' = e
  | (.await op next, e), r, e' => ∃ i e1, performs op e i e1 ∧ Completes co performs next i e1 r e'

variable {co : Coroutine σ ι ω ρ ε} {performs : Performs ω ι ε}

lemma completes_iff {s : σ} {i : ι} {e e' : ε} {r : ρ} :
    Completes co performs s i e r e' ↔ CompletesFrom co performs (co s i e) r e' := by
  constructor
  · intro hc
    cases hc with
    | complete h =>
      rw [h]
      exact ⟨rfl, rfl⟩
    | await h hp hc =>
      rw [h]
      exact ⟨_, _, hp, hc⟩
  · rcases h : co s i e with ⟨op' | r', e1⟩
    · rintro ⟨j, e2, hp, hc⟩
      exact .await h hp hc
    · rintro ⟨rfl, rfl⟩
      exact .complete h

lemma from_await_iff {op : ω} {next : σ} {j : ι} {e e1 e' : ε} {r : ρ}
    (hp : ∀ i f, performs op e i f ↔ i = j ∧ f = e1) :
    CompletesFrom co performs (.await op next, e) r e' ↔
      CompletesFrom co performs (co next j e1) r e' := by
  rw [← completes_iff]
  constructor
  · rintro ⟨i, f, h, hc⟩
    obtain ⟨rfl, rfl⟩ := (hp i f).mp h
    exact hc
  · exact fun hc => ⟨j, e1, (hp j e1).mpr ⟨rfl, rfl⟩, hc⟩

/-- Every operation completes in one way at most. -/
def Determined (performs : Performs ω ι ε) : Prop :=
  ∀ op e i e1 j e2, performs op e i e1 → performs op e j e2 → i = j ∧ e1 = e2

/-- A coroutine completes in one way where the operations it waits for do. -/
theorem Completes.unique (hp : Determined performs) {s : σ} {i : ι} {e e1 e2 : ε}
    {r1 r2 : ρ} (h1 : Completes co performs s i e r1 e1)
    (h2 : Completes co performs s i e r2 e2) : r1 = r2 ∧ e1 = e2 := by
  induction h1 with
  | complete h =>
    rw [completes_iff, h] at h2
    exact ⟨h2.1.symm, h2.2.symm⟩
  | await h hop _ ih =>
    rw [completes_iff, h] at h2
    obtain ⟨j, f, hop', hc⟩ := h2
    obtain ⟨rfl, rfl⟩ := hp _ _ _ _ _ _ hop hop'
    exact ih hc

end MysqlAsio.Lib.Coroutines
