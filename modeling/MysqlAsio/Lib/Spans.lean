import Mathlib.Data.List.TakeWhile

/-!
Lists as a run of elements that have a property, and what follows the run.
-/

namespace MysqlAsio.Lib.Spans

variable {α : Type*}

/-- No run goes on into `l`. -/
def Stops (p : α → Bool) (l : List α) : Prop := ∀ a ∈ l.head?, p a = false

lemma stops_nil (p : α → Bool) : Stops p [] := by
  intro a ha
  cases ha

lemma stops_cons {p : α → Bool} {a : α} (h : p a = false) (l : List α) : Stops p (a :: l) := by
  intro b hb
  cases hb
  exact h

lemma takeWhile_run {p : α → Bool} {l t : List α} (hl : ∀ a ∈ l, p a = true) (ht : Stops p t) :
    (l ++ t).takeWhile p = l := by
  rw [List.takeWhile_append_of_pos hl]
  cases t with
  | nil => simp
  | cons a t => rw [List.takeWhile_cons_of_neg (by simp [ht a rfl]), List.append_nil]

lemma dropWhile_run {p : α → Bool} {l t : List α} (hl : ∀ a ∈ l, p a = true) (ht : Stops p t) :
    (l ++ t).dropWhile p = t := by
  rw [List.dropWhile_append_of_pos hl]
  cases t with
  | nil => rfl
  | cons a t => exact List.dropWhile_cons_of_neg (by simp [ht a rfl])

/-- A run and what follows it are determined by the whole. -/
lemma run_unique {p : α → Bool} {l l' t t' : List α} (hl : ∀ a ∈ l, p a = true)
    (ht : Stops p t) (hl' : ∀ a ∈ l', p a = true) (ht' : Stops p t') (h : l ++ t = l' ++ t') :
    l = l' ∧ t = t' := by
  refine ⟨?_, ?_⟩
  · rw [← takeWhile_run hl ht, h, takeWhile_run hl' ht']
  · rw [← dropWhile_run hl ht, h, dropWhile_run hl' ht']

end MysqlAsio.Lib.Spans
