import Mathlib.Data.List.Basic
import Mathlib.Logic.Function.Basic

/-!
Views into buffers that may be destroyed before them.

A buffer is live while something owns it. A view can be read while its buffer is live and has
not become shorter than the view; a view of nothing always can.
-/

namespace MysqlAsio.Lib.Views

/-- What the live buffers hold. -/
abbrev Heap (ι α : Type*) := ι → Option (List α)

/-- A part of a buffer. -/
structure View (ι : Type*) where
  buffer : ι
  offset : ℕ
  length : ℕ
  deriving DecidableEq

variable {ι α : Type*}

def View.read (v : View ι) (h : Heap ι α) : Option (List α) :=
  if v.length = 0 then some []
  else
    match h v.buffer with
    | none => none
    | some l =>
      if v.offset + v.length ≤ l.length then some ((l.drop v.offset).take v.length) else none

variable {v : View ι} {h h' : Heap ι α} {l : List α}

lemma View.read_empty (hv : v.length = 0) : v.read h = some [] := by
  rw [View.read, if_pos hv]

lemma View.read_live (hl : h v.buffer = some l) (hle : v.offset + v.length ≤ l.length) :
    v.read h = some ((l.drop v.offset).take v.length) := by
  by_cases hv : v.length = 0
  · rw [View.read_empty hv, hv, List.take_zero]
  · simp only [View.read, if_neg hv, hl, if_pos hle]

lemma View.length_of_read (hr : v.read h = some l) : l.length = v.length := by
  unfold View.read at hr
  split_ifs at hr with hv
  · cases hr
    exact hv.symm
  · split at hr
    · cases hr
    · split_ifs at hr
      cases hr
      rw [List.length_take, List.length_drop]
      omega

lemma View.read_nil_iff : v.read h = some [] ↔ v.length = 0 := by
  constructor
  · exact fun hr => (View.length_of_read hr).symm
  · exact View.read_empty

end MysqlAsio.Lib.Views
