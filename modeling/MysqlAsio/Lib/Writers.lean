import MysqlAsio.Lib.Buffers

/-!
Writing into a buffer of a fixed size, at a position in it.

A cell of the buffer is empty until it is written. An action that writes past the end of the
buffer, or that changes a cell that is empty, has no result. What an action writes composes
along `>>=`, so an action written piece by piece gets it piece by piece.
-/

namespace MysqlAsio.Lib.Writers

open MysqlAsio.Lib.Buffers

structure Writer (β : Type) where
  cells : List (Option β)
  first : ℕ
  deriving DecidableEq, Repr

abbrev Writing (β α : Type) := StateT (Writer β) Option α

variable {β : Type}

/-- A new buffer, with the position at its start. -/
def allocate (size : ℕ) : Writer β := ⟨List.replicate size none, 0⟩

/-- Write behind the position, and leave the position where it is. -/
def store (data : List β) : Writing β Unit := fun w =>
  if w.first + data.length ≤ w.cells.length then
    some ((), { w with cells := overwrite w.cells w.first (data.map some) })
  else none

def advance (size : ℕ) : Writing β Unit := fun w => some ((), { w with first := w.first + size })

def write (data : List β) : Writing β Unit := do
  store data
  advance data.length

/-- Change a cell behind the position. -/
def modify (offset : ℕ) (f : β → β) : Writing β Unit := fun w =>
  match w.cells[w.first + offset]? with
  | some (some b) => some ((), { w with cells := w.cells.set (w.first + offset) (some (f b)) })
  | _ => none

/-- One action after the other. -/
def writeAll {γ : Type} (action : γ → Writing β Unit) : List γ → Writing β Unit
  | [] => pure ()
  | x :: xs => do
    action x
    writeAll action xs

/-! ### What is written so far -/

/-- A buffer with `pre` before the position, `mid` behind it, and room for `room` more. -/
def staged (pre mid : List β) (room : ℕ) : Writer β :=
  ⟨pre.map some ++ (mid.map some ++ List.replicate room none), pre.length⟩

/-- A buffer that is written up to the position. -/
abbrev filled (pre : List β) (room : ℕ) : Writer β := staged pre [] room

lemma allocate_eq (size : ℕ) : (allocate size : Writer β) = filled [] size := rfl

lemma store_staged (pre data : List β) (room : ℕ) :
    store data (filled pre (data.length + room)) = some ((), staged pre data room) := by
  have hlen : pre.length = (pre.map some).length := by simp
  unfold store
  rw [if_pos (by simp [staged])]
  simp only [staged, List.map_nil, List.nil_append]
  rw [hlen, overwrite_append, List.length_map, List.drop_replicate, Nat.add_sub_cancel_left,
    List.append_assoc]

lemma advance_staged (pre mid : List β) (room : ℕ) :
    advance mid.length (staged pre mid room) = some ((), filled (pre ++ mid) room) := by
  simp [advance, staged]

lemma modify_staged {pre mid : List β} {offset : ℕ} {b : β} (h : mid[offset]? = some b)
    (f : β → β) (room : ℕ) :
    modify offset f (staged pre mid room) = some ((), staged pre (mid.set offset (f b)) room) := by
  obtain ⟨hlt, hb⟩ := List.getElem?_eq_some_iff.mp h
  have hcell : (staged pre mid room).cells[(staged pre mid room).first + offset]? =
      some (some b) := by
    simp [staged, List.getElem?_append, hlt, hb]
  unfold modify
  rw [hcell]
  simp only [staged, Option.some.injEq, Prod.mk.injEq, true_and, Writer.mk.injEq, and_true]
  have hlen : pre.length = (pre.map some).length := by simp
  rw [hlen, List.set_append_right _ _ (by omega), Nat.add_sub_cancel_left,
    List.set_append_left _ _ (by simpa using hlt), List.map_set]

/-! ### Actions that write -/

/-- The action writes `data`, wherever there is room for it. -/
def Writes (action : Writing β Unit) (data : List β) : Prop :=
  ∀ pre room, action (filled pre (data.length + room)) = some ((), filled (pre ++ data) room)

lemma writes_pure : Writes (pure () : Writing β Unit) [] := by
  intro pre room
  simp only [List.length_nil, Nat.zero_add, List.append_nil]
  rfl

lemma bind_some {α γ : Type} {a : Writing β α} {f : α → Writing β γ} {w w' : Writer β} {x : α}
    (h : a w = some (x, w')) : (a >>= f) w = f x w' := by
  simp only [bind, StateT.bind, h, Option.bind]

lemma Writes.bind {a b : Writing β Unit} {u v : List β} (ha : Writes a u) (hb : Writes b v) :
    Writes (a >>= fun _ => b) (u ++ v) := by
  intro pre room
  rw [List.length_append, Nat.add_assoc, bind_some (ha pre _), hb (pre ++ u) room,
    List.append_assoc]

lemma Writes.of_eq {a : Writing β Unit} {u v : List β} (h : Writes a u) (he : u = v) :
    Writes a v := he ▸ h

lemma write_writes (data : List β) : Writes (write data) data := by
  intro pre room
  unfold write
  rw [bind_some (store_staged pre data room), advance_staged]

lemma writeAll_writes {γ : Type} {action : γ → Writing β Unit} {data : γ → List β}
    (h : ∀ x, Writes (action x) (data x)) (xs : List γ) :
    Writes (writeAll action xs) (xs.flatMap data) := by
  induction xs with
  | nil => exact writes_pure
  | cons x xs ih => exact (h x).bind ih

/-- In a buffer of exactly its size, what is written fills the buffer. -/
lemma Writes.run_allocate {a : Writing β Unit} {data : List β} {size : ℕ} (h : Writes a data)
    (hs : data.length = size) : a (allocate size) = some ((), ⟨data.map some, size⟩) := by
  subst hs
  have hr := h [] 0
  simpa [allocate_eq, staged] using hr

end MysqlAsio.Lib.Writers
