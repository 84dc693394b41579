import Mathlib.Data.List.Basic

/-!
Buffers that are grown and then written at an offset.
-/

namespace MysqlAsio.Lib.Buffers

variable {β : Type*}

/-- Write `data` at an offset. What is written past the end makes the buffer longer. -/
def overwrite (buffer : List β) (offset : ℕ) (data : List β) : List β :=
  buffer.take offset ++ data ++ buffer.drop (offset + data.length)

/-- Writing behind what is there already keeps it, and what of the rest is not written. -/
lemma overwrite_append (buffer room data : List β) :
    overwrite (buffer ++ room) buffer.length data = buffer ++ data ++ room.drop data.length := by
  rw [overwrite, List.take_left, List.drop_append, List.drop_of_length_le (by omega),
    List.nil_append, Nat.add_sub_cancel_left]

lemma takeD_length_add (d : β) (buffer : List β) (n : ℕ) :
    buffer.takeD (buffer.length + n) d = buffer ++ List.replicate n d := by
  induction buffer with
  | nil => simp
  | cons b buffer ih =>
    rw [List.length_cons, Nat.succ_add, List.takeD_succ, List.head?_cons, Option.getD_some,
      List.tail_cons, ih, List.cons_append]

end MysqlAsio.Lib.Buffers
