import MysqlAsio.ExecuteGeneric

/-!
What is kept while the answer to a command is received.
-/

namespace MysqlAsio.Receiving

open MysqlAsio.Errors MysqlAsio.Serialization MysqlAsio.CommonMessages MysqlAsio.Channels
open MysqlAsio.Framing MysqlAsio.ReadRow MysqlAsio.Operations MysqlAsio.ExecuteGeneric
open MysqlAsio.PreparedStatementMessages MysqlAsio.Lib.Programs

/-- Reads do not break the relation, nor does what is done with what was read. -/
structure ClosedUnderReads (R : Conn → Conn → Prop) : Prop where
  trans : ∀ c d e, R c d → R d e → R c e
  moved : ∀ c ch, c.channel.Moved ch → R c { c with channel := ch }
  sharedBuffer : ∀ c b, R c { c with channel := { c.channel with sharedBuffer := b } }
  info : ∀ c info, R c { c with info }

namespace ClosedUnderReads

variable {R : Conn → Conn → Prop} (hR : ClosedUnderReads R) {α β : Type}

include hR

lemma refl (c : Conn) : R c c := hR.info c c.info

lemma seq {m : Operation α} {f : α → Operation β} (hm : Preserves R m)
    (hf : ∀ a, Preserves R (f a)) : Preserves R (m >>= f) := hm.then hR.trans hf

lemma pure (a : α) : Preserves R (pure a : Operation α) := hR.refl

lemma throw (err : ErrorCode) : Preserves R (throw err : Operation α) := hR.refl

lemma get : Preserves R (get : Operation Conn) := hR.refl

lemma attempt (result : Except ErrorCode α) : Preserves R (attempt result) := hR.refl

lemma report (f : ErrorInfo → ErrorCode × ErrorInfo) : Preserves R (report f) :=
  fun c => hR.info c (f c.info).2

lemma read : Preserves R read := fun c => hR.moved c _ (read_moved c.channel)

lemma readShared : Preserves R readShared := fun c =>
  hR.trans c { c with channel := c.channel.read.2.2 } _ (hR.moved c _ (read_moved c.channel))
    (hR.sharedBuffer _ _)

/-! ### Answers -/

lemma processResponse (buffer : Bytes) : Preserves R (processResponse buffer) := by
  refine hR.seq hR.get fun c => ?_
  cases buffer with
  | nil => exact hR.throw _
  | cons b s =>
    simp only [deserializeMessageType_cons]
    split_ifs
    · exact hR.seq (hR.attempt _) fun _ => hR.pure _
    · exact hR.seq (hR.report _) fun _ => hR.pure _
    · refine hR.seq (hR.attempt _) fun numFields => ?_
      split_ifs
      · exact hR.throw _
      · exact hR.pure _

lemma readFieldDefinitions (count : ℕ) : Preserves R (readFieldDefinitions count) := by
  induction count with
  | zero => exact hR.pure _
  | succ count ih =>
    refine hR.seq hR.read fun buffer => hR.seq ?_ fun _ => hR.seq ih fun _ => hR.pure _
    exact hR.seq hR.get fun _ => hR.seq (hR.attempt _) fun _ => hR.pure _

lemma receiveResultset (deserializer : DeserializeRowFn) :
    Preserves R (receiveResultset deserializer) :=
  hR.seq hR.read fun buffer => hR.seq (hR.processResponse buffer) fun _ =>
    hR.seq (hR.readFieldDefinitions _) fun _ => hR.pure _

lemma processPrepareResponse : Preserves R processPrepareResponse := by
  refine hR.seq hR.get fun c => ?_
  cases hb : c.channel.sharedBuffer with
  | nil =>
    simp only [hb]
    exact hR.throw _
  | cons b s =>
    simp only [hb, deserializeMessageType_cons]
    split_ifs
    · exact hR.seq (hR.report _) fun _ => hR.pure _
    · exact hR.throw _
    · exact hR.attempt _

lemma skipMessages (count : ℕ) : Preserves R (skipMessages count) := by
  induction count with
  | zero => exact hR.pure _
  | succ count ih => exact hR.seq hR.readShared fun _ => ih

lemma receiveStatement : Preserves R receiveStatement :=
  hR.seq hR.readShared fun _ => hR.seq hR.processPrepareResponse fun _ =>
    hR.seq (hR.skipMessages _) fun _ => hR.pure _

end ClosedUnderReads

end MysqlAsio.Receiving
