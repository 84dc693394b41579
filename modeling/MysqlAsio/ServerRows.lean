import Mathlib.Data.List.Forall2
import MysqlAsio.BinaryDeserialization
import MysqlAsio.Fetching
import MysqlAsio.TextDeserialization

/-!
Messages with the rows that the client reads from them.
-/

namespace MysqlAsio.ServerRows

open MysqlAsio.Errors MysqlAsio.Serialization MysqlAsio.CommonMessages MysqlAsio.Values
open MysqlAsio.NullBitmap MysqlAsio.BinaryDeserialization MysqlAsio.TextDeserialization
open MysqlAsio.ReadRow MysqlAsio.Resultset MysqlAsio.Fetching MysqlAsio.Lib.Decoding

/-! ### Text rows -/

/-- A field of a text row: a NULL, or a text, with the value the client makes of it. -/
inductive TextField (lexical : LexicalConvert) (field : FieldMetadata) : Option Bytes × Value → Prop
  | null : TextField lexical field (none, .null)
  | text {s : Bytes} {v : Value} (hs : s.length < 2 ^ 64)
      (hv : deserializeTextValue lexical s field = .ok v) : TextField lexical field (some s, v)

def encodeTextFields (cells : List (Option Bytes × Value)) : Bytes :=
  cells.flatMap fun cell => encodeTextField cell.1

/-- A row of the text protocol as the client reads it. -/
inductive TextRow (lexical : LexicalConvert) (fields : List FieldMetadata) : Bytes → Row → Prop
  | mk {cells : List (Option Bytes × Value)} (h : List.Forall₂ (TextField lexical) fields cells) :
      TextRow lexical fields (encodeTextFields cells) (cells.map Prod.snd)

lemma textFields_read {lexical : LexicalConvert} {fields : List FieldMetadata}
    {cells : List (Option Bytes × Value)} (h : List.Forall₂ (TextField lexical) fields cells) :
    Reads (deserializeTextFields lexical fields) (encodeTextFields cells)
      (cells.map Prod.snd) := by
  induction h with
  | nil => exact reads_pure []
  | @cons field cell fields cells hcell _ ih =>
    intro rest
    have ih' := ih rest
    rw [encodeTextFields, List.flatMap_cons, List.append_assoc, deserializeTextFields, get_bind]
    rw [encodeTextFields] at ih'
    cases hcell with
    | null =>
      have hn : isNextFieldNull (0xfb :: (cells.flatMap (fun cell => encodeTextField cell.1) ++
        rest)) = true := rfl
      have h1 := deserializeInt1_cons 0xfb
        (cells.flatMap (fun cell => encodeTextField cell.1) ++ rest)
      rw [encodeTextField, List.singleton_append, if_pos hn, bind_ok h1, bind_ok ih']
      rfl
    | @text s v hs hv =>
      have hn := isNextFieldNull_stringLenenc s
        (cells.flatMap (fun cell => encodeTextField cell.1) ++ rest)
      have h2 : ∀ t, (liftM (deserializeTextValue lexical s field) : Deserializer Value) t =
          .ok (v, t) := by
        intro t
        rw [hv]
        rfl
      rw [encodeTextField, if_neg (Bool.eq_false_iff.mp hn), bind_ok (stringLenenc_reads hs _),
        bind_ok (h2 _), bind_ok ih']
      rfl

theorem textRow_decodes {lexical : LexicalConvert} {fields : List FieldMetadata} {message : Bytes}
    {row : Row} (h : TextRow lexical fields message row) (caps : Capabilities) :
    deserializeTextRow lexical ⟨message, caps⟩ fields = .ok row := by
  cases h with
  | mk h => exact deserializeMessage_ok (textFields_read h).exact

/-! ### Binary rows -/

/-- A field of a binary row: a NULL, or the bytes the client reads as a value. -/
inductive BinaryField (field : FieldMetadata) : Option Bytes × Value → Prop
  | null : BinaryField field (none, .null)
  | value {w : Bytes} {v : Value} (hr : Reads (deserializeBinaryValue field) w v) :
      BinaryField field (some w, v)

def encodeBinaryFields (cells : List (Option Bytes × Value)) : Bytes :=
  cells.flatMap fun cell => cell.1.getD []

/-- A bitmap has a bit for each field, after two that are not used. -/
structure RowBitmap (cells : List (Option Bytes × Value)) (bitmap : Bytes) : Prop where
  length : bitmap.length = (cells.length + 7 + binaryRowNullBitmapOffset) / 8
  bits : ∀ i (h : i < cells.length),
    bitAt bitmap (i + binaryRowNullBitmapOffset) = (cells.get ⟨i, h⟩).1.isNone

/-- A row of the binary protocol as the client reads it. -/
inductive BinaryRow (fields : List FieldMetadata) : Bytes → Row → Prop
  | mk {cells : List (Option Bytes × Value)} {bitmap : Bytes}
      (h : List.Forall₂ BinaryField fields cells) (hb : RowBitmap cells bitmap) :
      BinaryRow fields (0x00 :: (bitmap ++ encodeBinaryFields cells)) (cells.map Prod.snd)

lemma binaryFields_read {traits : NullBitmapTraits} {bitmap : Bytes} {fields : List FieldMetadata}
    {cells : List (Option Bytes × Value)} (h : List.Forall₂ BinaryField fields cells) {i : ℕ}
    (hb : ∀ j (hj : j < cells.length),
      traits.isNull bitmap (i + j) = (cells.get ⟨j, hj⟩).1.isNone) :
    Reads (deserializeBinaryFields traits bitmap i fields) (encodeBinaryFields cells)
      (cells.map Prod.snd) := by
  induction h generalizing i with
  | nil => exact reads_pure []
  | @cons field cell fields cells hcell _ ih =>
    have h0 : traits.isNull bitmap i = cell.1.isNone := hb 0 (Nat.succ_pos _)
    have htail : Reads (deserializeBinaryFields traits bitmap (i + 1) fields)
        (encodeBinaryFields cells) (cells.map Prod.snd) := ih fun j hj => by
      have := hb (j + 1) (Nat.succ_lt_succ hj)
      rwa [show i + (j + 1) = i + 1 + j by omega] at this
    rw [encodeBinaryFields, List.flatMap_cons, deserializeBinaryFields, h0]
    cases hcell with
    | null => exact (reads_pure Value.null).bind (htail.bind_pure (reads_pure _))
    | value hr => exact hr.bind (htail.bind_pure (reads_pure _))

lemma RowBitmap.isNull {cells : List (Option Bytes × Value)} {bitmap : Bytes}
    (hb : RowBitmap cells bitmap) (numFields : ℕ) (i : ℕ) (hi : i < cells.length) :
    NullBitmapTraits.isNull ⟨binaryRowNullBitmapOffset, numFields⟩ bitmap (0 + i) =
      (cells.get ⟨i, hi⟩).1.isNone := by
  rw [isNull_eq_bitAt, Nat.zero_add]
  exact hb.bits i hi

lemma RowBitmap.byteCount {cells : List (Option Bytes × Value)} {bitmap : Bytes}
    (hb : RowBitmap cells bitmap) {fields : List FieldMetadata}
    (hlen : fields.length = cells.length) : bitmap.length =
      (NullBitmapTraits.mk binaryRowNullBitmapOffset fields.length).byteCount := by
  rw [hb.length, ← hlen]
  rfl

lemma deserializeBinaryRow_bitmap {fields : List FieldMetadata} {bitmap : Bytes}
    (hlen : bitmap.length =
      (NullBitmapTraits.mk binaryRowNullBitmapOffset fields.length).byteCount)
    (s : Bytes) (caps : Capabilities) :
    deserializeBinaryRow ⟨0x00 :: (bitmap ++ s), caps⟩ fields =
      deserializeMessage
        (deserializeBinaryFields ⟨binaryRowNullBitmapOffset, fields.length⟩ bitmap 0 fields)
        ⟨s, caps⟩ := by
  rw [deserializeBinaryRow]
  simp only [List.drop_succ_cons, List.drop_zero, ← hlen, List.length_append, List.take_left,
    List.drop_left]
  rw [if_neg (by omega)]

theorem binaryRow_decodes {fields : List FieldMetadata} {message : Bytes} {row : Row}
    (h : BinaryRow fields message row) (caps : Capabilities) :
    deserializeBinaryRow ⟨message, caps⟩ fields = .ok row := by
  cases h with
  | @mk cells bitmap h hb =>
    rw [deserializeBinaryRow_bitmap (hb.byteCount h.length_eq)]
    exact deserializeMessage_ok (binaryFields_read h (hb.isNull fields.length)).exact

/-! ### Among other messages -/

/-- The first byte of a text row, which is no longer than its first field. -/
lemma encodeTextFields_head {lexical : LexicalConvert} {fields : List FieldMetadata}
    {cells : List (Option Bytes × Value)} (hne : fields ≠ [])
    (h : List.Forall₂ (TextField lexical) fields cells) :
    ∃ b t, encodeTextFields cells = b :: t ∧ b ≠ errorPacketHeader ∧
      (b = eofPacketHeader → 2 ^ 24 ≤ (encodeTextFields cells).length) := by
  cases h with
  | nil => exact absurd rfl hne
  | @cons field cell fields cells hcell _ =>
    rw [encodeTextFields, List.flatMap_cons]
    cases hcell with
    | null => exact ⟨0xfb, _, rfl, by decide, fun h => absurd h (by decide)⟩
    | @text s v hs hv =>
      obtain ⟨b, t, hb, he, -, heof⟩ := serializeIntLenenc_head (.ofNat s.length)
      rw [encodeTextField, serializeStringLenenc, hb]
      refine ⟨b, _, rfl, he, fun h => ?_⟩
      have hlen := heof.mp h
      rw [UInt64.toNat_ofNat_of_lt' hs] at hlen
      simp only [List.length_append]
      omega

lemma textRow_message {lexical : LexicalConvert} {fields : List FieldMetadata} {message : Bytes}
    {row : Row} (caps : Capabilities) (hne : fields ≠ []) (h : TextRow lexical fields message row) :
    RowMessage ⟨deserializeTextRow lexical, caps, fields⟩ message row := by
  have hd := textRow_decodes h caps
  cases h with
  | mk h =>
    obtain ⟨b, t, hb, he, -⟩ := encodeTextFields_head hne h
    exact ⟨by rw [hb]; exact List.cons_ne_nil _ _, by rw [hb]; simpa using he, hd⟩

lemma textRow_not_eof {lexical : LexicalConvert} {fields : List FieldMetadata} {message : Bytes}
    {row : Row} (hne : fields ≠ []) (h : TextRow lexical fields message row)
    (hl : message.length < maxPacketSize) : message.head? ≠ some eofPacketHeader := by
  cases h with
  | mk h =>
    obtain ⟨b, t, hb, -, heof⟩ := encodeTextFields_head hne h
    intro hh
    rw [hb, List.head?_cons, Option.some.injEq] at hh
    exact absurd (heof hh) (not_le.mpr (hl.trans (by decide)))

lemma binaryRow_message {fields : List FieldMetadata} {message : Bytes} {row : Row}
    (caps : Capabilities) (h : BinaryRow fields message row) :
    RowMessage ⟨deserializeBinaryRow, caps, fields⟩ message row := by
  have hd := binaryRow_decodes h caps
  cases h with
  | mk h hb => exact ⟨List.cons_ne_nil _ _, by simp [errorPacketHeader], hd⟩

lemma binaryRow_not_eof {fields : List FieldMetadata} {message : Bytes} {row : Row}
    (h : BinaryRow fields message row) : message.head? ≠ some eofPacketHeader := by
  cases h with
  | mk h hb => simp [eofPacketHeader]

end MysqlAsio.ServerRows
