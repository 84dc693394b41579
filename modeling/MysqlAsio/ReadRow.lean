import MysqlAsio.Channels
import MysqlAsio.Values

/-!
Reading a row: what the client takes a message of a resultset for, and what it is.
-/

namespace MysqlAsio.ReadRow

open MysqlAsio.Errors MysqlAsio.Serialization MysqlAsio.CommonMessages MysqlAsio.Values
open MysqlAsio.Channels

/-- `deserialize_row_fn`. -/
abbrev DeserializeRowFn :=
  DeserializationContext → List FieldMetadata → Except ErrorCode (List Value)

/-- `read_row_result`, with what comes with it. An error leaves the OK packet as it was, or
overwritten in part. -/
inductive ReadRowResult
  | error (okPacket : OkPacket)
  | row (values : List Value)
  | eof (okPacket : OkPacket)
  deriving DecidableEq, Repr

def processReadMessage (deserializer : DeserializeRowFn) (currentCaps : Capabilities)
    (fields : List FieldMetadata) (buffer : Bytes) (okPacket : OkPacket) (info : ErrorInfo) :
    ReadRowResult × ErrorCode × ErrorInfo :=
  match deserializeMessageType ⟨buffer, currentCaps⟩ with
  | .error err => (.error okPacket, err, info)
  | .ok (msgType, ctx) =>
    if msgType = eofPacketHeader then
      match deserializeMessage (deserializeOkPacket okPacket) ctx with
      | .error err => (.error (okPacketLeft okPacket ctx.first), err, info)
      | .ok okPacket => (.eof okPacket, .success, info)
    else if msgType = errorPacketHeader then
      let (err, info) := processErrorPacket ctx info
      (.error okPacket, err, info)
    else
      -- the message type is part of the row, so that the context is the one before it
      match deserializer ⟨buffer, currentCaps⟩ fields with
      | .error err => (.error okPacket, err, info)
      | .ok values => (.row values, .success, info)

def readRow (deserializer : DeserializeRowFn) (ch : Channel) (fields : List FieldMetadata)
    (okPacket : OkPacket) (info : ErrorInfo) :
    ReadRowResult × ErrorCode × ErrorInfo × Channel :=
  let (buffer, err, ch) := ch.read
  if err.failed then (.error okPacket, err, info, ch)
  else
    let (result, err, info) :=
      processReadMessage deserializer ch.currentCaps fields buffer okPacket info
    (result, err, info, ch)

lemma processReadMessage_row {deserializer : DeserializeRowFn} {currentCaps : Capabilities}
    {fields : List FieldMetadata} {buffer : Bytes} {okPacket : OkPacket} {info info' : ErrorInfo}
    {values : List Value} {err : ErrorCode}
    (h : processReadMessage deserializer currentCaps fields buffer okPacket info =
      (.row values, err, info')) : err = .success := by
  unfold processReadMessage at h
  split at h
  · cases h
  · split_ifs at h
    · split at h <;> cases h
    · cases h
    · split at h <;> cases h
      rfl

lemma readRow_row {deserializer : DeserializeRowFn} {ch ch' : Channel}
    {fields : List FieldMetadata} {okPacket : OkPacket} {info info' : ErrorInfo}
    {values : List Value} {err : ErrorCode}
    (h : readRow deserializer ch fields okPacket info = (.row values, err, info', ch')) :
    err = .success := by
  rcases hr : ch.read with ⟨buffer, e, ch1⟩
  rcases hp : processReadMessage deserializer ch1.currentCaps fields buffer okPacket info with
    ⟨result, e', info1⟩
  simp only [readRow, hr, hp] at h
  split_ifs at h <;> cases h
  exact processReadMessage_row hp

/-! ### What servers send -/

/-- A field of a text row: NULL, or a string. -/
def encodeTextField : Option Bytes → Bytes
  | none => [0xfb]
  | some s => serializeStringLenenc s

/-- A row as a server encodes it: field by field, or a bitmap and the values. -/
inductive ServerRow
  | text (fields : List (Option Bytes))
  | binary (nullBitmap values : Bytes)
  deriving DecidableEq, Repr

def ServerRow.encode : ServerRow → Bytes
  | .text fields => fields.flatMap encodeTextField
  | .binary nullBitmap values => 0x00 :: (nullBitmap ++ values)

/-- There is a field, and the strings have the length of strings. -/
def ServerRow.WellFormed : ServerRow → Prop
  | .text fields => fields ≠ [] ∧ ∀ s, some s ∈ fields → s.length < 2 ^ 64
  | .binary _ _ => True

/-- The first field of a text row needs no more than three bytes for its length. -/
def ServerRow.FirstFieldShort : ServerRow → Prop
  | .text (some s :: _) => s.length < 2 ^ 24
  | _ => True

/-- The message that ends a resultset. -/
def encodeEof (okPacket : OkPacket) (omitInfo : Bool) : Bytes :=
  eofPacketHeader :: encodeOkPacket okPacket omitInfo

/-! ### What the client takes a message for -/

/-- A message is handed to the deserializer, whatever that makes of it. -/
def TakenForRow (message : Bytes) : Prop :=
  ∀ deserializer currentCaps fields okPacket info,
    processReadMessage deserializer currentCaps fields message okPacket info =
      match deserializer ⟨message, currentCaps⟩ fields with
      | .error err => (.error okPacket, err, info)
      | .ok values => (.row values, .success, info)

/-- A message ends the resultset with this packet. -/
def TakenForEof (message : Bytes) (okPacket : OkPacket) (omitInfo : Bool) : Prop :=
  ∀ deserializer currentCaps fields output info,
    processReadMessage deserializer currentCaps fields message output info =
      (.eof (okPacket.withInfo output omitInfo), .success, info)

/-- Rows are told from their first byte. -/
lemma takenForRow_iff (b : UInt8) (s : Bytes) :
    TakenForRow (b :: s) ↔ b ≠ eofPacketHeader ∧ b ≠ errorPacketHeader := by
  constructor
  · intro h
    have hrow := h (fun _ _ => .ok []) .none [] .default .clear
    simp only [processReadMessage, deserializeMessageType_cons] at hrow
    refine ⟨?_, ?_⟩
    · intro hb
      rw [if_pos hb] at hrow
      split at hrow <;> simp at hrow
    · rintro rfl
      simp [eofPacketHeader, errorPacketHeader] at hrow
  · rintro ⟨h1, h2⟩ deserializer currentCaps fields okPacket info
    simp [processReadMessage, h1, h2]

theorem encodeEof_takenForEof {okPacket : OkPacket} (h : okPacket.info.length < 2 ^ 64)
    (omitInfo : Bool) : TakenForEof (encodeEof okPacket omitInfo) okPacket omitInfo := by
  intro deserializer currentCaps fields output info
  simp only [processReadMessage, encodeEof, deserializeMessageType_cons, if_true,
    deserializeMessage_ok (okPacket_decodes output omitInfo h)]

/-- The first byte of a length says how long the string is, and is not that of a NULL. -/
lemma serializeIntLenenc_head (v : UInt64) :
    ∃ b s, serializeIntLenenc v = b :: s ∧ b ≠ errorPacketHeader ∧ b ≠ 0xfb ∧
      (b = eofPacketHeader ↔ 2 ^ 24 ≤ v.toNat) := by
  unfold serializeIntLenenc
  split_ifs with h1 h2 h3
  · have hlt : v.toNat < 251 := UInt64.lt_iff_toNat_lt.mp h1
    have hv : v.toUInt8.toNat = v.toNat := by
      rw [UInt64.toNat_toUInt8]
      exact Nat.mod_eq_of_lt (by omega)
    have hne : ∀ b : UInt8, 251 ≤ b.toNat → v.toUInt8 ≠ b := by
      rintro b hb rfl
      omega
    refine ⟨v.toUInt8, [], serializeInt1_eq _, hne _ (by decide), hne _ (by decide), ?_⟩
    exact ⟨fun h => absurd h (hne _ (by decide)), by omega⟩
  · have hlt : v.toNat < 0x10000 := UInt64.lt_iff_toNat_lt.mp h2
    exact ⟨_, _, rfl, by decide, by decide, by simp [eofPacketHeader]; omega⟩
  · have hlt : v.toNat < 0x1000000 := UInt64.lt_iff_toNat_lt.mp h3
    exact ⟨_, _, rfl, by decide, by decide, by simp [eofPacketHeader]; omega⟩
  · have hge : ¬ v.toNat < 0x1000000 := fun h => h3 (UInt64.lt_iff_toNat_lt.mpr h)
    exact ⟨_, _, rfl, by decide, by decide, by simp [eofPacketHeader]; omega⟩

lemma encode_takenForRow_iff {row : ServerRow} (h : row.WellFormed) :
    TakenForRow row.encode ↔ row.FirstFieldShort := by
  match row, h with
  | .binary nullBitmap values, _ =>
    rw [ServerRow.encode, takenForRow_iff]
    exact ⟨fun _ => trivial, fun _ => by decide⟩
  | .text (none :: fields), _ =>
    rw [ServerRow.encode, List.flatMap_cons, encodeTextField, List.singleton_append,
      takenForRow_iff]
    exact ⟨fun _ => trivial, fun _ => by decide⟩
  | .text (some s :: fields), h =>
    have hs : s.length < 2 ^ 64 := h.2 s (by simp)
    obtain ⟨b, t, hb, he, -, heof⟩ := serializeIntLenenc_head (.ofNat s.length)
    rw [ServerRow.encode, List.flatMap_cons, encodeTextField, serializeStringLenenc, hb,
      List.cons_append, List.cons_append, takenForRow_iff, ne_eq, heof,
      UInt64.toNat_ofNat_of_lt' hs]
    simp [he, ServerRow.FirstFieldShort]

/-- **Rows are taken for rows, and the end for the end**, exactly when the first field of a
text row is NULL or shorter than `2 ^ 24` bytes. -/
theorem messages_classified_iff {row : ServerRow} (h : row.WellFormed) :
    (TakenForRow row.encode ∧ ∀ (okPacket : OkPacket) (omitInfo : Bool),
      okPacket.info.length < 2 ^ 64 →
      TakenForEof (encodeEof okPacket omitInfo) okPacket omitInfo) ↔ row.FirstFieldShort := by
  rw [encode_takenForRow_iff h]
  exact ⟨And.left, fun hs => ⟨hs, fun _ omitInfo hi => encodeEof_takenForEof hi omitInfo⟩⟩

theorem messages_classified_iff_null :
    (TakenForRow (ServerRow.text [none]).encode ∧ ∀ (okPacket : OkPacket) (omitInfo : Bool),
      okPacket.info.length < 2 ^ 64 →
      TakenForEof (encodeEof okPacket omitInfo) okPacket omitInfo) ↔
      (ServerRow.text [none]).FirstFieldShort :=
  messages_classified_iff ⟨by decide, by simp⟩

/-- A text row with a first field of `2 ^ 24` bytes is not taken for one. -/
theorem long_row_not_takenForRow :
    ¬ TakenForRow (ServerRow.text [some (List.replicate (2 ^ 24) 0)]).encode := by
  rw [encode_takenForRow_iff]
  · rw [ServerRow.FirstFieldShort, List.length_replicate]
    omega
  · refine ⟨List.cons_ne_nil _ _, ?_⟩
    intro s hs
    rw [List.mem_singleton, Option.some.injEq] at hs
    rw [hs, List.length_replicate]
    omega

end MysqlAsio.ReadRow
