import MysqlAsio.Errors

/-!
The primitive wire types, and messages made of them.

Deserialization reads the bytes that are left in the context; serialization gives the bytes
written. A context is what is left of the message and the capabilities in force, so that
rewinding it by the message type is going back to the context the type was read from.
-/

namespace MysqlAsio.Serialization

open MysqlAsio.Errors MysqlAsio.Lib.Decoding MysqlAsio.Lib.LittleEndian

abbrev Deserializer := Decoder UInt8 Errc

/-! ### Integers of a fixed size -/

def deserializeFixedSizeInt (size : ℕ) : Deserializer ℕ :=
  ofBytes <$> takeN .incompleteMessage size

def serializeFixedSizeInt (size n : ℕ) : Bytes := toBytes size n

def deserializeInt1 : Deserializer UInt8 := UInt8.ofNat <$> deserializeFixedSizeInt 1
def deserializeInt2 : Deserializer UInt16 := UInt16.ofNat <$> deserializeFixedSizeInt 2
def deserializeInt3 : Deserializer UInt32 := UInt32.ofNat <$> deserializeFixedSizeInt 3
def deserializeInt4 : Deserializer UInt32 := UInt32.ofNat <$> deserializeFixedSizeInt 4
def deserializeInt6 : Deserializer UInt64 := UInt64.ofNat <$> deserializeFixedSizeInt 6
def deserializeInt8 : Deserializer UInt64 := UInt64.ofNat <$> deserializeFixedSizeInt 8

def deserializeInt1Signed : Deserializer Int8 := UInt8.toInt8 <$> deserializeInt1
def deserializeInt2Signed : Deserializer Int16 := UInt16.toInt16 <$> deserializeInt2
def deserializeInt4Signed : Deserializer Int32 := UInt32.toInt32 <$> deserializeInt4
def deserializeInt8Signed : Deserializer Int64 := UInt64.toInt64 <$> deserializeInt8

def serializeInt1 (v : UInt8) : Bytes := serializeFixedSizeInt 1 v.toNat
def serializeInt2 (v : UInt16) : Bytes := serializeFixedSizeInt 2 v.toNat
def serializeInt3 (v : UInt32) : Bytes := serializeFixedSizeInt 3 v.toNat
def serializeInt4 (v : UInt32) : Bytes := serializeFixedSizeInt 4 v.toNat
def serializeInt6 (v : UInt64) : Bytes := serializeFixedSizeInt 6 v.toNat
def serializeInt8 (v : UInt64) : Bytes := serializeFixedSizeInt 8 v.toNat

def serializeInt1Signed (v : Int8) : Bytes := serializeInt1 v.toUInt8
def serializeInt2Signed (v : Int16) : Bytes := serializeInt2 v.toUInt16
def serializeInt4Signed (v : Int32) : Bytes := serializeInt4 v.toUInt32
def serializeInt8Signed (v : Int64) : Bytes := serializeInt8 v.toUInt64

section FixedSizeInt

variable {T : Type} {f : ℕ → T} {size n : ℕ} {v : T}

lemma fixedSizeInt_reads (h : n < 256 ^ size) (hf : f n = v) :
    Reads (f <$> deserializeFixedSizeInt size) (serializeFixedSizeInt size n) v := by
  have hr := takeN_reads' Errc.incompleteMessage (toBytes_length size n)
  have hf' := (hr.map ofBytes).map f
  rwa [ofBytes_toBytes_of_lt h, hf] at hf'

lemma fixedSizeInt_short :
    Short (f <$> deserializeFixedSizeInt size) (serializeFixedSizeInt size n)
      .incompleteMessage :=
  ((takeN_short _ (toBytes_length size n)).map ofBytes).map f

end FixedSizeInt

lemma int1_reads (v : UInt8) : Reads deserializeInt1 (serializeInt1 v) v :=
  fixedSizeInt_reads v.toNat_lt UInt8.ofNat_toNat

lemma int2_reads (v : UInt16) : Reads deserializeInt2 (serializeInt2 v) v :=
  fixedSizeInt_reads v.toNat_lt UInt16.ofNat_toNat

lemma int3_reads {v : UInt32} (h : v.toNat < 2 ^ 24) : Reads deserializeInt3 (serializeInt3 v) v :=
  fixedSizeInt_reads h UInt32.ofNat_toNat

lemma int4_reads (v : UInt32) : Reads deserializeInt4 (serializeInt4 v) v :=
  fixedSizeInt_reads v.toNat_lt UInt32.ofNat_toNat

lemma int8_reads (v : UInt64) : Reads deserializeInt8 (serializeInt8 v) v :=
  fixedSizeInt_reads v.toNat_lt UInt64.ofNat_toNat

lemma int8Signed_reads (v : Int64) : Reads deserializeInt8Signed (serializeInt8Signed v) v :=
  (int8_reads v.toUInt64).map UInt64.toInt64

@[simp] lemma serializeFixedSizeInt_length (size n : ℕ) :
    (serializeFixedSizeInt size n).length = size := toBytes_length size n

@[simp] lemma serializeInt1_length (v : UInt8) : (serializeInt1 v).length = 1 := by
  simp [serializeInt1]

@[simp] lemma serializeInt2_length (v : UInt16) : (serializeInt2 v).length = 2 := by
  simp [serializeInt2]

@[simp] lemma serializeInt3_length (v : UInt32) : (serializeInt3 v).length = 3 := by
  simp [serializeInt3]

@[simp] lemma serializeInt4_length (v : UInt32) : (serializeInt4 v).length = 4 := by
  simp [serializeInt4]

@[simp] lemma serializeInt8_length (v : UInt64) : (serializeInt8 v).length = 8 := by
  simp [serializeInt8]

@[simp] lemma serializeInt8Signed_length (v : Int64) : (serializeInt8Signed v).length = 8 := by
  simp [serializeInt8Signed]

lemma serializeInt1_eq (v : UInt8) : serializeInt1 v = [v] := by
  simp [serializeInt1, serializeFixedSizeInt, toBytes, UInt8.ofNat_toNat]

lemma deserializeInt1_cons (b : UInt8) (s : Bytes) : deserializeInt1 (b :: s) = .ok (b, s) := by
  have := int1_reads b s
  rwa [serializeInt1_eq] at this

lemma fixedSizeInt_sound {T : Type} {f : ℕ → T} {g : T → ℕ} {size : ℕ}
    (hf : ∀ n < 256 ^ size, g (f n) = n) :
    Sound (f <$> deserializeFixedSizeInt size) fun v => serializeFixedSizeInt size (g v) := by
  intro s v t h
  obtain ⟨n, hn, rfl⟩ := of_map_ok h
  obtain ⟨w, hw, rfl⟩ := of_map_ok hn
  obtain ⟨hlen, rfl, rfl⟩ := of_takeN_ok hw
  have hl : (s.take size).length = size := List.length_take_of_le hlen
  have hlt : ofBytes (s.take size) < 256 ^ size := by
    have := ofBytes_lt (s.take size)
    rwa [hl] at this
  have hb := toBytes_ofBytes (s.take size)
  rw [hl] at hb
  show s = serializeFixedSizeInt size (g (f (ofBytes (s.take size)))) ++ s.drop size
  rw [hf _ hlt, serializeFixedSizeInt, hb, List.take_append_drop]

lemma int1_sound : Sound deserializeInt1 serializeInt1 :=
  fixedSizeInt_sound fun _ h => UInt8.toNat_ofNat_of_lt' h

lemma int2_sound : Sound deserializeInt2 serializeInt2 :=
  fixedSizeInt_sound fun _ h => UInt16.toNat_ofNat_of_lt' h

lemma int4_sound : Sound deserializeInt4 serializeInt4 :=
  fixedSizeInt_sound fun _ h => UInt32.toNat_ofNat_of_lt' h

/-! ### Length-encoded integers -/

/-- The first byte is the number itself, or says how many bytes follow. -/
def deserializeIntLenenc : Deserializer UInt64 := do
  let firstByte ← deserializeInt1
  if firstByte = 0xfc then UInt16.toUInt64 <$> deserializeInt2
  else if firstByte = 0xfd then UInt32.toUInt64 <$> deserializeInt3
  else if firstByte = 0xfe then deserializeInt8
  else pure firstByte.toUInt64

def serializeIntLenenc (v : UInt64) : Bytes :=
  if v < 251 then serializeInt1 v.toUInt8
  else if v < 0x10000 then 0xfc :: serializeInt2 v.toUInt16
  else if v < 0x1000000 then 0xfd :: serializeInt3 v.toUInt32
  else 0xfe :: serializeInt8 v

def sizeIntLenenc (v : UInt64) : ℕ :=
  if v < 251 then 1
  else if v < 0x10000 then 3
  else if v < 0x1000000 then 4
  else 9

lemma intLenenc_length (v : UInt64) : (serializeIntLenenc v).length = sizeIntLenenc v := by
  unfold serializeIntLenenc sizeIntLenenc
  split_ifs <;> simp

lemma reads_int1_bind {α : Type} {f : UInt8 → Deserializer α} {b : UInt8} {w : Bytes} {a : α}
    (h : Reads (f b) w a) : Reads (deserializeInt1 >>= f) (b :: w) a := by
  have := (int1_reads b).bind h
  rwa [serializeInt1_eq] at this

theorem intLenenc_reads (v : UInt64) :
    Reads deserializeIntLenenc (serializeIntLenenc v) v := by
  unfold serializeIntLenenc deserializeIntLenenc
  split_ifs with h1 h2 h3
  · rw [UInt64.lt_iff_toNat_lt] at h1
    have hlt : v.toUInt8.toNat = v.toNat := by
      rw [UInt64.toNat_toUInt8]
      exact Nat.mod_eq_of_lt (by simp at h1; omega)
    have hne : ∀ b : UInt8, 251 ≤ b.toNat → v.toUInt8 ≠ b := by
      rintro b hb rfl
      simp at h1
      omega
    rw [serializeInt1_eq]
    refine reads_int1_bind ?_
    rw [if_neg (hne _ (by decide)), if_neg (hne _ (by decide)), if_neg (hne _ (by decide))]
    have hv : v.toUInt8.toUInt64 = v := by
      rw [← UInt64.toNat_inj, UInt8.toNat_toUInt64, hlt]
    rw [hv]
    exact reads_pure v
  · rw [UInt64.lt_iff_toNat_lt] at h2
    have hv : v.toUInt16.toUInt64 = v := by
      rw [← UInt64.toNat_inj, UInt16.toNat_toUInt64, UInt64.toNat_toUInt16]
      exact Nat.mod_eq_of_lt h2
    refine reads_int1_bind ?_
    have := (int2_reads v.toUInt16).map UInt16.toUInt64
    rw [hv] at this
    exact this
  · rw [UInt64.lt_iff_toNat_lt] at h3
    have h3' : v.toNat < 2 ^ 24 := h3
    have hn : v.toUInt32.toNat = v.toNat := by
      rw [UInt64.toNat_toUInt32]
      exact Nat.mod_eq_of_lt (by omega)
    have hv : v.toUInt32.toUInt64 = v := by
      rw [← UInt64.toNat_inj, UInt32.toNat_toUInt64, hn]
    refine reads_int1_bind ?_
    have hlt : v.toUInt32.toNat < 2 ^ 24 := by omega
    have := (int3_reads hlt).map UInt32.toUInt64
    rw [hv] at this
    exact this
  · exact reads_int1_bind (int8_reads v)

/-! ### Strings -/

def deserializeStringFixed (n : ℕ) : Deserializer Bytes := takeN .incompleteMessage n

def deserializeStringNull : Deserializer Bytes := fun s =>
  let value := s.takeWhile (· ≠ 0)
  if value.length = s.length then .error .incompleteMessage
  else .ok (value, s.drop (value.length + 1))

def deserializeStringEof : Deserializer Bytes := fun s => .ok (s, [])

/-- `size_t` has 64 bits, so that the source's check of the length against it never fails. -/
def deserializeStringLenenc : Deserializer Bytes := do
  let length ← deserializeIntLenenc
  takeN .incompleteMessage length.toNat

def serializeStringNull (s : Bytes) : Bytes := s ++ [0]
def serializeStringEof (s : Bytes) : Bytes := s
def serializeStringLenenc (s : Bytes) : Bytes := serializeIntLenenc (.ofNat s.length) ++ s

def sizeStringNull (s : Bytes) : ℕ := s.length + 1
def sizeStringEof (s : Bytes) : ℕ := s.length
def sizeStringLenenc (s : Bytes) : ℕ := sizeIntLenenc (.ofNat s.length) + s.length

lemma stringLenenc_length (s : Bytes) :
    (serializeStringLenenc s).length = sizeStringLenenc s := by
  simp [serializeStringLenenc, sizeStringLenenc, intLenenc_length]

/-- The length of a string is a `size_t`. -/
theorem stringLenenc_reads {s : Bytes} (h : s.length < 2 ^ 64) :
    Reads deserializeStringLenenc (serializeStringLenenc s) s :=
  (intLenenc_reads _).bind (takeN_reads' _ (by simpa using (Nat.mod_eq_of_lt h).symm))

/-! ### Messages -/

/-- `deserialization_context`: what is left of a message, and the capabilities in force. -/
structure DeserializationContext where
  first : Bytes
  capabilities : Capabilities
  deriving DecidableEq, Repr

def deserializeMessage {α : Type} (d : Deserializer α) (ctx : DeserializationContext) :
    Except ErrorCode α :=
  match d ctx.first with
  | .error e => .error (makeErrorCode e)
  | .ok (output, rest) => if rest = [] then .ok output else .error (makeErrorCode .extraBytes)

/-- The first byte of a message, and the context after it. -/
def deserializeMessageType (ctx : DeserializationContext) :
    Except ErrorCode (UInt8 × DeserializationContext) :=
  match deserializeInt1 ctx.first with
  | .error e => .error (makeErrorCode e)
  | .ok (msgType, rest) => .ok (msgType, { ctx with first := rest })

@[simp] lemma deserializeMessageType_nil (caps : Capabilities) :
    deserializeMessageType ⟨[], caps⟩ = .error (makeErrorCode .incompleteMessage) := rfl

@[simp] lemma deserializeMessageType_cons (b : UInt8) (s : Bytes) (caps : Capabilities) :
    deserializeMessageType ⟨b :: s, caps⟩ = .ok (b, ⟨s, caps⟩) := by
  simp [deserializeMessageType, deserializeInt1_cons]

lemma of_deserializeMessage_ok {α : Type} {d : Deserializer α} {s : Bytes} {caps : Capabilities}
    {a : α} (h : deserializeMessage d ⟨s, caps⟩ = .ok a) : d s = .ok (a, []) := by
  unfold deserializeMessage at h
  split at h
  · cases h
  · next output rest ho =>
    split_ifs at h with hr
    cases h
    rw [ho, hr]

lemma deserializeMessage_ok {α : Type} {d : Deserializer α} {w : Bytes} {a : α}
    {caps : Capabilities} (h : d w = .ok (a, [])) : deserializeMessage d ⟨w, caps⟩ = .ok a := by
  simp [deserializeMessage, h]

lemma deserializeMessage_short {α : Type} {d : Deserializer α} {w p : Bytes} {e : Errc}
    (h : Short d w e) (hp : p <+: w) (hne : p ≠ w) (caps : Capabilities) :
    deserializeMessage d ⟨p, caps⟩ = .error (makeErrorCode e) := by
  simp only [deserializeMessage, h p hp hne]

lemma deserializeMessage_extra {α : Type} {d : Deserializer α} {w extra : Bytes} {a : α}
    (h : Reads d w a) (hne : extra ≠ []) (caps : Capabilities) :
    deserializeMessage d ⟨w ++ extra, caps⟩ = .error (makeErrorCode .extraBytes) := by
  simp only [deserializeMessage, h extra, if_neg hne]

/-- The errors of a message are the client's own, and callers see them. -/
lemma deserializeMessage_error_failed {α : Type} {d : Deserializer α}
    (hd : FailsOnly d .incompleteMessage) {ctx : DeserializationContext} {err : ErrorCode}
    (h : deserializeMessage d ctx = .error err) : err.failed = true := by
  unfold deserializeMessage at h
  split at h
  · next e he =>
    cases h
    rw [hd _ _ he]
    rfl
  · split at h <;> cases h
    rfl

lemma deserializeMessage_undecodable {α : Type} {d : Deserializer α}
    (hd : FailsOnly d .incompleteMessage) {w : Bytes} (h : ∀ a, d w ≠ .ok (a, []))
    (caps : Capabilities) :
    ∃ err, err.failed = true ∧ deserializeMessage d ⟨w, caps⟩ = .error err := by
  rcases hm : deserializeMessage d ⟨w, caps⟩ with err | a
  · exact ⟨err, deserializeMessage_error_failed hd hm, rfl⟩
  · unfold deserializeMessage at hm
    split at hm
    · cases hm
    · next output rest ho =>
      split_ifs at hm with hr
      rw [hr] at ho
      exact absurd ho (h output)

lemma fixedSizeInt_failsOnly {T : Type} (f : ℕ → T) (size : ℕ) :
    FailsOnly (f <$> deserializeFixedSizeInt size) .incompleteMessage :=
  ((takeN_failsOnly _ size).map ofBytes).map f

lemma fixedSizeInt_consumes {T : Type} (f : ℕ → T) (size : ℕ) :
    Consumes (f <$> deserializeFixedSizeInt size) :=
  ((takeN_consumes _ size).map ofBytes).map f

lemma intLenenc_consumes : Consumes deserializeIntLenenc := by
  refine (fixedSizeInt_consumes UInt8.ofNat 1).bind fun b => ?_
  split_ifs
  · exact (fixedSizeInt_consumes UInt16.ofNat 2).map _
  · exact (fixedSizeInt_consumes UInt32.ofNat 3).map _
  · exact fixedSizeInt_consumes UInt64.ofNat 8
  · exact consumes_pure _

lemma intLenenc_failsOnly : FailsOnly deserializeIntLenenc .incompleteMessage := by
  refine (fixedSizeInt_failsOnly UInt8.ofNat 1).bind fun b => ?_
  split_ifs
  · exact (fixedSizeInt_failsOnly UInt16.ofNat 2).map _
  · exact (fixedSizeInt_failsOnly UInt32.ofNat 3).map _
  · exact fixedSizeInt_failsOnly UInt64.ofNat 8
  · exact failsOnly_pure _ _

lemma stringLenenc_failsOnly : FailsOnly deserializeStringLenenc .incompleteMessage :=
  intLenenc_failsOnly.bind fun _ => takeN_failsOnly _ _

lemma stringNull_failsOnly : FailsOnly deserializeStringNull .incompleteMessage := by
  intro s e h
  unfold deserializeStringNull at h
  simp only [] at h
  split_ifs at h
  cases h
  rfl

lemma stringEof_failsOnly (e : Errc) : FailsOnly deserializeStringEof e := by
  intro s e' h
  cases h

/-- What the client sends: its size, computed before, and its bytes. -/
class Serializable (α : Type) where
  getSize : Capabilities → α → ℕ
  serialize : Capabilities → α → Bytes

/-- `buffer.resize(size)`. -/
def resize (buffer : Bytes) (size : ℕ) : Bytes := buffer.takeD size 0

/-- The buffer is resized to the computed size, and the message is written from its start. -/
def serializeMessage {α : Type} [Serializable α] (input : α) (caps : Capabilities)
    (buffer : Bytes) : Bytes :=
  let buffer := resize buffer (Serializable.getSize caps input)
  let written := Serializable.serialize caps input
  written ++ buffer.drop written.length

/-- The final assertion of `serialize_message`: what is written ends where the buffer ends. -/
def serializeMessageAssertion {α : Type} [Serializable α] (input : α) (caps : Capabilities) :
    Bool :=
  (Serializable.serialize caps input).length = Serializable.getSize caps input

/-- The computed size is the size. -/
class LawfulSerializable (α : Type) [Serializable α] : Prop where
  serialize_length : ∀ caps (x : α), (Serializable.serialize caps x).length =
    Serializable.getSize caps x

lemma serializeMessage_eq {α : Type} [Serializable α] [LawfulSerializable α] (input : α)
    (caps : Capabilities) (buffer : Bytes) :
    serializeMessage input caps buffer = Serializable.serialize caps input := by
  have h := LawfulSerializable.serialize_length caps input
  simp [serializeMessage, resize, h]

end MysqlAsio.Serialization
