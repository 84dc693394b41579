import MysqlAsio.HandshakeMessages
import MysqlAsio.PreparedStatementMessages
import MysqlAsio.Lib.Writers

/-!
The messages of the client, written into the buffer that is allocated for them.

The size of a message and the writing of it are two traversals. Most messages go through the
fields of their struct, with a command byte before them where they are commands; a handshake
response and an execution are written by functions of their own.
-/

namespace MysqlAsio.ClientMessages

open MysqlAsio.Errors MysqlAsio.Serialization MysqlAsio.CommonMessages
open MysqlAsio.HandshakeMessages MysqlAsio.PreparedStatementMessages MysqlAsio.Values
open MysqlAsio.BinarySerialization MysqlAsio.NullBitmap MysqlAsio.Lib.Civil
open MysqlAsio.Lib.Writers

/-- What is done to the context's buffer. -/
abbrev Serializer := Writing UInt8 Unit

/-! ### Fields -/

/-- The size of a fixed string is that of the array. -/
inductive Field
  | int1 (v : UInt8)
  | int2 (v : UInt16)
  | int4 (v : UInt32)
  | int8 (v : UInt64)
  | int8Signed (v : Int64)
  | stringFixed (s : Bytes)
  | stringNull (s : Bytes)
  | stringEof (s : Bytes)
  | stringLenenc (s : Bytes)
  deriving DecidableEq, Repr

def Field.getSize : Field → ℕ
  | .int1 _ => 1
  | .int2 _ => 2
  | .int4 _ => 4
  | .int8 _ | .int8Signed _ => 8
  | .stringFixed s => s.length
  | .stringNull s => sizeStringNull s
  | .stringEof s => sizeStringEof s
  | .stringLenenc s => sizeStringLenenc s

def writeIntLenenc (v : UInt64) : Serializer :=
  if v < 251 then write (serializeInt1 v.toUInt8)
  else if v < 0x10000 then do
    write [0xfc]
    write (serializeInt2 v.toUInt16)
  else if v < 0x1000000 then do
    write [0xfd]
    write (serializeInt3 v.toUInt32)
  else do
    write [0xfe]
    write (serializeInt8 v)

def Field.serialize : Field → Serializer
  | .int1 v => write (serializeInt1 v)
  | .int2 v => write (serializeInt2 v)
  | .int4 v => write (serializeInt4 v)
  | .int8 v => write (serializeInt8 v)
  | .int8Signed v => write (serializeInt8Signed v)
  | .stringFixed s => write s
  | .stringNull s => do
    write s
    write [0]
  | .stringEof s => write s
  | .stringLenenc s => do
    writeIntLenenc (.ofNat s.length)
    write s

def Field.bytes : Field → Bytes
  | .int1 v => serializeInt1 v
  | .int2 v => serializeInt2 v
  | .int4 v => serializeInt4 v
  | .int8 v => serializeInt8 v
  | .int8Signed v => serializeInt8Signed v
  | .stringFixed s => s
  | .stringNull s => serializeStringNull s
  | .stringEof s => serializeStringEof s
  | .stringLenenc s => serializeStringLenenc s

/-- `serialize` of any number of fields. -/
def serialize : List Field → Serializer := writeAll Field.serialize

/-- `get_size` of any number of fields. -/
def getSize : List Field → ℕ
  | [] => 0
  | field :: fields => field.getSize + getSize fields

lemma writeIntLenenc_writes (v : UInt64) : Writes (writeIntLenenc v) (serializeIntLenenc v) := by
  unfold writeIntLenenc serializeIntLenenc
  split_ifs
  · exact write_writes _
  · exact (write_writes [0xfc]).bind (write_writes _)
  · exact (write_writes [0xfd]).bind (write_writes _)
  · exact (write_writes [0xfe]).bind (write_writes _)

lemma Field.serialize_writes (f : Field) : Writes f.serialize f.bytes := by
  cases f with
  | stringNull s => exact (write_writes s).bind (write_writes [0])
  | stringLenenc s => exact (writeIntLenenc_writes _).bind (write_writes s)
  | _ => exact write_writes _

lemma serialize_writes (fields : List Field) :
    Writes (serialize fields) (fields.flatMap Field.bytes) :=
  writeAll_writes Field.serialize_writes fields

/-! ### Structs with fields -/

/-- A command writes its identifier first. -/
def serializeStruct (commandId : Option UInt8) (fields : List Field) : Serializer := do
  match commandId with
  | some id => serialize [.int1 id]
  | none => pure ()
  serialize fields

def getSizeStruct (commandId : Option UInt8) (fields : List Field) : ℕ :=
  (if commandId.isSome then 1 else 0) + getSize fields

def structBytes (commandId : Option UInt8) (fields : List Field) : Bytes :=
  commandId.toList ++ fields.flatMap Field.bytes

lemma serializeStruct_writes (commandId : Option UInt8) (fields : List Field) :
    Writes (serializeStruct commandId fields) (structBytes commandId fields) := by
  cases commandId with
  | none => exact writes_pure.bind (serialize_writes fields)
  | some id =>
    have h : [Field.int1 id].flatMap Field.bytes = [id] := by
      simp [Field.bytes, serializeInt1_eq]
    have hid := serialize_writes [.int1 id]
    rw [h] at hid
    exact hid.bind (serialize_writes fields)

/-! ### Values -/

/-- Does not add the length prefix byte. -/
def binaryYmdFields (ymd : YearMonthDay) : List Field :=
  [.int2 (.ofInt ymd.year), .int1 (.ofNat ymd.month), .int1 (.ofNat ymd.day)]

/-- `serialize_visitor`; the bits of a number that is not an integer are copied. -/
def serializeValue : Value → Serializer
  | .null => pure ()
  | .int64 v => serialize [.int8Signed v]
  | .uint64 v => serialize [.int8 v]
  | .string v => serialize [.stringLenenc v]
  | .float bits => write (serializeInt4 bits)
  | .double bits => write (serializeInt8 bits)
  | .date input => do
    serialize [.int1 (.ofNat dateSz)]
    serialize (binaryYmdFields (ofDays input))
  | .datetime input => do
    let days := input / day
    let tod := (input - days * day).toNat
    serialize [.int1 (.ofNat datetimeDhmsuSz)]
    serialize (binaryYmdFields (ofDays days))
    serialize [.int1 (.ofNat (tod / hour)), .int1 (.ofNat (tod % hour / minute)),
      .int1 (.ofNat (tod % minute / second)), .int4 (.ofNat (tod % second))]
  | .time input => do
    let days := input.tdiv day
    let hours := (input.tmod day).tdiv hour
    let minutes := (input.tmod hour).tdiv minute
    let seconds := (input.tmod minute).tdiv second
    let microseconds := input.tmod second
    serialize [.int1 (.ofNat timeDhmsuSz), .int1 (if input < 0 then 1 else 0),
      .int4 (.ofNat days.natAbs), .int1 (.ofNat hours.natAbs), .int1 (.ofNat minutes.natAbs),
      .int1 (.ofNat seconds.natAbs), .int4 (.ofNat microseconds.natAbs)]

lemma serializeValue_writes (v : Value) : Writes (serializeValue v) (serializeBinaryValue v) := by
  have hone : ∀ f : Field, Writes (serialize [f]) f.bytes := fun f => by
    simpa using serialize_writes [f]
  cases v with
  | null => exact writes_pure
  | int64 v => exact hone (.int8Signed v)
  | uint64 v => exact hone (.int8 v)
  | string v => exact hone (.stringLenenc v)
  | float bits => exact write_writes _
  | double bits => exact write_writes _
  | date input =>
    refine ((hone _).bind (serialize_writes _)).of_eq ?_
    simp only [binaryYmdFields, List.flatMap_cons, List.flatMap_nil, Field.bytes, List.append_nil,
      serializeBinaryValue, serializeDate, serializeBinaryYmd, List.append_assoc]
  | datetime input =>
    refine ((hone _).bind ((serialize_writes _).bind (serialize_writes _))).of_eq ?_
    simp only [binaryYmdFields, List.flatMap_cons, List.flatMap_nil, Field.bytes, List.append_nil,
      serializeBinaryValue, serializeDatetime, serializeBinaryYmd, List.append_assoc]
  | time input =>
    refine (serialize_writes _).of_eq ?_
    simp only [List.flatMap_cons, List.flatMap_nil, Field.bytes, List.append_nil,
      serializeBinaryValue, serializeTime, List.append_assoc]

/-! ### The messages -/

def getSizeHandshakeResponse (caps : Capabilities) (p : HandshakeResponsePacket) : ℕ :=
  getSize [.int4 p.clientFlag, .int4 p.maxPacketSize, .int1 p.characterSet,
      .stringNull p.username, .stringLenenc p.authResponse] + 23 +
    (if caps.has Capabilities.clientConnectWithDb then getSize [.stringNull p.database] else 0) +
    getSize [.stringNull p.clientPluginName]

def serializeHandshakeResponse (caps : Capabilities) (p : HandshakeResponsePacket) :
    Serializer := do
  serialize [.int4 p.clientFlag, .int4 p.maxPacketSize, .int1 p.characterSet,
    .stringFixed (List.replicate 23 0), .stringNull p.username, .stringLenenc p.authResponse]
  if caps.has Capabilities.clientConnectWithDb then
    serialize [.stringNull p.database]
  serialize [.stringNull p.clientPluginName]

/-- `com_stmt_execute_param_meta_packet`. -/
def paramMetaFields (v : Value) : List Field :=
  [.int1 (getProtocolFieldType v).code, .int1 (if isUnsigned v then 0x80 else 0)]

/-- The size of the metadata is that of any one of them. -/
def getSizeStmtExecute (p : ComStmtExecutePacket) : ℕ :=
  1 + getSize [.int4 p.statementId, .int1 p.flags, .int4 p.iterationCount] +
    p.nullBitmapTraits.byteCount + getSize [.int1 p.newParamsBindFlag] +
    getSizeStruct none [.int1 0, .int1 0] * p.params.length +
    (p.params.map getBinaryValueSize).sum

/-- Mark the NULLs among the parameters from the `i`-th on, in the bitmap behind the position. -/
def markNulls (traits : NullBitmapTraits) : ℕ → List Value → Serializer
  | _, [] => pure ()
  | i, v :: params => do
    if v.isNull then
      modify (traits.bytePos i) (· ||| traits.mask i)
    markNulls traits (i + 1) params

/-- The bitmap is cleared and marked in place, and then skipped. -/
def serializeStmtExecute (p : ComStmtExecutePacket) : Serializer := do
  serialize [.int1 0x17, .int4 p.statementId, .int1 p.flags, .int4 p.iterationCount]
  store (List.replicate p.nullBitmapTraits.byteCount 0)
  markNulls p.nullBitmapTraits 0 p.params
  advance p.nullBitmapTraits.byteCount
  serialize [.int1 p.newParamsBindFlag]
  writeAll (fun v => serializeStruct none (paramMetaFields v)) p.params
  writeAll serializeValue p.params

/-- What the client sends. The filler of an SSL request is a field of it. -/
inductive ClientMessage
  | sslRequest (p : SslRequest) (filler : { s : Bytes // s.length = 23 })
  | handshakeResponse (p : HandshakeResponsePacket)
  | authSwitchResponse (p : AuthSwitchResponsePacket)
  | comQuery (p : ComQueryPacket)
  | comStmtPrepare (p : ComStmtPreparePacket)
  | comStmtExecute (p : ComStmtExecutePacket)
  | comStmtClose (p : ComStmtClosePacket)
  | quit

def ClientMessage.getSize (caps : Capabilities) : ClientMessage → ℕ
  | .sslRequest p filler => getSizeStruct none
    [.int4 p.clientFlag, .int4 p.maxPacketSize, .int1 p.characterSet, .stringFixed filler]
  | .handshakeResponse p => getSizeHandshakeResponse caps p
  | .authSwitchResponse p => getSizeStruct none [.stringEof p.authPluginData]
  | .comQuery p => getSizeStruct (some 3) [.stringEof p.query]
  | .comStmtPrepare p => getSizeStruct (some 0x16) [.stringEof p.statement]
  | .comStmtExecute p => getSizeStmtExecute p
  | .comStmtClose p => getSizeStruct (some 0x19) [.int4 p.statementId]
  | .quit => getSizeStruct (some 0x01) []

def ClientMessage.serialize (caps : Capabilities) : ClientMessage → Serializer
  | .sslRequest p filler => serializeStruct none
    [.int4 p.clientFlag, .int4 p.maxPacketSize, .int1 p.characterSet, .stringFixed filler]
  | .handshakeResponse p => serializeHandshakeResponse caps p
  | .authSwitchResponse p => serializeStruct none [.stringEof p.authPluginData]
  | .comQuery p => serializeStruct (some 3) [.stringEof p.query]
  | .comStmtPrepare p => serializeStruct (some 0x16) [.stringEof p.statement]
  | .comStmtExecute p => serializeStmtExecute p
  | .comStmtClose p => serializeStruct (some 0x19) [.int4 p.statementId]
  | .quit => serializeStruct (some 0x01) []

/-- `serialize_message`: the buffer when all is written, unless something went past its end. -/
def serializeMessage (caps : Capabilities) (input : ClientMessage) : Option (Writer UInt8) :=
  (input.serialize caps (allocate (input.getSize caps))).map Prod.snd

/-- The bytes of a message. -/
def ClientMessage.bytes (caps : Capabilities) : ClientMessage → Bytes
  | .sslRequest p filler => serializeInt4 p.clientFlag ++ (serializeInt4 p.maxPacketSize ++
    (serializeInt1 p.characterSet ++ filler))
  | .handshakeResponse p => Serializable.serialize caps p
  | .authSwitchResponse p => Serializable.serialize caps p
  | .comQuery p => Serializable.serialize caps p
  | .comStmtPrepare p => Serializable.serialize caps p
  | .comStmtExecute p => Serializable.serialize caps p
  | .comStmtClose p => Serializable.serialize caps p
  | .quit => Serializable.serialize caps QuitPacket.mk

/-! ### The bitmap -/

lemma bytePos_lt {p : ComStmtExecutePacket} {i : ℕ} (hi : i < p.params.length) :
    p.nullBitmapTraits.bytePos i < p.nullBitmapTraits.byteCount := by
  simp only [NullBitmapTraits.bytePos, NullBitmapTraits.byteCount,
    ComStmtExecutePacket.nullBitmapTraits, stmtExecuteNullBitmapOffset]
  omega

/-- The marks are all within the bitmap. -/
lemma markNulls_staged {p : ComStmtExecutePacket} {pre bitmap : Bytes} {room i : ℕ}
    {params : List Value} (hb : bitmap.length = p.nullBitmapTraits.byteCount)
    (hi : i + params.length ≤ p.params.length) :
    markNulls p.nullBitmapTraits i params (staged pre bitmap room) =
      some ((), staged pre (setNulls p.nullBitmapTraits i params bitmap) room) := by
  induction params generalizing i bitmap with
  | nil => rfl
  | cons v params ih =>
    rw [List.length_cons] at hi
    have hlt : p.nullBitmapTraits.bytePos i < bitmap.length := hb ▸ bytePos_lt (by omega)
    rw [markNulls, setNulls]
    split_ifs with hv
    · have hcell : bitmap[p.nullBitmapTraits.bytePos i]? =
          some (bitmap.getD (p.nullBitmapTraits.bytePos i) 0) := by
        rw [List.getD_eq_getElem _ _ hlt, List.getElem?_eq_getElem hlt]
      rw [bind_some (modify_staged hcell _ room)]
      exact ih (by rw [List.length_set, hb]) (by omega)
    · exact ih hb (by omega)

lemma nullBitmap_writes (p : ComStmtExecutePacket) {rest : Serializer} {data : Bytes}
    (h : Writes rest data) :
    Writes (do
      store (List.replicate p.nullBitmapTraits.byteCount 0)
      markNulls p.nullBitmapTraits 0 p.params
      advance p.nullBitmapTraits.byteCount
      rest) (p.nullBitmap ++ data) := by
  intro pre room
  have hb : (List.replicate p.nullBitmapTraits.byteCount (0 : UInt8)).length =
      p.nullBitmapTraits.byteCount := List.length_replicate
  have hs := store_staged pre (List.replicate p.nullBitmapTraits.byteCount (0 : UInt8))
    (data.length + room)
  rw [hb] at hs
  rw [List.length_append, nullBitmap_length, Nat.add_assoc, bind_some hs,
    bind_some (markNulls_staged hb (by omega))]
  have ha := advance_staged pre p.nullBitmap (data.length + room)
  rw [nullBitmap_length] at ha
  rw [← List.append_assoc, ← h (pre ++ p.nullBitmap) room]
  exact bind_some ha

/-! ### Sizes and bytes -/

lemma handshakeResponse_writes (caps : Capabilities) (p : HandshakeResponsePacket) :
    Writes (serializeHandshakeResponse caps p) (Serializable.serialize caps p) := by
  have hone : ∀ f : Field, Writes (serialize [f]) f.bytes := fun f => by
    simpa using serialize_writes [f]
  unfold serializeHandshakeResponse
  by_cases hdb : caps.has Capabilities.clientConnectWithDb = true
  · simp only [hdb, if_true]
    refine ((serialize_writes _).bind ((hone _).bind (hone _))).of_eq ?_
    simp only [List.flatMap_cons, List.flatMap_nil, Field.bytes, List.append_nil, hdb, if_true,
      Serializable.serialize, List.append_assoc]
  · simp only [hdb]
    refine ((serialize_writes _).bind (hone _)).of_eq ?_
    simp only [List.flatMap_cons, List.flatMap_nil, Field.bytes, List.append_nil, hdb,
      Serializable.serialize, List.append_assoc]
    rfl

lemma stmtExecute_writes (caps : Capabilities) (p : ComStmtExecutePacket) :
    Writes (serializeStmtExecute p) (Serializable.serialize caps p) := by
  have hmeta : ∀ v, structBytes none (paramMetaFields v) = serializeParamMeta v := fun v => by
    simp [structBytes, paramMetaFields, Field.bytes, serializeParamMeta]
  have hparams := (writeAll_writes (fun v => serializeStruct_writes none (paramMetaFields v))
    p.params).bind (writeAll_writes serializeValue_writes p.params)
  refine ((serialize_writes _).bind (nullBitmap_writes p
    ((serialize_writes _).bind hparams))).of_eq ?_
  simp only [List.flatMap_cons, List.flatMap_nil, Field.bytes, List.append_nil, hmeta,
    Serializable.serialize, List.append_assoc]

lemma message_writes (caps : Capabilities) (m : ClientMessage) :
    Writes (m.serialize caps) (m.bytes caps) := by
  cases m with
  | sslRequest p filler =>
    rw [ClientMessage.serialize]
    refine (serializeStruct_writes _ _).of_eq ?_
    simp [structBytes, Field.bytes, ClientMessage.bytes]
  | handshakeResponse p => exact handshakeResponse_writes caps p
  | comStmtExecute p => exact stmtExecute_writes caps p
  | authSwitchResponse p | comQuery p | comStmtPrepare p | comStmtClose p | quit =>
    rw [ClientMessage.serialize]
    refine (serializeStruct_writes _ _).of_eq ?_
    simp [structBytes, Field.bytes, ClientMessage.bytes, Serializable.serialize, serializeInt1_eq]

/-- The two ways of computing a size agree. -/
lemma message_length (caps : Capabilities) (m : ClientMessage) :
    (m.bytes caps).length = m.getSize caps := by
  cases m with
  | sslRequest p filler =>
    simp [ClientMessage.bytes, ClientMessage.getSize, getSizeStruct, getSize, Field.getSize,
      filler.property]
  | handshakeResponse p =>
    refine (LawfulSerializable.serialize_length caps p).trans ?_
    simp only [Serializable.getSize, ClientMessage.getSize, getSizeHandshakeResponse, getSize,
      Field.getSize, Nat.add_zero]
    omega
  | comStmtExecute p =>
    refine (LawfulSerializable.serialize_length caps p).trans ?_
    simp only [Serializable.getSize, ClientMessage.getSize, getSizeStmtExecute, getSizeStruct,
      getSize, Field.getSize, Option.isSome_none, Bool.false_eq_true, if_false]
  | authSwitchResponse p | comQuery p | comStmtPrepare p | comStmtClose p | quit =>
    refine (LawfulSerializable.serialize_length caps _).trans ?_
    simp [Serializable.getSize, ClientMessage.getSize, getSizeStruct, getSize, Field.getSize]

/-- **The buffer that is allocated for a message is filled by it exactly**: nothing is written
past its end, nothing of it is left unwritten, and the position ends where the buffer does. -/
theorem serializeMessage_fills (caps : Capabilities) (m : ClientMessage) :
    Writes (m.serialize caps) (m.bytes caps) ∧ (m.bytes caps).length = m.getSize caps ∧
      ∃ w, serializeMessage caps m = some w ∧ w.cells.length = m.getSize caps ∧
        (∀ c ∈ w.cells, c.isSome) ∧ w.first = w.cells.length := by
  have hl := message_length caps m
  refine ⟨message_writes caps m, hl, ⟨(m.bytes caps).map some, m.getSize caps⟩, ?_, ?_, ?_, ?_⟩
  · rw [serializeMessage, (message_writes caps m).run_allocate hl]
    rfl
  · rw [List.length_map, hl]
  · intro c hc
    obtain ⟨b, -, rfl⟩ := List.mem_map.mp hc
    rfl
  · rw [List.length_map, hl]

end MysqlAsio.ClientMessages
