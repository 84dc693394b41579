import MysqlAsio.Serialization

/-!
The messages every part of the protocol uses: frame headers, OK and ERR packets, column
definitions and the quit command.
-/

namespace MysqlAsio.CommonMessages

open MysqlAsio.Errors MysqlAsio.Serialization MysqlAsio.Lib.Decoding

def maxPacketSize : ℕ := 0xffffff

def handshakeProtocolVersion9 : UInt8 := 9
def handshakeProtocolVersion10 : UInt8 := 10
def errorPacketHeader : UInt8 := 0xff
def okPacketHeader : UInt8 := 0x00
def eofPacketHeader : UInt8 := 0xfe
def authSwitchRequestHeader : UInt8 := 0xfe
def authMoreDataHeader : UInt8 := 0x01

/-! ### Frame headers -/

structure PacketHeader where
  packetSize : UInt32
  sequenceNumber : UInt8
  deriving DecidableEq, Repr

def deserializePacketHeader : Deserializer PacketHeader := do
  let packetSize ← deserializeInt3
  let sequenceNumber ← deserializeInt1
  pure ⟨packetSize, sequenceNumber⟩

def serializePacketHeader (h : PacketHeader) : Bytes :=
  serializeInt3 h.packetSize ++ serializeInt1 h.sequenceNumber

@[simp] lemma serializePacketHeader_length (h : PacketHeader) :
    (serializePacketHeader h).length = 4 := by
  simp [serializePacketHeader]

lemma packetHeader_reads {h : PacketHeader} (hs : h.packetSize.toNat < 2 ^ 24) :
    Reads deserializePacketHeader (serializePacketHeader h) h :=
  (int3_reads hs).bind ((int1_reads h.sequenceNumber).bind_pure (reads_pure _))

/-! ### OK packets -/

structure OkPacket where
  affectedRows : UInt64
  lastInsertId : UInt64
  statusFlags : UInt16
  warnings : UInt16
  info : Bytes
  deriving DecidableEq, Repr

def OkPacket.default : OkPacket := ⟨0, 0, 0, 0, []⟩

/-- The text is optional: where it is omitted, the output keeps the one it has. -/
def deserializeOkPacket (output : OkPacket) : Deserializer OkPacket := do
  let affectedRows ← deserializeIntLenenc
  let lastInsertId ← deserializeIntLenenc
  let statusFlags ← deserializeInt2
  let warnings ← deserializeInt2
  let left ← get
  if left = [] then
    pure { output with affectedRows, lastInsertId, statusFlags, warnings }
  else do
    let info ← deserializeStringLenenc
    pure { affectedRows, lastInsertId, statusFlags, warnings, info }

/-- What a length is left at that was to be read into `output`: one that is cut short behind its
first byte is 0. -/
def intLenencLeft (output : UInt64) (s : Bytes) : UInt64 := if s = [] then output else 0

/-- What the output is left as, whether or not it was read: its fields are read into one by one,
up to the one that fails. -/
def okPacketLeft (output : OkPacket) (s : Bytes) : OkPacket :=
  match deserializeIntLenenc s with
  | .error _ => { output with affectedRows := intLenencLeft output.affectedRows s }
  | .ok (affectedRows, s) =>
    match deserializeIntLenenc s with
    | .error _ =>
      { output with affectedRows, lastInsertId := intLenencLeft output.lastInsertId s }
    | .ok (lastInsertId, s) =>
      match deserializeInt2 s with
      | .error _ => { output with affectedRows, lastInsertId }
      | .ok (statusFlags, s) =>
        match deserializeInt2 s with
        | .error _ => { output with affectedRows, lastInsertId, statusFlags }
        | .ok (warnings, s) =>
          match deserializeStringLenenc s with
          | .error _ => { output with affectedRows, lastInsertId, statusFlags, warnings }
          | .ok (info, _) => { affectedRows, lastInsertId, statusFlags, warnings, info }

/-- The body of an OK packet as a server encodes it, after its header byte. The text may be
omitted when it is empty. -/
def encodeOkPacket (ok : OkPacket) (omitInfo : Bool) : Bytes :=
  serializeIntLenenc ok.affectedRows ++ (serializeIntLenenc ok.lastInsertId ++
    (serializeInt2 ok.statusFlags ++ (serializeInt2 ok.warnings ++
      if omitInfo then [] else serializeStringLenenc ok.info)))

/-- The text of a packet: what it carries, or what was there before. -/
def OkPacket.withInfo (ok output : OkPacket) (omitInfo : Bool) : OkPacket :=
  { ok with info := if omitInfo then output.info else ok.info }

lemma serializeStringLenenc_ne_nil (s : Bytes) : serializeStringLenenc s ≠ [] := by
  have h := stringLenenc_length s
  have : 1 ≤ sizeIntLenenc (.ofNat s.length) := by unfold sizeIntLenenc; split_ifs <;> omega
  intro hnil
  rw [hnil] at h
  simp only [sizeStringLenenc, List.length_nil] at h
  omega

lemma get_bind {α : Type} (f : Bytes → Deserializer α) (s : Bytes) :
    ((get : Deserializer Bytes) >>= f) s = f s s := rfl

theorem okPacket_decodes (output : OkPacket) {ok : OkPacket} (omitInfo : Bool)
    (h : ok.info.length < 2 ^ 64) :
    deserializeOkPacket output (encodeOkPacket ok omitInfo) =
      .ok (ok.withInfo output omitInfo, []) := by
  unfold deserializeOkPacket encodeOkPacket
  rw [bind_ok (intLenenc_reads _ _), bind_ok (intLenenc_reads _ _), bind_ok (int2_reads _ _),
    bind_ok (int2_reads _ _), get_bind]
  cases omitInfo with
  | true => rfl
  | false =>
    simp only [Bool.false_eq_true, if_false]
    rw [if_neg (serializeStringLenenc_ne_nil _), bind_ok (stringLenenc_reads h).exact]
    rfl

/-- A packet that was read is what is left, whatever follows it. -/
lemma okPacketLeft_eq {output ok : OkPacket} {s t : Bytes}
    (h : deserializeOkPacket output s = .ok (ok, t)) : okPacketLeft output s = ok := by
  unfold deserializeOkPacket at h
  obtain ⟨affectedRows, s1, h1, h⟩ := of_bind_ok h
  obtain ⟨lastInsertId, s2, h2, h⟩ := of_bind_ok h
  obtain ⟨statusFlags, s3, h3, h⟩ := of_bind_ok h
  obtain ⟨warnings, s4, h4, h⟩ := of_bind_ok h
  rw [get_bind] at h
  simp only [okPacketLeft, h1, h2, h3, h4]
  by_cases hempty : s4 = []
  -- no text: reading it fails, and leaves the one the output has
  · rw [if_pos hempty] at h
    cases h
    rw [hempty]
    rfl
  · rw [if_neg hempty] at h
    obtain ⟨info, s5, h5, h⟩ := of_bind_ok h
    cases h
    rw [h5]

lemma okPacket_failsOnly (output : OkPacket) :
    FailsOnly (deserializeOkPacket output) .incompleteMessage := by
  refine intLenenc_failsOnly.bind fun _ => intLenenc_failsOnly.bind fun _ =>
    (fixedSizeInt_failsOnly _ 2).bind fun _ => (fixedSizeInt_failsOnly _ 2).bind fun _ => ?_
  intro s e h
  rw [get_bind] at h
  split_ifs at h
  · cases h
  · exact stringLenenc_failsOnly.bind (fun _ => failsOnly_pure _ _) s e h

/-! ### ERR packets -/

structure ErrPacket where
  errorCode : UInt16
  sqlStateMarker : Bytes
  sqlState : Bytes
  errorMessage : Bytes
  deriving DecidableEq, Repr

def deserializeErrPacket : Deserializer ErrPacket := do
  let errorCode ← deserializeInt2
  let sqlStateMarker ← deserializeStringFixed 1
  let sqlState ← deserializeStringFixed 5
  let errorMessage ← deserializeStringEof
  pure ⟨errorCode, sqlStateMarker, sqlState, errorMessage⟩

/-- The body of an ERR packet as a server encodes it, after its header byte. -/
def encodeErrPacket (e : ErrPacket) : Bytes :=
  serializeInt2 e.errorCode ++ (e.sqlStateMarker ++ (e.sqlState ++ e.errorMessage))

/-- What an ERR packet reports: its own error where it does not decode, else the number the
server chose, whatever it is, and its text. -/
def processErrorPacket (ctx : DeserializationContext) (info : ErrorInfo) :
    ErrorCode × ErrorInfo :=
  match deserializeMessage deserializeErrPacket ctx with
  | .error code => (code, info)
  | .ok packet => (makeErrorCode (.server packet.errorCode), ⟨packet.errorMessage⟩)

lemma errPacket_failsOnly : FailsOnly deserializeErrPacket .incompleteMessage := by
  refine (fixedSizeInt_failsOnly _ 2).bind fun _ => (takeN_failsOnly _ 1).bind fun _ =>
    (takeN_failsOnly _ 5).bind fun _ => ?_
  intro s e h
  cases h

theorem errPacket_decodes {e : ErrPacket} (hm : e.sqlStateMarker.length = 1)
    (hs : e.sqlState.length = 5) :
    deserializeErrPacket (encodeErrPacket e) = .ok (e, []) := by
  unfold deserializeErrPacket encodeErrPacket deserializeStringFixed
  rw [bind_ok (int2_reads _ _), bind_ok (takeN_reads' _ hm _), bind_ok (takeN_reads' _ hs _)]
  rfl

lemma processErrorPacket_encode {e : ErrPacket} (hm : e.sqlStateMarker.length = 1)
    (hs : e.sqlState.length = 5) (caps : Capabilities) (info : ErrorInfo) :
    processErrorPacket ⟨encodeErrPacket e, caps⟩ info =
      (makeErrorCode (.server e.errorCode), ⟨e.errorMessage⟩) := by
  have hd : deserializeMessage deserializeErrPacket ⟨encodeErrPacket e, caps⟩ = .ok e :=
    deserializeMessage_ok (errPacket_decodes hm hs)
  simp only [processErrorPacket, hd]

/-! ### Column definitions -/

/-- `enum class protocol_field_type : std::uint8_t`; `other` are the values without a name. -/
inductive ProtocolFieldType
  | decimal | tiny | short | long | float | double | null | timestamp | longlong | int24
  | date | time | datetime | year | varchar | bit | newdecimal | enum | set | tinyBlob
  | mediumBlob | longBlob | blob | varString | string | geometry
  | other (code : UInt8)
  deriving DecidableEq, Repr

def ProtocolFieldType.code : ProtocolFieldType → UInt8
  | .decimal => 0x00
  | .tiny => 0x01
  | .short => 0x02
  | .long => 0x03
  | .float => 0x04
  | .double => 0x05
  | .null => 0x06
  | .timestamp => 0x07
  | .longlong => 0x08
  | .int24 => 0x09
  | .date => 0x0a
  | .time => 0x0b
  | .datetime => 0x0c
  | .year => 0x0d
  | .varchar => 0x0f
  | .bit => 0x10
  | .newdecimal => 0xf6
  | .enum => 0xf7
  | .set => 0xf8
  | .tinyBlob => 0xf9
  | .mediumBlob => 0xfa
  | .longBlob => 0xfb
  | .blob => 0xfc
  | .varString => 0xfd
  | .string => 0xfe
  | .geometry => 0xff
  | .other code => code

/-- `static_cast<protocol_field_type>`. -/
def ProtocolFieldType.ofCode (code : UInt8) : ProtocolFieldType :=
  match code.toNat with
  | 0x00 => .decimal
  | 0x01 => .tiny
  | 0x02 => .short
  | 0x03 => .long
  | 0x04 => .float
  | 0x05 => .double
  | 0x06 => .null
  | 0x07 => .timestamp
  | 0x08 => .longlong
  | 0x09 => .int24
  | 0x0a => .date
  | 0x0b => .time
  | 0x0c => .datetime
  | 0x0d => .year
  | 0x0f => .varchar
  | 0x10 => .bit
  | 0xf6 => .newdecimal
  | 0xf7 => .enum
  | 0xf8 => .set
  | 0xf9 => .tinyBlob
  | 0xfa => .mediumBlob
  | 0xfb => .longBlob
  | 0xfc => .blob
  | 0xfd => .varString
  | 0xfe => .string
  | 0xff => .geometry
  | _ => .other code

/-- `enum class collation : std::uint16_t`, by number. -/
structure Collation where
  id : UInt16
  deriving DecidableEq, Repr

structure ColumnDefinitionPacket where
  catalog : Bytes
  schema : Bytes
  table : Bytes
  orgTable : Bytes
  name : Bytes
  orgName : Bytes
  characterSet : Collation
  columnLength : UInt32
  type : ProtocolFieldType
  flags : UInt16
  decimals : UInt8
  deriving DecidableEq, Repr

def deserializeColumnDefinitionPacket : Deserializer ColumnDefinitionPacket := do
  let catalog ← deserializeStringLenenc
  let schema ← deserializeStringLenenc
  let table ← deserializeStringLenenc
  let orgTable ← deserializeStringLenenc
  let name ← deserializeStringLenenc
  let orgName ← deserializeStringLenenc
  let _lengthOfFixedFields ← deserializeIntLenenc
  let characterSet ← deserializeInt2
  let columnLength ← deserializeInt4
  let type ← deserializeInt1
  let flags ← deserializeInt2
  let decimals ← deserializeInt1
  let _finalPadding ← deserializeInt2
  pure ⟨catalog, schema, table, orgTable, name, orgName, ⟨characterSet⟩, columnLength,
    .ofCode type, flags, decimals⟩

/-- A column definition as a server encodes it. -/
def encodeColumnDefinition (c : ColumnDefinitionPacket) : Bytes :=
  serializeStringLenenc c.catalog ++ (serializeStringLenenc c.schema ++
    (serializeStringLenenc c.table ++ (serializeStringLenenc c.orgTable ++
      (serializeStringLenenc c.name ++ (serializeStringLenenc c.orgName ++
        (serializeIntLenenc 0x0c ++ (serializeInt2 c.characterSet.id ++
          (serializeInt4 c.columnLength ++ (serializeInt1 c.type.code ++
            (serializeInt2 c.flags ++ (serializeInt1 c.decimals ++ serializeInt2 0)))))))))))

/-- The strings of a column definition have the length of strings, and its type a name
wherever its number has one. -/
structure ColumnDefinitionPacket.WellFormed (c : ColumnDefinitionPacket) : Prop where
  catalog : c.catalog.length < 2 ^ 64
  schema : c.schema.length < 2 ^ 64
  table : c.table.length < 2 ^ 64
  orgTable : c.orgTable.length < 2 ^ 64
  name : c.name.length < 2 ^ 64
  orgName : c.orgName.length < 2 ^ 64
  type : .ofCode c.type.code = c.type

theorem columnDefinition_reads {c : ColumnDefinitionPacket} (h : c.WellFormed) :
    Reads deserializeColumnDefinitionPacket (encodeColumnDefinition c) c := by
  have hlast : Reads (deserializeInt2 >>= fun _ => pure c : Deserializer ColumnDefinitionPacket)
      (serializeInt2 0) c := (int2_reads 0).bind_pure (reads_pure c)
  have hc : (⟨c.catalog, c.schema, c.table, c.orgTable, c.name, c.orgName, ⟨c.characterSet.id⟩,
      c.columnLength, .ofCode c.type.code, c.flags, c.decimals⟩ : ColumnDefinitionPacket) = c := by
    rw [h.type]
  refine (stringLenenc_reads h.catalog).bind ((stringLenenc_reads h.schema).bind
    ((stringLenenc_reads h.table).bind ((stringLenenc_reads h.orgTable).bind
      ((stringLenenc_reads h.name).bind ((stringLenenc_reads h.orgName).bind
        ((intLenenc_reads _).bind ((int2_reads _).bind ((int4_reads _).bind
          ((int1_reads _).bind ((int2_reads _).bind ((int1_reads _).bind ?_)))))))))))
  rw [hc]
  exact hlast

lemma columnDefinition_failsOnly :
    FailsOnly deserializeColumnDefinitionPacket .incompleteMessage := by
  refine stringLenenc_failsOnly.bind fun _ => stringLenenc_failsOnly.bind fun _ =>
    stringLenenc_failsOnly.bind fun _ => stringLenenc_failsOnly.bind fun _ =>
    stringLenenc_failsOnly.bind fun _ => stringLenenc_failsOnly.bind fun _ =>
    intLenenc_failsOnly.bind fun _ => (fixedSizeInt_failsOnly _ 2).bind fun _ =>
    (fixedSizeInt_failsOnly _ 4).bind fun _ => (fixedSizeInt_failsOnly _ 1).bind fun _ =>
    (fixedSizeInt_failsOnly _ 2).bind fun _ => (fixedSizeInt_failsOnly _ 1).bind fun _ =>
    (fixedSizeInt_failsOnly _ 2).bind fun _ => failsOnly_pure _ _

/-- `field_metadata`: what the client keeps of a column. -/
structure FieldMetadata where
  msg : ColumnDefinitionPacket
  deriving DecidableEq, Repr

def columnFlagUnsigned : UInt16 := 32

def FieldMetadata.protocolType (f : FieldMetadata) : ProtocolFieldType := f.msg.type
def FieldMetadata.decimals (f : FieldMetadata) : ℕ := f.msg.decimals.toNat
def FieldMetadata.isUnsigned (f : FieldMetadata) : Bool := f.msg.flags &&& columnFlagUnsigned ≠ 0

/-! ### Quit -/

structure QuitPacket where

instance : Serializable QuitPacket where
  getSize _ _ := 1
  serialize _ _ := serializeInt1 1

instance : LawfulSerializable QuitPacket where
  serialize_length _ _ := by simp [Serializable.serialize, Serializable.getSize]

end MysqlAsio.CommonMessages
