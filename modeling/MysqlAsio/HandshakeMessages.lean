import MysqlAsio.CommonMessages

/-!
The messages of a handshake.
-/

namespace MysqlAsio.HandshakeMessages

open MysqlAsio.Errors MysqlAsio.Serialization MysqlAsio.CommonMessages
open MysqlAsio.Lib.Decoding MysqlAsio.Lib.LittleEndian

/-! ### Greetings -/

/-- The data of the plugin is in a `static_string<8 + 0xff>`. -/
def authBufferCapacity : ℕ := 8 + 0xff

structure HandshakePacket where
  serverVersion : Bytes
  connectionId : UInt32
  authPluginData : Bytes
  capabilityFlags : UInt32
  characterSet : UInt8
  statusFlags : UInt16
  authPluginName : Bytes
  deriving DecidableEq, Repr

/-- The packet of a greeting that was not decoded. -/
def HandshakePacket.default : HandshakePacket := ⟨[], 0, [], 0, 0, 0, []⟩

def HandshakePacket.capabilities (h : HandshakePacket) : Capabilities :=
  ⟨h.capabilityFlags.toBitVec⟩

def auth1Length : ℕ := 8

/-- How many bytes the second part of the data of the plugin has. -/
def auth2Length (authPluginDataLen : UInt8) : ℕ :=
  (max 13 ((authPluginDataLen.toNat : ℤ) - auth1Length)).toNat % 256

/-- The two halves of the capabilities are apart, and so are the two parts of the data of the
plugin; of the second the last byte is left out. -/
def deserializeHandshakePacket : Deserializer HandshakePacket := do
  let serverVersion ← deserializeStringNull
  let connectionId ← deserializeInt4
  let authPluginDataPart1 ← deserializeStringFixed auth1Length
  let _filler ← deserializeInt1
  let capabilityFlagsLow ← deserializeStringFixed 2
  let characterSet ← deserializeInt1
  let statusFlags ← deserializeInt2
  let capabilityFlagsHigh ← deserializeStringFixed 2
  let capabilityFlags := UInt32.ofNat (ofBytes (capabilityFlagsLow ++ capabilityFlagsHigh))
  let cap : Capabilities := ⟨capabilityFlags.toBitVec⟩
  if !cap.has Capabilities.clientPluginAuth then throw .serverUnsupported
  else
    let authPluginDataLen ← deserializeInt1
    let _reserved ← deserializeStringFixed 10
    let auth2Data ← deserializeStringFixed (auth2Length authPluginDataLen)
    let authPluginName ← deserializeStringNull
    pure
      { serverVersion, connectionId, capabilityFlags, characterSet, statusFlags, authPluginName
        authPluginData :=
          authPluginDataPart1 ++ auth2Data.take (auth2Length authPluginDataLen - 1) }

/-- The greeting, or why there is none. An ERR packet whose error callers do not see leaves
the packet as it was. -/
def deserializeHandshake (buffer : Bytes) (info : ErrorInfo) :
    ErrorCode × HandshakePacket × ErrorInfo :=
  match deserializeMessageType ⟨buffer, .none⟩ with
  | .error err => (err, .default, info)
  | .ok (msgType, ctx) =>
    if msgType = handshakeProtocolVersion9 then
      (makeErrorCode .serverUnsupported, .default, info)
    else if msgType = errorPacketHeader then
      let (err, info) := processErrorPacket ctx info
      (err, .default, info)
    else if msgType ≠ handshakeProtocolVersion10 then
      (makeErrorCode .protocolValueError, .default, info)
    else
      match deserializeMessage deserializeHandshakePacket ctx with
      | .error err => (err, .default, info)
      | .ok output => (.success, output, info)

/-! ### Responses -/

structure SslRequest where
  clientFlag : UInt32
  maxPacketSize : UInt32
  characterSet : UInt8
  deriving DecidableEq, Repr

instance : Serializable SslRequest where
  getSize _ _ := 4 + 4 + 1 + 23
  serialize _ p := serializeInt4 p.clientFlag ++ serializeInt4 p.maxPacketSize ++
    serializeInt1 p.characterSet ++ List.replicate 23 0

instance : LawfulSerializable SslRequest where
  serialize_length _ p := by simp [Serializable.serialize, Serializable.getSize]

structure HandshakeResponsePacket where
  clientFlag : UInt32
  maxPacketSize : UInt32
  characterSet : UInt8
  username : Bytes
  authResponse : Bytes
  database : Bytes
  clientPluginName : Bytes
  deriving DecidableEq, Repr

/-- The database is there where the capabilities say so. -/
instance : Serializable HandshakeResponsePacket where
  getSize caps p := 4 + 4 + 1 + sizeStringNull p.username + sizeStringLenenc p.authResponse + 23 +
    (if caps.has Capabilities.clientConnectWithDb then sizeStringNull p.database else 0) +
    sizeStringNull p.clientPluginName
  serialize caps p := serializeInt4 p.clientFlag ++ serializeInt4 p.maxPacketSize ++
    serializeInt1 p.characterSet ++ List.replicate 23 0 ++ serializeStringNull p.username ++
    serializeStringLenenc p.authResponse ++
    (if caps.has Capabilities.clientConnectWithDb then serializeStringNull p.database else []) ++
    serializeStringNull p.clientPluginName

instance : LawfulSerializable HandshakeResponsePacket where
  serialize_length caps p := by
    simp only [Serializable.serialize, Serializable.getSize, List.length_append,
      serializeInt4_length, serializeInt1_length, List.length_replicate, stringLenenc_length,
      serializeStringNull, sizeStringNull]
    split_ifs <;> simp <;> omega

/-! ### Authentication -/

structure AuthSwitchRequestPacket where
  pluginName : Bytes
  authPluginData : Bytes
  deriving DecidableEq, Repr

/-- The last byte of the data, which is asserted to be NUL, is left out. -/
def deserializeAuthSwitchRequestPacket : Deserializer AuthSwitchRequestPacket := do
  let pluginName ← deserializeStringNull
  let authData ← deserializeStringEof
  pure ⟨pluginName, authData.dropLast⟩

lemma authSwitchRequest_failsOnly :
    FailsOnly deserializeAuthSwitchRequestPacket .incompleteMessage :=
  stringNull_failsOnly.bind fun _ => (stringEof_failsOnly _).bind fun _ => failsOnly_pure _ _

structure AuthSwitchResponsePacket where
  authPluginData : Bytes
  deriving DecidableEq, Repr

instance : Serializable AuthSwitchResponsePacket where
  getSize _ p := sizeStringEof p.authPluginData
  serialize _ p := serializeStringEof p.authPluginData

instance : LawfulSerializable AuthSwitchResponsePacket where
  serialize_length _ _ := rfl

structure AuthMoreDataPacket where
  authPluginData : Bytes
  deriving DecidableEq, Repr

def deserializeAuthMoreDataPacket : Deserializer AuthMoreDataPacket := do
  let authPluginData ← deserializeStringEof
  pure ⟨authPluginData⟩

lemma authMoreData_failsOnly : FailsOnly deserializeAuthMoreDataPacket .incompleteMessage :=
  (stringEof_failsOnly _).bind fun _ => failsOnly_pure _ _

def fastAuthCompleteChallenge : Bytes := [3]

end MysqlAsio.HandshakeMessages
