import MysqlAsio.Framing
import MysqlAsio.HandshakeMessages
import MysqlAsio.WireTypes
import MysqlAsio.Lib.Assertions

/-!
The messages of a handshake again, decoded with the assertions of the source.

A context is a list of bytes, so that its end is never before its beginning when it is
constructed; every advance asserts that this stays so.
-/

namespace MysqlAsio.Asserting

open MysqlAsio.Errors MysqlAsio.Serialization MysqlAsio.CommonMessages MysqlAsio.HandshakeMessages
open MysqlAsio.Streams MysqlAsio.Channels MysqlAsio.Framing MysqlAsio.WireTypes
open MysqlAsio.Lib.Decoding MysqlAsio.Lib.LittleEndian MysqlAsio.Lib.Assertions

abbrev Deserializer := AssertingDecoder UInt8 Errc

/-! ### The primitive types -/

def deserializeFixedSizeInt (size : ℕ) : Deserializer ℕ :=
  ofBytes <$> takeAdvance .incompleteMessage size

def deserializeInt1 : Deserializer UInt8 := UInt8.ofNat <$> deserializeFixedSizeInt 1
def deserializeInt2 : Deserializer UInt16 := UInt16.ofNat <$> deserializeFixedSizeInt 2
def deserializeInt3 : Deserializer UInt32 := UInt32.ofNat <$> deserializeFixedSizeInt 3
def deserializeInt4 : Deserializer UInt32 := UInt32.ofNat <$> deserializeFixedSizeInt 4

def deserializeStringFixed (n : ℕ) : Deserializer Bytes := takeAdvance .incompleteMessage n

/-- `set_first` asserts what `advance` does. -/
def deserializeStringNull : Deserializer Bytes := do
  let first ← get
  let value := first.takeWhile (· ≠ 0)
  if value.length = first.length then throw .incompleteMessage
  else
    advance (value.length + 1)
    pure value

def deserializeStringEof : Deserializer Bytes := do
  let first ← get
  advance first.length
  pure first

lemma safe_fixedSizeInt {T : Type} (f : ℕ → T) (size : ℕ) :
    Safe (f <$> deserializeFixedSizeInt size) (f <$> Serialization.deserializeFixedSizeInt size) :=
  (safe_takeAdvance _ size).map.map

lemma safe_int1 : Safe deserializeInt1 Serialization.deserializeInt1 := safe_fixedSizeInt _ 1
lemma safe_int2 : Safe deserializeInt2 Serialization.deserializeInt2 := safe_fixedSizeInt _ 2
lemma safe_int3 : Safe deserializeInt3 Serialization.deserializeInt3 := safe_fixedSizeInt _ 3
lemma safe_int4 : Safe deserializeInt4 Serialization.deserializeInt4 := safe_fixedSizeInt _ 4

lemma safe_stringFixed (n : ℕ) :
    Safe (deserializeStringFixed n) (Serialization.deserializeStringFixed n) :=
  safe_takeAdvance _ n

lemma safe_stringNull : Safe deserializeStringNull Serialization.deserializeStringNull := by
  intro s
  have hle : (s.takeWhile (· ≠ 0)).length ≤ s.length := (List.takeWhile_sublist _).length_le
  rw [deserializeStringNull, asserting_get_bind, Serialization.deserializeStringNull]
  split_ifs with h
  · rfl
  · rw [advance_bind (by omega)]
    rfl

lemma safe_stringEof : Safe deserializeStringEof Serialization.deserializeStringEof := by
  intro s
  rw [deserializeStringEof, asserting_get_bind, advance_bind le_rfl, List.drop_length]
  rfl

/-! ### Packets -/

def deserializePacketHeader : Deserializer PacketHeader := do
  let packetSize ← deserializeInt3
  let sequenceNumber ← deserializeInt1
  pure ⟨packetSize, sequenceNumber⟩

def deserializeErrPacket : Deserializer ErrPacket := do
  let errorCode ← deserializeInt2
  let sqlStateMarker ← deserializeStringFixed 1
  let sqlState ← deserializeStringFixed 5
  let errorMessage ← deserializeStringEof
  pure ⟨errorCode, sqlStateMarker, sqlState, errorMessage⟩

/-- `size_check` of the string that the data of the plugin is appended to. -/
def sizeCheck (sz : ℕ) : Deserializer Unit := assertion (sz ≤ authBufferCapacity)

def deserializeHandshakePacket : Deserializer HandshakePacket := do
  let serverVersion ← deserializeStringNull
  let connectionId ← deserializeInt4
  let authPluginDataPart1 ← deserializeStringFixed auth1Length
  let _filler ← deserializeInt1
  let capabilityFlagsLow ← deserializeStringFixed 2
  let characterSet ← deserializeInt1
  let statusFlags ← deserializeInt2
  let capabilityFlagsHigh ← deserializeStringFixed 2
  let capabilityFlags := UInt32.ofNat (ofBytes (capabilityFlagsLow ++ capabilityFlagsHigh))
  let cap : Capabilities := ⟨capabilityFlags.toBitVec⟩
  if !cap.has Capabilities.clientPluginAuth then throw .serverUnsupported
  else
    let authPluginDataLen ← deserializeInt1
    let _reserved ← deserializeStringFixed 10
    let auth2Data ← deserializeStringFixed (auth2Length authPluginDataLen)
    let authPluginName ← deserializeStringNull
    sizeCheck auth1Length
    sizeCheck (auth1Length + (auth2Length authPluginDataLen - 1))
    pure
      { serverVersion, connectionId, capabilityFlags, characterSet, statusFlags, authPluginName
        authPluginData :=
          authPluginDataPart1 ++ auth2Data.take (auth2Length authPluginDataLen - 1) }

/-- The last byte of the data is asserted to be NUL, where there is one. -/
def deserializeAuthSwitchRequestPacket : Deserializer AuthSwitchRequestPacket := do
  let pluginName ← deserializeStringNull
  let authData ← deserializeStringEof
  assertion (authData ≠ [] → authData.getLast? = some 0)
  pure ⟨pluginName, authData.dropLast⟩

def deserializeAuthMoreDataPacket : Deserializer AuthMoreDataPacket := do
  let authPluginData ← deserializeStringEof
  pure ⟨authPluginData⟩

lemma safe_packetHeader : Safe deserializePacketHeader CommonMessages.deserializePacketHeader :=
  safe_int3.bind fun _ => safe_int1.bind fun _ => safe_pure _

lemma safe_errPacket : Safe deserializeErrPacket CommonMessages.deserializeErrPacket :=
  safe_int2.bind fun _ => (safe_stringFixed 1).bind fun _ => (safe_stringFixed 5).bind fun _ =>
    safe_stringEof.bind fun _ => safe_pure _

/-- The length of the second part is one byte, and the string has room for any. -/
lemma auth2Length_fits (authPluginDataLen : UInt8) :
    auth1Length + (auth2Length authPluginDataLen - 1) ≤ authBufferCapacity := by
  have hlt : auth2Length authPluginDataLen < 256 := Nat.mod_lt _ (by norm_num)
  rw [auth1Length, authBufferCapacity]
  omega

lemma safe_handshakePacket :
    Safe deserializeHandshakePacket HandshakeMessages.deserializeHandshakePacket := by
  refine safe_stringNull.bind fun serverVersion => safe_int4.bind fun connectionId =>
    (safe_stringFixed _).bind fun part1 => safe_int1.bind fun _ =>
    (safe_stringFixed 2).bind fun low => safe_int1.bind fun characterSet =>
    safe_int2.bind fun statusFlags => (safe_stringFixed 2).bind fun high => ?_
  dsimp only
  split_ifs
  · exact safe_throw _
  · refine safe_int1.bind fun authPluginDataLen => (safe_stringFixed 10).bind fun _ =>
      (safe_stringFixed _).bind fun auth2Data => safe_stringNull.bind fun authPluginName => ?_
    exact Safe.after_assertion (Safe.after_assertion (safe_pure _) (auth2Length_fits _)) (by decide)

lemma safe_authMoreData :
    Safe deserializeAuthMoreDataPacket HandshakeMessages.deserializeAuthMoreDataPacket :=
  safe_stringEof.bind fun _ => safe_pure _

/-- The data of a switch is empty, or a NUL is the last of it. -/
def SwitchTerminated (s : Bytes) : Prop :=
  ∀ pluginName authData, NoNul pluginName → s = serializeStringNull pluginName ++ authData →
    authData ≠ [] → authData.getLast? = some 0

/-- The assertion on a switch is on bytes that the server chooses. -/
lemma guarded_authSwitch : Guarded SwitchTerminated deserializeAuthSwitchRequestPacket
    HandshakeMessages.deserializeAuthSwitchRequestPacket := by
  have hdata : ∀ pluginName, Guarded (fun s => s ≠ [] → s.getLast? = some 0)
      (do
        let authData ← deserializeStringEof
        assertion (authData ≠ [] → authData.getLast? = some 0)
        pure ⟨pluginName, authData.dropLast⟩ : Deserializer AuthSwitchRequestPacket)
      (do
        let authData ← Serialization.deserializeStringEof
        pure ⟨pluginName, authData.dropLast⟩ : Serialization.Deserializer _) := by
    intro pluginName
    refine (safe_stringEof.guarded.bind fun authData =>
      guarded_assertion_then (safe_pure _)).congr fun s => ?_
    simp [Serialization.deserializeStringEof]
  refine (safe_stringNull.guarded.bind hdata).congr fun s => ?_
  simp only [true_and, stringNull_ok_iff, SwitchTerminated, and_imp]

/-! ### Messages -/

def deserializeMessage {α : Type} (d : Deserializer α) (ctx : DeserializationContext) :
    Option (Except ErrorCode α) :=
  match d ctx.first with
  | none => none
  | some (.error e) => some (.error (makeErrorCode e))
  | some (.ok (output, rest)) =>
    some (if rest = [] then .ok output else .error (makeErrorCode .extraBytes))

def deserializeMessageType (ctx : DeserializationContext) :
    Option (Except ErrorCode (UInt8 × DeserializationContext)) :=
  match deserializeInt1 ctx.first with
  | none => none
  | some (.error e) => some (.error (makeErrorCode e))
  | some (.ok (msgType, rest)) => some (.ok (msgType, { ctx with first := rest }))

def processErrorPacket (ctx : DeserializationContext) (info : ErrorInfo) :
    Option (ErrorCode × ErrorInfo) :=
  match deserializeMessage deserializeErrPacket ctx with
  | none => none
  | some (.error code) => some (code, info)
  | some (.ok packet) => some (makeErrorCode (.server packet.errorCode), ⟨packet.errorMessage⟩)

lemma guarded_message {α : Type} {I : Bytes → Prop} {d : Deserializer α}
    {d' : Serialization.Deserializer α} (h : Guarded I d d') :
    Guarded (fun ctx => I ctx.first) (deserializeMessage d)
      (Serialization.deserializeMessage d') where
  holds := by
    intro ctx hi
    have hd := h.holds hi
    rw [deserializeMessage, Serialization.deserializeMessage, hd]
    rcases d' ctx.first with e | ⟨output, rest⟩ <;> rfl
  fails := by
    intro ctx hi
    rw [deserializeMessage, h.fails hi]

lemma safe_message {α : Type} {d : Deserializer α} {d' : Serialization.Deserializer α}
    (h : Safe d d') : Safe (deserializeMessage d) (Serialization.deserializeMessage d') :=
  fun _ => (guarded_message h.guarded).holds trivial

lemma safe_messageType : Safe deserializeMessageType Serialization.deserializeMessageType := by
  intro ctx
  rw [deserializeMessageType, safe_int1, Serialization.deserializeMessageType]
  rcases Serialization.deserializeInt1 ctx.first with e | ⟨msgType, rest⟩ <;> rfl

lemma processErrorPacket_safe (ctx : DeserializationContext) (info : ErrorInfo) :
    processErrorPacket ctx info = some (CommonMessages.processErrorPacket ctx info) := by
  rw [processErrorPacket, safe_message safe_errPacket, CommonMessages.processErrorPacket]
  rcases Serialization.deserializeMessage CommonMessages.deserializeErrPacket ctx with code | packet
    <;> rfl

/-! ### Reading -/

/-- It is asserted that a header is always decoded. -/
def processHeaderRead (ch : Channel) (headerBuffer : Bytes) :
    Option (Except ErrorCode ℕ × Channel) :=
  match deserializePacketHeader headerBuffer with
  | some (.ok (header, _)) =>
    let (matching, ch) := ch.processSequenceNumber header.sequenceNumber
    some (if !matching then (.error (makeErrorCode .sequenceNumberMismatch), ch)
      else (.ok header.packetSize.toNat, ch))
  | _ => none

def readFrame (ch : Channel) (buffer : Bytes) : Option (Bytes × Except ErrorCode ℕ × Channel) :=
  let (headerBuffer, err, ch) := ch.readImpl 4
  if err.failed then some (buffer, .error err, ch)
  else
    match processHeaderRead ch headerBuffer with
    | none => none
    | some (.error err, ch) => some (buffer, .error err, ch)
    | some (.ok sizeToRead, ch) =>
      let (data, err, ch) := ch.readImpl sizeToRead
      let buffer := buffer ++ data ++ List.replicate (sizeToRead - data.length) 0
      some (if err.failed then (buffer, .error err, ch) else (buffer, .ok sizeToRead, ch))

lemma processHeaderRead_safe (ch : Channel) {headerBuffer : Bytes} (h : headerBuffer.length = 4) :
    processHeaderRead ch headerBuffer = some (ch.processHeaderRead headerBuffer) := by
  obtain ⟨header, hs, rfl⟩ := Channel.eq_serializePacketHeader h
  have hr := (packetHeader_reads hs).exact
  rw [processHeaderRead, safe_packetHeader, hr, Channel.processHeaderRead, hr]

lemma readFrame_safe (ch : Channel) (buffer : Bytes) :
    readFrame ch buffer = some (ch.readFrame buffer) := by
  rw [readFrame, Channel.readFrame]
  rcases ch.readImpl_cases 4 with ⟨headerBuffer, rest, -, hl, hr⟩ | ⟨data, e, rest, he, -, hr⟩
  · rw [hr]
    simp only [success_failed, Bool.false_eq_true, if_false, processHeaderRead_safe _ hl]
    rcases Channel.processHeaderRead _ headerBuffer with ⟨err | sizeToRead, ch⟩ <;> rfl
  · rw [hr]
    simp only [he, if_true]

def readLoop (ch : Channel) (buffer : Bytes) : Option (Bytes × ErrorCode × Channel) :=
  match _h : readFrame ch buffer with
  | none => none
  | some (buffer, .error err, ch) => some (buffer, err, ch)
  | some (buffer, .ok sizeToRead, ch) =>
    if sizeToRead = maxPacketSize then readLoop ch buffer else some (buffer, .success, ch)
termination_by ch.pending.length
decreasing_by
  rw [readFrame_safe] at _h
  exact Channel.readFrame_pending_lt (Option.some.inj _h)

/-- `channel.read`. -/
def read (ch : Channel) : Option (Bytes × ErrorCode × Channel) := readLoop ch []

lemma readLoop_error {ch ch' : Channel} {buffer buffer' : Bytes} {err : ErrorCode}
    (h : ch.readFrame buffer = (buffer', .error err, ch')) :
    readLoop ch buffer = some (buffer', err, ch') := by
  have hs := readFrame_safe ch buffer
  rw [h] at hs
  rw [readLoop]
  split
  · next h' => rw [hs] at h'; cases h'
  · next h' => rw [hs] at h'; cases h'; rfl
  · next h' => rw [hs] at h'; cases h'

lemma readLoop_ok {ch ch' : Channel} {buffer buffer' : Bytes} {size : ℕ}
    (h : ch.readFrame buffer = (buffer', .ok size, ch')) :
    readLoop ch buffer =
      if size = maxPacketSize then readLoop ch' buffer' else some (buffer', .success, ch') := by
  have hs := readFrame_safe ch buffer
  rw [h] at hs
  rw [readLoop]
  split
  · next h' => rw [hs] at h'; cases h'
  · next h' => rw [hs] at h'; cases h'
  · next h' => rw [hs] at h'; cases h'; rfl

lemma readLoop_safe (ch : Channel) (buffer : Bytes) :
    readLoop ch buffer = some (ch.readLoop buffer) := by
  induction ch, buffer using Channel.readLoop.induct with
  | case1 ch buffer buffer' err ch' hf =>
    rw [readLoop_error hf, Channel.readLoop_error hf]
  | case2 ch buffer buffer' ch' hf ih =>
    rw [readLoop_ok hf, Channel.readLoop_ok hf, if_pos rfl, if_pos rfl, ih]
  | case3 ch buffer buffer' size ch' hf hlast =>
    rw [readLoop_ok hf, Channel.readLoop_ok hf, if_neg hlast, if_neg hlast]

/-- No assertion fails where a message is read, whatever arrives. -/
theorem read_safe (ch : Channel) : read ch = some ch.read := readLoop_safe ch []

end MysqlAsio.Asserting
