import MysqlAsio.HandshakeProcessor
import MysqlAsio.WireTypes

/-!
The greeting of a server, as the protocol writes it and the client reads it, and the response of
the client, as it writes it and the protocol reads it.
-/

namespace MysqlAsio.Greetings

open MysqlAsio.Errors MysqlAsio.Serialization MysqlAsio.CommonMessages MysqlAsio.Auth
open MysqlAsio.HandshakeMessages MysqlAsio.Handshake MysqlAsio.WireTypes
open MysqlAsio.Lib.Decoding MysqlAsio.Lib.LittleEndian

/-! ### Greetings -/

/-- A greeting of version 10. The second part of the data for the plugin ends in a NUL. -/
structure Greeting where
  serverVersion : Bytes
  connectionId : UInt32
  authPluginDataPart1 : Bytes
  filler : UInt8
  capabilityFlags : UInt32
  characterSet : UInt8
  statusFlags : UInt16
  authPluginDataLen : UInt8
  reserved : Bytes
  authPluginDataPart2 : Bytes
  authPluginName : Bytes
  serverVersion_noNul : NoNul serverVersion
  authPluginName_noNul : NoNul authPluginName
  part1_length : authPluginDataPart1.length = 8
  reserved_length : reserved.length = 10
  part2_length : authPluginDataPart2.length + 1 = max 13 (authPluginDataLen.toNat - 8)

namespace Greeting

def capabilities (g : Greeting) : Capabilities := ⟨g.capabilityFlags.toBitVec⟩

/-- The fields up to the second half of the capabilities. -/
def head (g : Greeting) : Bytes :=
  serializeStringNull g.serverVersion ++ (serializeInt4 g.connectionId ++
    (g.authPluginDataPart1 ++ (serializeInt1 g.filler ++
      ((serializeInt4 g.capabilityFlags).take 2 ++ (serializeInt1 g.characterSet ++
        (serializeInt2 g.statusFlags ++ (serializeInt4 g.capabilityFlags).drop 2))))))

/-- The fields that only a server with plugins has. -/
def tail (g : Greeting) : Bytes :=
  serializeInt1 g.authPluginDataLen ++ (g.reserved ++
    (g.authPluginDataPart2 ++ [0] ++ serializeStringNull g.authPluginName))

def message (g : Greeting) : Bytes := handshakeProtocolVersion10 :: (g.head ++ g.tail)

def packet (g : Greeting) : HandshakePacket where
  serverVersion := g.serverVersion
  connectionId := g.connectionId
  authPluginData := g.authPluginDataPart1 ++ g.authPluginDataPart2
  capabilityFlags := g.capabilityFlags
  characterSet := g.characterSet
  statusFlags := g.statusFlags
  authPluginName := g.authPluginName

/-- With a signed maximum and in 8 bits. -/
lemma auth2Length_eq (g : Greeting) :
    auth2Length g.authPluginDataLen = g.authPluginDataPart2.length + 1 := by
  have hlen := g.authPluginDataLen.toNat_lt
  rw [g.part2_length, auth2Length, auth1Length]
  omega

lemma low_length (g : Greeting) : ((serializeInt4 g.capabilityFlags).take 2).length = 2 := by
  simp

lemma high_length (g : Greeting) : ((serializeInt4 g.capabilityFlags).drop 2).length = 2 := by
  simp

lemma capabilityFlags_eq (g : Greeting) : UInt32.ofNat (ofBytes
    ((serializeInt4 g.capabilityFlags).take 2 ++ (serializeInt4 g.capabilityFlags).drop 2)) =
    g.capabilityFlags := by
  rw [List.take_append_drop, serializeInt4, serializeFixedSizeInt,
    ofBytes_toBytes_of_lt g.capabilityFlags.toNat_lt, UInt32.ofNat_toNat]

lemma auth2Data_delimits (g : Greeting) :
    Delimits (deserializeStringFixed (auth2Length g.authPluginDataLen))
      (g.authPluginDataPart2 ++ [0]) (g.authPluginDataPart2 ++ [0]) .incompleteMessage :=
  (stringFixed_exact (by rw [g.auth2Length_eq]; simp)).delimits

lemma packet_delimits (g : Greeting)
    (h : g.capabilities.has Capabilities.clientPluginAuth = true) :
    Delimits deserializeHandshakePacket (g.head ++ g.tail) g.packet .incompleteMessage := by
  unfold deserializeHandshakePacket head tail
  simp only [List.append_assoc]
  refine (stringNull_exact g.serverVersion_noNul).delimits.bind ?_
  refine (fixedSizeInt_exact .int4 g.connectionId trivial).delimits.bind ?_
  refine (stringFixed_exact g.part1_length).delimits.bind ?_
  refine (fixedSizeInt_exact .int1 g.filler trivial).delimits.bind ?_
  refine (stringFixed_exact g.low_length).delimits.bind ?_
  refine (fixedSizeInt_exact .int1 g.characterSet trivial).delimits.bind ?_
  refine (fixedSizeInt_exact .int2 g.statusFlags trivial).delimits.bind ?_
  refine (stringFixed_exact g.high_length).delimits.bind ?_
  rw [g.capabilityFlags_eq, ← capabilities, h]
  refine (fixedSizeInt_exact .int1 g.authPluginDataLen trivial).delimits.bind ?_
  refine (stringFixed_exact g.reserved_length).delimits.bind ?_
  rw [← List.append_assoc]
  refine g.auth2Data_delimits.bind ?_
  refine (stringNull_exact g.authPluginName_noNul).delimits.bind_pure ?_
  rw [g.auth2Length_eq, Nat.add_sub_cancel, List.take_left]
  exact reads_pure g.packet

lemma head_yields (g : Greeting)
    (h : g.capabilities.has Capabilities.clientPluginAuth = false) :
    Yields deserializeHandshakePacket g.head (.error .serverUnsupported) := by
  refine (stringNull_exact g.serverVersion_noNul).reads.bind_yields ?_
  refine (int4_reads g.connectionId).bind_yields ?_
  refine (stringFixed_exact g.part1_length).reads.bind_yields ?_
  refine (int1_reads g.filler).bind_yields ?_
  refine (stringFixed_exact g.low_length).reads.bind_yields ?_
  refine (int1_reads g.characterSet).bind_yields ?_
  refine (int2_reads g.statusFlags).bind_yields ?_
  refine (stringFixed_exact g.high_length).reads.bind_yields_nil ?_
  dsimp only
  rw [g.capabilityFlags_eq, ← capabilities, h]
  exact fun rest => rfl

lemma authPluginData_fits (g : Greeting) :
    g.packet.authPluginData.length ≤ authBufferCapacity := by
  have hlen := g.authPluginDataLen.toNat_lt
  have h1 := g.part1_length
  have h2 := g.part2_length
  simp only [packet, List.length_append, authBufferCapacity]
  omega

end Greeting

lemma deserializeHandshake_version10 (s : Bytes) (info : ErrorInfo) :
    deserializeHandshake (handshakeProtocolVersion10 :: s) info =
      match deserializeMessage deserializeHandshakePacket ⟨s, .none⟩ with
      | .error err => (err, .default, info)
      | .ok output => (.success, output, info) := rfl

/-- **A greeting is decoded field by field**, within the capacity of the buffer, a part of it and
what is longer are errors, and a server without plugins is not supported. -/
theorem greeting_decoded (g : Greeting) (info : ErrorInfo) :
    (g.capabilities.has Capabilities.clientPluginAuth = true →
      deserializeHandshake g.message info = (.success, g.packet, info) ∧
      g.packet.authPluginData.length ≤ authBufferCapacity ∧
      (∀ p, p <+: g.message → p ≠ g.message → (deserializeHandshake p info).1.failed = true) ∧
      ∀ extra, extra ≠ [] →
        (deserializeHandshake (g.message ++ extra) info).1 = makeErrorCode .extraBytes) ∧
    (g.capabilities.has Capabilities.clientPluginAuth = false →
      ∀ rest, (deserializeHandshake (handshakeProtocolVersion10 :: (g.head ++ rest)) info).1 =
        makeErrorCode .serverUnsupported) := by
  refine ⟨fun h => ?_, fun h rest => ?_⟩
  · have hd := g.packet_delimits h
    refine ⟨?_, g.authPluginData_fits, fun p hp hne => ?_, fun extra hne => ?_⟩
    · rw [Greeting.message, deserializeHandshake_version10, deserializeMessage_ok hd.reads.exact]
    · cases p with
      | nil => rfl
      | cons b p =>
        obtain ⟨rfl, hp'⟩ := List.cons_prefix_cons.mp hp
        have hne' : p ≠ g.head ++ g.tail := fun he => hne (by rw [he, Greeting.message])
        rw [deserializeHandshake_version10, deserializeMessage_short hd.short hp' hne']
        rfl
    · rw [Greeting.message, List.cons_append, deserializeHandshake_version10,
        deserializeMessage_extra hd.reads hne]
  · rw [deserializeHandshake_version10, deserializeMessage, g.head_yields h rest]
    rfl

/-- A server with every capability, and data of the usual length. -/
theorem greeting_decoded_full :
    let g : Greeting := ⟨ascii "8.0", 1, List.replicate 8 7, 0, 0xffffffff, 255, 2, 21,
      List.replicate 10 0, List.replicate 12 9, ascii "caching_sha2_password", by decide, by decide,
      rfl, rfl, rfl⟩
    deserializeHandshake g.message ⟨[]⟩ = (.success, g.packet, ⟨[]⟩) :=
  ((greeting_decoded _ _).1 (by decide)).1

/-! ### Responses -/

/-- The ids of the enumerators of `collation`, in the ranges they form. -/
def collationIds : List (ℕ × ℕ) :=
  [(1, 16), (18, 75), (77, 99), (101, 124), (128, 151), (159, 183), (192, 215), (223, 250)]

def IsEnumerator (collation : Collation) : Prop :=
  ∃ ids ∈ collationIds, ids.1 ≤ collation.id.toNat ∧ collation.id.toNat ≤ ids.2

instance (collation : Collation) : Decidable (IsEnumerator collation) :=
  inferInstanceAs (Decidable (∃ ids ∈ collationIds, _))

/-- No id reaches the modulus, which is one less than that of a byte. -/
lemma getCollationFirstByte_eq {collation : Collation} (h : IsEnumerator collation) :
    getCollationFirstByte collation = collation.id.toUInt8 := by
  obtain ⟨ids, hmem, -, hle⟩ := h
  have hmax : ∀ ids ∈ collationIds, ids.2 ≤ 250 := by decide
  have hlt := hmax ids hmem
  rw [← UInt8.toNat_inj, getCollationFirstByte, UInt8.toNat_ofNat', UInt16.toNat_toUInt8]
  omega

/-- What a server finds in a response; which fields there are, the client's flags say. -/
structure HandshakeResponse41 where
  capabilities : Capabilities
  maxPacketSize : UInt32
  characterSet : UInt8
  username : Bytes
  authResponse : Bytes
  database : Option Bytes
  clientPluginName : Option Bytes
  deriving DecidableEq, Repr

/-- The reference parser of a response. -/
def parseHandshakeResponse41 : Deserializer HandshakeResponse41 := do
  let clientFlag ← deserializeInt4
  let capabilities : Capabilities := ⟨clientFlag.toBitVec⟩
  let maxPacketSize ← deserializeInt4
  let characterSet ← deserializeInt1
  let _filler ← deserializeStringFixed 23
  let username ← deserializeStringNull
  let authResponse ←
    if capabilities.has Capabilities.clientPluginAuthLenencClientData then deserializeStringLenenc
    else do
      let length ← deserializeInt1
      deserializeStringFixed length.toNat
  let database ←
    if capabilities.has Capabilities.clientConnectWithDb then some <$> deserializeStringNull
    else pure none
  let clientPluginName ←
    if capabilities.has Capabilities.clientPluginAuth then some <$> deserializeStringNull
    else pure none
  pure ⟨capabilities, maxPacketSize, characterSet, username, authResponse, database,
    clientPluginName⟩

lemma negotiated_of_success {params : ConnectionParams} {packet : HandshakePacket}
    {p : HandshakeProcessor}
    (h : (HandshakeProcessor.new params).processCapabilities packet = (.success, p)) :
    HandshakeProcessor.Negotiated params packet p := by
  unfold HandshakeProcessor.processCapabilities at h
  simp only [] at h
  split_ifs at h with hr
  · cases h
  · cases h
    rw [Bool.not_eq_true', Bool.not_eq_false] at hr
    exact ⟨hr, rfl, rfl⟩

lemma has_of_hasAll {caps required : Capabilities} (h : caps.hasAll required = true)
    {cap : BitVec 32} (hr : required.value &&& cap = cap) (h0 : cap ≠ 0) :
    caps.has cap = true := by
  refine decide_eq_true ?_
  rw [HandshakeProcessor.and_of_hasAll h hr]
  exact h0

/-- The parser finds the fields that the client has written for its capabilities. -/
lemma handshakeResponse_reads {p : HandshakeProcessor} (hu : NoNul p.params.username)
    (hd : NoNul p.params.database) (hn : NoNul p.auth.pluginName)
    (hr : p.auth.response.bytes.length < 2 ^ 64)
    (hcaps : p.negotiatedCaps.hasAll Capabilities.mandatoryCapabilities = true) :
    Reads parseHandshakeResponse41
      (Serializable.serialize p.negotiatedCaps p.handshakeResponse)
      { capabilities := p.negotiatedCaps
        maxPacketSize := .ofNat maxPacketSize
        characterSet := getCollationFirstByte p.params.connectionCollation
        username := p.params.username
        authResponse := p.auth.response.bytes
        database := if p.negotiatedCaps.has Capabilities.clientConnectWithDb then
          some p.params.database else none
        clientPluginName := some p.auth.pluginName } := by
  have hlenenc : p.negotiatedCaps.has Capabilities.clientPluginAuthLenencClientData = true :=
    has_of_hasAll hcaps (by decide) (by decide)
  have hplugin : p.negotiatedCaps.has Capabilities.clientPluginAuth = true :=
    has_of_hasAll hcaps (by decide) (by decide)
  unfold parseHandshakeResponse41
  simp only [Serializable.serialize, HandshakeProcessor.handshakeResponse, List.append_assoc]
  refine (int4_reads _).bind ((int4_reads _).bind ((int1_reads _).bind ?_))
  refine (stringFixed_exact List.length_replicate).reads.bind ?_
  refine (stringNull_exact hu).reads.bind ?_
  rw [if_pos hlenenc]
  refine (stringLenenc_reads hr).bind ?_
  have hname : ∀ database : Option Bytes, Reads (do
      let clientPluginName ←
        if p.negotiatedCaps.has Capabilities.clientPluginAuth then some <$> deserializeStringNull
        else pure none
      pure (HandshakeResponse41.mk p.negotiatedCaps (.ofNat maxPacketSize)
        (getCollationFirstByte p.params.connectionCollation) p.params.username
        p.auth.response.bytes database clientPluginName) : Deserializer HandshakeResponse41)
      (serializeStringNull p.auth.pluginName)
      ⟨p.negotiatedCaps, .ofNat maxPacketSize,
        getCollationFirstByte p.params.connectionCollation, p.params.username,
        p.auth.response.bytes, database, some p.auth.pluginName⟩ := fun database => by
    rw [if_pos hplugin]
    exact ((stringNull_exact hn).reads.map some).bind_pure (reads_pure _)
  by_cases hdb : p.negotiatedCaps.has Capabilities.clientConnectWithDb = true
  · simp only [hdb, if_true]
    exact ((stringNull_exact hd).reads.map some).bind (hname _)
  · simp only [hdb]
    exact (reads_pure none).bind (hname none)

/-- **The response is what its own flags say it is**: the parser recovers what was negotiated and
what the parameters have, the database where there is one, and leaves nothing. -/
theorem handshakeResponse_parsed {params : ConnectionParams} (hu : NoNul params.username)
    (hd : NoNul params.database) (hc : IsEnumerator params.connectionCollation)
    {packet : HandshakePacket} {p : HandshakeProcessor}
    (hp : (HandshakeProcessor.new params).processCapabilities packet = (.success, p))
    (plugin : AuthenticationPlugin) {response : AuthResponse}
    (hr : response.bytes.length < 2 ^ 64) (buffer : Bytes) :
    let sent : HandshakeProcessor := { p with auth := ⟨some plugin, response⟩ }
    parseHandshakeResponse41 (serializeMessage sent.handshakeResponse sent.negotiatedCaps buffer) =
      .ok ({
        capabilities := p.negotiatedCaps
        maxPacketSize := .ofNat maxPacketSize
        characterSet := params.connectionCollation.id.toUInt8
        username := params.username
        authResponse := response.bytes
        database := if params.database = [] then none else some params.database
        clientPluginName := some plugin.name }, []) := by
  intro sent
  have hn := negotiated_of_success hp
  have hname : NoNul plugin.name := by cases plugin <;> decide
  have hparams : sent.params = params := hn.params_eq
  have hreads := @handshakeResponse_reads sent (hparams ▸ hu) (hparams ▸ hd) hname hr hn.mandatory
  have hdb : (if sent.negotiatedCaps.has Capabilities.clientConnectWithDb then
      some params.database else none) =
      if params.database = [] then none else some params.database := by
    by_cases h : params.database = []
    · rw [if_neg (mt hn.connectWithDb_iff.mp (not_not.mpr h)), if_pos h]
    · rw [if_pos (hn.connectWithDb_iff.mpr h), if_neg h]
  rw [serializeMessage_eq, hreads.exact, hparams, getCollationFirstByte_eq hc, hdb]
  rfl

/-- With a database and the largest of the ids, for a server of every capability. -/
theorem handshakeResponse_parsed_gb18030 :
    let params : ConnectionParams := ⟨ascii "me", ascii "secret", ascii "db", ⟨250⟩, .disable⟩
    let sent : HandshakeProcessor := ⟨params, ⟨0x1288208⟩, ⟨some .cachingSha2Password, .blank⟩⟩
    parseHandshakeResponse41 (serializeMessage sent.handshakeResponse sent.negotiatedCaps []) =
      .ok (⟨⟨0x1288208⟩, .ofNat maxPacketSize, 250, ascii "me", [], some (ascii "db"),
        some (ascii "caching_sha2_password")⟩, []) := by
  intro params sent
  have hp : (HandshakeProcessor.new params).processCapabilities
      ⟨[], 0, [], 0xffffffff, 0, 0, []⟩ = (.success, ⟨params, ⟨0x1288208⟩, .new⟩) := by decide
  exact handshakeResponse_parsed (by decide) (by decide) (by decide) hp .cachingSha2Password
    (show AuthResponse.blank.bytes.length < 2 ^ 64 by decide) []

end MysqlAsio.Greetings
