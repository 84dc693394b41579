import MysqlAsio.Auth
import MysqlAsio.HandshakeMessages

/-!
What a handshake does between its reads and writes: capabilities are negotiated from the
greeting, and challenges are answered.
-/

namespace MysqlAsio.Handshake

open MysqlAsio.Errors MysqlAsio.Serialization MysqlAsio.CommonMessages MysqlAsio.Auth
open MysqlAsio.HandshakeMessages

inductive SslMode
  | disable | enable | require
  deriving DecidableEq, Repr

structure ConnectionParams where
  username : Bytes
  password : Bytes
  database : Bytes
  connectionCollation : Collation
  ssl : SslMode
  deriving DecidableEq, Repr

def getCollationFirstByte (value : Collation) : UInt8 := .ofNat (value.id.toNat % 0xff)

def conditionalCapability (condition : Bool) (cap : BitVec 32) : Capabilities :=
  ⟨if condition then cap else 0⟩

inductive AuthResult
  | complete | sendMoreData | waitForOk | invalid
  deriving DecidableEq, Repr

/-! ### The processor -/

structure HandshakeProcessor where
  params : ConnectionParams
  negotiatedCaps : Capabilities
  auth : AuthCalculator
  deriving DecidableEq, Repr

namespace HandshakeProcessor

def new (params : ConnectionParams) : HandshakeProcessor := ⟨params, .none, .new⟩

def useSsl (p : HandshakeProcessor) : Bool := p.negotiatedCaps.has Capabilities.clientSsl

/-- What the server must be capable of. -/
def requiredCaps (params : ConnectionParams) : Capabilities :=
  (Capabilities.mandatoryCapabilities.or
    (conditionalCapability (params.database ≠ []) Capabilities.clientConnectWithDb)).or
    (conditionalCapability (params.ssl = .require) Capabilities.clientSsl)

def processCapabilities (p : HandshakeProcessor) (handshake : HandshakePacket) :
    ErrorCode × HandshakeProcessor :=
  let serverCaps := handshake.capabilities
  let requiredCaps := requiredCaps p.params
  if !serverCaps.hasAll requiredCaps then (makeErrorCode .serverUnsupported, p)
  else
    (.success, { p with
      negotiatedCaps := serverCaps.and ((requiredCaps.or Capabilities.optionalCapabilities).or
        (conditionalCapability (p.params.ssl = .enable) Capabilities.clientSsl)) })

/-- `auth_calc_.calculate`, for the password of the parameters. -/
def calculate (p : HandshakeProcessor) (hashes : Hashes) (pluginName challenge : Bytes) :
    ErrorCode × HandshakeProcessor :=
  let (err, auth) := p.auth.calculate hashes pluginName p.params.password challenge p.useSsl
  (err, { p with auth })

def processHandshake (p : HandshakeProcessor) (hashes : Hashes) (buffer : Bytes)
    (info : ErrorInfo) : ErrorCode × HandshakeProcessor × ErrorInfo :=
  let (err, handshake, info) := deserializeHandshake buffer info
  if err.failed then (err, p, info)
  else
    let (err, p) := p.processCapabilities handshake
    if err.failed then (err, p, info)
    else
      let (err, p) := p.calculate hashes handshake.authPluginName handshake.authPluginData
      (err, p, info)

def sslRequest (p : HandshakeProcessor) : SslRequest :=
  ⟨.ofBitVec p.negotiatedCaps.value, .ofNat maxPacketSize,
    getCollationFirstByte p.params.connectionCollation⟩

def handshakeResponse (p : HandshakeProcessor) : HandshakeResponsePacket where
  clientFlag := .ofBitVec p.negotiatedCaps.value
  maxPacketSize := .ofNat maxPacketSize
  characterSet := getCollationFirstByte p.params.connectionCollation
  username := p.params.username
  authResponse := p.auth.response.bytes
  database := p.params.database
  clientPluginName := p.auth.pluginName

/-- What an answer to the server comes to: an error, or how the authentication goes on; the
buffer then holds what is to be sent, if anything is. -/
structure Answer where
  err : ErrorCode
  processor : HandshakeProcessor
  outcome : AuthResult
  buffer : Bytes
  info : ErrorInfo

/-- Answer a challenge, with the plugin of that name. -/
def answerChallenge (p : HandshakeProcessor) (hashes : Hashes) (pluginName challenge : Bytes)
    (outcome : AuthResult) (buffer : Bytes) (info : ErrorInfo) : Answer :=
  let (err, p) := p.calculate hashes pluginName challenge
  if err.failed then ⟨err, p, outcome, buffer, info⟩
  else
    ⟨.success, p, .sendMoreData,
      serializeMessage (AuthSwitchResponsePacket.mk p.auth.response.bytes) p.negotiatedCaps buffer,
      info⟩

def processHandshakeServerResponse (p : HandshakeProcessor) (hashes : Hashes)
    (outcome : AuthResult) (buffer : Bytes) (info : ErrorInfo) : Answer :=
  match deserializeMessageType ⟨buffer, p.negotiatedCaps⟩ with
  | .error err => ⟨err, p, outcome, buffer, info⟩
  | .ok (msgType, ctx) =>
    if msgType = okPacketHeader then ⟨.success, p, .complete, buffer, info⟩
    else if msgType = errorPacketHeader then
      let (err, info) := processErrorPacket ctx info
      ⟨err, p, outcome, buffer, info⟩
    else if msgType = authSwitchRequestHeader then
      match deserializeMessage deserializeAuthSwitchRequestPacket ctx with
      | .error err => ⟨err, p, outcome, buffer, info⟩
      | .ok authSw =>
        p.answerChallenge hashes authSw.pluginName authSw.authPluginData outcome buffer info
    else if msgType = authMoreDataHeader then
      match deserializeMessage deserializeAuthMoreDataPacket ctx with
      | .error err => ⟨err, p, outcome, buffer, info⟩
      | .ok moreData =>
        if moreData.authPluginData = fastAuthCompleteChallenge then
          ⟨.success, p, .waitForOk, buffer, info⟩
        else
          p.answerChallenge hashes p.auth.pluginName moreData.authPluginData outcome buffer info
    else ⟨makeErrorCode .protocolValueError, p, outcome, buffer, info⟩

/-! ### What is negotiated -/

lemma not_hasAll_requiredCaps (params : ConnectionParams) :
    Capabilities.none.hasAll (requiredCaps params) = false := by
  unfold requiredCaps conditionalCapability
  generalize decide (params.database ≠ []) = withDb
  generalize decide (params.ssl = .require) = requireSsl
  cases withDb <;> cases requireSsl <;> decide

/-- What is negotiated where the server has it. -/
def offeredCaps (params : ConnectionParams) : Capabilities :=
  ((requiredCaps params).or Capabilities.optionalCapabilities).or
    (conditionalCapability (params.ssl = .enable) Capabilities.clientSsl)

/-- What a processor has negotiated with a server. -/
structure Negotiated (params : ConnectionParams) (packet : HandshakePacket)
    (p : HandshakeProcessor) : Prop where
  required : packet.capabilities.hasAll (requiredCaps params) = true
  negotiatedCaps : p.negotiatedCaps = packet.capabilities.and (offeredCaps params)
  params_eq : p.params = params

section Negotiated

variable {params : ConnectionParams} {packet : HandshakePacket} {p : HandshakeProcessor}

lemma Negotiated.value_and (hn : Negotiated params packet p) (cap : BitVec 32) :
    p.negotiatedCaps.value &&& cap =
      packet.capabilities.value &&& ((offeredCaps params).value &&& cap) := by
  rw [hn.negotiatedCaps]
  exact BitVec.and_assoc _ _ _

lemma and_of_hasAll {caps required : Capabilities} (h : caps.hasAll required = true)
    {cap : BitVec 32} (hr : required.value &&& cap = cap) : caps.value &&& cap = cap := by
  have hs : caps.value &&& required.value = required.value := of_decide_eq_true h
  calc caps.value &&& cap
      = caps.value &&& (required.value &&& cap) := by rw [hr]
    _ = required.value &&& cap := by rw [← BitVec.and_assoc, hs]
    _ = cap := hr

lemma Negotiated.required_and (hn : Negotiated params packet p) {cap : BitVec 32}
    (hr : (requiredCaps params).value &&& cap = cap) : p.negotiatedCaps.value &&& cap = cap := by
  have ho : (offeredCaps params).value &&& cap = cap := by
    ext i hi
    have hbit : ((requiredCaps params).value[i] && cap[i]) = cap[i] := by
      rw [← BitVec.getElem_and, hr]
    simp only [offeredCaps, Capabilities.or, BitVec.getElem_and, BitVec.getElem_or]
    cases hc : cap[i] with
    | false => rw [Bool.and_false]
    | true => simp_all
  rw [hn.value_and, ho, and_of_hasAll hn.required hr]

lemma Negotiated.server_hasAll (hn : Negotiated params packet p) :
    packet.capabilities.hasAll p.negotiatedCaps = true := by
  rw [hn.negotiatedCaps]
  refine decide_eq_true ?_
  simp only [Capabilities.and]
  rw [← BitVec.and_assoc, BitVec.and_self]

lemma Negotiated.mandatory (hn : Negotiated params packet p) :
    p.negotiatedCaps.hasAll Capabilities.mandatoryCapabilities = true := by
  refine decide_eq_true (hn.required_and ?_)
  unfold requiredCaps conditionalCapability
  generalize decide (params.database ≠ []) = withDb
  generalize decide (params.ssl = .require) = requireSsl
  revert withDb requireSsl
  decide

lemma Negotiated.connectWithDb_iff (hn : Negotiated params packet p) :
    p.negotiatedCaps.has Capabilities.clientConnectWithDb = true ↔ params.database ≠ [] := by
  unfold Capabilities.has
  rw [decide_eq_true_iff]
  by_cases hd : params.database = []
  · refine iff_of_false (not_not.mpr ?_) (not_not.mpr hd)
    have ho : (offeredCaps params).value &&& Capabilities.clientConnectWithDb = 0 := by
      unfold offeredCaps requiredCaps conditionalCapability
      simp only [hd]
      generalize decide (params.ssl = .require) = requireSsl
      generalize decide (params.ssl = .enable) = enableSsl
      revert requireSsl enableSsl
      decide
    rw [hn.value_and, ho]
    exact BitVec.and_zero
  · refine iff_of_true ?_ hd
    rw [hn.required_and]
    · decide
    · unfold requiredCaps conditionalCapability
      rw [decide_eq_true hd]
      generalize decide (params.ssl = .require) = requireSsl
      revert requireSsl
      decide

lemma requiredCaps_ssl (h : params.ssl = .require) :
    (requiredCaps params).value &&& Capabilities.clientSsl = Capabilities.clientSsl := by
  unfold requiredCaps conditionalCapability
  simp only [h]
  generalize decide (params.database ≠ []) = withDb
  revert withDb
  decide

lemma offeredCaps_ssl (params : ConnectionParams) :
    (offeredCaps params).value &&& Capabilities.clientSsl =
      if params.ssl = .disable then 0 else Capabilities.clientSsl := by
  unfold offeredCaps requiredCaps conditionalCapability
  generalize decide (params.database ≠ []) = withDb
  cases params.ssl <;> revert withDb <;> decide

lemma Negotiated.useSsl_iff (hn : Negotiated params packet p) :
    p.useSsl = true ↔ params.ssl = .require ∨
      params.ssl = .enable ∧ packet.capabilities.has Capabilities.clientSsl = true := by
  unfold useSsl Capabilities.has
  rw [decide_eq_true_iff, decide_eq_true_iff]
  cases hs : params.ssl with
  | disable =>
    rw [hn.value_and, offeredCaps_ssl, if_pos hs]
    simp
  | enable =>
    rw [hn.value_and, offeredCaps_ssl, if_neg (by rw [hs]; decide)]
    simp
  | require =>
    rw [hn.required_and (requiredCaps_ssl hs)]
    exact iff_of_true (by decide) (Or.inl rfl)

end Negotiated

lemma calculate_keeps (p : HandshakeProcessor) (hashes : Hashes) (pluginName challenge : Bytes) :
    let r := p.calculate hashes pluginName challenge
    r.2.params = p.params ∧ r.2.negotiatedCaps = p.negotiatedCaps ∧
      (r.1 = .success ∨ r.1.failed = true) := by
  refine ⟨rfl, rfl, ?_⟩
  rcases calculate_cases p.auth hashes pluginName p.params.password challenge p.useSsl with h | h
  · exact Or.inr h.1
  · exact Or.inl h.1

/-- A greeting is decoded, or callers see why not, or it was an ERR packet whose error they do
not see. -/
lemma deserializeHandshake_cases {buffer : Bytes} {info info' : ErrorInfo} {err : ErrorCode}
    {packet : HandshakePacket} (h : deserializeHandshake buffer info = (err, packet, info')) :
    err = .success ∨ packet = .default := by
  unfold deserializeHandshake at h
  split at h
  · cases h
    exact Or.inr rfl
  · split_ifs at h
    · cases h
      exact Or.inr rfl
    · cases h
      exact Or.inr rfl
    · cases h
      exact Or.inr rfl
    · split at h <;> cases h
      · exact Or.inr rfl
      · exact Or.inl rfl

lemma ne_default_of_hasAll {params : ConnectionParams} {packet : HandshakePacket}
    (h : packet.capabilities.hasAll (requiredCaps params) = true) : packet ≠ .default := by
  rintro rfl
  rw [show HandshakePacket.default.capabilities = .none from rfl, not_hasAll_requiredCaps] at h
  cases h

lemma processHandshake_accepted {params : ConnectionParams} {hashes : Hashes} {m : Bytes}
    {info info' : ErrorInfo} {err : ErrorCode} {p : HandshakeProcessor}
    (h : (HandshakeProcessor.new params).processHandshake hashes m info = (err, p, info'))
    (he : err.failed = false) :
    err = .success ∧ ∃ packet, deserializeHandshake m info = (.success, packet, info') ∧
      Negotiated params packet p := by
  rcases hd : deserializeHandshake m info with ⟨err1, packet, info1⟩
  by_cases hr : packet.capabilities.hasAll (requiredCaps params) = true
  · obtain rfl := (deserializeHandshake_cases hd).resolve_right (ne_default_of_hasAll hr)
    obtain ⟨hparams, hcaps, hc⟩ :=
      calculate_keeps ⟨params, packet.capabilities.and (offeredCaps params), .new⟩ hashes
        packet.authPluginName packet.authPluginData
    simp only [processHandshake, hd, processCapabilities, success_failed, new, hr, Bool.not_true,
      Bool.false_eq_true, if_false] at h
    cases h
    rcases hc with hs | hf
    · exact ⟨hs, packet, rfl, hr, hcaps, hparams⟩
    · exact nomatch hf.symm.trans he
  · have hu : (makeErrorCode .serverUnsupported).failed = true := rfl
    simp only [processHandshake, hd, processCapabilities, new, hr, Bool.not_false, if_true, hu] at h
    split_ifs at h with h1
    · cases h
      rw [he] at h1
      cases h1
    · cases h
      cases he

lemma processHandshake_unsupported {params : ConnectionParams} {hashes : Hashes} {m : Bytes}
    {info info' : ErrorInfo} {packet : HandshakePacket}
    (hd : deserializeHandshake m info = (.success, packet, info'))
    (h : packet.capabilities.hasAll (requiredCaps params) = false) :
    (HandshakeProcessor.new params).processHandshake hashes m info =
      (makeErrorCode .serverUnsupported, .new params, info') := by
  have hu : (makeErrorCode .serverUnsupported).failed = true := rfl
  simp [processHandshake, hd, processCapabilities, new, h, hu]

/-! ### What an answer is -/

section Answers

variable {p : HandshakeProcessor} {hashes : Hashes} {o : AuthResult} {m : Bytes}
variable {info : ErrorInfo} {pluginName challenge : Bytes}

/-- A message of the authentication brings a challenge for a plugin. -/
inductive Challenged (p : HandshakeProcessor) : Bytes → Bytes → Bytes → Prop
  | authSwitch {s : Bytes} {authSw : AuthSwitchRequestPacket}
      (h : deserializeMessage deserializeAuthSwitchRequestPacket ⟨s, p.negotiatedCaps⟩ =
        .ok authSw) :
      Challenged p (authSwitchRequestHeader :: s) authSw.pluginName authSw.authPluginData
  | authMoreData {s : Bytes} {moreData : AuthMoreDataPacket}
      (h : deserializeMessage deserializeAuthMoreDataPacket ⟨s, p.negotiatedCaps⟩ = .ok moreData)
      (hne : moreData.authPluginData ≠ fastAuthCompleteChallenge) :
      Challenged p (authMoreDataHeader :: s) p.auth.pluginName moreData.authPluginData

lemma Challenged.answer (h : Challenged p m pluginName challenge) :
    p.processHandshakeServerResponse hashes o m info =
      p.answerChallenge hashes pluginName challenge o m info := by
  cases h with
  | authSwitch h =>
    simp [processHandshakeServerResponse, h, authSwitchRequestHeader, okPacketHeader,
      errorPacketHeader]
  | authMoreData h hne =>
    simp [processHandshakeServerResponse, h, hne, authSwitchRequestHeader, okPacketHeader,
      errorPacketHeader, authMoreDataHeader]

/-- Answering a challenge fails and leaves the response as it was, or composes one that is the
password itself only where TLS is in use. -/
lemma answerChallenge_cases :
    let answer := p.answerChallenge hashes pluginName challenge o m info
    answer.processor.params = p.params ∧ answer.processor.negotiatedCaps = p.negotiatedCaps ∧
    (answer.err.failed = true ∨ answer.err = .success ∧ answer.outcome = .sendMoreData ∧
      ∀ password, answer.processor.auth.response = .cleartext password → p.useSsl = true) := by
  unfold answerChallenge calculate
  have hc := calculate_cases p.auth hashes pluginName p.params.password challenge p.useSsl
  rcases hr : p.auth.calculate hashes pluginName p.params.password challenge p.useSsl with
    ⟨err, auth⟩
  rw [hr] at hc
  by_cases hf : err.failed = true
  · simp [hf]
  · rcases hc with ⟨hf', -⟩ | ⟨-, hs⟩
    · exact absurd hf' hf
    · simp only [hf]
      exact ⟨rfl, rfl, Or.inr ⟨rfl, rfl, hs⟩⟩

/-- What is made of a message that is no challenge: the processor and the buffer stay as they
are. -/
lemma answer_cases :
    let answer := p.processHandshakeServerResponse hashes o m info
    (∃ pluginName challenge, Challenged p m pluginName challenge ∧
      answer = p.answerChallenge hashes pluginName challenge o m info) ∨
    answer.processor = p ∧ answer.buffer = m ∧
      (answer.err.failed = true ∨ answer.outcome = .waitForOk ∨ answer.outcome = o ∨
        answer.outcome = .complete ∧ m.head? = some okPacketHeader) := by
  cases m with
  | nil => exact Or.inr ⟨rfl, rfl, Or.inl rfl⟩
  | cons b s =>
    by_cases hok : b = okPacketHeader
    · refine Or.inr ?_
      simp [processHandshakeServerResponse, hok]
    by_cases herr : b = errorPacketHeader
    · refine Or.inr ?_
      simp [processHandshakeServerResponse, herr, errorPacketHeader, okPacketHeader]
    by_cases hsw : b = authSwitchRequestHeader
    · subst hsw
      rcases hd : deserializeMessage deserializeAuthSwitchRequestPacket ⟨s, p.negotiatedCaps⟩ with
        err | authSw
      · have hf := deserializeMessage_error_failed authSwitchRequest_failsOnly hd
        refine Or.inr ?_
        simp [processHandshakeServerResponse, hd, hok, herr, hf]
      · exact Or.inl ⟨_, _, .authSwitch hd, (Challenged.authSwitch hd).answer⟩
    by_cases hmore : b = authMoreDataHeader
    · subst hmore
      rcases hd : deserializeMessage deserializeAuthMoreDataPacket ⟨s, p.negotiatedCaps⟩ with
        err | moreData
      · have hf := deserializeMessage_error_failed authMoreData_failsOnly hd
        refine Or.inr ?_
        simp [processHandshakeServerResponse, hd, hok, herr, hsw, hf]
      by_cases hfast : moreData.authPluginData = fastAuthCompleteChallenge
      · refine Or.inr ?_
        simp [processHandshakeServerResponse, hd, hok, herr, hsw, hfast]
      · exact Or.inl ⟨_, _, .authMoreData hd hfast, (Challenged.authMoreData hd hfast).answer⟩
    · refine Or.inr ?_
      simp [processHandshakeServerResponse, hok, herr, hsw, hmore]

lemma answer_keeps :
    let answer := p.processHandshakeServerResponse hashes o m info
    answer.processor.params = p.params ∧ answer.processor.negotiatedCaps = p.negotiatedCaps := by
  rcases @answer_cases p hashes o m info with ⟨pluginName, challenge, -, ha⟩ | ⟨hp, -⟩
  · rw [ha]
    have h := @answerChallenge_cases p hashes o m info pluginName challenge
    exact ⟨h.1, h.2.1⟩
  · exact ⟨congrArg _ hp, congrArg _ hp⟩

end Answers

end HandshakeProcessor

end MysqlAsio.Handshake
