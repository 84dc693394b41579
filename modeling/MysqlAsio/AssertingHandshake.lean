import MysqlAsio.AssertingMessages
import MysqlAsio.Challenges

/-!
The handshake again, with the assertions of the source.

The machine is that of the handshake, and a run that stops for no assertion is one of its
runs. What a server sends can make one assertion fail, the one on the data of a switch.
-/

namespace MysqlAsio.Asserting

open MysqlAsio.Errors MysqlAsio.Serialization MysqlAsio.CommonMessages MysqlAsio.HandshakeMessages
open MysqlAsio.Auth MysqlAsio.Streams MysqlAsio.Channels MysqlAsio.Framing MysqlAsio.Operations
open MysqlAsio.Handshake MysqlAsio.Challenges MysqlAsio.WireTypes
open MysqlAsio.Lib.Decoding MysqlAsio.Lib.Programs MysqlAsio.Lib.Assertions

/-! ### The processor -/

def serializeMessage {α : Type} [Serializable α] (input : α) (caps : Capabilities)
    (buffer : Bytes) : Option Bytes :=
  if serializeMessageAssertion input caps then
    some (Serialization.serializeMessage input caps buffer)
  else none

/-- `auth_calculator::plugin_name`. -/
def pluginName (auth : AuthCalculator) : Option Bytes := auth.plugin.map (·.name)

def deserializeHandshake (buffer : Bytes) (info : ErrorInfo) :
    Option (ErrorCode × HandshakePacket × ErrorInfo) := do
  match ← deserializeMessageType ⟨buffer, .none⟩ with
  | .error err => some (err, .default, info)
  | .ok (msgType, ctx) =>
    if msgType = handshakeProtocolVersion9 then
      some (makeErrorCode .serverUnsupported, .default, info)
    else if msgType = errorPacketHeader then
      let (err, info) ← processErrorPacket ctx info
      some (err, .default, info)
    else if msgType ≠ handshakeProtocolVersion10 then
      some (makeErrorCode .protocolValueError, .default, info)
    else
      match ← deserializeMessage deserializeHandshakePacket ctx with
      | .error err => some (err, .default, info)
      | .ok output => some (.success, output, info)

namespace Processor

def processHandshake (p : HandshakeProcessor) (hashes : Hashes) (buffer : Bytes)
    (info : ErrorInfo) : Option (ErrorCode × HandshakeProcessor × ErrorInfo) := do
  let (err, handshake, info) ← deserializeHandshake buffer info
  if err.failed then some (err, p, info)
  else
    let (err, p) := p.processCapabilities handshake
    if err.failed then some (err, p, info)
    else
      let (err, p) := p.calculate hashes handshake.authPluginName handshake.authPluginData
      some (err, p, info)

def composeSslRequest (p : HandshakeProcessor) (buffer : Bytes) : Option Bytes :=
  serializeMessage p.sslRequest p.negotiatedCaps buffer

def composeHandshakeResponse (p : HandshakeProcessor) (buffer : Bytes) : Option Bytes := do
  let clientPluginName ← pluginName p.auth
  serializeMessage { p.handshakeResponse with clientPluginName } p.negotiatedCaps buffer

def answerChallenge (p : HandshakeProcessor) (hashes : Hashes) (pluginName challenge : Bytes)
    (outcome : AuthResult) (buffer : Bytes) (info : ErrorInfo) :
    Option HandshakeProcessor.Answer := do
  let (err, p) := p.calculate hashes pluginName challenge
  if err.failed then some ⟨err, p, outcome, buffer, info⟩
  else
    let buffer ← serializeMessage (AuthSwitchResponsePacket.mk p.auth.response.bytes)
      p.negotiatedCaps buffer
    some ⟨.success, p, .sendMoreData, buffer, info⟩

def processHandshakeServerResponse (p : HandshakeProcessor) (hashes : Hashes)
    (outcome : AuthResult) (buffer : Bytes) (info : ErrorInfo) :
    Option HandshakeProcessor.Answer := do
  match ← deserializeMessageType ⟨buffer, p.negotiatedCaps⟩ with
  | .error err => some ⟨err, p, outcome, buffer, info⟩
  | .ok (msgType, ctx) =>
    if msgType = okPacketHeader then some ⟨.success, p, .complete, buffer, info⟩
    else if msgType = errorPacketHeader then
      let (err, info) ← processErrorPacket ctx info
      some ⟨err, p, outcome, buffer, info⟩
    else if msgType = authSwitchRequestHeader then
      match ← deserializeMessage deserializeAuthSwitchRequestPacket ctx with
      | .error err => some ⟨err, p, outcome, buffer, info⟩
      | .ok authSw =>
        answerChallenge p hashes authSw.pluginName authSw.authPluginData outcome buffer info
    else if msgType = authMoreDataHeader then
      match ← deserializeMessage deserializeAuthMoreDataPacket ctx with
      | .error err => some ⟨err, p, outcome, buffer, info⟩
      | .ok moreData =>
        if moreData.authPluginData = fastAuthCompleteChallenge then
          some ⟨.success, p, .waitForOk, buffer, info⟩
        else
          let name ← pluginName p.auth
          answerChallenge p hashes name moreData.authPluginData outcome buffer info
    else some ⟨makeErrorCode .protocolValueError, p, outcome, buffer, info⟩

end Processor

lemma serializeMessage_safe {α : Type} [Serializable α] [LawfulSerializable α] (input : α)
    (caps : Capabilities) (buffer : Bytes) :
    serializeMessage input caps buffer = some (Serialization.serializeMessage input caps buffer) :=
  if_pos (decide_eq_true (LawfulSerializable.serialize_length caps input))

lemma guarded_pluginName : Guarded (fun auth => auth.plugin.isSome = true) pluginName
    AuthCalculator.pluginName where
  holds := by
    rintro ⟨_ | plugin, response⟩ h
    · cases h
    · rfl
  fails := by
    rintro ⟨_ | plugin, response⟩ h
    · rfl
    · exact absurd rfl h

lemma deserializeHandshake_safe (buffer : Bytes) (info : ErrorInfo) :
    deserializeHandshake buffer info = some (HandshakeMessages.deserializeHandshake buffer info) := by
  rw [deserializeHandshake, safe_messageType, HandshakeMessages.deserializeHandshake]
  rcases Serialization.deserializeMessageType ⟨buffer, .none⟩ with err | ⟨msgType, ctx⟩
  · rfl
  · simp only [Option.bind_eq_bind, Option.bind_some, processErrorPacket_safe,
      safe_message safe_handshakePacket ctx]
    split_ifs
    · rfl
    · rfl
    · rfl
    · rcases Serialization.deserializeMessage HandshakeMessages.deserializeHandshakePacket ctx with
        err | output <;> rfl

namespace Processor

variable {p : HandshakeProcessor} {hashes : Hashes}

lemma processHandshake_safe (buffer : Bytes) (info : ErrorInfo) :
    processHandshake p hashes buffer info = some (p.processHandshake hashes buffer info) := by
  rw [processHandshake, deserializeHandshake_safe, HandshakeProcessor.processHandshake]
  rcases HandshakeMessages.deserializeHandshake buffer info with ⟨err, handshake, info'⟩
  simp only [Option.bind_eq_bind, Option.bind_some]
  split_ifs <;> rfl

lemma guarded_composeHandshakeResponse (buffer : Bytes) :
    Guarded (fun p : HandshakeProcessor => p.auth.plugin.isSome = true)
      (fun p => composeHandshakeResponse p buffer)
      fun p => Serialization.serializeMessage p.handshakeResponse p.negotiatedCaps buffer where
  holds h := by
    rw [composeHandshakeResponse, guarded_pluginName.holds h]
    exact serializeMessage_safe _ _ _
  fails h := by
    rw [composeHandshakeResponse, guarded_pluginName.fails h]
    rfl

lemma answerChallenge_safe (pluginName challenge : Bytes) (outcome : AuthResult) (buffer : Bytes)
    (info : ErrorInfo) : answerChallenge p hashes pluginName challenge outcome buffer info =
      some (p.answerChallenge hashes pluginName challenge outcome buffer info) := by
  rw [answerChallenge, HandshakeProcessor.answerChallenge]
  rcases p.calculate hashes pluginName challenge with ⟨err, p'⟩
  dsimp only
  split_ifs
  · rfl
  · rw [serializeMessage_safe]
    rfl

/-- What is asserted of a message of the authentication: a switch has data that ends in a NUL,
and there is a plugin that more data is for. -/
def AnswerGuard (p : HandshakeProcessor) : Bytes → Prop
  | [] => True
  | b :: s =>
    (b = authSwitchRequestHeader → SwitchTerminated s) ∧
      (b = authMoreDataHeader → s ≠ fastAuthCompleteChallenge → p.auth.plugin.isSome = true)

lemma guarded_processHandshakeServerResponse (outcome : AuthResult) (info : ErrorInfo) :
    Guarded (AnswerGuard p)
      (fun m => processHandshakeServerResponse p hashes outcome m info)
      fun m => p.processHandshakeServerResponse hashes outcome m info where
  holds := by
    rintro (_ | ⟨b, s⟩) h
    · rfl
    · rw [processHandshakeServerResponse, safe_messageType, deserializeMessageType_cons,
        HandshakeProcessor.processHandshakeServerResponse, deserializeMessageType_cons]
      simp only [Option.bind_eq_bind, Option.bind_some, processErrorPacket_safe,
        safe_message safe_authMoreData ⟨s, p.negotiatedCaps⟩, answerChallenge_safe]
      split_ifs with hok herr hsw hmore
      · rfl
      · rfl
      · rw [(guarded_message guarded_authSwitch).holds (h.1 hsw)]
        rcases Serialization.deserializeMessage
          HandshakeMessages.deserializeAuthSwitchRequestPacket ⟨s, p.negotiatedCaps⟩ with
          err | authSw <;> rfl
      · rw [show Serialization.deserializeMessage HandshakeMessages.deserializeAuthMoreDataPacket
          ⟨s, p.negotiatedCaps⟩ = .ok ⟨s⟩ from rfl]
        dsimp only
        split_ifs with hfast
        · rfl
        · rw [guarded_pluginName.holds (h.2 hmore hfast)]
          rfl
      · rfl
  fails := by
    rintro (_ | ⟨b, s⟩) h
    · exact absurd trivial h
    · rw [processHandshakeServerResponse, safe_messageType, deserializeMessageType_cons]
      by_cases hsw : b = authSwitchRequestHeader
      · subst hsw
        have hbad : ¬ SwitchTerminated s := fun ht => h ⟨fun _ => ht, fun hmore => by cases hmore⟩
        have hnone := (guarded_message guarded_authSwitch).fails (s := ⟨s, p.negotiatedCaps⟩) hbad
        simp [hnone, authSwitchRequestHeader, okPacketHeader, errorPacketHeader]
      · have hbad : b = authMoreDataHeader ∧ s ≠ fastAuthCompleteChallenge ∧
            ¬ p.auth.plugin.isSome = true := by
          by_contra hn
          refine h ⟨fun hb => absurd hb hsw, fun hmore hfast => ?_⟩
          by_contra hp
          exact hn ⟨hmore, hfast, hp⟩
        obtain ⟨rfl, hfast, hp⟩ := hbad
        have hdata : deserializeMessage deserializeAuthMoreDataPacket ⟨s, p.negotiatedCaps⟩ =
          some (.ok ⟨s⟩) := safe_message safe_authMoreData _
        simp [hdata, hfast, guarded_pluginName.fails hp, authMoreDataHeader,
          authSwitchRequestHeader, okPacketHeader, errorPacketHeader]

end Processor

/-! ### The machine -/

abbrev Operation := AssertingProgram Conn ErrorCode

/-- `channel.read`, into the shared buffer. -/
def readShared : Operation Unit := fun c => do
  let (buffer, err, ch) ← read c.channel
  some (outcome err, { c with channel := { ch with sharedBuffer := buffer } })

/-- A message is composed in the shared buffer. -/
def composeShared (compose : Bytes → Option Bytes) : Operation Unit := fun c => do
  let sharedBuffer ← compose c.channel.sharedBuffer
  some (.ok (), { c with channel := { c.channel with sharedBuffer } })

/-- `processor.process_handshake` of the shared buffer. -/
def processHandshake (hashes : Hashes) (p : HandshakeProcessor) : Operation HandshakeProcessor :=
  fun c => do
    let (err, p, info) ← Processor.processHandshake p hashes c.channel.sharedBuffer c.info
    some ((outcome err).map fun _ => p, { c with info })

/-- `processor.process_handshake_server_response` of the shared buffer. -/
def processHandshakeServerResponse (hashes : Hashes) (p : HandshakeProcessor)
    (authOutcome : AuthResult) : Operation (HandshakeProcessor × AuthResult) := fun c => do
  let answer ← Processor.processHandshakeServerResponse p hashes authOutcome
    c.channel.sharedBuffer c.info
  some ((outcome answer.err).map fun _ => (answer.processor, answer.outcome),
    { channel := { c.channel with sharedBuffer := answer.buffer }, info := answer.info })

def step (hashes : Hashes) (h : HandshakeOp) : Operation HandshakeOp :=
  match h.point with
  | .greeting => do
    readShared
    let processor ← processHandshake hashes h.processor
    pure { h with processor, point := if processor.useSsl then .sslRequest else .response }
  | .sslRequest => do
    composeShared (Processor.composeSslRequest h.processor)
    unasserted writeShared
    pure { h with point := .sslHandshake }
  | .sslHandshake => do
    unasserted (onChannel Channel.sslHandshake)
    pure { h with point := .response }
  | .response => do
    composeShared (Processor.composeHandshakeResponse h.processor)
    unasserted writeShared
    pure { h with point := .authMessage, authOutcome := .invalid }
  | .authMessage => do
    readShared
    let (processor, authOutcome) ← processHandshakeServerResponse hashes h.processor h.authOutcome
    pure { point := nextPoint authOutcome, processor, authOutcome }
  | .authResponse => do
    unasserted writeShared
    pure { h with point := .authMessage }
  | .finished => pure h

/-- What is asserted on the way through a step. -/
def StepGuard (h : HandshakeOp) (c : Conn) : Prop :=
  match h.point with
  | .response => h.processor.auth.plugin.isSome = true
  | .authMessage => ∀ m ch, c.channel.read = (m, .success, ch) →
    Processor.AnswerGuard h.processor m
  | _ => True

section Step

variable {hashes : Hashes}

lemma safe_readShared : Safe readShared Operations.readShared := by
  intro c
  rw [readShared, read_safe]
  rfl

lemma safe_processHandshake (p : HandshakeProcessor) :
    Safe (processHandshake hashes p) (Handshake.processHandshake hashes p) := by
  intro c
  rw [processHandshake, Processor.processHandshake_safe]
  rfl

lemma guarded_serverResponse (p : HandshakeProcessor) (o : AuthResult) :
    Guarded (fun c : Conn => Processor.AnswerGuard p c.channel.sharedBuffer)
      (processHandshakeServerResponse hashes p o)
      (Handshake.processHandshakeServerResponse hashes p o) where
  holds := by
    intro c h
    rw [processHandshakeServerResponse,
      (Processor.guarded_processHandshakeServerResponse o c.info).holds h]
    rfl
  fails := by
    intro c h
    rw [processHandshakeServerResponse,
      (Processor.guarded_processHandshakeServerResponse o c.info).fails h]
    rfl

lemma guarded_compose_write {α : Type} [Serializable α] {I : Prop} {x : α} {caps : Capabilities}
    {compose : Bytes → Option Bytes} {next : HandshakeOp}
    (h : Guarded (fun _ => I) compose fun buffer => Serialization.serializeMessage x caps buffer) :
    Guarded (fun _ => I)
      (do
        composeShared compose
        unasserted writeShared
        pure next : Operation HandshakeOp)
      (do
        serializeShared x caps
        writeShared
        pure next : Operations.Operation HandshakeOp) := by
  have hc : Guarded (fun _ => I) (composeShared compose) (serializeShared x caps) := by
    constructor
    · intro c hi
      rw [composeShared, h.holds hi]
      rfl
    · intro c hi
      rw [composeShared, h.fails hi]
      rfl
  exact hc.then_safe fun _ => (safe_unasserted _).then fun _ => safe_return _

lemma step_guarded (h : HandshakeOp) : Guarded (StepGuard h) (step hashes h) (h.step hashes) := by
  obtain ⟨point, p, o⟩ := h
  cases point with
  | greeting =>
    exact (safe_readShared.then fun _ => (safe_processHandshake p).then fun _ =>
      safe_return _).guarded
  | sslRequest =>
    have hs : Safe (Processor.composeSslRequest p) fun buffer =>
      Serialization.serializeMessage p.sslRequest p.negotiatedCaps buffer :=
      fun buffer => serializeMessage_safe _ _ buffer
    exact guarded_compose_write hs.guarded
  | sslHandshake => exact ((safe_unasserted _).then fun _ => safe_return _).guarded
  | response =>
    refine guarded_compose_write ⟨fun h => ?_, fun h => ?_⟩
    · exact (Processor.guarded_composeHandshakeResponse _).holds h
    · exact (Processor.guarded_composeHandshakeResponse _).fails h
  | authMessage =>
    refine (safe_readShared.then_guarded fun _ =>
      (guarded_serverResponse p o).then_safe fun _ => safe_return _).congr fun c => ?_
    constructor
    · intro hg m ch hr
      exact hg () _ (readShared_ok hr)
    · intro hg _ c' hr
      obtain ⟨m, ch, hread, rfl⟩ := of_readShared_ok hr
      exact hg m ch hread
  | authResponse => exact ((safe_unasserted _).then fun _ => safe_return _).guarded
  | finished => exact (safe_return _).guarded

end Step

/-! ### The run -/

/-- Step until the handshake is finished. -/
def run (hashes : Hashes) (h : HandshakeOp) (c : Conn) :
    Option (Except ErrorCode HandshakeOp × Conn) :=
  if _hne : h.point = .finished then some (.ok h, c)
  else
    match _hs : step hashes h c with
    | none => none
    | some (.error err, c') => some (.error err, c')
    | some (.ok h', c') => run hashes h' c'
termination_by h.distance c
decreasing_by exact (step_transition _hne ((step_guarded h).of_some _hs).2).distance_lt

def handshake (hashes : Hashes) (params : ConnectionParams) : Operation Unit := do
  let h ← run hashes (.start params)
  unasserted (modifyChannel fun ch => { ch with currentCaps := h.processor.negotiatedCaps })

section Run

variable {hashes : Hashes} {h h' : HandshakeOp} {c c' : Conn} {err : ErrorCode}

lemma run_finished (hf : h.point = .finished) (c : Conn) : run hashes h c = some (.ok h, c) := by
  rw [run, dif_pos hf]

lemma run_none (hne : h.point ≠ .finished) (hs : step hashes h c = none) :
    run hashes h c = none := by
  rw [run, dif_neg hne]
  split
  · rfl
  · next h1 => rw [hs] at h1; cases h1
  · next h1 => rw [hs] at h1; cases h1

lemma run_error (hne : h.point ≠ .finished) (hs : step hashes h c = some (.error err, c')) :
    run hashes h c = some (.error err, c') := by
  rw [run, dif_neg hne]
  split
  · next h1 => rw [hs] at h1; cases h1
  · next h1 => rw [hs] at h1; cases h1; rfl
  · next h1 => rw [hs] at h1; cases h1

lemma run_step (hne : h.point ≠ .finished) (hs : step hashes h c = some (.ok h', c')) :
    run hashes h c = run hashes h' c' := by
  rw [run, dif_neg hne]
  split
  · next h1 => rw [hs] at h1; cases h1
  · next h1 => rw [hs] at h1; cases h1
  · next h1 => rw [hs] at h1; cases h1; rfl

/-- What is asserted along a run. -/
def RunGuard (hashes : Hashes) (h : HandshakeOp) (c : Conn) : Prop :=
  ∀ h' c', Runs hashes h c h' c' → StepGuard h' c'

lemma runGuard_finished (hf : h.point = .finished) (c : Conn) : RunGuard hashes h c := by
  intro h' c' hr
  rcases hr.cases_head with ⟨rfl, rfl⟩ | ⟨h1, c1, ht, -⟩
  · rw [StepGuard, hf]
    trivial
  · exact absurd hf ht.point_ne

lemma runGuard_error (hs : h.step hashes c = (.error err, c')) :
    RunGuard hashes h c ↔ StepGuard h c := by
  refine ⟨fun hg => hg h c .start, fun hg h1 c1 hr => ?_⟩
  rcases hr.cases_head with ⟨rfl, rfl⟩ | ⟨h2, c2, ht, -⟩
  · exact hg
  · rw [ht.step] at hs
    cases hs

lemma runGuard_step (ht : Transition hashes h c h' c') :
    RunGuard hashes h c ↔ StepGuard h c ∧ RunGuard hashes h' c' := by
  constructor
  · intro hg
    exact ⟨hg h c .start, fun h1 c1 hr => hg h1 c1 (hr.head ht)⟩
  · rintro ⟨hg, hrest⟩ h1 c1 hr
    rcases hr.cases_head with ⟨rfl, rfl⟩ | ⟨h2, c2, ht', hr'⟩
    · exact hg
    · obtain ⟨rfl, rfl⟩ := ht.deterministic ht'
      exact hrest h1 c1 hr'

/-- **A run with assertions is the run without them**, unless one fails on its way. -/
theorem run_guarded (hashes : Hashes) (h : HandshakeOp) :
    Guarded (RunGuard hashes h) (run hashes h) (h.run hashes) := by
  have hstep : ∀ c, (RunGuard hashes h c → run hashes h c = some (h.run hashes c)) ∧
      (¬ RunGuard hashes h c → run hashes h c = none) := by
    intro c
    induction hd : h.distance c using WellFoundedLT.induction generalizing h c with
    | _ d ih =>
      subst hd
      by_cases hf : h.point = .finished
      · rw [run_finished hf, Handshake.run_finished hf]
        exact ⟨fun _ => rfl, fun hn => absurd (runGuard_finished hf c) hn⟩
      by_cases hg : StepGuard h c
      · have hs : step hashes h c = some (h.step hashes c) := (step_guarded h).holds hg
        rcases hp : h.step hashes c with ⟨err | h1, c1⟩
        · rw [hp] at hs
          rw [run_error hf hs, Handshake.run_error hf hp]
          exact ⟨fun _ => rfl, fun hn => absurd ((runGuard_error hp).mpr hg) hn⟩
        · rw [hp] at hs
          have ht := step_transition hf hp
          rw [run_step hf hs, Handshake.run_step hf hp, runGuard_step ht]
          have hrest := ih _ ht.distance_lt h1 c1 rfl
          exact ⟨fun hr => hrest.1 hr.2, fun hn => hrest.2 fun hr => hn ⟨hg, hr⟩⟩
      · exact ⟨fun hr => absurd (hr h c .start) hg,
          fun _ => run_none hf ((step_guarded h).fails hg)⟩
  exact ⟨fun hg => (hstep _).1 hg, fun hn => (hstep _).2 hn⟩

end Run

/-! ### What a server can bring about -/

section Handshake

variable {hashes : Hashes} {params : ConnectionParams} {c c' : Conn} {h : HandshakeOp}

lemma runs_hears (hr : Runs hashes (.start params) c h c') :
    ∃ ms, Hears hashes params c ms h c' := by
  induction hr with
  | start => exact ⟨[], .start⟩
  | step _ ht ih =>
    obtain ⟨ms, hears⟩ := ih
    exact ⟨_, hears.step ht⟩

/-- Behind the greeting there always is a plugin. -/
lemma runs_plugin (hr : Runs hashes (.start params) c h c') (hne : h.point ≠ .greeting) :
    h.processor.auth.plugin.isSome = true := by
  obtain ⟨ms, hears⟩ := runs_hears hr
  rcases hears_followed hears with ⟨rfl, -⟩ | ⟨-, hn⟩
  · exact absurd rfl hne
  · obtain ⟨name, plugin, -, -, hp⟩ := hn.plugin
    rw [hp]
    rfl

/-- Every switch that the authentication receives has data that is empty or ends in a NUL. -/
def SwitchesTerminated (hashes : Hashes) (params : ConnectionParams) (c : Conn) : Prop :=
  ∀ h c', Runs hashes (.start params) c h c' → h.point = .authMessage →
    ∀ s ch, c'.channel.read = (authSwitchRequestHeader :: s, .success, ch) → SwitchTerminated s

/-- Of all that is asserted, only the data of the switches is for the server to choose. -/
lemma runGuard_iff : RunGuard hashes (.start params) c ↔ SwitchesTerminated hashes params c := by
  constructor
  · intro hg h c' hr hp s ch hread
    have hstep := hg h c' hr
    rw [StepGuard, hp] at hstep
    exact (hstep _ ch hread).1 rfl
  · intro hsw h c' hr
    obtain ⟨point, p, o⟩ := h
    cases point with
    | response => exact runs_plugin hr (by simp)
    | authMessage =>
      intro m ch hread
      cases m with
      | nil => trivial
      | cons b s =>
        refine ⟨?_, fun _ _ => runs_plugin hr (by simp)⟩
        rintro rfl
        exact hsw _ c' hr rfl s ch hread
    | _ => trivial

lemma handshake_guarded (hashes : Hashes) (params : ConnectionParams) :
    Guarded (SwitchesTerminated hashes params) (handshake hashes params)
      (Handshake.handshake hashes params) :=
  ((run_guarded hashes (.start params)).congr fun _ => runGuard_iff).then_safe
    fun _ => safe_unasserted _

/-- How a switch is decoded: the data without the NUL at its end, or an error. -/
def SwitchDecoded (s : Bytes) (caps : Capabilities) : Prop :=
  (∃ err, err.failed = true ∧
    deserializeMessage deserializeAuthSwitchRequestPacket ⟨s, caps⟩ = some (.error err)) ∨
  ∃ pluginName authData, NoNul pluginName ∧
    deserializeMessage deserializeAuthSwitchRequestPacket ⟨s, caps⟩ =
      some (.ok ⟨pluginName, authData⟩) ∧
    (s = serializeStringNull pluginName ++ (authData ++ [0]) ∨
      s = serializeStringNull pluginName ∧ authData = [])

/-- No assertion fails in a handshake: it comes to what it comes to without assertions, the
switches on its way are decoded, and there is a plugin wherever its name may be asked for. -/
structure NoAssertionFails (hashes : Hashes) (params : ConnectionParams) (c : Conn) : Prop where
  completes : handshake hashes params c = some (Handshake.handshake hashes params c)
  switches : ∀ h c', Runs hashes (.start params) c h c' → h.point = .authMessage →
    ∀ s ch, c'.channel.read = (authSwitchRequestHeader :: s, .success, ch) →
    SwitchDecoded s h.processor.negotiatedCaps
  plugins : ∀ h c', Runs hashes (.start params) c h c' → h.point ≠ .greeting →
    (pluginName h.processor.auth).isSome = true

lemma switchDecoded_of_terminated {s : Bytes} (ht : SwitchTerminated s) (caps : Capabilities) :
    SwitchDecoded s caps := by
  have hs := (guarded_message guarded_authSwitch).holds (s := ⟨s, caps⟩) ht
  rcases hd : Serialization.deserializeMessage HandshakeMessages.deserializeAuthSwitchRequestPacket
    ⟨s, caps⟩ with err | authSw
  · rw [hd] at hs
    exact Or.inl ⟨err, deserializeMessage_error_failed authSwitchRequest_failsOnly hd, hs⟩
  · rw [hd] at hs
    refine Or.inr ?_
    obtain ⟨name, data, hname, hrest⟩ := of_bind_ok (of_deserializeMessage_ok hd)
    obtain ⟨hnul, rfl⟩ := stringNull_ok_iff.mp hname
    cases hrest
    refine ⟨name, data.dropLast, hnul, hs, ?_⟩
    by_cases hempty : data = []
    · exact Or.inr (by simp [hempty])
    · have hlast := ht name data hnul rfl hempty
      exact Or.inl (by rw [List.dropLast_append_getLast? 0 hlast])

/-- **In which handshakes no assertion fails**: in those whose switches all have data that is
empty or ends in a NUL. -/
theorem noAssertionFails_iff (hashes : Hashes) (params : ConnectionParams) (c : Conn) :
    NoAssertionFails hashes params c ↔ SwitchesTerminated hashes params c := by
  constructor
  · intro hno
    exact (handshake_guarded hashes params).eq_some_iff.mp hno.completes
  · intro hsw
    refine ⟨(handshake_guarded hashes params).holds hsw, ?_, ?_⟩
    · intro h c' hr hp s ch hread
      exact switchDecoded_of_terminated (hsw h c' hr hp s ch hread) _
    · intro h c' hr hne
      rw [guarded_pluginName.holds (runs_plugin hr hne)]
      rfl

/-- A switch whose data are three bytes without a NUL. -/
def bareSwitch : Bytes :=
  authSwitchRequestHeader :: (serializeStringNull nativePassword ++ [1, 2, 3])

/-- A server that greets and then sends that switch ends the client's program. -/
theorem bareSwitch_fails : ¬ NoAssertionFails zeroHashes blankParams
    (.fresh (greetedSession ((frames 2 bareSwitch).map .byte ++ []))) := by
  intro hno
  have hsw := (handshake_guarded zeroHashes blankParams).eq_some_iff.mp hno.completes
  obtain ⟨c, hears, hc⟩ := greeted_hears ((frames 2 bareSwitch).map .byte ++ [])
  obtain ⟨ch, hr, -⟩ := hc.read (by decide)
  have hlast := hsw _ c (runs_of_hears hears) rfl _ ch hr nativePassword [1, 2, 3] (by decide) rfl
    (by decide)
  exact absurd hlast (by decide)

end Handshake

end MysqlAsio.Asserting
