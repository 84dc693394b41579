import MysqlAsio.Handshake
import MysqlAsio.WireTypes

/-!
What is answered to the challenges of a server, along a whole handshake.
-/

namespace MysqlAsio.Challenges

open MysqlAsio.Errors MysqlAsio.Serialization MysqlAsio.CommonMessages MysqlAsio.Auth
open MysqlAsio.HandshakeMessages MysqlAsio.Streams MysqlAsio.Channels MysqlAsio.Framing
open MysqlAsio.Operations MysqlAsio.Handshake MysqlAsio.Handshake.HandshakeProcessor
open MysqlAsio.WireTypes MysqlAsio.Lib.Decoding MysqlAsio.Lib.Programs

variable {hashes : Hashes}

/-! ### What is to be answered -/

/-- The bytes that answer a challenge, if the plugin takes it. A blank password is answered with
nothing, whatever the challenge is. -/
def expectedResponse (hashes : Hashes) (plugin : AuthenticationPlugin)
    (password challenge : Bytes) (useSsl : Bool) : Option Bytes :=
  if password = [] then some []
  else (plugin.calculator hashes password challenge useSsl).toOption.map AuthResponse.bytes

/-- A challenge that no response is computed for. -/
def WrongLength (plugin : AuthenticationPlugin) (challenge : Bytes) : Prop :=
  challenge.length ≠ 20 ∧
    ¬ (plugin = .cachingSha2Password ∧ challenge = CachingSha2Password.performFullAuth)

lemma expectedResponse_wrongLength {plugin : AuthenticationPlugin} {password challenge : Bytes}
    (h : WrongLength plugin challenge) (hp : password ≠ []) (useSsl : Bool) :
    expectedResponse hashes plugin password challenge useSsl = none := by
  obtain ⟨hlen, hfull⟩ := h
  rw [expectedResponse, if_neg hp]
  cases plugin with
  | mysqlNativePassword =>
    have hlen' : challenge.length ≠ MysqlNativePassword.challengeLength := hlen
    simp only [AuthenticationPlugin.calculator, MysqlNativePassword.computeResponse, if_pos hlen']
    rfl
  | cachingSha2Password =>
    have hlen' : challenge.length ≠ CachingSha2Password.challengeLength := hlen
    have hfull' : challenge ≠ CachingSha2Password.performFullAuth := fun h => hfull ⟨rfl, h⟩
    simp only [AuthenticationPlugin.calculator, CachingSha2Password.computeResponse, if_neg hfull',
      if_pos hlen']
    rfl

lemma calculator_error {plugin : AuthenticationPlugin} {password challenge : Bytes}
    {useSsl : Bool} {err : ErrorCode}
    (h : plugin.calculator hashes password challenge useSsl = .error err) : err.failed = true := by
  cases plugin <;>
    simp only [AuthenticationPlugin.calculator, MysqlNativePassword.computeResponse,
      CachingSha2Password.computeResponse] at h <;>
    split_ifs at h <;> cases h <;> rfl

section Calculate

variable {auth : AuthCalculator} {pluginName password challenge : Bytes} {useSsl : Bool}

lemma calculate_plugin : (auth.calculate hashes pluginName password challenge useSsl).2.plugin =
    findPlugin pluginName := by
  unfold AuthCalculator.calculate
  cases findPlugin pluginName with
  | none => rfl
  | some plugin =>
    dsimp only
    split_ifs
    · rfl
    · split <;> rfl

lemma of_calculate_ok
    (h : (auth.calculate hashes pluginName password challenge useSsl).1.failed = false) :
    ∃ plugin, findPlugin pluginName = some plugin ∧
      expectedResponse hashes plugin password challenge useSsl =
        some (auth.calculate hashes pluginName password challenge useSsl).2.response.bytes := by
  unfold AuthCalculator.calculate at h ⊢
  cases hf : findPlugin pluginName with
  | none =>
    rw [hf] at h
    cases h
  | some plugin =>
    refine ⟨plugin, rfl, ?_⟩
    rw [hf] at h
    dsimp only at h ⊢
    by_cases hp : password = []
    · rw [if_pos hp, expectedResponse, if_pos hp]
      rfl
    · rw [if_neg hp] at h ⊢
      rw [expectedResponse, if_neg hp]
      rcases hc : plugin.calculator hashes password challenge useSsl with err | response
      · rw [hc] at h
        cases h.symm.trans (calculator_error hc)
      · rfl

end Calculate

/-! ### What a server asks -/

/-- A message that carries a challenge, in the form the protocol has for it: the data of a switch
ends in a NUL, which is not part of the challenge. -/
inductive Carries : Bytes → Bytes → Prop
  | authSwitch {pluginName challenge : Bytes} (h : NoNul pluginName) :
      Carries (authSwitchRequestHeader :: (serializeStringNull pluginName ++ (challenge ++ [0])))
        challenge
  | authMoreData {challenge : Bytes} (h : challenge ≠ fastAuthCompleteChallenge) :
      Carries (authMoreDataHeader :: challenge) challenge

/-- The plugin that a message names: a greeting, or a switch. -/
def pluginNamed : Bytes → Option Bytes
  | [] => none
  | b :: s =>
    if b = handshakeProtocolVersion10 then
      (deserializeMessage deserializeHandshakePacket ⟨s, .none⟩).toOption.map (·.authPluginName)
    else if b = authSwitchRequestHeader then
      (deserializeMessage deserializeAuthSwitchRequestPacket ⟨s, .none⟩).toOption.map (·.pluginName)
    else none

/-- The plugin that was named last. -/
def mostRecentPlugin (ms : List Bytes) : Option Bytes := ms.reverse.findSome? pluginNamed

lemma mostRecentPlugin_concat (ms : List Bytes) (m : Bytes) :
    mostRecentPlugin (ms ++ [m]) = (pluginNamed m).or (mostRecentPlugin ms) := by
  rw [mostRecentPlugin, List.reverse_append, List.reverse_singleton, List.singleton_append,
    List.findSome?_cons]
  cases pluginNamed m <;> rfl

/-- The capabilities are not looked at. -/
lemma pluginNamed_authSwitch {s : Bytes} {caps : Capabilities} {authSw : AuthSwitchRequestPacket}
    (h : deserializeMessage deserializeAuthSwitchRequestPacket ⟨s, caps⟩ = .ok authSw) :
    pluginNamed (authSwitchRequestHeader :: s) = some authSw.pluginName := by
  have h' : deserializeMessage deserializeAuthSwitchRequestPacket ⟨s, .none⟩ = .ok authSw := h
  rw [pluginNamed, if_neg (by decide), if_pos rfl, h']
  rfl

lemma pluginNamed_other {b : UInt8} (s : Bytes) (h1 : b ≠ handshakeProtocolVersion10)
    (h2 : b ≠ authSwitchRequestHeader) : pluginNamed (b :: s) = none := by
  rw [pluginNamed, if_neg h1, if_neg h2]

lemma authSwitch_decodes {pluginName : Bytes} (h : NoNul pluginName) (challenge : Bytes)
    (caps : Capabilities) :
    deserializeMessage deserializeAuthSwitchRequestPacket
      ⟨serializeStringNull pluginName ++ (challenge ++ [0]), caps⟩ =
      .ok ⟨pluginName, challenge⟩ := by
  have hname := (stringNull_exact h).reads (challenge ++ [0])
  refine deserializeMessage_ok ((bind_ok hname).trans ?_)
  rw [bind_ok (show deserializeStringEof (challenge ++ [0]) = .ok (challenge ++ [0], []) from rfl),
    List.dropLast_concat]
  rfl

/-! ### Runs, with what is heard on them -/

/-- The message that is read at a step: a greeting, or one of the authentication. -/
def heard (h : HandshakeOp) (c : Conn) : List Bytes :=
  match h.point with
  | .greeting | .authMessage => [c.channel.read.1]
  | _ => []

/-- Where steps that succeed lead to, and the messages heard on the way. -/
inductive Hears (hashes : Hashes) (params : ConnectionParams) (c0 : Conn) :
    List Bytes → HandshakeOp → Conn → Prop
  | start : Hears hashes params c0 [] (.start params) c0
  | step {ms : List Bytes} {h h' : HandshakeOp} {c c' : Conn} (hr : Hears hashes params c0 ms h c)
      (ht : Transition hashes h c h' c') : Hears hashes params c0 (ms ++ heard h c) h' c'

lemma runs_of_hears {params : ConnectionParams} {c c' : Conn} {h : HandshakeOp} {ms : List Bytes}
    (hears : Hears hashes params c ms h c') : Runs hashes (.start params) c h c' := by
  induction hears with
  | start => exact .start
  | step _ ht ih => exact ih.step ht

/-- A plugin was named, and is the one in use. -/
structure Named (params : ConnectionParams) (ms : List Bytes) (p : HandshakeProcessor) : Prop where
  params_eq : p.params = params
  plugin : ∃ pluginName plugin, mostRecentPlugin ms = some pluginName ∧
    findPlugin pluginName = some plugin ∧ p.auth.plugin = some plugin

variable {params : ConnectionParams} {c0 : Conn}

lemma calculate_named {p : HandshakeProcessor} {ms : List Bytes}
    {asked pluginName challenge : Bytes} (hp : p.params = params)
    (hm : mostRecentPlugin ms = some pluginName) (hsame : findPlugin asked = findPlugin pluginName)
    (he : (p.calculate hashes asked challenge).1.failed = false) :
    Named params ms (p.calculate hashes asked challenge).2 := by
  obtain ⟨plugin, hf, -⟩ := of_calculate_ok he
  exact ⟨hp, pluginName, plugin, hm, hsame ▸ hf, calculate_plugin.trans hf⟩

lemma pluginNamed_greeting {m : Bytes} {info info' : ErrorInfo} {err : ErrorCode}
    {packet : HandshakePacket} (hd : deserializeHandshake m info = (err, packet, info'))
    (hne : packet ≠ .default) : pluginNamed m = some packet.authPluginName := by
  cases m with
  | nil =>
    cases hd
    exact absurd rfl hne
  | cons b s =>
    rw [deserializeHandshake, deserializeMessageType_cons] at hd
    dsimp only at hd
    split_ifs at hd with h9 herr h10
    · cases hd
      exact absurd rfl hne
    · cases hd
      exact absurd rfl hne
    · cases hd
      exact absurd rfl hne
    · rcases hm : deserializeMessage deserializeHandshakePacket ⟨s, .none⟩ with e | output
      · rw [hm] at hd
        cases hd
        exact absurd rfl hne
      · rw [hm] at hd
        cases hd
        rw [pluginNamed, if_pos (not_not.mp h10), hm]
        rfl

lemma processHandshake_named {p' : HandshakeProcessor} {m : Bytes} {info info' : ErrorInfo}
    {err : ErrorCode}
    (h : (HandshakeProcessor.new params).processHandshake hashes m info = (err, p', info'))
    (he : err.failed = false) : Named params [m] p' := by
  obtain ⟨rfl, packet, hd, hn⟩ := processHandshake_accepted h he
  have hnamed := pluginNamed_greeting hd (ne_default_of_hasAll hn.required)
  have hm : mostRecentPlugin [m] = some packet.authPluginName := by
    rw [mostRecentPlugin, List.reverse_singleton, List.findSome?_cons, hnamed]
  rcases hc : (HandshakeProcessor.new params).processCapabilities packet with ⟨err2, p2⟩
  have hp2 : p2.params = params := by
    unfold processCapabilities at hc
    dsimp only at hc
    split_ifs at hc <;> cases hc <;> rfl
  simp only [HandshakeProcessor.processHandshake, hd, hc, success_failed, Bool.false_eq_true,
    if_false] at h
  split_ifs at h with h2
  · cases h
    cases h2
  · rcases hcalc : p2.calculate hashes packet.authPluginName packet.authPluginData with ⟨e, p3⟩
    have hnp := @calculate_named hashes params p2 [m] _ _ packet.authPluginData hp2 hm rfl
    rw [hcalc] at h hnp
    cases h
    exact hnp rfl

section Answers

variable {p : HandshakeProcessor} {ms : List Bytes} {o : AuthResult} {m asked challenge : Bytes}
variable {info : ErrorInfo}

/-- More data is for the plugin in use, and a switch says which it is for. -/
lemma Named.challenged (hn : Named params ms p) (h : Challenged p m asked challenge) :
    ∃ pluginName, mostRecentPlugin (ms ++ [m]) = some pluginName ∧
      findPlugin asked = findPlugin pluginName := by
  rw [mostRecentPlugin_concat]
  cases h with
  | authSwitch h =>
    rw [pluginNamed_authSwitch h]
    exact ⟨_, rfl, rfl⟩
  | @authMoreData s moreData h hne =>
    obtain ⟨pluginName, plugin, hm, hf, hp⟩ := hn.plugin
    rw [pluginNamed_other s (by decide) (by decide), Option.none_or]
    refine ⟨pluginName, hm, ?_⟩
    rw [AuthCalculator.pluginName, hp, hf]
    exact findPlugin_name plugin

lemma answerChallenge_ok
    (he : (p.answerChallenge hashes asked challenge o m info).err.failed = false) :
    let r := p.calculate hashes asked challenge
    r.1.failed = false ∧ p.answerChallenge hashes asked challenge o m info =
      ⟨.success, r.2, .sendMoreData, r.2.auth.response.bytes, info⟩ := by
  unfold answerChallenge at he ⊢
  rcases hr : p.calculate hashes asked challenge with ⟨err, p'⟩
  rw [hr] at he
  dsimp only at he ⊢
  cases hf : err.failed with
  | true =>
    rw [hf] at he
    cases hf.symm.trans he
  | false =>
    refine ⟨rfl, ?_⟩
    rw [if_neg (by decide), serializeMessage_eq]
    rfl

lemma pluginNamed_unchallenged (h : ∀ asked challenge, ¬ Challenged p m asked challenge)
    (he : (p.processHandshakeServerResponse hashes o m info).err.failed = false) :
    pluginNamed m = none := by
  cases m with
  | nil => rfl
  | cons b s =>
    by_cases h10 : b = handshakeProtocolVersion10
    · subst h10
      cases he
    by_cases hsw : b = authSwitchRequestHeader
    · subst hsw
      rcases hd : deserializeMessage deserializeAuthSwitchRequestPacket ⟨s, p.negotiatedCaps⟩ with
        err | authSw
      · have hd' : deserializeMessage deserializeAuthSwitchRequestPacket ⟨s, .none⟩ =
          .error err := hd
        rw [pluginNamed, if_neg h10, if_pos rfl, hd']
        rfl
      · exact absurd (.authSwitch hd) (h _ _)
    · exact pluginNamed_other s h10 hsw

lemma answer_named (hn : Named params ms p)
    (he : (p.processHandshakeServerResponse hashes o m info).err.failed = false) :
    Named params (ms ++ [m]) (p.processHandshakeServerResponse hashes o m info).processor := by
  by_cases h : ∃ asked challenge, Challenged p m asked challenge
  · obtain ⟨asked, challenge, h⟩ := h
    obtain ⟨pluginName, hm, hsame⟩ := hn.challenged h
    rw [h.answer] at he ⊢
    obtain ⟨hc, ha⟩ := answerChallenge_ok he
    rw [ha]
    exact calculate_named hn.params_eq hm hsame hc
  · have h' : ∀ asked challenge, ¬ Challenged p m asked challenge := fun asked challenge hc =>
      h ⟨asked, challenge, hc⟩
    have hp := (@answer_cases p hashes o m info).resolve_left fun ⟨asked, challenge, hc, _⟩ =>
      h' asked challenge hc
    rw [hp.1]
    obtain ⟨pluginName, plugin, hm, hf, ha⟩ := hn.plugin
    refine ⟨hn.params_eq, pluginName, plugin, ?_, hf, ha⟩
    rw [mostRecentPlugin_concat, pluginNamed_unchallenged h' he, Option.none_or, hm]

end Answers

/-! ### Along a run -/

/-- What is known of the processor, wherever a run has come to. -/
def Followed (params : ConnectionParams) (ms : List Bytes) (h : HandshakeOp) : Prop :=
  h = .start params ∧ ms = [] ∨ h.point ≠ .greeting ∧ Named params ms h.processor

lemma transition_followed {ms : List Bytes} {h h' : HandshakeOp} {c c' : Conn}
    (hf : Followed params ms h) (ht : Transition hashes h c h' c') :
    Followed params (ms ++ heard h c) h' := by
  have hpoint := ht.point.1
  cases ht with
  | @greeting p p' o c m ch err info hr hp he =>
    rcases hf with ⟨hs, rfl⟩ | ⟨hne, -⟩
    · cases hs
      refine Or.inr ⟨hpoint, ?_⟩
      have hheard : heard ⟨.greeting, .new params, .invalid⟩ c = [m] := by simp [heard, hr]
      rw [List.nil_append, hheard]
      exact processHandshake_named hp he
    · exact absurd rfl hne
  | @authMessage p o c m ch answer hr hp he =>
    subst hp
    rcases hf with ⟨hs, -⟩ | ⟨-, hn⟩
    · cases hs
    · have hheard : heard ⟨.authMessage, p, o⟩ c = [m] := by simp [heard, hr]
      refine Or.inr ⟨hpoint, ?_⟩
      rw [hheard]
      exact answer_named hn he
  | sslRequest | sslHandshake | response | authResponse =>
    rcases hf with ⟨hs, -⟩ | ⟨-, hn⟩
    · cases hs
    · refine Or.inr ⟨hpoint, ?_⟩
      simpa [heard] using hn

lemma hears_followed {ms : List Bytes} {h : HandshakeOp} {c : Conn}
    (hr : Hears hashes params c0 ms h c) : Followed params ms h := by
  induction hr with
  | start => exact Or.inl ⟨rfl, rfl⟩
  | step _ ht ih => exact transition_followed ih ht

lemma Carries.challenged {m challenge : Bytes} (h : Carries m challenge) (p : HandshakeProcessor) :
    ∃ asked, Challenged p m asked challenge := by
  cases h with
  | authSwitch h => exact ⟨_, .authSwitch (authSwitch_decodes h challenge p.negotiatedCaps)⟩
  | authMoreData hne =>
    have hd : deserializeMessage deserializeAuthMoreDataPacket ⟨challenge, p.negotiatedCaps⟩ =
        .ok ⟨challenge⟩ := rfl
    exact ⟨_, .authMoreData hd hne⟩

/-- What becomes of the messages of a server, wherever a handshake has come to. -/
structure AnswersChallenges (hashes : Hashes) (params : ConnectionParams) (c0 : Conn) : Prop where
  /-- Where a challenge is taken, what is written next is the response of the plugin named last. -/
  answered : ∀ ms h c, Hears hashes params c0 ms h c → h.point = .authMessage →
    ∀ m ch challenge, c.channel.read = (m, .success, ch) → Carries m challenge →
    ∀ h' c', h.step hashes c = (.ok h', c') →
    ∃ pluginName plugin response, mostRecentPlugin (ms ++ [m]) = some pluginName ∧
      findPlugin pluginName = some plugin ∧
      expectedResponse hashes plugin params.password challenge
        (h.processor.negotiatedCaps.has Capabilities.clientSsl) = some response ∧
      h'.point = .authResponse ∧
      h'.step hashes c' = (do
        write response
        pure { h' with point := .authMessage } : Operation HandshakeOp) c'
  /-- The end of a fast authentication is not answered. -/
  fastAuth : ∀ ms h c, Hears hashes params c0 ms h c → h.point = .authMessage →
    ∀ ch, c.channel.read = (authMoreDataHeader :: fastAuthCompleteChallenge, .success, ch) →
    ∃ h' c', h.step hashes c = (.ok h', c') ∧ h'.point = .authMessage ∧
      c'.channel.stream.log = c.channel.stream.log
  /-- A plugin that is not known, and for a password a challenge of the wrong length, end the
  handshake before anything is written. -/
  refused : ∀ ms h c, Hears hashes params c0 ms h c → h.point = .authMessage →
    ∀ m ch challenge, c.channel.read = (m, .success, ch) → Carries m challenge →
    ∀ pluginName, mostRecentPlugin (ms ++ [m]) = some pluginName →
    (findPlugin pluginName = none ∨ params.password ≠ [] ∧
      ∃ plugin, findPlugin pluginName = some plugin ∧ WrongLength plugin challenge) →
    ∃ err c', err.failed = true ∧ h.run hashes c = (.error err, c') ∧
      c'.channel.stream.log = c.channel.stream.log

section Step

variable {ms : List Bytes} {h : HandshakeOp} {c : Conn} {m challenge : Bytes} {ch : Channel}

lemma Followed.named (hf : Followed params ms h) (hp : h.point = .authMessage) :
    Named params ms h.processor := by
  rcases hf with ⟨rfl, -⟩ | ⟨-, hn⟩
  · cases hp
  · exact hn

/-- A challenge is refused, or taken by the plugin named last, and then answered. -/
lemma challenge_cases (hn : Named params ms h.processor) (hp : h.point = .authMessage)
    (hr : c.channel.read = (m, .success, ch)) (hc : Carries m challenge) :
    (∃ err c', err.failed = true ∧ h.step hashes c = (.error err, c') ∧
      c'.channel.stream.log = c.channel.stream.log) ∨
    ∃ pluginName plugin response p', mostRecentPlugin (ms ++ [m]) = some pluginName ∧
      findPlugin pluginName = some plugin ∧
      expectedResponse hashes plugin params.password challenge h.processor.useSsl =
        some response ∧
      h.step hashes c = (.ok ⟨.authResponse, p', .sendMoreData⟩,
        ⟨{ ch with sharedBuffer := response }, c.info⟩) := by
  obtain ⟨point, p, o⟩ := h
  subst hp
  obtain ⟨asked, hch⟩ := hc.challenged p
  obtain ⟨pluginName, hm, hsame⟩ := hn.challenged hch
  have hanswer : p.processHandshakeServerResponse hashes o m c.info =
      p.answerChallenge hashes asked challenge o m c.info := hch.answer
  have hs := step_authMessage hr hanswer
  have hlog : ch.stream.log = c.channel.stream.log := read_log hr
  cases he : (p.answerChallenge hashes asked challenge o m c.info).err.failed with
  | true =>
    rw [outcome_failed he] at hs
    exact Or.inl ⟨_, _, he, hs, hlog⟩
  | false =>
    obtain ⟨hcalc, ha⟩ := answerChallenge_ok he
    obtain ⟨plugin, hplugin, hresponse⟩ := of_calculate_ok hcalc
    rw [ha] at hs
    refine Or.inr ⟨pluginName, plugin, _, _, hm, hsame ▸ hplugin, ?_, hs⟩
    rw [← hn.params_eq]
    exact hresponse

end Step

/-- **Every challenge is answered by the plugin that was named last**, for the password of the
parameters and with what that very message carries, or the handshake ends; what asks for nothing
is answered with nothing. -/
theorem challenges_answered (hashes : Hashes) (params : ConnectionParams) (c0 : Conn) :
    AnswersChallenges hashes params c0 where
  answered ms h c hr hp m ch challenge hread hc h' c' hs := by
    rcases @challenge_cases hashes params ms h c m challenge ch ((hears_followed hr).named hp) hp
      hread hc with ⟨err, c1, -, he, -⟩ | ⟨pluginName, plugin, response, p', hm, hf, hx, hs'⟩
    · rw [hs] at he
      cases he
    · rw [hs] at hs'
      cases hs'
      exact ⟨pluginName, plugin, response, hm, hf, hx, rfl, rfl⟩
  fastAuth ms h c hr hp ch hread := by
    obtain ⟨point, p, o⟩ := h
    cases hp
    have hs := @step_authMessage hashes p o c _ ch _ hread rfl
    have hlog : ch.stream.log = c.channel.stream.log := read_log hread
    exact ⟨_, _, hs, rfl, hlog⟩
  refused ms h c hr hp m ch challenge hread hc pluginName hm hbad := by
    rcases @challenge_cases hashes params ms h c m challenge ch ((hears_followed hr).named hp) hp
      hread hc with ⟨err, c1, he, hs, hlog⟩ | ⟨pluginName', plugin, response, p', hm', hf, hx, -⟩
    · exact ⟨err, c1, he, run_error (by rw [hp]; decide) hs, hlog⟩
    · rw [hm, Option.some.injEq] at hm'
      subst hm'
      rcases hbad with hnone | ⟨hpassword, plugin', hf', hlen⟩
      · rw [hnone] at hf
        cases hf
      · rw [hf, Option.some.injEq] at hf'
        subst hf'
        rw [expectedResponse_wrongLength hlen hpassword] at hx
        cases hx

/-! ### A server that greets, and goes on -/

/-- A channel that sends everything, with this to arrive on it. -/
structure Served (ch : Channel) (seq : UInt8) (rest : List Arrival) : Prop where
  sends : Sends ch
  sequenceNumber : ch.sequenceNumber = seq
  pending : ch.pending = rest

section Served

variable {ch : Channel} {seq : UInt8} {rest : List Arrival} {m : Bytes}

lemma Served.withBuffer (h : Served ch seq rest) (buffer : Bytes) :
    Served { ch with sharedBuffer := buffer } seq rest :=
  ⟨⟨h.sends.isOpen, h.sends.writeResults⟩, h.sequenceNumber, h.pending⟩

lemma Served.read (h : Served ch seq ((frames seq m).map .byte ++ rest))
    (hl : m.length < maxPacketSize) :
    ∃ ch', ch.read = (m, .success, ch') ∧ Served ch' (seq + 1) rest := by
  obtain ⟨⟨hopen, hresults⟩, hseq, hp⟩ := h
  rw [← hseq] at hp
  refine ⟨_, read_frames hp, ⟨?_, ?_⟩, ?_, ch.afterFrames_pending _ _⟩
  · rw [← hopen, Channel.afterFrames, Channel.moveTo_stream]
    cases ch.layer <;> rfl
  · rw [← hresults, Channel.afterFrames, Channel.moveTo_stream]
    cases ch.layer <;> rfl
  · rw [Channel.afterFrames_sequenceNumber, frameCount_short hl, hseq]
    rfl

lemma Served.write (h : Served ch seq rest) (hl : m.length ≤ maxPacketSize) :
    ∃ ch', ch.write m = (.success, ch') ∧ Served ch' (seq + 1) rest := by
  obtain ⟨hs, hseq, hp⟩ := h
  have hw := write_written hs m
  refine ⟨_, hw, sends_afterWrites hs _, ?_, (write_pending hw).trans hp⟩
  rw [afterWrites, written_short hl, hseq]
  rfl

lemma Served.sslHandshake (h : Served ch seq rest) {tls : List Arrival}
    (ho : ch.stream.tlsOutcomes = [.ok tls]) :
    ∃ ch', ch.sslHandshake = (.success, ch') ∧ Served ch' seq tls ∧ ch'.sslActive = true := by
  have hs : ch.sslHandshake = (.success, { ch with
      sslActive := true
      stream := { ch.stream with
        tls, tlsOutcomes := [], log := ch.stream.log ++ [.tlsHandshake true] } }) := by
    simp [Channel.sslHandshake, Stream.tlsHandshake, h.sends.isOpen, ho]
  exact ⟨_, hs, ⟨⟨h.sends.isOpen, h.sends.writeResults⟩, h.sequenceNumber, rfl⟩, rfl⟩

end Served

section Layers

variable {ch ch' : Channel} {m : Bytes} {err : ErrorCode}

lemma read_layers (hr : ch.read = (m, err, ch')) :
    ch'.sslActive = ch.sslActive ∧ ch'.stream.tlsOutcomes = ch.stream.tlsOutcomes := by
  obtain ⟨seq, n, rest, -, hm⟩ := read_moved ch
  rw [hr] at hm
  simp only at hm
  rw [hm, Channel.moveTo]
  cases ch.layer <;> exact ⟨rfl, rfl⟩

lemma write_layers (hw : ch.write m = (err, ch')) :
    ch'.sslActive = ch.sslActive ∧ ch'.stream.tlsOutcomes = ch.stream.tlsOutcomes := by
  obtain ⟨seq, results, data, h⟩ := (write_cases ch m).1
  rw [hw] at h
  simp only at h
  rw [h]
  exact ⟨rfl, rfl⟩

end Layers

def nativePassword : Bytes := AuthenticationPlugin.mysqlNativePassword.name

/-- The greeting of a server without TLS. -/
def nativeGreeting : Bytes :=
  [10, 0x38, 0] ++ List.replicate 4 0 ++ List.replicate 8 0 ++ [0] ++ [0x00, 0x82] ++ [33] ++
    [2, 0] ++ [0x28, 0x01] ++ [21] ++ List.replicate 10 0 ++ List.replicate 13 0 ++
    serializeStringNull nativePassword

def blankParams : ConnectionParams := ⟨[], [], [], ⟨0⟩, .disable⟩

def blankProcessor : HandshakeProcessor :=
  ⟨blankParams, ⟨0x1288200⟩, ⟨some .mysqlNativePassword, .blank⟩⟩

def greetedSession (rest : List Arrival) : Session :=
  ⟨none, (frames 0 nativeGreeting).map .byte ++ rest, [], [], [], .success, 0⟩

lemma greeted_hears (rest : List Arrival) : ∃ c,
    Hears zeroHashes blankParams (.fresh (greetedSession rest)) [nativeGreeting]
      ⟨.authMessage, blankProcessor, .invalid⟩ c ∧ Served c.channel 2 rest := by
  have h0 : Served (Conn.fresh (greetedSession rest)).channel 0
    ((frames 0 nativeGreeting).map .byte ++ rest) := ⟨⟨rfl, rfl⟩, rfl, rfl⟩
  obtain ⟨ch1, hr, h1⟩ := h0.read (by decide)
  have hp : (HandshakeProcessor.new blankParams).processHandshake zeroHashes nativeGreeting
      .clear = (.success, blankProcessor, .clear) := by decide
  have hheard : heard (.start blankParams) (.fresh (greetedSession rest)) = [nativeGreeting] := by
    simp [heard, HandshakeOp.start, hr]
  have hears1 := Hears.step .start (Transition.greeting hr hp rfl)
  rw [hheard] at hears1
  have hl : (serializeMessage blankProcessor.handshakeResponse blankProcessor.negotiatedCaps
      nativeGreeting).length ≤ maxPacketSize := by decide
  obtain ⟨ch2, hw, h2⟩ := (h1.withBuffer _).write hl
  exact ⟨_, hears1.step (.response rfl hw), h2⟩

/-- A switch with a challenge of three bytes. -/
def shortSwitch : Bytes :=
  authSwitchRequestHeader :: (serializeStringNull nativePassword ++ ([1, 2, 3] ++ [0]))

/-- A blank password is answered with nothing, and accepted, for a challenge of any length. -/
theorem blank_password_answered : ¬ ∀ hashes params c0 ms h c,
    Hears hashes params c0 ms h c → h.point = .authMessage →
    ∀ m ch challenge, c.channel.read = (m, .success, ch) → Carries m challenge →
    ∀ pluginName, mostRecentPlugin (ms ++ [m]) = some pluginName →
    (findPlugin pluginName = none ∨
      ∃ plugin, findPlugin pluginName = some plugin ∧ WrongLength plugin challenge) →
    ∃ err c', err.failed = true ∧ h.run hashes c = (.error err, c') ∧
      c'.channel.stream.log = c.channel.stream.log := by
  intro hclaim
  obtain ⟨c, hears, hc⟩ := greeted_hears
    ((frames 2 shortSwitch).map .byte ++ ((frames 4 [okPacketHeader]).map .byte ++ []))
  obtain ⟨ch1, hr1, h1⟩ := hc.read (by decide)
  have hnamed : mostRecentPlugin ([nativeGreeting] ++ [shortSwitch]) = some nativePassword := by
    rw [mostRecentPlugin_concat]
    decide
  obtain ⟨err, c', -, hrun, -⟩ := hclaim _ _ _ _ _ _ hears rfl _ _ _ hr1
    (.authSwitch (by decide)) _ hnamed (Or.inr ⟨.mysqlNativePassword, by decide, by decide, by decide⟩)
  -- the switch is answered, and the server accepts
  have ha1 : blankProcessor.processHandshakeServerResponse zeroHashes .invalid shortSwitch c.info =
      ⟨.success, blankProcessor, .sendMoreData, [], c.info⟩ := rfl
  obtain ⟨ch2, hw2, h2⟩ := (h1.withBuffer []).write (m := []) (by decide)
  obtain ⟨ch3, hr3, -⟩ := h2.read (m := [okPacketHeader]) (by decide)
  have hruns := ((Runs.start.step (.authMessage hr1 ha1 rfl)).step (.authResponse hw2)).step
    (.authMessage hr3 rfl rfl)
  rw [hruns.run, run_finished rfl] at hrun
  cases hrun

end MysqlAsio.Challenges
