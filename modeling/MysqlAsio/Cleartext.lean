import MysqlAsio.Challenges
import MysqlAsio.TlsPolicy

/-!
When the client answers with the password itself.
-/

namespace MysqlAsio.Cleartext

open MysqlAsio.Errors MysqlAsio.Auth MysqlAsio.HandshakeMessages MysqlAsio.Streams
open MysqlAsio.Channels MysqlAsio.Framing MysqlAsio.Operations MysqlAsio.Handshake
open MysqlAsio.CommonMessages MysqlAsio.Serialization MysqlAsio.Challenges
open MysqlAsio.Handshake.HandshakeProcessor MysqlAsio.TlsPolicy MysqlAsio.Lib.Programs

variable {hashes : Hashes}

/-! ### The password is answered under TLS -/

/-- The answer is the password itself only where TLS was negotiated. -/
def Guarded (p : HandshakeProcessor) : Prop :=
  ∀ password, p.auth.response = .cleartext password → p.useSsl = true

lemma processHandshake_guarded {p p' : HandshakeProcessor} {m : Bytes} {info info' : ErrorInfo}
    {err : ErrorCode} (h : p.processHandshake hashes m info = (err, p', info'))
    (he : err.failed = false) : Guarded p' := by
  unfold HandshakeProcessor.processHandshake at h
  rcases hd : deserializeHandshake m info with ⟨err1, packet, info1⟩
  rcases hc : p.processCapabilities packet with ⟨err2, p2⟩
  simp only [hd, hc] at h
  split_ifs at h with h1 h2
  · cases h
    cases h1.symm.trans he
  · cases h
    cases h2.symm.trans he
  · cases h
    rcases calculate_cases p2.auth hashes packet.authPluginName p2.params.password
      packet.authPluginData p2.useSsl with ⟨hf, -⟩ | ⟨-, hg⟩
    · cases hf.symm.trans he
    · exact hg

lemma answer_guarded {p : HandshakeProcessor} {o : AuthResult} {m : Bytes} {info : ErrorInfo}
    (hg : Guarded p)
    (he : (p.processHandshakeServerResponse hashes o m info).err.failed = false) :
    Guarded (p.processHandshakeServerResponse hashes o m info).processor := by
  rcases @answer_cases p hashes o m info with ⟨pluginName, challenge, -, ha⟩ | ⟨hp, -⟩
  · rw [ha] at he ⊢
    obtain ⟨-, hcaps, hf | ⟨-, -, hs⟩⟩ :=
      @answerChallenge_cases p hashes o m info pluginName challenge
    · cases hf.symm.trans he
    · intro password hr
      rw [useSsl, hcaps]
      exact hs password hr
  · rw [hp]
    exact hg

lemma transition_guarded {h h' : HandshakeOp} {c c' : Conn} (ht : Transition hashes h c h' c')
    (hg : Guarded h.processor) : Guarded h'.processor := by
  cases ht with
  | greeting hr hp he => exact processHandshake_guarded hp he
  | sslRequest hm hw => exact hg
  | sslHandshake hs he => exact hg
  | response hm hw => exact hg
  | authMessage hr hp he =>
    subst hp
    exact answer_guarded hg he
  | authResponse hw => exact hg

theorem runs_guarded {params : ConnectionParams} {c0 c : Conn} {h : HandshakeOp}
    (hr : Runs hashes (.start params) c0 h c) : Guarded h.processor := by
  induction hr with
  | start => exact fun password h => by cases h
  | step _ ht ih => exact transition_guarded ht ih

/-! ### The password is refused without TLS -/

/-- The full authentication of `caching_sha2_password`. -/
structure FullAuth (pluginName challenge : Bytes) : Prop where
  pluginName : pluginName = AuthenticationPlugin.cachingSha2Password.name
  challenge : challenge = CachingSha2Password.performFullAuth

/-- A message asks for the password itself: a greeting, a switch to another plugin, or more data
for the one in use. The processor has then negotiated its capabilities. -/
inductive AsksForPassword (info : ErrorInfo) : HandshakeOp → Bytes → HandshakeProcessor → Prop
  | greeting {p p' : HandshakeProcessor} {o : AuthResult} {m : Bytes} {packet : HandshakePacket}
      {info' : ErrorInfo} (hd : deserializeHandshake m info = (.success, packet, info'))
      (hc : p.processCapabilities packet = (.success, p'))
      (hf : FullAuth packet.authPluginName packet.authPluginData) :
      AsksForPassword info ⟨.greeting, p, o⟩ m p'
  | challenge {p : HandshakeProcessor} {o : AuthResult} {m pluginName challenge : Bytes}
      (h : Challenged p m pluginName challenge) (hf : FullAuth pluginName challenge) :
      AsksForPassword info ⟨.authMessage, p, o⟩ m p

lemma calculate_refused {p : HandshakeProcessor} (hp : p.params.password ≠ [])
    (hs : p.useSsl = false) {pluginName challenge : Bytes} (hf : FullAuth pluginName challenge) :
    (p.calculate hashes pluginName challenge).1 = makeErrorCode .authPluginRequiresSsl := by
  obtain ⟨rfl, rfl⟩ := hf
  simp [calculate, AuthCalculator.calculate, findPlugin_name, hp, hs,
    AuthenticationPlugin.calculator, CachingSha2Password.computeResponse]

/-- Without TLS, whoever asks for the password gets nothing. -/
lemma run_refused {h : HandshakeOp} {c : Conn} {m : Bytes} {ch : Channel} {p : HandshakeProcessor}
    (hr : c.channel.read = (m, .success, ch)) (ha : AsksForPassword c.info h m p)
    (hp : p.params.password ≠ []) (hs : p.useSsl = false) :
    ∃ info, h.run hashes c = (.error (makeErrorCode .authPluginRequiresSsl),
      ⟨{ ch with sharedBuffer := m }, info⟩) := by
  have he : (makeErrorCode .authPluginRequiresSsl).failed = true := rfl
  cases ha with
  | @greeting p0 _ o _ packet info' hd hc hf =>
    have h1 := @calculate_refused hashes p hp hs _ _ hf
    rcases hcalc : p.calculate hashes packet.authPluginName packet.authPluginData with ⟨err, p1⟩
    rw [hcalc] at h1
    simp only at h1
    subst h1
    have hproc : p0.processHandshake hashes m c.info =
        (makeErrorCode .authPluginRequiresSsl, p1, info') := by
      simp [HandshakeProcessor.processHandshake, hd, hc, hcalc]
    have hstep := @step_greeting hashes _ _ o _ _ _ _ _ hr hproc
    rw [outcome_failed he] at hstep
    exact ⟨info', run_error (fun h => by cases h) hstep⟩
  | @challenge _ o _ pluginName challenge hch hf =>
    have h1 := @calculate_refused hashes p hp hs _ _ hf
    rcases hcalc : p.calculate hashes pluginName challenge with ⟨err, p1⟩
    rw [hcalc] at h1
    simp only at h1
    subst h1
    have hanswer : p.processHandshakeServerResponse hashes o m c.info =
        ⟨makeErrorCode .authPluginRequiresSsl, p1, o, m, c.info⟩ := by
      rw [hch.answer, answerChallenge, hcalc]
      simp [he]
    have hstep := step_authMessage hr hanswer
    rw [outcome_failed he] at hstep
    exact ⟨c.info, run_error (fun h => by cases h) hstep⟩

/-! ### On a fresh connection -/

/-- What protects the password in a handshake on a fresh connection, whatever the server does. -/
structure CleartextGuarded (hashes : Hashes) (params : ConnectionParams) (session : Session) :
    Prop where
  /-- The password itself is answered only where TLS was negotiated. -/
  negotiated : ∀ h c, Runs hashes (.start params) (.fresh session) h c →
    ∀ password, h.processor.auth.response = .cleartext password →
      h.processor.negotiatedCaps.has Capabilities.clientSsl = true
  /-- Where it is about to be written, TLS is in use. -/
  written : ∀ h c, Runs hashes (.start params) (.fresh session) h c →
    h.point = .response ∨ h.point = .authResponse →
    ∀ password, h.processor.auth.response = .cleartext password → TlsCompleted c.channel
  /-- Where TLS was not negotiated and it is asked for, the handshake ends in an error, and writes
  nothing more. -/
  refused : ∀ h c, Runs hashes (.start params) (.fresh session) h c →
    ∀ m ch p, c.channel.read = (m, .success, ch) → AsksForPassword c.info h m p →
    p.negotiatedCaps.has Capabilities.clientSsl = false →
    ∃ c', h.run hashes c = (.error (makeErrorCode .authPluginRequiresSsl), c') ∧
      c'.channel.stream.log = c.channel.stream.log

lemma AsksForPassword.params_eq {info : ErrorInfo} {h : HandshakeOp} {m : Bytes}
    {p : HandshakeProcessor} (ha : AsksForPassword info h m p) :
    p.params = h.processor.params := by
  cases ha with
  | @greeting p0 _ o _ packet info' hd hc hf =>
    unfold processCapabilities at hc
    simp only at hc
    split_ifs at hc <;> cases hc
    rfl
  | challenge h hf => rfl

/-- **The password itself is sent only under TLS**, whatever the server asks for. -/
theorem cleartext_guarded (hashes : Hashes) (params : ConnectionParams) (session : Session)
    (hpassword : params.password ≠ []) : CleartextGuarded hashes params session where
  negotiated h c hr password hresponse := runs_guarded hr password hresponse
  written h c hr hp password hresponse := by
    have hpos := runs_position (fresh_not_tlsStarted session) hr
    refine hpos.tlsCompleted ?_ (runs_guarded hr password hresponse)
    rcases hp with hp | hp <;> simp [hp, HandshakePoint.rank]
  refused h c hr m ch p hread ha hs := by
    have hparams : h.processor.params = params := by
      cases runs_position (fresh_not_tlsStarted session) hr with
      | greeting => rfl
      | sslRequest hacc => exact hacc.negotiated.params_eq
      | sslHandshake hacc => exact hacc.negotiated.params_eq
      | later hacc _ hparams => exact hparams.trans hacc.negotiated.params_eq
    have hp : p.params.password ≠ [] := by rwa [ha.params_eq, hparams]
    obtain ⟨info, hrun⟩ := @run_refused hashes h c m ch p hread ha hp hs
    have hlog : ch.stream.log = c.channel.stream.log := read_log hread
    exact ⟨_, hrun, hlog⟩

/-! ### A full authentication -/

/-- The greeting of a server that has TLS, for `caching_sha2_password`. -/
def cachingGreeting : Bytes :=
  [10, 0x38, 0] ++ List.replicate 4 0 ++ List.replicate 8 0 ++ [0] ++ [0x00, 0x8a] ++ [33] ++
    [2, 0] ++ [0x28, 0x01] ++ [21] ++ List.replicate 10 0 ++ List.replicate 13 0 ++
    serializeStringNull AuthenticationPlugin.cachingSha2Password.name

/-- The password is not in the cache of the server, which asks for it. -/
def fullAuthMessage : Bytes := authMoreDataHeader :: CachingSha2Password.performFullAuth

def passwordParams : ConnectionParams := ⟨[], [0x61], [], ⟨0⟩, .enable⟩

def passwordProcessor : HandshakeProcessor :=
  ⟨passwordParams, ⟨0x1288a00⟩, ⟨some .cachingSha2Password, .scrambled (List.replicate 32 0)⟩⟩

/-- It is asked for under TLS. -/
def fullAuthSession : Session :=
  ⟨none, (frames 0 cachingGreeting).map .byte ++ [], [], [],
    [.ok ((frames 3 fullAuthMessage).map .byte ++ [])], .success, 0⟩

/-- What the client has when it is asked. -/
def cleartextProcessor : HandshakeProcessor :=
  { passwordProcessor with auth := ⟨some .cachingSha2Password, .cleartext [0x61]⟩ }

lemma fullAuth_runs : ∃ c, Runs zeroHashes (.start passwordParams) (.fresh fullAuthSession)
      ⟨.authResponse, cleartextProcessor, .sendMoreData⟩ c ∧
    c.channel.sharedBuffer = [0x61, 0] ∧ c.channel.sslActive = true ∧ Served c.channel 4 [] := by
  have h0 : Served (Conn.fresh fullAuthSession).channel 0
    ((frames 0 cachingGreeting).map .byte ++ []) := ⟨⟨rfl, rfl⟩, rfl, rfl⟩
  obtain ⟨ch1, hr1, h1⟩ := h0.read (by decide)
  have hp1 : (HandshakeProcessor.new passwordParams).processHandshake zeroHashes cachingGreeting
      .clear = (.success, passwordProcessor, .clear) := by decide
  have t1 : Transition zeroHashes (.start passwordParams) (.fresh fullAuthSession)
      ⟨.sslRequest, passwordProcessor, .invalid⟩
      ⟨{ ch1 with sharedBuffer := cachingGreeting }, .clear⟩ :=
    .greeting hr1 hp1 rfl
  obtain ⟨ch2, hw2, h2⟩ := ((h1.withBuffer cachingGreeting).withBuffer _).write (m := serializeMessage
    passwordProcessor.sslRequest passwordProcessor.negotiatedCaps cachingGreeting) (by decide)
  have t2 : Transition zeroHashes _ _ ⟨.sslHandshake, passwordProcessor, .invalid⟩ ⟨ch2, .clear⟩ :=
    .sslRequest (c := ⟨{ ch1 with sharedBuffer := cachingGreeting }, .clear⟩) rfl hw2
  have ho : ch2.stream.tlsOutcomes = [.ok ((frames 3 fullAuthMessage).map .byte ++ [])] :=
    (write_layers hw2).2.trans (read_layers hr1).2
  obtain ⟨ch3, hs3, h3, ha3⟩ := h2.sslHandshake ho
  have t3 : Transition zeroHashes ⟨.sslHandshake, passwordProcessor, .invalid⟩ ⟨ch2, .clear⟩
      ⟨.response, passwordProcessor, .invalid⟩ ⟨ch3, .clear⟩ :=
    .sslHandshake hs3 rfl
  have hl : (serializeMessage passwordProcessor.handshakeResponse passwordProcessor.negotiatedCaps
      ch3.sharedBuffer).length ≤ maxPacketSize := by
    rw [serializeMessage_eq]
    decide
  obtain ⟨ch4, hw4, h4⟩ := (h3.withBuffer _).write hl
  have t4 : Transition zeroHashes ⟨.response, passwordProcessor, .invalid⟩ ⟨ch3, .clear⟩
      ⟨.authMessage, passwordProcessor, .invalid⟩ ⟨ch4, .clear⟩ :=
    .response rfl hw4
  obtain ⟨ch5, hr5, h5⟩ := h4.read (by decide)
  have hp5 : passwordProcessor.processHandshakeServerResponse zeroHashes .invalid fullAuthMessage
      .clear = ⟨.success, cleartextProcessor, .sendMoreData, [0x61, 0], .clear⟩ := rfl
  have t5 := Transition.authMessage (c := ⟨ch4, .clear⟩) hr5 hp5 rfl
  refine ⟨_, ((((Runs.start.step t1).step t2).step t3).step t4).step t5, rfl, ?_,
    h5.withBuffer [0x61, 0]⟩
  exact ((read_layers hr5).1.trans (write_layers hw4).1).trans ha3

/-- For a password that is asked for, computed and written under TLS. -/
theorem cleartext_guarded_fullAuth :
    CleartextGuarded zeroHashes passwordParams fullAuthSession ∧
    ∃ c ch, Runs zeroHashes (.start passwordParams) (.fresh fullAuthSession)
        ⟨.authResponse, cleartextProcessor, .sendMoreData⟩ c ∧
      cleartextProcessor.auth.response = .cleartext [0x61] ∧
      c.channel.write c.channel.sharedBuffer = (.success, ch) ∧
      ch.stream.log = c.channel.stream.log ++ [.write .tls (frame 4 [0x61, 0])] := by
  obtain ⟨c, hr, hb, ha, hc⟩ := fullAuth_runs
  refine ⟨cleartext_guarded _ _ _ (by decide), c, _, hr, rfl, write_written hc.sends _, ?_⟩
  rw [hb, written_short (by decide), hc.sequenceNumber, afterWrites, Channel.layer, if_pos ha]
  rfl

end MysqlAsio.Cleartext
