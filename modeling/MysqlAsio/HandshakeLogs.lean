import MysqlAsio.Challenges
import MysqlAsio.TlsPolicy

/-!
What a handshake leaves in the log of its stream, and with it what is done about TLS in each mode.
-/

namespace MysqlAsio.HandshakeLogs

open MysqlAsio.Errors MysqlAsio.Serialization MysqlAsio.CommonMessages MysqlAsio.Auth
open MysqlAsio.HandshakeMessages MysqlAsio.Streams MysqlAsio.Channels MysqlAsio.Framing
open MysqlAsio.Operations MysqlAsio.Handshake MysqlAsio.Handshake.HandshakeProcessor
open MysqlAsio.TlsPolicy MysqlAsio.Challenges MysqlAsio.Lib.Programs

/-! ### What is written -/

section Messages

variable (p : HandshakeProcessor)

def requestBytes : Bytes := Serializable.serialize p.negotiatedCaps p.sslRequest

def responseBytes : Bytes := Serializable.serialize p.negotiatedCaps p.handshakeResponse

/-- What a handshake leaves in the log when its greeting was accepted: a request for TLS, the TLS
handshake and then all else through it, or no request and all in the clear. What a write that fails
has sent is a part of its frame. -/
inductive HandshakeLog : List Event → Prop
  | silent : HandshakeLog []
  | request {seq : UInt8} {first : Bytes} (hs : p.useSsl = true)
      (hp : first <+: frame seq (requestBytes p)) : HandshakeLog [.write .plain first]
  | tls {seq : UInt8} {completed : Bool} {data : List Bytes} (hs : p.useSsl = true)
      (hc : completed = false → data = []) : HandshakeLog
        (.write .plain (frame seq (requestBytes p)) :: .tlsHandshake completed ::
          data.map (.write .tls))
  | plain {seq : UInt8} {first : Bytes} {data : List Bytes} (hs : p.useSsl = false)
      (hp : first <+: frame seq ((responseBytes p).take maxPacketSize)) :
      HandshakeLog (.write .plain first :: data.map (.write .plain))

end Messages

/-! ### Runs -/

section Runs

variable {hashes : Hashes}

/-- Behind the TLS handshake there is no other. -/
lemma runs_rank {h h' : HandshakeOp} {c c' : Conn} (hr : Runs hashes h c h' c')
    (hp : h.point.rank ≤ 2) : h'.point.rank ≤ 2 ∧ Quiet c.channel c'.channel := by
  induction hr with
  | start => exact ⟨hp, .refl _⟩
  | @step h1 h2 c1 c2 _ ht ih =>
    obtain ⟨hrank, hq⟩ := ih
    have hne : h1.point ≠ .sslHandshake := by
      intro he
      simp [he, HandshakePoint.rank] at hrank
    have hq' := @step_quiet hashes h1 hne c1
    rw [ht.step] at hq'
    refine ⟨?_, hq.trans hq'⟩
    cases ht with
    | greeting | sslRequest | sslHandshake => simp [HandshakePoint.rank] at hrank
    | response | authResponse => simp [HandshakePoint.rank]
    | @authMessage p o c m ch answer hr hp he =>
      rcases nextPoint_cases answer.outcome with hn | hn | hn <;> simp [hn, HandshakePoint.rank]

lemma run_quiet {h : HandshakeOp} (hp : h.point.rank ≤ 2) (c : Conn) :
    Quiet c.channel (h.run hashes c).2.channel := by
  obtain ⟨h', c', hr, ⟨-, hrun⟩ | ⟨-, err, c'', hs, hrun⟩⟩ := @run_cases hashes h c <;>
    obtain ⟨hrank, hq⟩ := runs_rank hr hp <;> rw [hrun]
  · exact hq
  · have hne : h'.point ≠ .sslHandshake := by
      intro he
      simp [he, HandshakePoint.rank] at hrank
    have hq' := @step_quiet hashes h' hne c'
    rw [hs] at hq'
    exact hq.trans hq'

lemma serialize_write_log {α : Type} [Serializable α] [LawfulSerializable α] (x : α)
    (caps : Capabilities) (next : HandshakeOp) (c : Conn) :
    ∃ err ch, (do serializeShared x caps; writeShared; pure next : Operation HandshakeOp) c =
        ((outcome err).map fun _ => next, { c with channel := ch }) ∧
      ch.layer = c.channel.layer ∧
      ((ch.stream.log = c.channel.stream.log ∧ err.failed = true) ∨ ∃ seq first data,
        first <+: frame seq ((Serializable.serialize caps x).take maxPacketSize) ∧
        ch.stream.log = c.channel.stream.log ++
          .write c.channel.layer first :: data.map (.write c.channel.layer) ∧
        ((Serializable.serialize caps x).length ≤ maxPacketSize → data = [] ∧
          (err = .success → first = frame seq (Serializable.serialize caps x))) ∧
        (err = .success ∨ err.failed = true)) := by
  set m := serializeMessage x caps c.channel.sharedBuffer with hm
  have hs : m = Serializable.serialize caps x := serializeMessage_eq ..
  rcases hw : Channel.write { c.channel with sharedBuffer := m } m with ⟨err, ch⟩
  have hb := write_begins { c.channel with sharedBuffer := m } m
  have hq := quiet_of_write hw
  have he := (write_cases { c.channel with sharedBuffer := m } m).2
  rw [hw] at hb he
  rw [hs] at hb
  refine ⟨err, ch, ?_, hq.1, ?_⟩
  · rw [serializeShared, then_ok (modifyChannel_apply _)]
    rcases he with rfl | he
    · exact then_ok (writeShared_ok hw)
    · have hs : writeShared ⟨{ c.channel with sharedBuffer := m }, c.info⟩ =
          (.error err, { c with channel := ch }) := by
        simp [writeShared, onChannel, hw, outcome_failed he]
      rw [outcome_failed he]
      exact then_error hs
  · refine hb.imp_right ?_
    rintro ⟨first, data, hp, hl, hshort⟩
    refine ⟨_, first, data, hp, hl, fun hlen => ⟨(hshort hlen).1, fun h => ?_⟩, he⟩
    rw [(hshort hlen).2 h, List.take_of_length_le hlen]

/-- The response to the greeting, and all after it, in the layer in use. -/
lemma response_log (p : HandshakeProcessor) (o : AuthResult) (c : Conn) :
    let log := (HandshakeOp.run hashes ⟨.response, p, o⟩ c).2.channel.stream.log
    log = c.channel.stream.log ∨ ∃ seq first data,
      first <+: frame seq ((responseBytes p).take maxPacketSize) ∧
      log = c.channel.stream.log ++
        .write c.channel.layer first :: List.map (.write c.channel.layer) data := by
  obtain ⟨err, ch, hstep, hlayer, hlog⟩ := serialize_write_log p.handshakeResponse p.negotiatedCaps
    (⟨.authMessage, p, .invalid⟩ : HandshakeOp) c
  have hs : HandshakeOp.step hashes ⟨.response, p, o⟩ c = _ := hstep
  cases he : err.failed with
  | true =>
    rw [outcome_failed he] at hs
    rw [run_error (by simp) hs]
    rcases hlog with ⟨hl, -⟩ | ⟨seq, first, data, hp, hl, -⟩
    · exact Or.inl hl
    · exact Or.inr ⟨seq, first, data, hp, hl⟩
  | false =>
    rw [outcome_ok he] at hs
    rw [run_step (by simp) hs]
    obtain ⟨-, data', hq⟩ := @run_quiet hashes ⟨.authMessage, p, .invalid⟩
      (by simp [HandshakePoint.rank]) { c with channel := ch }
    rcases hlog with ⟨-, hf⟩ | ⟨seq, first, data, hp, hl, -⟩
    · cases he.symm.trans hf
    · refine Or.inr ⟨seq, first, data ++ data', hp, ?_⟩
      rw [hq, hlayer]
      simp only [hl, List.map_append, List.append_assoc, List.cons_append]

lemma requestBytes_length (p : HandshakeProcessor) : (requestBytes p).length = 32 := by
  rw [requestBytes, LawfulSerializable.serialize_length]
  rfl

lemma sslHandshake_log (ch : Channel) :
    let r := ch.sslHandshake
    r.2.layer = .tls ∧ ∃ completed,
      r.2.stream.log = ch.stream.log ++ [.tlsHandshake completed] ∧
      (completed = true ∧ r.1 = .success ∨ completed = false ∧ r.1.failed = true) := by
  obtain ⟨completed, tls, outcomes, err, hs, hc⟩ := tlsHandshake_cases ch.stream
  simp only [Channel.sslHandshake, hs]
  exact ⟨rfl, completed, rfl, hc⟩

lemma tls_log {p : HandshakeProcessor} (hs : p.useSsl = true) (o : AuthResult) {c : Conn}
    {seq : UInt8} (hl : c.channel.stream.log = [.write .plain (frame seq (requestBytes p))]) :
    HandshakeLog p (HandshakeOp.run hashes ⟨.sslHandshake, p, o⟩ c).2.channel.stream.log := by
  obtain ⟨hlayer, completed, hlog, hc⟩ := sslHandshake_log c.channel
  rcases hh : c.channel.sslHandshake with ⟨err, ch⟩
  rw [hh] at hlayer hlog hc
  rw [hl] at hlog
  simp only at hlayer hlog hc
  rcases hc with ⟨rfl, rfl⟩ | ⟨rfl, he⟩
  -- it has completed: the response goes through TLS, if it goes
  · have ht := @Transition.sslHandshake hashes p o c ch .success hh rfl
    rw [run_step (by simp) ht.step]
    rcases response_log p o { c with channel := ch } with hr | ⟨seq', first, data, -, hr⟩
    · rw [hr]
      simp only [hlog]
      exact @HandshakeLog.tls p seq true [] hs fun h => nomatch h
    · rw [hr, hlayer]
      simp only [hlog]
      exact @HandshakeLog.tls p seq true (first :: data) hs fun h => nomatch h
  -- it failed, and nothing more is done
  · have h1 : onChannel Channel.sslHandshake c = (.error err, { c with channel := ch }) := by
      simp only [onChannel, hh, outcome_failed he]
    have hstep : HandshakeOp.step hashes ⟨.sslHandshake, p, o⟩ c = _ := then_error h1
    rw [run_error (by simp) hstep]
    simp only [hlog]
    exact @HandshakeLog.tls p seq false [] hs fun _ => rfl

lemma request_log {p : HandshakeProcessor} (hs : p.useSsl = true) (o : AuthResult) {c : Conn}
    (hl : c.channel.stream.log = []) (hlayer : c.channel.layer = .plain) :
    HandshakeLog p (HandshakeOp.run hashes ⟨.sslRequest, p, o⟩ c).2.channel.stream.log := by
  obtain ⟨err, ch, hstep, -, hlog⟩ := serialize_write_log p.sslRequest p.negotiatedCaps
    (⟨.sslHandshake, p, o⟩ : HandshakeOp) c
  have hstep' : HandshakeOp.step hashes ⟨.sslRequest, p, o⟩ c = _ := hstep
  have hlen : (requestBytes p).length ≤ maxPacketSize := by
    rw [requestBytes_length]
    decide
  rw [hl, hlayer, ← requestBytes] at hlog
  cases he : err.failed with
  | true =>
    rw [outcome_failed he] at hstep'
    rw [run_error (by simp) hstep']
    rcases hlog with ⟨hl, -⟩ | ⟨seq, first, data, hp, hl, hshort, -⟩
    · rw [hl]
      exact .silent
    · obtain ⟨rfl, -⟩ := hshort hlen
      rw [List.take_of_length_le hlen] at hp
      rw [hl]
      exact .request hs hp
  | false =>
    rcases hlog with ⟨-, hf⟩ | ⟨seq, first, data, hp, hl, hshort, rfl | hf⟩
    · cases he.symm.trans hf
    · obtain ⟨rfl, hfirst⟩ := hshort hlen
      obtain rfl := hfirst rfl
      rw [outcome_ok he] at hstep'
      rw [run_step (by simp) hstep']
      exact tls_log hs o (by simp only [hl]; rfl)
    · cases he.symm.trans hf

/-- A handshake on a fresh connection leaves nothing in the log, or its greeting was accepted. -/
lemma handshake_log (hashes : Hashes) (params : ConnectionParams) (session : Session) :
    let log := (handshake hashes params (.fresh session)).2.channel.stream.log
    log = [] ∨ ∃ packet p c, Accepted hashes params (.fresh session) packet p c ∧
      HandshakeLog p log := by
  set c0 : Conn := .fresh session with hc0
  simp only []
  rw [handshake_channel]
  rcases read_cases c0.channel with ⟨m, rest, -, hr⟩ | ⟨m, err, ch, he, -, hr⟩
  · set ch := c0.channel.afterFrames (frameCount m) rest
    have hlog : ch.stream.log = [] := read_log hr
    have hlayer : ch.layer = .plain := (quiet_of_read hr).1
    rcases hp : (HandshakeProcessor.new params).processHandshake hashes m c0.info with
      ⟨err, p, info⟩
    have hstep := @step_greeting hashes _ _ .invalid _ _ _ _ _ hr hp
    cases he : err.failed with
    | true =>
      rw [outcome_failed he] at hstep
      have hrun : (HandshakeOp.start params).run hashes c0 = _ :=
        run_error (by simp [HandshakeOp.start]) hstep
      rw [hrun]
      exact Or.inl hlog
    | false =>
      obtain ⟨rfl, packet, hd, hn⟩ := processHandshake_accepted hp he
      rw [outcome_ok rfl] at hstep
      have hrun : (HandshakeOp.start params).run hashes c0 = _ :=
        run_step (by simp [HandshakeOp.start]) hstep
      rw [hrun]
      refine Or.inr ⟨packet, p, ⟨{ ch with sharedBuffer := m }, info⟩, ⟨m, ch, hr, hd, hp, rfl⟩, ?_⟩
      cases hs : p.useSsl with
      | true => exact request_log hs .invalid hlog hlayer
      | false =>
        simp only [Bool.false_eq_true, if_false]
        rcases response_log p .invalid ⟨{ ch with sharedBuffer := m }, info⟩ with
          hl | ⟨seq, first, data, hpre, hl⟩ <;> rw [hl]
        · simp only [hlog]
          exact .silent
        · have hlayer' : (⟨{ ch with sharedBuffer := m }, info⟩ : Conn).channel.layer = .plain :=
            hlayer
          simp only [hlog, List.nil_append, hlayer']
          exact .plain hs hpre
  · have hs : (HandshakeOp.start params).step hashes c0 = _ := then_error (readShared_error he hr)
    have hrun : (HandshakeOp.start params).run hashes c0 = _ :=
      run_error (by simp [HandshakeOp.start]) hs
    rw [hrun]
    exact Or.inl (read_log hr)

end Runs

/-! ### Requests for TLS -/

section Requests

/-- A client asks for TLS with its first message, and only there. -/
def SslRequestSent (log : List Event) : Prop :=
  ∃ layer seq caps rest, ∃ request : SslRequest,
    log = .write layer (frame seq (Serializable.serialize caps request)) :: rest

lemma sslRequest_length (caps : Capabilities) (request : SslRequest) :
    (Serializable.serialize caps request).length = 32 := by
  rw [LawfulSerializable.serialize_length]
  rfl

lemma responseBytes_length (p : HandshakeProcessor) : 33 < (responseBytes p).length := by
  rw [responseBytes, LawfulSerializable.serialize_length]
  simp only [Serializable.getSize, sizeStringNull]
  omega

lemma frame_prefix_length {seq seq' : UInt8} {m m' : Bytes} (hm : m.length < 2 ^ 24)
    (hm' : m'.length < 2 ^ 24) (h : frame seq m <+: frame seq' m') : m.length = m'.length := by
  have hheader : serializePacketHeader ⟨.ofNat m.length, seq⟩ =
      serializePacketHeader ⟨.ofNat m'.length, seq'⟩ := by
    obtain ⟨t, ht⟩ := h
    rw [frame, frame, List.append_assoc] at ht
    exact (List.append_inj ht (by simp)).1
  have hn : ∀ n < 2 ^ 24, (UInt32.ofNat n).toNat = n := fun n hn => Channel.toNat_ofNat_payload hn
  have hr := (packetHeader_reads (h := ⟨.ofNat m.length, seq⟩) (by rwa [hn _ hm])).exact
  rw [hheader, (packetHeader_reads (h := ⟨.ofNat m'.length, seq'⟩) (by rwa [hn _ hm'])).exact] at hr
  simp only [Except.ok.injEq, Prod.mk.injEq, PacketHeader.mk.injEq, and_true] at hr
  rw [← hn _ hm, ← hr.1, hn _ hm']

/-- A response is longer than a request, and no part of it is one. -/
lemma HandshakeLog.not_requested {p : HandshakeProcessor} {log : List Event}
    (h : HandshakeLog p log) (hs : p.useSsl = false) : ¬ SslRequestSent log := by
  rintro ⟨layer, seq, caps, rest, request, hl⟩
  cases h with
  | silent => cases hl
  | request hs' => cases hs.symm.trans hs'
  | tls hs' => cases hs.symm.trans hs'
  | plain _ hp =>
    simp only [List.cons.injEq, Event.write.injEq] at hl
    obtain ⟨⟨-, rfl⟩, -⟩ := hl
    have hmax : maxPacketSize < 2 ^ 24 := maxPacketSize_lt
    have hlen := frame_prefix_length (by rw [sslRequest_length]; decide)
      (lt_of_le_of_lt (List.length_take_le ..) hmax) hp
    have hresp := responseBytes_length p
    rw [sslRequest_length, List.length_take] at hlen
    simp only [maxPacketSize] at hlen
    omega

end Requests

/-! ### Greetings -/

/-- The server greets with this packet. -/
def Greets (session : Session) (packet : HandshakePacket) : Prop :=
  ∃ m ch info, (Conn.fresh session).channel.read = (m, .success, ch) ∧
    deserializeHandshake m .clear = (.success, packet, info)

/-- A server that has TLS, and says so. -/
def Advertises (session : Session) : Prop :=
  ∃ packet, Greets session packet ∧ packet.capabilities.has Capabilities.clientSsl = true

/-- A greeting that the client goes on with: the server has what is required of it, and asks what
can be answered. -/
structure Acceptable (params : ConnectionParams) (packet : HandshakePacket) : Prop where
  required : packet.capabilities.hasAll (requiredCaps params) = true
  answered : ∃ plugin, findPlugin packet.authPluginName = some plugin ∧
    (params.password = [] ∨ ¬ WrongLength plugin packet.authPluginData)

/-- Not all of what is written first can be sent. -/
def FirstWriteFails (session : Session) : Prop :=
  ∃ n e rest, session.writeResults = some (n, e) :: rest

section Greetings

variable {hashes : Hashes} {params : ConnectionParams} {session : Session}

lemma calculate_ok_iff (auth : AuthCalculator) (pluginName password challenge : Bytes) :
    (auth.calculate hashes pluginName password challenge true).1 = .success ↔
      ∃ plugin, findPlugin pluginName = some plugin ∧
        (password = [] ∨ ¬ WrongLength plugin challenge) := by
  constructor
  · intro h
    obtain ⟨plugin, hf, he⟩ := of_calculate_ok (by rw [h]; rfl)
    refine ⟨plugin, hf, or_iff_not_imp_left.mpr fun hp hw => ?_⟩
    rw [expectedResponse_wrongLength hw hp] at he
    cases he
  · rintro ⟨plugin, hf, h⟩
    unfold AuthCalculator.calculate
    rw [hf]
    by_cases hp : password = []
    · simp [hp]
    · have hw := h.resolve_left hp
      simp only [WrongLength, not_and_or, not_not] at hw
      cases plugin <;>
        simp only [hp, if_false, AuthenticationPlugin.calculator,
          MysqlNativePassword.computeResponse, CachingSha2Password.computeResponse,
          MysqlNativePassword.challengeLength, CachingSha2Password.challengeLength] <;>
        split_ifs <;> simp_all

lemma greets_of_accepted {packet : HandshakePacket} {p : HandshakeProcessor} {c : Conn}
    (ha : Accepted hashes params (.fresh session) packet p c) : Greets session packet := by
  obtain ⟨m, ch, hr, hd, -, -⟩ := ha
  exact ⟨m, ch, c.info, hr, hd⟩

lemma accepted_iff (h : params.ssl = .enable) {packet : HandshakePacket}
    (hs : packet.capabilities.has Capabilities.clientSsl = true) :
    (∃ p c, Accepted hashes params (.fresh session) packet p c) ↔
      Greets session packet ∧ Acceptable params packet := by
  -- what is negotiated before the response is computed
  set p0 : HandshakeProcessor :=
    ⟨params, packet.capabilities.and (offeredCaps params), .new⟩ with hp0
  have hssl : packet.capabilities.hasAll (requiredCaps params) = true → p0.useSsl = true := by
    intro hr
    have hn : Negotiated params packet p0 := ⟨hr, rfl, rfl⟩
    exact hn.useSsl_iff.mpr (Or.inr ⟨h, hs⟩)
  have hprocess : ∀ m info, deserializeHandshake m .clear = (.success, packet, info) →
      packet.capabilities.hasAll (requiredCaps params) = true →
      (HandshakeProcessor.new params).processHandshake hashes m .clear =
        ((p0.calculate hashes packet.authPluginName packet.authPluginData).1,
          (p0.calculate hashes packet.authPluginName packet.authPluginData).2, info) := by
    intro m info hd hr
    simp only [HandshakeProcessor.processHandshake, hd, processCapabilities, success_failed, new, hr,
      Bool.not_true, Bool.false_eq_true, if_false]
    rfl
  constructor
  · rintro ⟨p, c, ha⟩
    have hr := ha.negotiated.required
    refine ⟨greets_of_accepted ha, hr, ?_⟩
    obtain ⟨m, ch, -, hd, hp, -⟩ := ha
    rw [show (Conn.fresh session).info = .clear from rfl] at hd hp
    rw [hprocess _ _ hd hr, Prod.mk.injEq, calculate, hssl hr] at hp
    exact (calculate_ok_iff ..).mp hp.1
  · rintro ⟨⟨m, ch, info, hr, hd⟩, hrequired, hanswered⟩
    have hok := (@calculate_ok_iff hashes p0.auth ..).mpr hanswered
    refine ⟨(p0.calculate hashes packet.authPluginName packet.authPluginData).2,
      ⟨{ ch with sharedBuffer := m }, info⟩, m, ch, hr, hd, ?_, rfl⟩
    have hprocessed := hprocess _ _ hd hrequired
    rw [calculate, hssl hrequired, hok] at hprocessed
    rw [calculate, hssl hrequired]
    exact hprocessed

/-- The request is the first write of a handshake, and a short one. -/
lemma sslRequestWritten_iff {packet : HandshakePacket} {p : HandshakeProcessor} {c : Conn}
    (ha : Accepted hashes params (.fresh session) packet p c) :
    (∃ ch, SslRequestWritten p c ch) ↔ ¬ FirstWriteFails session := by
  obtain ⟨m, ch, hr, -, -, hc⟩ := ha
  have hmoved : (Conn.fresh session).channel.Moved ch := by
    have hm := read_moved (Conn.fresh session).channel
    rwa [hr] at hm
  obtain ⟨seq, n, rest, -, rfl⟩ := hmoved
  have hopen : c.channel.stream.isOpen = true := by
    rw [hc]
    simp [Conn.fresh, Channel.new, Session.stream]
  have hresults : c.channel.stream.writeResults = session.writeResults := by
    rw [hc]
    simp [Conn.fresh, Channel.new, Session.stream]
  have hlen : (serializeMessage p.sslRequest p.negotiatedCaps c.channel.sharedBuffer).length ≤
      maxPacketSize := by
    rw [serializeMessage_eq, sslRequest_length]
    decide
  have hsize := min_eq_right hlen
  unfold SslRequestWritten
  simp only [Channel.write]
  rw [Channel.writeLoop]
  simp only [Channel.computeSizeToWrite, Nat.sub_zero, hsize, Nat.zero_add, lt_irrefl, dif_neg,
    not_false_eq_true, Channel.writeImpl, Channel.processHeaderWrite, Stream.write, hopen,
    Bool.not_true, Bool.false_eq_true, if_false, hresults, FirstWriteFails]
  rcases session.writeResults with _ | ⟨_ | ⟨k, e⟩, results⟩
  · simp
  · simp
  · have he := e.2
    simp only [he, if_true]
    refine iff_of_false ?_ (not_not.mpr ⟨k, e, results, rfl⟩)
    rintro ⟨ch', hw⟩
    have hsuccess : (e : ErrorCode) = .success := congrArg Prod.fst hw
    rw [hsuccess] at he
    cases he

end Greetings

/-! ### The policy -/

/-- All is written behind a completed TLS handshake, but for the request for it. -/
def BehindTls (log : List Event) : Prop :=
  ∀ before layer data behind, log = before ++ .write layer data :: behind →
    (before = [] ∧ ∃ seq caps, ∃ request : SslRequest,
      data <+: frame seq (Serializable.serialize caps request)) ∨
    layer = .tls ∧ .tlsHandshake true ∈ before

/-- What is done about TLS, in each mode, and what a handshake that succeeds has negotiated. -/
structure SslPolicy (hashes : Hashes) (params : ConnectionParams) (session : Session) : Prop where
  /-- TLS is neither requested nor started. -/
  disable : params.ssl = .disable →
    ¬ SslRequestSent (handshake hashes params (.fresh session)).2.channel.stream.log ∧
    ¬ TlsStarted (handshake hashes params (.fresh session)).2.channel
  /-- TLS is in use when the response to the greeting is written, and for all that follows. -/
  require : params.ssl = .require →
    BehindTls (handshake hashes params (.fresh session)).2.channel.stream.log
  /-- Where no TLS is advertised the handshake fails, and nothing is written. -/
  require_unadvertised : params.ssl = .require → ¬ Advertises session →
    ∃ err c, handshake hashes params (.fresh session) = (.error err, c) ∧ c.channel.stream.log = []
  /-- A server that greets without TLS is refused. -/
  require_unsupported : params.ssl = .require → ∀ packet, Greets session packet →
    packet.capabilities.has Capabilities.clientSsl = false →
    ∃ c, handshake hashes params (.fresh session) = (.error (makeErrorCode .serverUnsupported), c)
  /-- TLS is started where the server advertises it, the greeting is one to go on with, and the
  request for TLS can be sent. -/
  enable : params.ssl = .enable →
    (TlsStarted (handshake hashes params (.fresh session)).2.channel ↔
      (∃ packet, Greets session packet ∧ packet.capabilities.has Capabilities.clientSsl = true ∧
        Acceptable params packet) ∧ ¬ FirstWriteFails session)
  /-- The capabilities of a session, and the OK it begins with. -/
  success : ∀ c, handshake hashes params (.fresh session) = (.ok (), c) →
    (∃ packet, Greets session packet ∧
      packet.capabilities.hasAll c.channel.currentCaps = true ∧
      c.channel.currentCaps.hasAll Capabilities.mandatoryCapabilities = true ∧
      (c.channel.currentCaps.has Capabilities.clientConnectWithDb = true ↔
        params.database ≠ [])) ∧
    ∃ h1 c1 m ch, Runs hashes (.start params) (.fresh session) h1 c1 ∧
      c1.channel.read = (m, .success, ch) ∧ m.head? = some okPacketHeader ∧
      c.channel = { ch with sharedBuffer := m, currentCaps := c.channel.currentCaps }

section Policy

variable {hashes : Hashes} {params : ConnectionParams} {session : Session}

lemma HandshakeLog.behindTls {p : HandshakeProcessor} {log : List Event} (h : HandshakeLog p log)
    (hs : p.useSsl = true) : BehindTls log := by
  intro before layer data behind hl
  cases h with
  | silent => simp at hl
  | @request seq first _ hp =>
    cases before with
    | nil =>
      simp only [List.nil_append, List.cons.injEq, Event.write.injEq] at hl
      obtain ⟨⟨-, rfl⟩, -⟩ := hl
      exact Or.inl ⟨rfl, seq, _, _, hp⟩
    | cons _ before => simp at hl
  | @tls seq completed written _ hc =>
    rcases before with _ | ⟨a, _ | ⟨b, before⟩⟩
    · simp only [List.nil_append, List.cons.injEq, Event.write.injEq] at hl
      obtain ⟨⟨-, rfl⟩, -⟩ := hl
      exact Or.inl ⟨rfl, seq, _, _, List.prefix_rfl⟩
    · simp at hl
    -- what is behind the TLS handshake is only there if that has completed
    · simp only [List.cons_append, List.cons.injEq] at hl
      obtain ⟨-, rfl, hl⟩ := hl
      have hmem : Event.write layer data ∈ written.map (.write .tls) := by
        rw [hl]
        simp
      obtain ⟨data', hdata, he⟩ := List.mem_map.mp hmem
      cases he
      cases completed with
      | true => exact Or.inr ⟨rfl, by simp⟩
      | false =>
        rw [hc rfl] at hdata
        cases hdata
  | plain hs' => cases hs.symm.trans hs'

lemma accepted_of_ok {c : Conn} (h : handshake hashes params (.fresh session) = (.ok (), c)) :
    ∃ packet p c1, Accepted hashes params (.fresh session) packet p c1 ∧
      c.channel.currentCaps = p.negotiatedCaps := by
  obtain ⟨h1, c1, hr, hf, rfl⟩ := of_handshake_ok h
  obtain hg | ⟨packet, p, c', ha, -, hcaps⟩ :=
    (runs_position (fresh_not_tlsStarted session) hr).accepted
  · cases hg.symm.trans hf
  · exact ⟨packet, p, c', ha, hcaps⟩

lemma advertises_of_accepted (h : params.ssl = .require) {packet : HandshakePacket}
    {p : HandshakeProcessor} {c : Conn}
    (ha : Accepted hashes params (.fresh session) packet p c) : Advertises session := by
  refine ⟨packet, greets_of_accepted ha, ?_⟩
  have hssl := and_of_hasAll ha.negotiated.required (requiredCaps_ssl h)
  rw [Capabilities.has, hssl]
  decide

end Policy

/-- **TLS is started as the mode says**, and a handshake that succeeds has negotiated what it
must and no more than the server has. -/
theorem sslPolicy (hashes : Hashes) (params : ConnectionParams) (session : Session) :
    SslPolicy hashes params session where
  disable h := by
    refine ⟨?_, not_tlsStarted_of_disable h⟩
    rcases handshake_log hashes params session with hl | ⟨packet, p, c, ha, hl⟩
    · rintro ⟨layer, seq, caps, rest, request, hs⟩
      cases hl.symm.trans hs
    · refine hl.not_requested (Bool.eq_false_iff.mpr fun hs => ?_)
      rw [ha.negotiated.useSsl_iff, h] at hs
      rcases hs with hs | ⟨hs, -⟩ <;> cases hs
  require h := by
    rcases handshake_log hashes params session with hl | ⟨packet, p, c, ha, hl⟩
    · intro before layer data behind hs
      rw [hl] at hs
      simp at hs
    · exact hl.behindTls (ha.negotiated.useSsl_iff.mpr (Or.inl h))
  require_unadvertised h hno := by
    rcases hh : handshake hashes params (.fresh session) with ⟨err | ⟨⟩, c⟩
    · refine ⟨err, c, rfl, ?_⟩
      rcases handshake_log hashes params session with hl | ⟨packet, p, c', ha, -⟩
      · rwa [hh] at hl
      · exact absurd (advertises_of_accepted h ha) hno
    · obtain ⟨packet, p, c', ha, -⟩ := accepted_of_ok hh
      exact absurd (advertises_of_accepted h ha) hno
  require_unsupported h packet hg hs := by
    obtain ⟨m, ch, info, hr, hd⟩ := hg
    exact ⟨_, handshake_unsupported h hr hd hs⟩
  enable h := by
    rw [handshake_tlsStarted_iff]
    constructor
    · rintro ⟨packet, p, c, ch, ha, hs, hw⟩
      have hssl := ((ha.negotiated.useSsl_iff.mp hs).resolve_left (by simp [h])).2
      obtain ⟨hg, hacceptable⟩ := (accepted_iff h hssl).mp ⟨p, c, ha⟩
      exact ⟨⟨packet, hg, hssl, hacceptable⟩, (sslRequestWritten_iff ha).mp ⟨ch, hw⟩⟩
    · rintro ⟨⟨packet, hg, hssl, hacceptable⟩, hw⟩
      obtain ⟨p, c, ha⟩ := (@accepted_iff hashes _ _ h _ hssl).mpr ⟨hg, hacceptable⟩
      obtain ⟨ch, hw⟩ := (sslRequestWritten_iff ha).mpr hw
      exact ⟨packet, p, c, ch, ha, ha.negotiated.useSsl_iff.mpr (Or.inr ⟨h, hssl⟩), hw⟩
  success c h := by
    refine ⟨?_, ?_⟩
    · obtain ⟨packet, p, c', ha, hcaps⟩ := accepted_of_ok h
      have hn := ha.negotiated
      exact ⟨packet, greets_of_accepted ha, hcaps ▸ hn.server_hasAll, hcaps ▸ hn.mandatory,
        hcaps ▸ hn.connectWithDb_iff⟩
    · obtain ⟨h1, c1, hr, hf, rfl⟩ := of_handshake_ok h
      obtain ⟨h2, c2, m, ch, hr', hread, hok, hc⟩ := runs_finished hr hf
      exact ⟨h2, c2, m, ch, hr', hread, hok, by rw [hc]⟩

/-! ### Where that is less than what is advertised -/

/-- The greeting of a server that has TLS. -/
def tlsGreeting : Bytes :=
  [10, 0x38, 0] ++ List.replicate 4 0 ++ List.replicate 8 0 ++ [0] ++ [0x00, 0x8a] ++ [33] ++
    [2, 0] ++ [0x28, 0x01] ++ [21] ++ List.replicate 10 0 ++ List.replicate 13 0 ++
    serializeStringNull nativePassword

/-- The connection is lost before the request for TLS is sent. -/
def lostSession : Session :=
  ⟨none, (frames 0 tlsGreeting).map .byte ++ [], [], [some (0, ⟨eof, eof_failed⟩)], [], .success, 0⟩

/-- The server does not greet. -/
def silentSession : Session := ⟨none, [], [], [], [], .success, 0⟩

def requireParams : ConnectionParams := ⟨[], [], [], ⟨0⟩, .require⟩

lemma advertises_of_frames {session : Session} {m : Bytes} {rest : List Arrival}
    (hp : session.plain = (frames 0 m).map .byte ++ rest)
    (hd : (deserializeHandshake m .clear).1 = .success)
    (hs : (deserializeHandshake m .clear).2.1.capabilities.has Capabilities.clientSsl = true) :
    Advertises session := by
  have hr : (Conn.fresh session).channel.read = _ := read_frames hp
  exact ⟨_, ⟨m, _, _, hr, Prod.ext hd rfl⟩, hs⟩

lemma read_silent : ∃ ch, (Conn.fresh silentSession).channel.read = ([], eof, ch) :=
  ⟨_, Channel.readLoop_error rfl⟩

/-- A server may advertise TLS and be refused before it is started, or be lost. One that says
nothing at all is not unsupported. What accepts a client need not be an OK packet behind its
header. -/
theorem policy_exceptions :
    (Advertises unknownPluginSession ∧
      ¬ TlsStarted (handshake zeroHashes enableParams (.fresh unknownPluginSession)).2.channel) ∧
    (Advertises lostSession ∧
      ¬ TlsStarted (handshake zeroHashes enableParams (.fresh lostSession)).2.channel) ∧
    (¬ Advertises silentSession ∧ ∀ c, handshake zeroHashes requireParams (.fresh silentSession) ≠
      (.error (makeErrorCode .serverUnsupported), c)) ∧
    ∃ session h c1 ch c, handshake zeroHashes blankParams (.fresh session) = (.ok (), c) ∧
      Runs zeroHashes (.start blankParams) (.fresh session) h c1 ∧
      c1.channel.read = ([okPacketHeader], .success, ch) ∧
      c.channel =
        { ch with sharedBuffer := [okPacketHeader], currentCaps := c.channel.currentCaps } ∧
      ∀ caps, deserializeMessage (deserializeOkPacket .default) ⟨[], caps⟩ =
        .error (makeErrorCode .incompleteMessage) := by
  refine ⟨⟨?_, ?_⟩, ⟨?_, ?_⟩, ⟨?_, ?_⟩, ?_⟩
  · exact advertises_of_frames rfl (by decide) (by decide)
  -- the plugin is not known, and nothing is done after the greeting
  · have hr : (Conn.fresh unknownPluginSession).channel.read = _ := read_frames rfl
    have hp : (HandshakeProcessor.new enableParams).processHandshake zeroHashes
        unknownPluginGreeting .clear = _ := rfl
    rw [handshake_greeting_error hr hp (by decide)]
    rintro ⟨completed, hmem⟩
    cases (read_log hr) ▸ hmem
  · exact advertises_of_frames rfl (by decide) (by decide)
  · rw [handshake_tlsStarted_iff]
    rintro ⟨packet, p, c, ch, ha, -, hw⟩
    exact (sslRequestWritten_iff ha).mp ⟨ch, hw⟩ ⟨0, _, [], rfl⟩
  · rintro ⟨packet, ⟨m, ch, info, hr, -⟩, -⟩
    obtain ⟨ch', hsilent⟩ := read_silent
    cases hsilent.symm.trans hr
  · intro c hc
    obtain ⟨ch', hsilent⟩ := read_silent
    have hs : (HandshakeOp.start requireParams).step zeroHashes (.fresh silentSession) = _ :=
      then_error (readShared_error rfl hsilent)
    rw [handshake, then_error (run_error (by simp [HandshakeOp.start]) hs)] at hc
    cases hc
  -- the server accepts with a header, behind which nothing comes
  · obtain ⟨c, hears, hserved⟩ := greeted_hears ((frames 2 [okPacketHeader]).map .byte ++ [])
    obtain ⟨ch, hr, -⟩ := hserved.read (m := [okPacketHeader]) (by decide)
    have hruns := runs_of_hears hears
    have hrun := (hruns.step (.authMessage hr rfl rfl)).run.trans (run_finished rfl _)
    exact ⟨_, _, c, ch, _, then_ok hrun, hruns, hr, rfl, fun _ => rfl⟩

end MysqlAsio.HandshakeLogs
