import MysqlAsio.Handshake

/-!
When TLS is started, what it takes to get there, and what a handshake that succeeds has
negotiated.
-/

namespace MysqlAsio.TlsPolicy

open MysqlAsio.Errors MysqlAsio.Serialization MysqlAsio.CommonMessages MysqlAsio.Auth
open MysqlAsio.HandshakeMessages MysqlAsio.Streams MysqlAsio.Channels MysqlAsio.Framing
open MysqlAsio.Operations MysqlAsio.Handshake MysqlAsio.Handshake.HandshakeProcessor
open MysqlAsio.Lib.Programs

/-! ### What is done with the stream -/

/-- TLS was started, whatever came of it. -/
def TlsStarted (ch : Channel) : Prop := ∃ completed, .tlsHandshake completed ∈ ch.stream.log

/-- A TLS handshake has completed, and what is written goes through its layer. -/
structure TlsCompleted (ch : Channel) : Prop where
  layer : ch.layer = .tls
  log : .tlsHandshake true ∈ ch.stream.log

/-- Nothing was done but reads, and writes in the layer in use. -/
def Quiet (ch ch' : Channel) : Prop :=
  ch'.layer = ch.layer ∧
    ∃ data : List Bytes, ch'.stream.log = ch.stream.log ++ data.map (.write ch.layer)

lemma Quiet.refl (ch : Channel) : Quiet ch ch := ⟨rfl, [], by simp⟩

lemma Quiet.trans {ch ch' ch'' : Channel} (h : Quiet ch ch') (h' : Quiet ch' ch'') :
    Quiet ch ch'' := by
  obtain ⟨ha, data, hl⟩ := h
  obtain ⟨ha', data', hl'⟩ := h'
  refine ⟨ha'.trans ha, data ++ data', ?_⟩
  rw [hl', hl, ha, List.append_assoc, List.map_append]

lemma quiet_of_moved {ch ch' : Channel} (h : ch.Moved ch') : Quiet ch ch' := by
  obtain ⟨seq, n, rest, -, rfl⟩ := h
  exact ⟨rfl, [], by simp⟩

lemma quiet_of_wrote {ch ch' : Channel} (h : Wrote ch ch') : Quiet ch ch' := by
  obtain ⟨seq, results, data, rfl⟩ := h
  exact ⟨rfl, data, rfl⟩

lemma quiet_of_read {ch ch' : Channel} {m : Bytes} {err : ErrorCode}
    (h : ch.read = (m, err, ch')) : Quiet ch ch' := by
  have hm := read_moved ch
  rw [h] at hm
  exact quiet_of_moved hm

lemma quiet_of_write {ch ch' : Channel} {m : Bytes} {err : ErrorCode}
    (h : ch.write m = (err, ch')) : Quiet ch ch' := by
  have hw := (write_cases ch m).1
  rw [h] at hw
  exact quiet_of_wrote hw

section Quiet

variable {ch ch' : Channel}

lemma Quiet.tlsStarted_iff (h : Quiet ch ch') : TlsStarted ch' ↔ TlsStarted ch := by
  obtain ⟨-, data, hl⟩ := h
  simp [TlsStarted, hl]

lemma Quiet.tlsCompleted (h : Quiet ch ch') (ht : TlsCompleted ch) : TlsCompleted ch' := by
  obtain ⟨ha, data, hl⟩ := h
  refine ⟨ha.trans ht.layer, ?_⟩
  rw [hl]
  exact List.mem_append_left _ ht.log

lemma Quiet.tlsState (h : Quiet ch ch') {useSsl : Bool}
    (ht : if useSsl then TlsCompleted ch else ¬ TlsStarted ch) :
    if useSsl then TlsCompleted ch' else ¬ TlsStarted ch' := by
  cases useSsl with
  | true => exact h.tlsCompleted ht
  | false => exact h.tlsStarted_iff.not.mpr ht

lemma sslHandshake_completed {err : ErrorCode} (h : ch.sslHandshake = (err, ch'))
    (he : err.failed = false) : TlsCompleted ch' := by
  obtain ⟨completed, tls, outcomes, err', hs, hc⟩ :=
    tlsHandshake_cases { ch with sslActive := true }.stream
  simp only [Channel.sslHandshake, hs] at h
  cases h
  rcases hc with ⟨rfl, -⟩ | ⟨-, hf⟩
  · exact ⟨rfl, by simp⟩
  · exact absurd hf (by simp [he])

lemma sslHandshake_started (ch : Channel) : TlsStarted ch.sslHandshake.2 := by
  obtain ⟨completed, tls, outcomes, err, hs, -⟩ :=
    tlsHandshake_cases { ch with sslActive := true }.stream
  refine ⟨completed, ?_⟩
  simp only [Channel.sslHandshake, hs]
  simp

end Quiet

/-! ### Steps -/

/-- Every step but the TLS handshake is quiet, also where it fails. -/
lemma step_quiet {hashes : Hashes} {h : HandshakeOp} (hne : h.point ≠ .sslHandshake) :
    Preserves (fun c c' => Quiet c.channel c'.channel) (h.step hashes) := by
  have htrans : ∀ c c' c'' : Conn, Quiet c.channel c'.channel → Quiet c'.channel c''.channel →
      Quiet c.channel c''.channel := fun _ _ _ => Quiet.trans
  have hpure : ∀ h' : HandshakeOp, Preserves (fun c c' => Quiet c.channel c'.channel)
      (pure h' : Operation HandshakeOp) := fun h' => preserves_pure (fun c => .refl c.channel) h'
  have hread : Preserves (fun c c' => Quiet c.channel c'.channel) readShared := by
    intro c
    rcases h : c.channel.read with ⟨m, err, ch⟩
    have hq : Quiet c.channel ch := quiet_of_read h
    simp only [readShared, onChannel, h]
    exact hq
  have hwrite : Preserves (fun c c' => Quiet c.channel c'.channel) writeShared :=
    fun c => quiet_of_wrote (write_cases c.channel c.channel.sharedBuffer).1
  have hsame : ∀ {α : Type} {m : Operation α}, (∀ c, (m c).2.channel.stream = c.channel.stream) →
      (∀ c, (m c).2.channel.sslActive = c.channel.sslActive) →
      Preserves (fun c c' => Quiet c.channel c'.channel) m := by
    intro α m hs ha c
    refine ⟨?_, [], ?_⟩
    · rw [Channel.layer, Channel.layer, ha]
    · simp [hs]
  have hser : ∀ {α : Type} [Serializable α] (x : α) (caps : Capabilities),
      Preserves (fun c c' => Quiet c.channel c'.channel) (serializeShared x caps) :=
    fun _ _ => hsame (fun _ => rfl) (fun _ => rfl)
  obtain ⟨point, p, o⟩ := h
  cases point with
  | greeting =>
    refine hread.then htrans fun _ => .then htrans ?_ fun _ => hpure _
    exact hsame (fun _ => rfl) (fun _ => rfl)
  | sslRequest =>
    exact (hser _ _).then htrans fun _ => hwrite.then htrans fun _ => hpure _
  | sslHandshake => exact absurd rfl hne
  | response =>
    exact (hser _ _).then htrans fun _ => hwrite.then htrans fun _ => hpure _
  | authMessage =>
    refine hread.then htrans fun _ => .then htrans ?_ fun _ => hpure _
    exact hsame (fun _ => rfl) (fun _ => rfl)
  | authResponse => exact hwrite.then htrans fun _ => hpure _
  | finished => exact hpure _

section Started

variable {hashes : Hashes}

lemma step_sslHandshake (p : HandshakeProcessor) (o : AuthResult) (c : Conn) :
    (HandshakeOp.step hashes ⟨.sslHandshake, p, o⟩ c).2.channel = c.channel.sslHandshake.2 := by
  rcases hs : c.channel.sslHandshake with ⟨err, ch⟩
  cases he : err.failed with
  | true =>
    have h1 : onChannel Channel.sslHandshake c = (.error err, { c with channel := ch }) := by
      simp only [onChannel, hs, outcome_failed he]
    rw [HandshakeOp.step]
    simp only []
    rw [then_error h1]
  | false => rw [(Transition.sslHandshake hs he).step]

lemma step_tlsStarted {h : HandshakeOp} {c : Conn}
    (ht : TlsStarted c.channel ∨ h.point = .sslHandshake) :
    TlsStarted (h.step hashes c).2.channel := by
  by_cases hp : h.point = .sslHandshake
  · obtain ⟨point, p, o⟩ := h
    obtain rfl := hp
    rw [step_sslHandshake]
    exact sslHandshake_started c.channel
  · exact (step_quiet hp c).tlsStarted_iff.mpr (ht.resolve_right hp)

lemma Runs.tlsStarted {h h' : HandshakeOp} {c c' : Conn} (hr : Runs hashes h c h' c')
    (ht : TlsStarted c.channel ∨ h.point = .sslHandshake) :
    TlsStarted c'.channel ∨ h'.point = .sslHandshake := by
  induction hr with
  | start => exact ht
  | step _ hstep ih =>
    have hs := @step_tlsStarted hashes _ _ ih
    rw [hstep.step] at hs
    exact Or.inl hs

lemma run_tlsStarted {h : HandshakeOp} {c : Conn}
    (ht : TlsStarted c.channel ∨ h.point = .sslHandshake) :
    TlsStarted (h.run hashes c).2.channel := by
  obtain ⟨h', c', hr, ⟨hf, hrun⟩ | ⟨-, err, c'', hs, hrun⟩⟩ := run_cases h c
  · rw [hrun]
    exact (Runs.tlsStarted hr ht).resolve_right (by simp [hf])
  · have hstarted := @step_tlsStarted hashes _ _ (Runs.tlsStarted hr ht)
    rw [hs] at hstarted
    rwa [hrun]

end Started

/-! ### Where a handshake can be -/

section Position

variable (hashes : Hashes) (params : ConnectionParams) (c0 : Conn)

/-- The greeting of the server is read and accepted, with this packet; the processor and the
connection are then these. -/
def Accepted (packet : HandshakePacket) (p : HandshakeProcessor) (c : Conn) : Prop :=
  ∃ m ch, c0.channel.read = (m, .success, ch) ∧
    deserializeHandshake m c0.info = (.success, packet, c.info) ∧
    (HandshakeProcessor.new params).processHandshake hashes m c0.info = (.success, p, c.info) ∧
    c.channel = { ch with sharedBuffer := m }

/-- The request for TLS is written in full. -/
def SslRequestWritten (p : HandshakeProcessor) (c : Conn) (ch : Channel) : Prop :=
  let m := serializeMessage p.sslRequest p.negotiatedCaps c.channel.sharedBuffer
  Channel.write { c.channel with sharedBuffer := m } m = (.success, ch)

/-- Where the steps of a handshake lead to, and what has happened by then. -/
inductive Position : HandshakeOp → Conn → Prop
  | greeting : Position ⟨.greeting, .new params, .invalid⟩ c0
  | sslRequest {packet : HandshakePacket} {p : HandshakeProcessor} {c : Conn}
      (ha : Accepted hashes params c0 packet p c) (hs : p.useSsl = true) :
      Position ⟨.sslRequest, p, .invalid⟩ c
  | sslHandshake {packet : HandshakePacket} {p : HandshakeProcessor} {c : Conn} {ch : Channel}
      (ha : Accepted hashes params c0 packet p c) (hs : p.useSsl = true)
      (hw : SslRequestWritten p c ch) :
      Position ⟨.sslHandshake, p, .invalid⟩ { c with channel := ch }
  | later {packet : HandshakePacket} {p : HandshakeProcessor} {c c' : Conn} {h : HandshakeOp}
      (ha : Accepted hashes params c0 packet p c) (hp : h.point.rank ≤ 2)
      (hparams : h.processor.params = p.params)
      (hcaps : h.processor.negotiatedCaps = p.negotiatedCaps)
      (ho : h.authOutcome = .complete → h.point = .finished)
      (hw : p.useSsl = true → ∃ ch, SslRequestWritten p c ch)
      (htls : if p.useSsl then TlsCompleted c'.channel else ¬ TlsStarted c'.channel) :
      Position h c'

variable {hashes params c0}

lemma Accepted.negotiated {packet : HandshakePacket} {p : HandshakeProcessor} {c : Conn}
    (h : Accepted hashes params c0 packet p c) : Negotiated params packet p := by
  obtain ⟨m, ch, -, hd, hp, -⟩ := h
  obtain ⟨-, packet', hd', hn⟩ := processHandshake_accepted hp rfl
  rw [hd] at hd'
  cases hd'
  exact hn

lemma Accepted.quiet {packet : HandshakePacket} {p : HandshakeProcessor} {c : Conn}
    (h : Accepted hashes params c0 packet p c) : Quiet c0.channel c.channel := by
  obtain ⟨m, ch, hr, -, -, hc⟩ := h
  have hq : Quiet c0.channel ch := quiet_of_read hr
  rw [hc]
  exact hq

lemma Accepted.transition {packet : HandshakePacket} {p : HandshakeProcessor} {c : Conn}
    (h : Accepted hashes params c0 packet p c) :
    Transition hashes (.start params) c0
      ⟨if p.useSsl then .sslRequest else .response, p, .invalid⟩ c := by
  obtain ⟨m, ch, hr, -, hp, hc⟩ := h
  obtain ⟨channel, info⟩ := c
  obtain rfl := hc
  exact .greeting hr hp rfl

theorem Position.step (h0 : ¬ TlsStarted c0.channel) {h h' : HandshakeOp} {c c' : Conn}
    (hpos : Position hashes params c0 h c) (ht : Transition hashes h c h' c') :
    Position hashes params c0 h' c' := by
  cases ht with
  | @greeting p p' o _ m ch err info hr hp he =>
    cases hpos with
    | greeting =>
      obtain ⟨rfl, packet, hd, hn⟩ := processHandshake_accepted hp he
      have ha : Accepted hashes params c0 packet p' ⟨{ ch with sharedBuffer := m }, info⟩ :=
        ⟨m, ch, hr, hd, hp, rfl⟩
      cases hs : p'.useSsl with
      | true => exact .sslRequest ha hs
      | false =>
        -- without TLS, what comes next is the response
        refine .later ha (le_refl 2) rfl rfl (fun h => by cases h)
          (fun h => by cases hs.symm.trans h) ?_
        rw [hs]
        exact ha.quiet.tlsStarted_iff.not.mpr h0
    | later ha hp => simp [HandshakePoint.rank] at hp
  | @sslRequest p o _ m ch hm hw =>
    subst hm
    cases hpos with
    | sslRequest ha hs => exact .sslHandshake ha hs hw
    | later ha hp => simp [HandshakePoint.rank] at hp
  | @sslHandshake p o _ ch err hs he =>
    have hc := sslHandshake_completed hs he
    cases hpos with
    | sslHandshake ha hssl hw =>
      refine .later ha (le_refl 2) rfl rfl (fun h => by cases h) (fun _ => ⟨_, hw⟩) ?_
      rwa [if_pos hssl]
    | later ha hp => simp [HandshakePoint.rank] at hp
  | @response p o _ m ch hm hwrite =>
    have hw' : Quiet { c.channel with sharedBuffer := m } ch := quiet_of_write hwrite
    have hq : Quiet c.channel ch := hw'
    cases hpos with
    | later ha hp hparams hcaps ho hw htls =>
      exact .later ha (by simp [HandshakePoint.rank]) hparams hcaps (fun h => by cases h)
        hw (hq.tlsState htls)
  | @authMessage p o _ m ch answer hr hp he =>
    have hr' : Quiet c.channel ch := quiet_of_read hr
    have hq : Quiet c.channel { ch with sharedBuffer := answer.buffer } := hr'
    obtain ⟨hparams', hcaps'⟩ := @answer_keeps p hashes o m c.info
    rw [hp] at hparams' hcaps'
    cases hpos with
    | later ha hp hparams hcaps ho hw htls =>
      refine .later ha ?_ (hparams'.trans hparams) (hcaps'.trans hcaps) ?_ hw
        (hq.tlsState htls)
      · rcases nextPoint_cases answer.outcome with hn | hn | hn <;> simp [hn, HandshakePoint.rank]
      · rintro ho
        simp only at ho
        simp [ho, nextPoint]
  | @authResponse p o _ ch hwrite =>
    have hq : Quiet c.channel ch := quiet_of_write hwrite
    cases hpos with
    | later ha hp hparams hcaps ho hw htls =>
      refine .later ha (by simp [HandshakePoint.rank]) hparams hcaps ?_ hw (hq.tlsState htls)
      exact fun h => by cases ho h

theorem runs_position (h0 : ¬ TlsStarted c0.channel) {h : HandshakeOp} {c : Conn}
    (hr : Runs hashes (.start params) c0 h c) : Position hashes params c0 h c := by
  induction hr with
  | start => exact .greeting
  | step _ ht ih => exact ih.step h0 ht

lemma Position.accepted {h : HandshakeOp} {c : Conn} (hpos : Position hashes params c0 h c) :
    h.point = .greeting ∨ ∃ packet p c1, Accepted hashes params c0 packet p c1 ∧
      h.processor.params = p.params ∧ h.processor.negotiatedCaps = p.negotiatedCaps := by
  cases hpos with
  | greeting => exact Or.inl rfl
  | sslRequest ha hs => exact Or.inr ⟨_, _, _, ha, rfl, rfl⟩
  | sslHandshake ha hs hw => exact Or.inr ⟨_, _, _, ha, rfl, rfl⟩
  | later ha hp hparams hcaps ho hw htls => exact Or.inr ⟨_, _, _, ha, hparams, hcaps⟩

/-- Before an authentication begins, TLS is in use if it was negotiated. -/
lemma Position.tlsCompleted {h : HandshakeOp} {c : Conn} (hpos : Position hashes params c0 h c)
    (hp : h.point.rank ≤ 2) (hs : h.processor.useSsl = true) : TlsCompleted c.channel := by
  cases hpos with
  | greeting => simp [HandshakePoint.rank] at hp
  | sslRequest ha hs => simp [HandshakePoint.rank] at hp
  | sslHandshake ha hs hw => simp [HandshakePoint.rank] at hp
  | later ha _ hparams hcaps ho hw htls =>
    rwa [if_pos (by rwa [useSsl, ← hcaps])] at htls

/-- Where TLS was started, or is about to be, it was negotiated and its request was written. -/
lemma Position.started (h0 : ¬ TlsStarted c0.channel) {h : HandshakeOp} {c : Conn}
    (hpos : Position hashes params c0 h c)
    (ht : TlsStarted c.channel ∨ h.point = .sslHandshake) :
    ∃ packet p c1 ch, Accepted hashes params c0 packet p c1 ∧ p.useSsl = true ∧
      SslRequestWritten p c1 ch := by
  cases hpos with
  | greeting => exact absurd (ht.resolve_right (by simp)) h0
  | sslRequest ha hs =>
    exact absurd (ha.quiet.tlsStarted_iff.mp (ht.resolve_right (by simp))) h0
  | sslHandshake ha hs hw => exact ⟨_, _, _, _, ha, hs, hw⟩
  | @later packet p c1 _ _ ha hp hparams hcaps ho hw htls =>
    cases hs : p.useSsl with
    | true =>
      obtain ⟨ch, hw⟩ := hw hs
      exact ⟨packet, p, c1, ch, ha, hs, hw⟩
    | false =>
      rw [hs] at htls
      have hp' : h.point ≠ .sslHandshake := by
        intro he
        simp [he, HandshakePoint.rank] at hp
      exact absurd (ht.resolve_right hp') htls

end Position

/-! ### On a fresh connection -/

section Policy

variable {hashes : Hashes} {params : ConnectionParams} {session : Session}

lemma fresh_not_tlsStarted (session : Session) : ¬ TlsStarted (Conn.fresh session).channel := by
  simp [TlsStarted, Conn.fresh, Channel.new, Session.stream]

lemma handshake_channel (c : Conn) :
    (handshake hashes params c).2.channel.stream =
      ((HandshakeOp.start params).run hashes c).2.channel.stream := by
  rcases hr : (HandshakeOp.start params).run hashes c with ⟨err | h, c'⟩
  · rw [handshake, then_error hr]
  · rw [handshake, then_ok hr]
    rfl

/-- TLS was started exactly where it was negotiated and its request was written. -/
lemma handshake_tlsStarted_iff :
    TlsStarted (handshake hashes params (.fresh session)).2.channel ↔
      ∃ packet p c ch, Accepted hashes params (.fresh session) packet p c ∧ p.useSsl = true ∧
        SslRequestWritten p c ch := by
  rw [TlsStarted, handshake_channel]
  constructor
  · intro ht
    obtain ⟨h, c, hr, hend⟩ := @run_cases hashes (.start params) (.fresh session)
    have hpos := runs_position (fresh_not_tlsStarted session) hr
    refine hpos.started (fresh_not_tlsStarted session) ?_
    by_cases hp : h.point = .sslHandshake
    · exact Or.inr hp
    · -- any other step that fails leaves TLS as it found it
      refine Or.inl ?_
      rcases hend with ⟨-, hrun⟩ | ⟨-, err, c', hs, hrun⟩
      · rwa [hrun] at ht
      · have hq := @step_quiet hashes h hp c
        rw [hs] at hq
        rw [hrun] at ht
        exact hq.tlsStarted_iff.mp ht
  · rintro ⟨packet, p, c, ch, ha, hs, hw⟩
    have h1 := ha.transition
    rw [if_pos hs] at h1
    have h2 : Transition hashes ⟨.sslRequest, p, .invalid⟩ c ⟨.sslHandshake, p, .invalid⟩
        { c with channel := ch } := .sslRequest rfl hw
    rw [((Runs.start.step h1).step h2).run]
    exact run_tlsStarted (Or.inr rfl)

lemma not_tlsStarted_of_disable (h : params.ssl = .disable) :
    ¬ TlsStarted (handshake hashes params (.fresh session)).2.channel := by
  rw [handshake_tlsStarted_iff]
  rintro ⟨packet, p, c, ch, ha, hs, -⟩
  rw [ha.negotiated.useSsl_iff, h] at hs
  rcases hs with hs | ⟨hs, -⟩ <;> cases hs

lemma runs_finished {h : HandshakeOp} {c : Conn}
    (hr : Runs hashes (.start params) (.fresh session) h c) (hf : h.point = .finished) :
    ∃ h1 c1 m ch, Runs hashes (.start params) (.fresh session) h1 c1 ∧
      c1.channel.read = (m, .success, ch) ∧ m.head? = some okPacketHeader ∧
      c.channel = { ch with sharedBuffer := m } := by
  cases hr with
  | start => cases hf
  | @step h1 _ c1 _ hr ht =>
    have hpos := runs_position (fresh_not_tlsStarted session) hr
    cases ht with
    -- only a message of the authentication ends it
    | greeting hr' hp he =>
      simp only at hf
      split at hf <;> cases hf
    | sslRequest hm hw => cases hf
    | sslHandshake hs he => cases hf
    | response hm hw => cases hf
    | @authMessage p o _ m ch answer hr' hp he =>
      have hcomplete : answer.outcome = .complete := by
        rcases ho : answer.outcome <;> simp_all [nextPoint]
      have ho : o ≠ .complete := by
        cases hpos with
        | later ha hp hparams hcaps ho hw htls => exact fun h => by cases ho h
      subst hp
      rcases @answer_cases p hashes o m c1.info with
        ⟨pluginName, challenge, -, ha⟩ | ⟨-, hb, hc⟩
      · -- a challenge does not: it is answered, or refused
        rw [ha] at he hcomplete
        rcases (@answerChallenge_cases p hashes o m c1.info pluginName challenge).2.2 with
          hf' | ⟨-, hs, -⟩
        · cases hf'.symm.trans he
        · cases hs.symm.trans hcomplete
      · rcases hc with hf' | hw | ho' | ⟨-, hok⟩
        · cases hf'.symm.trans he
        · cases hw.symm.trans hcomplete
        · exact absurd (ho'.symm.trans hcomplete) ho
        · exact ⟨_, c1, m, ch, hr, hr', hok, by rw [hb]⟩
    | authResponse hw => cases hf

lemma handshake_unsupported (h : params.ssl = .require) {m : Bytes} {ch : Channel}
    {packet : HandshakePacket} {info : ErrorInfo} {c : Conn}
    (hr : c.channel.read = (m, .success, ch))
    (hd : deserializeHandshake m c.info = (.success, packet, info))
    (hs : packet.capabilities.has Capabilities.clientSsl = false) :
    handshake hashes params c =
      (.error (makeErrorCode .serverUnsupported), ⟨{ ch with sharedBuffer := m }, info⟩) := by
  have hall : packet.capabilities.hasAll (requiredCaps params) = false := by
    by_contra hall
    have hssl := and_of_hasAll (Bool.not_eq_false _ ▸ hall) (requiredCaps_ssl h)
    rw [Capabilities.has, hssl] at hs
    exact absurd hs (by decide)
  exact handshake_greeting_error hr (processHandshake_unsupported hd hall) rfl

/-- What a handshake that succeeds went through. -/
lemma of_handshake_ok {c : Conn} (h : handshake hashes params (.fresh session) = (.ok (), c)) :
    ∃ h1 c1, Runs hashes (.start params) (.fresh session) h1 c1 ∧ h1.point = .finished ∧
      c = { c1 with channel.currentCaps := h1.processor.negotiatedCaps } := by
  obtain ⟨h1, c1, hrun, hc⟩ := of_then_ok h
  obtain ⟨h', c', hr, ⟨hf, hrun'⟩ | ⟨-, err, c'', -, hrun'⟩⟩ :=
    @run_cases hashes (.start params) (.fresh session)
  · rw [hrun] at hrun'
    cases hrun'
    cases hc
    exact ⟨h1, c1, hr, hf, rfl⟩
  · rw [hrun] at hrun'
    cases hrun'

end Policy

/-! ### A plugin the client does not know -/

/-- The greeting of a server that has TLS, for a plugin named `x`. -/
def unknownPluginGreeting : Bytes :=
  [10, 0x38, 0] ++ List.replicate 4 0 ++ List.replicate 8 0 ++ [0] ++ [0x00, 0x8a] ++ [33] ++
    [2, 0] ++ [0x28, 0x01] ++ [21] ++ List.replicate 10 0 ++ List.replicate 13 0 ++ [0x78, 0]

def unknownPluginSession : Session :=
  ⟨none, (frames 0 unknownPluginGreeting).map .byte ++ [], [], [], [], .success, 0⟩

def enableParams : ConnectionParams := ⟨[], [], [], ⟨0⟩, .enable⟩

end MysqlAsio.TlsPolicy
