import MysqlAsio.Connection

/-!
Connecting again: what a connection keeps from what was done with it before.
-/

namespace MysqlAsio.Reconnect

open MysqlAsio.Errors MysqlAsio.Serialization MysqlAsio.CommonMessages MysqlAsio.Auth
open MysqlAsio.Streams MysqlAsio.Channels MysqlAsio.Framing MysqlAsio.Operations
open MysqlAsio.Handshake MysqlAsio.Connection MysqlAsio.Lib.Programs

/-! ### The buffer and the capabilities of a channel do not matter -/

/-- The channel with another shared buffer and other capabilities. -/
def withShared (sharedBuffer : Bytes) (currentCaps : Capabilities) (ch : Channel) : Channel :=
  { ch with sharedBuffer, currentCaps }

section WithShared

variable (b : Bytes) (k : Capabilities) (ch : Channel)

lemma readImpl_withShared (n : ℕ) :
    (withShared b k ch).readImpl n =
      let r := ch.readImpl n
      (r.1, r.2.1, withShared b k r.2.2) := rfl

lemma processSequenceNumber_withShared (got : UInt8) :
    (withShared b k ch).processSequenceNumber got =
      let r := ch.processSequenceNumber got
      (r.1, withShared b k r.2) := by
  by_cases h : got = ch.sequenceNumber <;> simp [Channel.processSequenceNumber, withShared, h]

lemma processHeaderRead_withShared (headerBuffer : Bytes) :
    (withShared b k ch).processHeaderRead headerBuffer =
      let r := ch.processHeaderRead headerBuffer
      (r.1, withShared b k r.2) := by
  unfold Channel.processHeaderRead
  simp only [processSequenceNumber_withShared]
  split_ifs <;> rfl

lemma readFrame_withShared (buffer : Bytes) :
    (withShared b k ch).readFrame buffer =
      let r := ch.readFrame buffer
      (r.1, r.2.1, withShared b k r.2.2) := by
  rw [Channel.readFrame, Channel.readFrame, readImpl_withShared]
  rcases ch.readImpl 4 with ⟨headerBuffer, err, ch1⟩
  simp only []
  split_ifs with he
  · rfl
  · rw [processHeaderRead_withShared]
    rcases ch1.processHeaderRead headerBuffer with ⟨err | size, ch2⟩
    · rfl
    · simp only [readImpl_withShared]
      by_cases hf : (ch2.readImpl size).2.1.failed = true <;> simp [hf]

lemma readLoop_withShared (buffer : Bytes) :
    (withShared b k ch).readLoop buffer =
      let r := ch.readLoop buffer
      (r.1, r.2.1, withShared b k r.2.2) := by
  induction ch, buffer using Channel.readLoop.induct with
  | case1 ch buffer buffer' err ch' hr =>
    have hf := readFrame_withShared b k ch buffer
    rw [hr] at hf
    rw [Channel.readLoop_error hf, Channel.readLoop_error hr]
  | case2 ch buffer buffer' ch' hr ih =>
    have hf := readFrame_withShared b k ch buffer
    rw [hr] at hf
    rw [Channel.readLoop_ok hf, Channel.readLoop_ok hr, if_pos rfl, if_pos rfl, ih]
  | case3 ch buffer buffer' size ch' hr hlast =>
    have hf := readFrame_withShared b k ch buffer
    rw [hr] at hf
    rw [Channel.readLoop_ok hf, Channel.readLoop_ok hr, if_neg hlast, if_neg hlast]

lemma writeLoop_withShared (buffer : Bytes) (transferred : ℕ) :
    Channel.writeLoop buffer transferred (withShared b k ch) =
      let r := Channel.writeLoop buffer transferred ch
      (r.1, withShared b k r.2) := by
  induction hn : buffer.length - transferred using Nat.strong_induction_on
    generalizing transferred ch with
  | _ n ih =>
    rw [Channel.writeLoop, Channel.writeLoop]
    set size := Channel.computeSizeToWrite buffer.length transferred
    have hw : ((withShared b k ch).processHeaderWrite size).2.writeImpl
        (((withShared b k ch).processHeaderWrite size).1 ++ (buffer.drop transferred).take size) =
        let r := (ch.processHeaderWrite size).2.writeImpl
          ((ch.processHeaderWrite size).1 ++ (buffer.drop transferred).take size)
        (r.1, withShared b k r.2) := rfl
    simp only [hw]
    split_ifs with he hlt
    · rfl
    · subst hn
      exact ih _ (Channel.computeSizeToWrite_left_lt hlt) _ _ rfl
    · rfl

lemma read_withShared :
    (withShared b k ch).read = (ch.read.1, ch.read.2.1, withShared b k ch.read.2.2) :=
  readLoop_withShared b k ch []

lemma write_withShared (m : Bytes) :
    (withShared b k ch).write m = ((ch.write m).1, withShared b k (ch.write m).2) :=
  writeLoop_withShared b k ch m 0

end WithShared

/-! ### Two handshakes step by step -/

/-- The connections differ in the buffer and in the capabilities at most. -/
def Alike (c c' : Conn) : Prop := ∃ b k, c' = ⟨withShared b k c.channel, c.info⟩

/-- The connections differ in the capabilities at most. -/
def SameButCaps (c c' : Conn) : Prop :=
  ∃ k, c' = ⟨withShared c.channel.sharedBuffer k c.channel, c.info⟩

lemma SameButCaps.alike {c c' : Conn} (h : SameButCaps c c') : Alike c c' := by
  obtain ⟨k, rfl⟩ := h
  exact ⟨_, k, rfl⟩

section Steps

variable {hashes : Hashes}

lemma lockstep_of_blind {α : Type} {m : Operation α}
    (h : ∀ (k : Capabilities) (c : Conn), m ⟨withShared c.channel.sharedBuffer k c.channel, c.info⟩ =
      ((m c).1, ⟨withShared (m c).2.channel.sharedBuffer k (m c).2.channel, (m c).2.info⟩)) :
    Lockstep SameButCaps m SameButCaps SameButCaps := by
  rintro c _ ⟨k, rfl⟩
  rw [h]
  rcases m c with ⟨err | a, c'⟩
  · exact .error err ⟨k, rfl⟩
  · exact .ok a ⟨k, rfl⟩

lemma readShared_lockstep : Lockstep Alike readShared SameButCaps SameButCaps := by
  rintro c _ ⟨b, k, rfl⟩
  have hr := read_withShared b k c.channel
  simp only [readShared, onChannel, hr]
  cases he : c.channel.read.2.1.failed with
  | true =>
    rw [outcome_failed he]
    exact .error _ ⟨k, rfl⟩
  | false =>
    rw [outcome_ok he]
    exact .ok () ⟨k, rfl⟩

lemma writeShared_lockstep : Lockstep SameButCaps writeShared SameButCaps SameButCaps := by
  refine lockstep_of_blind fun k c => ?_
  have hw := write_withShared c.channel.sharedBuffer k c.channel c.channel.sharedBuffer
  obtain ⟨seq, results, data, hc⟩ := (write_cases c.channel c.channel.sharedBuffer).1
  have hb : (c.channel.write c.channel.sharedBuffer).2.sharedBuffer = c.channel.sharedBuffer := by
    rw [hc]
  have hs : (withShared c.channel.sharedBuffer k c.channel).sharedBuffer =
    c.channel.sharedBuffer := rfl
  simp only [writeShared, onChannel, hs, hw, hb]

lemma serializeShared_lockstep {α : Type} [Serializable α] (x : α) (caps : Capabilities) :
    Lockstep SameButCaps (serializeShared x caps) SameButCaps SameButCaps :=
  lockstep_of_blind fun _ _ => rfl

lemma step_lockstep (h : HandshakeOp) :
    Lockstep SameButCaps (h.step hashes) SameButCaps SameButCaps := by
  have hread : Lockstep SameButCaps readShared SameButCaps SameButCaps :=
    readShared_lockstep.weaken (fun _ _ => SameButCaps.alike) (fun _ _ h => h) (fun _ _ h => h)
  have hpure : ∀ h' : HandshakeOp, Lockstep SameButCaps (pure h' : Operation HandshakeOp)
    SameButCaps SameButCaps := lockstep_pure
  obtain ⟨point, p, o⟩ := h
  cases point with
  | greeting =>
    exact hread.then fun _ => (lockstep_of_blind fun _ _ => rfl).then fun _ => hpure _
  | sslRequest =>
    exact (serializeShared_lockstep _ _).then fun _ => writeShared_lockstep.then fun _ => hpure _
  | sslHandshake => exact (lockstep_of_blind fun _ _ => rfl).then fun _ => hpure _
  | response =>
    exact (serializeShared_lockstep _ _).then fun _ => writeShared_lockstep.then fun _ => hpure _
  | authMessage =>
    exact hread.then fun _ => (lockstep_of_blind fun _ _ => rfl).then fun _ => hpure _
  | authResponse => exact writeShared_lockstep.then fun _ => hpure _
  | finished => exact hpure _

lemma start_lockstep (params : ConnectionParams) :
    Lockstep Alike ((HandshakeOp.start params).step hashes) SameButCaps SameButCaps :=
  readShared_lockstep.then fun _ => (lockstep_of_blind fun _ _ => rfl).then fun _ =>
    lockstep_pure _

lemma run_agree {R : Conn → Conn → Prop} {h : HandshakeOp} (hne : h.point ≠ .finished)
    (hstep : Lockstep R (h.step hashes) SameButCaps SameButCaps) {c c' : Conn} (hR : R c c')
    (hrun : ∀ h1 c1 c1', h.step hashes c = (.ok h1, c1) → SameButCaps c1 c1' →
      Agree SameButCaps SameButCaps (h1.run hashes c1) (h1.run hashes c1')) :
    Agree SameButCaps SameButCaps (h.run hashes c) (h.run hashes c') := by
  have hs := hstep c c' hR
  rcases h1 : h.step hashes c with ⟨r, t⟩
  rcases h2 : h.step hashes c' with ⟨r', t'⟩
  rw [h1, h2] at hs
  cases hs with
  | ok a hst =>
    rw [run_step hne h1, run_step hne h2]
    exact hrun a t t' h1 hst
  | error e hst =>
    rw [run_error hne h1, run_error hne h2]
    exact .error e hst

lemma run_lockstep (h : HandshakeOp) :
    Lockstep SameButCaps (h.run hashes) SameButCaps SameButCaps := by
  intro c c' hc
  induction hd : h.distance c using WellFoundedLT.induction generalizing h c c' with
  | _ d ih =>
    subst hd
    by_cases hf : h.point = .finished
    · rw [run_finished hf, run_finished hf]
      exact .ok h hc
    · refine run_agree hf (step_lockstep h) hc fun h1 c1 c1' hs hst => ?_
      exact ih _ (step_transition hf hs).distance_lt h1 c1 c1' hst rfl

/-- A handshake does the same whatever is in the buffer and whichever capabilities there were. -/
theorem handshake_lockstep (params : ConnectionParams) :
    Lockstep Alike (handshake hashes params) SameButCaps SameButCaps := by
  have hrun : Lockstep Alike ((HandshakeOp.start params).run hashes) SameButCaps SameButCaps :=
    fun c c' hc => @run_agree hashes Alike (.start params) (fun h => nomatch h)
      (start_lockstep params) c c' hc fun h1 c1 c1' _ hst => run_lockstep h1 c1 c1' hst
  refine hrun.then fun h => ?_
  rintro c _ ⟨k, rfl⟩
  exact .ok () ⟨h.processor.negotiatedCaps, rfl⟩

end Steps

/-! ### Attempts -/

/-- What an attempt to connect comes to: its result, what left the client in which layer, and
`uses_ssl()`. -/
structure Attempt where
  result : Except ErrorCode Unit
  log : List Event
  usesSsl : Bool

def Attempt.of (r : Except ErrorCode Unit × Conn) : Attempt :=
  ⟨r.1, r.2.channel.stream.log, r.2.channel.sslActive⟩

/-- `connect` of a connection with this channel. -/
def connectAttempt (hashes : Hashes) (params : ConnectionParams) (session : Session)
    (ch : Channel) : Attempt := .of (connect hashes params session ⟨ch, .clear⟩)

/-- `handshake` of a connection with this channel, whose stream was just connected. -/
def handshakeAttempt (hashes : Hashes) (params : ConnectionParams) (session : Session)
    (ch : Channel) : Attempt :=
  .of (cleared (handshake hashes params) ⟨{ ch with stream := session.stream }, .clear⟩)

/-- Attempts with this channel come to what they come to with a channel just constructed. -/
def HistoryIndependent (ch : Channel) : Prop := ∀ hashes params session,
  connectAttempt hashes params session ch =
    connectAttempt hashes params session constructed.channel ∧
  handshakeAttempt hashes params session ch =
    handshakeAttempt hashes params session constructed.channel

/-- The channel is at the number a session begins with, and has no TLS layer. -/
structure Clean (ch : Channel) : Prop where
  sequenceNumber : ch.sequenceNumber = 0
  sslActive : ch.sslActive = false

section Attempts

variable {hashes : Hashes} {params : ConnectionParams} {session : Session} {ch : Channel}

lemma alike_of_clean (h : Clean ch) (stream : Stream) (info : ErrorInfo) :
    Alike ⟨{ constructed.channel with stream }, info⟩ ⟨{ ch with stream }, info⟩ := by
  refine ⟨ch.sharedBuffer, ch.currentCaps, ?_⟩
  obtain ⟨s, a, n, b, k⟩ := ch
  obtain ⟨rfl, rfl⟩ := h
  rfl

lemma attempt_of_agree {r r' : Except ErrorCode Unit × Conn}
    (h : Agree SameButCaps SameButCaps r r') : Attempt.of r = Attempt.of r' := by
  cases h with
  | ok a h =>
    obtain ⟨k, rfl⟩ := h
    rfl
  | error e h =>
    obtain ⟨k, rfl⟩ := h
    rfl

lemma handshakeAttempt_of_clean (h : Clean ch) :
    handshakeAttempt hashes params session ch =
      handshakeAttempt hashes params session constructed.channel :=
  (attempt_of_agree (handshake_lockstep params _ _ (alike_of_clean h _ _))).symm

lemma connectAttempt_of_clean (h : Clean ch) :
    connectAttempt hashes params session ch =
      connectAttempt hashes params session constructed.channel := by
  unfold connectAttempt
  rcases he : session.connectError with _ | e
  · rw [connect_connected he, connect_connected he]
    have hs := @handshake_lockstep hashes params _ _ (alike_of_clean h session.stream .clear)
    rcases h1 : handshake hashes params ⟨{ ch with stream := session.stream }, .clear⟩ with ⟨r, t⟩
    rcases h2 : handshake hashes params
      ⟨{ constructed.channel with stream := session.stream }, .clear⟩ with ⟨r', t'⟩
    rw [h1, h2] at hs
    cases hs with
    | ok a h =>
      obtain ⟨k, rfl⟩ := h
      rfl
    | error e h =>
      obtain ⟨k, rfl⟩ := h
      rfl
  · rw [connect_refused he, connect_refused he]
    simp only [Attempt.of, Channel.close, h.sslActive]
    rfl

/-! ### Sessions that tell channels apart -/

/-- A session in which the physical connection fails. -/
def refusedSession : Session := ⟨some ⟨eof, rfl⟩, [], [], [], [], .success, 0⟩

/-- A session in which the greeting is that of an old server. -/
def oldServerSession : Session :=
  ⟨none, (frames 0 [handshakeProtocolVersion9]).map .byte ++ [], [], [], [], .success, 0⟩

lemma connect_oldServer (h : Clean ch) :
    ∃ ch' : Channel, connect hashes params oldServerSession ⟨ch, .clear⟩ =
      (.error (makeErrorCode .serverUnsupported), ⟨ch'.close.2, .clear⟩) ∧
      ch'.sequenceNumber = 1 := by
  obtain ⟨s, a, n, b, k⟩ := ch
  obtain ⟨hn, hs⟩ := h
  simp only at hn hs
  subst hn hs
  have hr : (Channel.mk oldServerSession.stream false 0 b k).read = _ := read_frames rfl
  have hp : (HandshakeProcessor.new params).processHandshake hashes [handshakeProtocolVersion9]
      .clear = (makeErrorCode .serverUnsupported, .new params, .clear) := rfl
  refine ⟨{ Channel.afterFrames (Channel.mk oldServerSession.stream false 0 b k)
    (frameCount [handshakeProtocolVersion9]) [] with
      sharedBuffer := [handshakeProtocolVersion9] }, ?_, rfl⟩
  rw [connect_connected rfl, handshake_greeting_error hr hp rfl]
  rfl

lemma connect_oldServer_other (hs : ch.sslActive = false) (hn : ch.sequenceNumber ≠ 0) :
    (connect hashes params oldServerSession ⟨ch, .clear⟩).1 =
      .error (makeErrorCode .sequenceNumberMismatch) := by
  have hp : Channel.pending { ch with stream := oldServerSession.stream } =
      (frames 0 [handshakeProtocolVersion9]).map .byte ++ [] := by
    rw [Channel.pending, Channel.layer, hs]
    rfl
  have hn' : 0 ≠ Channel.sequenceNumber { ch with stream := oldServerSession.stream } := hn.symm
  obtain ⟨ch', hr⟩ := read_other (by decide) hn' hp
  have hh : handshake hashes params ⟨{ ch with stream := oldServerSession.stream }, .clear⟩ = _ :=
    handshake_read_error rfl hr
  rw [connect_connected rfl, hh]

lemma clean_constructed : Clean constructed.channel := ⟨rfl, rfl⟩

/-- A channel that is not clean gives itself away. -/
lemma clean_of_historyIndependent (h : HistoryIndependent ch) : Clean ch := by
  set params : ConnectionParams := ⟨[], [], [], ⟨0⟩, .disable⟩
  have hs : ch.sslActive = false := by
    have hc := (h zeroHashes params refusedSession).1
    unfold connectAttempt at hc
    rw [connect_refused rfl, connect_refused rfl] at hc
    exact congrArg Attempt.usesSsl hc
  refine ⟨?_, hs⟩
  by_contra hn
  have hc := congrArg Attempt.result (h zeroHashes params oldServerSession).1
  obtain ⟨ch', hclean, -⟩ := @connect_oldServer zeroHashes params _ clean_constructed
  simp only [connectAttempt, Attempt.of, hclean, connect_oldServer_other hs hn] at hc
  cases hc

end Attempts

/-! ### After any history -/

/-- **Connecting does not depend on the history of a connection** exactly when that has left its
channel clean. -/
theorem historyIndependent_iff (hashes : Hashes) (calls : List Call) :
    HistoryIndependent (after hashes calls).channel ↔ Clean (after hashes calls).channel :=
  ⟨clean_of_historyIndependent, fun h _ _ _ =>
    ⟨connectAttempt_of_clean h, handshakeAttempt_of_clean h⟩⟩

/-- A connect that was refused can be retried; a retry that meets an old server cannot. -/
theorem historyIndependent_iff_retried :
    let params : ConnectionParams := ⟨[], [], [], ⟨0⟩, .disable⟩
    HistoryIndependent (after zeroHashes [.connect params refusedSession]).channel ∧
      ¬ HistoryIndependent (after zeroHashes
        [.connect params refusedSession, .connect params oldServerSession]).channel := by
  intro params
  refine ⟨(historyIndependent_iff zeroHashes [.connect params refusedSession]).mpr ⟨rfl, rfl⟩,
    fun hi => ?_⟩
  have hclean := (historyIndependent_iff zeroHashes _).mp hi
  obtain ⟨ch, hc, hn⟩ := @connect_oldServer zeroHashes params
    (after zeroHashes [.connect params refusedSession]).channel ⟨rfl, rfl⟩
  have ha : after zeroHashes [.connect params refusedSession, .connect params oldServerSession] =
      ⟨ch.close.2, .clear⟩ := congrArg Prod.snd hc
  rw [ha] at hclean
  exact absurd (hn.symm.trans hclean.sequenceNumber) (by decide)

/-- After a connect that has failed with an old server, connecting is not as it was. -/
theorem failed_connect_not_historyIndependent : ¬ ∀ hashes calls,
    (after hashes calls).channel.stream.isOpen = false →
    HistoryIndependent (after hashes calls).channel := by
  intro h
  set params : ConnectionParams := ⟨[], [], [], ⟨0⟩, .disable⟩
  obtain ⟨ch, hc, hn⟩ := @connect_oldServer zeroHashes params _ clean_constructed
  have ha : after zeroHashes [.connect params oldServerSession] = ⟨ch.close.2, .clear⟩ :=
    congrArg Prod.snd hc
  have hi := h zeroHashes [.connect params oldServerSession] (by rw [ha]; rfl)
  rw [ha] at hi
  have hclean := (clean_of_historyIndependent hi).sequenceNumber
  exact absurd (hn.symm.trans hclean) (by decide)

end MysqlAsio.Reconnect
