import MysqlAsio.AsyncChannel
import MysqlAsio.ErrPackets
import MysqlAsio.TlsPolicy

/-!
The asynchronous handshake, and where it differs from the synchronous one.

Both go through the same points. They differ in what they leave when a message of the server
is refused, and when an ERR packet was taken for a success on the way.
-/

namespace MysqlAsio.AsyncHandshake

open MysqlAsio.Errors MysqlAsio.Serialization MysqlAsio.CommonMessages MysqlAsio.Auth
open MysqlAsio.HandshakeMessages MysqlAsio.Streams MysqlAsio.Channels MysqlAsio.Framing
open MysqlAsio.Operations MysqlAsio.Handshake MysqlAsio.AsyncChannel MysqlAsio.Lib.Programs
open MysqlAsio.ErrPackets MysqlAsio.TlsPolicy MysqlAsio.Lib.Coroutines

/-! ### The coroutine -/

/-- What `handshake_op` waits for. -/
inductive HandshakeAwait
  | read
  | write
  | sslHandshake

/-- The operations of the channel it waits for, on the shared buffer. -/
def HandshakeAwait.Performs : Performs HandshakeAwait ErrorCode Conn
  | .read, c, code, c' => ∃ ch buffer, PerformsRead c.channel c.channel.sharedBuffer code ch buffer ∧
      c' = { c with channel := { ch with sharedBuffer := buffer } }
  | .write, c, code, c' => ∃ ch, AsyncWrite c.channel c.channel.sharedBuffer code ch ∧
      c' = { c with channel := ch }
  | .sslHandshake, c, code, c' => ∃ ch, c.channel.sslHandshake = (code, ch) ∧
      c' = { c with channel := ch }

inductive AsyncPoint
  | start | greeting | sslRequest | sslHandshake | response | authMessage | authResponse
  deriving DecidableEq, Repr

/-- `handshake_op`, suspended. What it writes `error_info` to is in the environment. -/
structure AsyncHandshakeOp where
  point : AsyncPoint
  processor : HandshakeProcessor
  authState : AuthResult

abbrev HandshakeTurn := Turn HandshakeAwait AsyncHandshakeOp ErrorCode × Conn

/-- `handshake_op::complete`. -/
def complete (processor : HandshakeProcessor) (c : Conn) (code : ErrorCode) (info : ErrorInfo) :
    HandshakeTurn :=
  (.complete code, ⟨{ c.channel with currentCaps := processor.negotiatedCaps }, info⟩)

/-- A message composed in the shared buffer. -/
def composed {α : Type} [Serializable α] (input : α) (caps : Capabilities) (c : Conn) : Conn :=
  { c with channel.sharedBuffer := serializeMessage input caps c.channel.sharedBuffer }

namespace AsyncHandshakeOp

/-- The response to the greeting. -/
def respond (op : AsyncHandshakeOp) (c : Conn) : HandshakeTurn :=
  (.await .write { op with point := .response },
    composed op.processor.handshakeResponse op.processor.negotiatedCaps c)

/-- The loop of the authentication, and what comes after it. -/
def loop (op : AsyncHandshakeOp) (c : Conn) : HandshakeTurn :=
  if op.authState ≠ .complete then (.await .read { op with point := .authMessage }, c)
  else complete op.processor c .success .clear

/-- `handshake_op::operator()`. Its `error_info` begins anew at each call. -/
def resume (hashes : Hashes) : Coroutine AsyncHandshakeOp ErrorCode HandshakeAwait ErrorCode Conn :=
  fun op err c =>
    if err.failed then (.complete err, c)
    else
      match op.point with
      | .start => (.await .read { op with point := .greeting }, c)
      | .greeting =>
        let (err, processor, info) :=
          op.processor.processHandshake hashes c.channel.sharedBuffer .clear
        let op := { op with processor }
        if err.failed then complete processor c err info
        else if processor.useSsl then
          (.await .write { op with point := .sslRequest },
            composed processor.sslRequest processor.negotiatedCaps c)
        else op.respond c
      | .sslRequest => (.await .sslHandshake { op with point := .sslHandshake }, c)
      | .sslHandshake => op.respond c
      | .response => op.loop c
      | .authMessage =>
        let answer := op.processor.processHandshakeServerResponse hashes op.authState
          c.channel.sharedBuffer .clear
        let op := { op with processor := answer.processor, authState := answer.outcome }
        let c := { c with channel.sharedBuffer := answer.buffer }
        if answer.err.failed then complete answer.processor c answer.err answer.info
        else if answer.outcome = .sendMoreData then
          (.await .write { op with point := .authResponse }, c)
        else op.loop c
      | .authResponse => op.loop c

end AsyncHandshakeOp

/-- What `connection::async_handshake` completes with, and the connection it leaves. -/
def AsyncHandshakes (hashes : Hashes) (params : ConnectionParams) (c : Conn) (code : ErrorCode)
    (c' : Conn) : Prop :=
  Completes (AsyncHandshakeOp.resume hashes) HandshakeAwait.Performs
    ⟨.start, .new params, .invalid⟩ .success { c with info := .clear } code c'

lemma performs_read_iff {c c' : Conn} {code : ErrorCode} :
    HandshakeAwait.read.Performs c code c' ↔ code = c.channel.read.2.1 ∧
      c' = { c with channel := { c.channel.read.2.2 with sharedBuffer := c.channel.read.1 } } := by
  simp only [HandshakeAwait.Performs, performsRead_iff]
  constructor
  · rintro ⟨ch, buffer, ⟨rfl, rfl, rfl⟩, rfl⟩
    exact ⟨rfl, rfl⟩
  · rintro ⟨rfl, rfl⟩
    exact ⟨_, _, ⟨rfl, rfl, rfl⟩, rfl⟩

lemma performs_write_iff {c c' : Conn} {code : ErrorCode} :
    HandshakeAwait.write.Performs c code c' ↔
      code = (c.channel.write c.channel.sharedBuffer).1 ∧
        c' = { c with channel := (c.channel.write c.channel.sharedBuffer).2 } := by
  simp only [HandshakeAwait.Performs, asyncWrite_iff]
  constructor
  · rintro ⟨ch, ⟨rfl, rfl⟩, rfl⟩
    exact ⟨rfl, rfl⟩
  · rintro ⟨rfl, rfl⟩
    exact ⟨_, ⟨rfl, rfl⟩, rfl⟩

lemma performs_sslHandshake_iff {c c' : Conn} {code : ErrorCode} :
    HandshakeAwait.sslHandshake.Performs c code c' ↔ code = c.channel.sslHandshake.1 ∧
      c' = { c with channel := c.channel.sslHandshake.2 } := by
  simp only [HandshakeAwait.Performs, Prod.ext_iff]
  constructor
  · rintro ⟨ch, ⟨rfl, rfl⟩, rfl⟩
    exact ⟨rfl, rfl⟩
  · rintro ⟨rfl, rfl⟩
    exact ⟨_, ⟨rfl, rfl⟩, rfl⟩

/-! ### What the messages of the server leave in `error_info` -/

variable {hashes : Hashes}

lemma deserializeHandshake_info (m : Bytes) (info : ErrorInfo) :
    deserializeHandshake m info = ((deserializeHandshake m .clear).1,
      (deserializeHandshake m .clear).2.1, textAfter info m) := by
  cases m with
  | nil => rfl
  | cons b s =>
    unfold deserializeHandshake
    simp only [deserializeMessageType_cons]
    by_cases h9 : b = handshakeProtocolVersion9
    · rw [if_pos h9, if_pos h9, textAfter, errPacketOf_ne (by rw [h9]; decide)]
    rw [if_neg h9, if_neg h9]
    by_cases herr : b = errorPacketHeader
    · rw [if_pos herr, if_pos herr, herr, processErrorPacket_info]
    rw [if_neg herr, if_neg herr, textAfter, errPacketOf_ne herr]
    by_cases h10 : b = handshakeProtocolVersion10
    · rw [if_neg (not_not.mpr h10), if_neg (not_not.mpr h10)]
      cases deserializeMessage deserializeHandshakePacket ⟨s, Capabilities.none⟩ <;> rfl
    · rw [if_pos h10, if_pos h10]

lemma processHandshake_info (p : HandshakeProcessor) (m : Bytes) (info : ErrorInfo) :
    p.processHandshake hashes m info = ((p.processHandshake hashes m .clear).1,
      (p.processHandshake hashes m .clear).2.1, textAfter info m) := by
  have h := deserializeHandshake_info m info
  rcases hd : deserializeHandshake m .clear with ⟨err, packet, info'⟩
  rw [hd] at h
  simp only [HandshakeProcessor.processHandshake, h, hd]
  cases err.failed with
  | true => rfl
  | false =>
    rcases p.processCapabilities packet with ⟨err1, p1⟩
    cases err1.failed <;> simp

/-- What a greeting comes to does not depend on the text there was. -/
lemma of_processHandshake {p p' : HandshakeProcessor} {m : Bytes} {err : ErrorCode}
    {info info' : ErrorInfo} (h : p.processHandshake hashes m info = (err, p', info')) :
    p.processHandshake hashes m .clear = (err, p', textAfter .clear m) ∧
      info' = textAfter info m := by
  have hc := @processHandshake_info hashes p m .clear
  rw [processHandshake_info] at h
  cases h
  exact ⟨hc, rfl⟩

lemma answer_info (p : HandshakeProcessor) (o : AuthResult) (m : Bytes) (info : ErrorInfo) :
    p.processHandshakeServerResponse hashes o m info =
      { p.processHandshakeServerResponse hashes o m .clear with info := textAfter info m } := by
  cases m with
  | nil => rfl
  | cons b s =>
    unfold HandshakeProcessor.processHandshakeServerResponse HandshakeProcessor.answerChallenge
    simp only [deserializeMessageType_cons]
    by_cases hok : b = okPacketHeader
    · rw [if_pos hok, if_pos hok, textAfter, errPacketOf_ne (by rw [hok]; decide)]
    rw [if_neg hok, if_neg hok]
    by_cases herr : b = errorPacketHeader
    · rw [if_pos herr, if_pos herr, herr, processErrorPacket_info]
    rw [if_neg herr, if_neg herr, textAfter, errPacketOf_ne herr]
    by_cases hsw : b = authSwitchRequestHeader
    · rw [if_pos hsw, if_pos hsw]
      cases deserializeMessage deserializeAuthSwitchRequestPacket ⟨s, p.negotiatedCaps⟩ with
      | error err => rfl
      | ok authSw => simp only []; split_ifs <;> rfl
    rw [if_neg hsw, if_neg hsw]
    by_cases hmore : b = authMoreDataHeader
    · rw [if_pos hmore, if_pos hmore]
      cases deserializeMessage deserializeAuthMoreDataPacket ⟨s, p.negotiatedCaps⟩ with
      | error err => rfl
      | ok moreData => simp only []; split_ifs <;> rfl
    · rw [if_neg hmore, if_neg hmore]

/-! ### The two side by side -/

/-- Where the asynchronous handshake is when the synchronous one is at `h`. -/
def asyncAt (h : HandshakeOp) (ch : Channel) : HandshakeTurn :=
  let p := h.processor
  match h.point with
  | .greeting => (.await .read ⟨.greeting, p, .invalid⟩, ⟨ch, .clear⟩)
  | .sslRequest =>
    (.await .write ⟨.sslRequest, p, .invalid⟩, composed p.sslRequest p.negotiatedCaps ⟨ch, .clear⟩)
  | .sslHandshake => (.await .sslHandshake ⟨.sslHandshake, p, .invalid⟩, ⟨ch, .clear⟩)
  | .response => AsyncHandshakeOp.respond ⟨.response, p, .invalid⟩ ⟨ch, .clear⟩
  | .authMessage => (.await .read ⟨.authMessage, p, h.authOutcome⟩, ⟨ch, .clear⟩)
  | .authResponse => (.await .write ⟨.authResponse, p, h.authOutcome⟩, ⟨ch, .clear⟩)
  | .finished => complete p ⟨ch, .clear⟩ .success .clear

/-- What it is to complete with, from there. -/
def CompletesAt (hashes : Hashes) (h : HandshakeOp) (ch : Channel) : ErrorCode → Conn → Prop :=
  CompletesFrom (AsyncHandshakeOp.resume hashes) HandshakeAwait.Performs (asyncAt h ch)

section Side

variable {p : HandshakeProcessor} {o : AuthResult} {ch ch' : Channel} {m : Bytes}
variable {err code : ErrorCode} {e : Conn}

lemma from_read_iff {op : AsyncHandshakeOp} (hr : ch.read = (m, err, ch')) :
    CompletesFrom (AsyncHandshakeOp.resume hashes) HandshakeAwait.Performs
      (.await .read op, ⟨ch, .clear⟩) code e ↔
    CompletesFrom (AsyncHandshakeOp.resume hashes) HandshakeAwait.Performs
      (op.resume hashes err ⟨{ ch' with sharedBuffer := m }, .clear⟩) code e := by
  rw [from_await_iff fun _ _ => performs_read_iff, hr]

lemma from_write_iff {op : AsyncHandshakeOp} (hw : ch.write ch.sharedBuffer = (err, ch')) :
    CompletesFrom (AsyncHandshakeOp.resume hashes) HandshakeAwait.Performs
      (.await .write op, ⟨ch, .clear⟩) code e ↔
    CompletesFrom (AsyncHandshakeOp.resume hashes) HandshakeAwait.Performs
      (op.resume hashes err ⟨ch', .clear⟩) code e := by
  rw [from_await_iff fun _ _ => performs_write_iff, hw]

lemma from_composed_iff {α : Type} [Serializable α] {input : α} {caps : Capabilities}
    {op : AsyncHandshakeOp} {next : HandshakeTurn}
    (hm : m = serializeMessage input caps ch.sharedBuffer)
    (hw : ({ ch with sharedBuffer := m } : Channel).write m = (err, ch'))
    (hn : op.resume hashes err ⟨ch', .clear⟩ = next) :
    CompletesFrom (AsyncHandshakeOp.resume hashes) HandshakeAwait.Performs
      (.await .write op, composed input caps ⟨ch, .clear⟩) code e ↔
    CompletesFrom (AsyncHandshakeOp.resume hashes) HandshakeAwait.Performs next code e := by
  have hc : composed input caps ⟨ch, .clear⟩ = ⟨{ ch with sharedBuffer := m }, .clear⟩ := by
    rw [hm]
    rfl
  rw [hc, from_write_iff hw, hn]

lemma from_sslHandshake_iff {op : AsyncHandshakeOp} (hs : ch.sslHandshake = (err, ch')) :
    CompletesFrom (AsyncHandshakeOp.resume hashes) HandshakeAwait.Performs
      (.await .sslHandshake op, ⟨ch, .clear⟩) code e ↔
    CompletesFrom (AsyncHandshakeOp.resume hashes) HandshakeAwait.Performs
      (op.resume hashes err ⟨ch', .clear⟩) code e := by
  rw [from_await_iff fun _ _ => performs_sslHandshake_iff, hs]

lemma resume_greeting {p' : HandshakeProcessor} {info : ErrorInfo}
    (hp : p.processHandshake hashes m .clear = (err, p', info)) :
    AsyncHandshakeOp.resume hashes ⟨.greeting, p, o⟩ .success
        ⟨{ ch with sharedBuffer := m }, .clear⟩ =
      let c : Conn := ⟨{ ch with sharedBuffer := m }, .clear⟩
      if err.failed then complete p' c err info
      else if p'.useSsl then
        (.await .write ⟨.sslRequest, p', o⟩, composed p'.sslRequest p'.negotiatedCaps c)
      else AsyncHandshakeOp.respond ⟨.greeting, p', o⟩ c := by
  simp only [AsyncHandshakeOp.resume, success_failed, Bool.false_eq_true, if_false, hp]

lemma resume_authMessage {answer : HandshakeProcessor.Answer}
    (hp : p.processHandshakeServerResponse hashes o m .clear = answer) :
    AsyncHandshakeOp.resume hashes ⟨.authMessage, p, o⟩ .success
        ⟨{ ch with sharedBuffer := m }, .clear⟩ =
      let c : Conn := ⟨{ ch with sharedBuffer := answer.buffer }, .clear⟩
      if answer.err.failed then complete answer.processor c answer.err answer.info
      else if answer.outcome = .sendMoreData then
        (.await .write ⟨.authResponse, answer.processor, answer.outcome⟩, c)
      else AsyncHandshakeOp.loop ⟨.authMessage, answer.processor, answer.outcome⟩ c := by
  simp only [AsyncHandshakeOp.resume, success_failed, Bool.false_eq_true, if_false, hp]

lemma loop_nextPoint {ch : Channel} :
    (if o = .sendMoreData then ((.await .write ⟨.authResponse, p, o⟩, ⟨ch, .clear⟩) : HandshakeTurn)
      else AsyncHandshakeOp.loop ⟨.authMessage, p, o⟩ ⟨ch, .clear⟩) =
      asyncAt ⟨nextPoint o, p, o⟩ ch := by
  cases o <;> rfl

end Side

lemma completesAt_transition {h h' : HandshakeOp} {c c' : Conn} {code : ErrorCode} {e : Conn}
    (ht : Transition hashes h c h' c')
    (ho : h.point = .authResponse → h.authOutcome = .sendMoreData) :
    CompletesAt hashes h c.channel code e ↔ CompletesAt hashes h' c'.channel code e := by
  cases ht with
  | @greeting p p' o c m ch err info hr hp he =>
    refine (from_read_iff hr).trans ?_
    rw [resume_greeting (of_processHandshake hp).1, he, CompletesAt]
    cases p'.useSsl <;> rfl
  | @sslRequest p o c m ch hm hw =>
    have hn : AsyncHandshakeOp.resume hashes ⟨.sslRequest, p, .invalid⟩ .success ⟨ch, .clear⟩ =
        asyncAt ⟨.sslHandshake, p, o⟩ ch := rfl
    exact from_composed_iff hm hw hn
  | sslHandshake hs he =>
    refine (from_sslHandshake_iff hs).trans ?_
    rw [AsyncHandshakeOp.resume, he]
    rfl
  | @response p o c m ch hm hw =>
    have hn : AsyncHandshakeOp.resume hashes ⟨.response, p, .invalid⟩ .success ⟨ch, .clear⟩ =
        asyncAt ⟨.authMessage, p, .invalid⟩ ch := rfl
    exact from_composed_iff hm hw hn
  | @authMessage p o c m ch answer hr hp he =>
    rw [answer_info] at hp
    subst hp
    refine (from_read_iff hr).trans ?_
    rw [resume_authMessage rfl, CompletesAt, ← loop_nextPoint]
    simp only [he, Bool.false_eq_true, if_false]
  | @authResponse p o c ch hw =>
    obtain rfl : o = .sendMoreData := ho rfl
    exact from_write_iff hw

/-! ### The messages of the authentication -/

/-- The message that is read at a step of the authentication. -/
def received (h : HandshakeOp) (c : Conn) : List Bytes :=
  match h.point with
  | .authMessage =>
    let (m, err, _) := c.channel.read
    if err.failed then [] else [m]
  | _ => []

/-- The messages that are read in the authentication, from `h` to the end of the handshake. -/
def authMessages (hashes : Hashes) (h : HandshakeOp) (c : Conn) : List Bytes :=
  if _hne : h.point = .finished then []
  else
    match _hs : h.step hashes c with
    | (.error _, _) => received h c
    | (.ok h', c') => received h c ++ authMessages hashes h' c'
termination_by h.distance c
decreasing_by exact (step_transition _hne _hs).distance_lt

lemma authMessages_finished {h : HandshakeOp} (hf : h.point = .finished) (c : Conn) :
    authMessages hashes h c = [] := by
  rw [authMessages, dif_pos hf]

lemma authMessages_step {h h' : HandshakeOp} {c c' : Conn} (ht : Transition hashes h c h' c') :
    authMessages hashes h c = received h c ++ authMessages hashes h' c' := by
  rw [authMessages, dif_neg ht.point_ne]
  split
  · next h1 => rw [ht.step] at h1; cases h1
  · next h1 => rw [ht.step] at h1; cases h1; rfl

lemma authMessages_error {h : HandshakeOp} {c c' : Conn} {err : ErrorCode}
    (hne : h.point ≠ .finished) (hs : h.step hashes c = (.error err, c')) :
    authMessages hashes h c = received h c := by
  rw [authMessages, dif_neg hne]
  split
  · rfl
  · next h1 => rw [hs] at h1; cases h1

lemma received_authMessage {p : HandshakeProcessor} {o : AuthResult} {c : Conn} {m : Bytes}
    {ch : Channel} (hr : c.channel.read = (m, .success, ch)) :
    received ⟨.authMessage, p, o⟩ c = [m] := by
  simp only [received, hr, success_failed, Bool.false_eq_true, if_false]

/-! ### Along a run -/

/-- What holds wherever the synchronous handshake has come to from `start` on `c0`. -/
structure Stage (hashes : Hashes) (params : ConnectionParams) (c0 : Conn) (h : HandshakeOp)
    (c : Conn) : Prop where
  async : ∀ code e, AsyncHandshakes hashes params c0 code e ↔ CompletesAt hashes h c.channel code e
  currentCaps : c.channel.currentCaps = c0.channel.currentCaps
  authResponse : h.point = .authResponse → h.authOutcome = .sendMoreData
  greeting : h.point = .greeting → c.info = .clear
  info : ∃ ms, authMessages hashes (.start params) { c0 with info := .clear } =
    ms ++ authMessages hashes h c ∧ c.info = ms.foldl textAfter .clear ∧
    ∀ m ∈ ms, ∀ e, errPacketOf m = some e → e.errorCode = 0

lemma errPacketOf_greeting {p p' : HandshakeProcessor} {m : Bytes} {err : ErrorCode}
    {info info' : ErrorInfo} (h : p.processHandshake hashes m info = (err, p', info'))
    (he : err.failed = false) : errPacketOf m = none := by
  cases m with
  | nil => rfl
  | cons b s =>
    by_cases hb : b = errorPacketHeader
    · have hf := processHandshake_err p hashes s info
      rw [← hb, h, he] at hf
      cases hf
    · exact errPacketOf_ne hb

variable {params : ConnectionParams} {c0 : Conn}

lemma stage_start : Stage hashes params c0 (.start params) { c0 with info := .clear } where
  async code e := by
    rw [AsyncHandshakes, completes_iff]
    rfl
  currentCaps := rfl
  authResponse h := by cases h
  greeting _ := rfl
  info := ⟨[], rfl, rfl, fun _ hm => absurd hm List.not_mem_nil⟩

lemma read_currentCaps {ch ch' : Channel} {m : Bytes} {err : ErrorCode}
    (hr : ch.read = (m, err, ch')) : ch'.currentCaps = ch.currentCaps := by
  obtain ⟨seq, n, rest, -, h⟩ := read_moved ch
  rw [hr] at h
  exact (congrArg Channel.currentCaps h :)

lemma write_currentCaps {ch ch' : Channel} {m : Bytes} {err : ErrorCode}
    (hw : ch.write m = (err, ch')) : ch'.currentCaps = ch.currentCaps := by
  obtain ⟨seq, results, data, h⟩ := (write_cases ch m).1
  rw [hw] at h
  exact (congrArg Channel.currentCaps h :)

lemma sslHandshake_currentCaps {ch ch' : Channel} {err : ErrorCode}
    (hs : ch.sslHandshake = (err, ch')) : ch'.currentCaps = ch.currentCaps := by
  cases hs
  rfl

lemma transition_currentCaps {h h' : HandshakeOp} {c c' : Conn}
    (ht : Transition hashes h c h' c') : c'.channel.currentCaps = c.channel.currentCaps := by
  cases ht with
  | greeting hr hp he => exact (read_currentCaps hr :)
  | sslRequest hm hw => exact (write_currentCaps hw :)
  | sslHandshake hs he => exact sslHandshake_currentCaps hs
  | response hm hw => exact (write_currentCaps hw :)
  | authMessage hr hp he => exact (read_currentCaps hr :)
  | authResponse hw => exact write_currentCaps hw

lemma transition_info {h h' : HandshakeOp} {c c' : Conn} (ht : Transition hashes h c h' c') :
    c'.info = (received h c).foldl textAfter c.info := by
  cases ht with
  | greeting hr hp he =>
    rw [(of_processHandshake hp).2, textAfter, errPacketOf_greeting hp he]
    rfl
  | authMessage hr hp he =>
    rw [received_authMessage hr, ← hp, answer_info]
    rfl
  | sslRequest | sslHandshake | response | authResponse => rfl

lemma errPacketOf_refused {p : HandshakeProcessor} {o : AuthResult} {m : Bytes} {info : ErrorInfo}
    {e : ErrPacket} (h : errPacketOf m = some e) :
    (p.processHandshakeServerResponse hashes o m info).err.failed = true ↔ e.errorCode ≠ 0 := by
  obtain ⟨s, rfl, hd⟩ := of_errPacketOf h
  have hm : deserializeMessage deserializeErrPacket ⟨s, p.negotiatedCaps⟩ = .ok e :=
    deserializeMessage_ok hd
  rw [processHandshakeServerResponse_err]
  simp [processErrorPacket, hm]

lemma transition_zero {h h' : HandshakeOp} {c c' : Conn} {m : Bytes} {e : ErrPacket}
    (ht : Transition hashes h c h' c') (hm : m ∈ received h c) (he : errPacketOf m = some e) :
    e.errorCode = 0 := by
  cases ht with
  | @authMessage p o c m ch answer hr hp hf =>
    rw [received_authMessage hr, List.mem_singleton] at hm
    subst hm hp
    by_contra hne
    rw [(errPacketOf_refused he).mpr hne] at hf
    cases hf
  | greeting | sslRequest | sslHandshake | response | authResponse =>
    exact absurd hm List.not_mem_nil

lemma stage_step {h h' : HandshakeOp} {c c' : Conn} (hg : Stage hashes params c0 h c)
    (ht : Transition hashes h c h' c') : Stage hashes params c0 h' c' where
  async code e := (hg.async code e).trans (completesAt_transition ht hg.authResponse)
  currentCaps := (transition_currentCaps ht).trans hg.currentCaps
  authResponse := ht.point.2
  greeting hp := absurd hp ht.point.1
  info := by
    obtain ⟨ms, hms, hinfo, hzero⟩ := hg.info
    refine ⟨ms ++ received h c, ?_, ?_, fun m hm e he => ?_⟩
    · rw [hms, authMessages_step ht, List.append_assoc]
    · rw [transition_info ht, hinfo, List.foldl_append]
    · rcases List.mem_append.mp hm with hm | hm
      · exact hzero m hm e he
      · exact transition_zero ht hm he

lemma runs_stage {h : HandshakeOp} {c : Conn}
    (hr : Runs hashes (.start params) { c0 with info := .clear } h c) :
    Stage hashes params c0 h c := by
  induction hr with
  | start => exact stage_start
  | step _ ht ih => exact stage_step ih ht

/-! ### The last step -/

/-- The next message is refused, when these capabilities are negotiated. -/
inductive Refuses (hashes : Hashes) : HandshakeOp → Conn → Capabilities → Prop
  | greeting {p p' : HandshakeProcessor} {o : AuthResult} {c : Conn} {m : Bytes} {ch : Channel}
      {err : ErrorCode} {info : ErrorInfo} (hr : c.channel.read = (m, .success, ch))
      (hp : p.processHandshake hashes m c.info = (err, p', info)) (he : err.failed = true) :
      Refuses hashes ⟨.greeting, p, o⟩ c p'.negotiatedCaps
  | authMessage {p : HandshakeProcessor} {o : AuthResult} {c : Conn} {m : Bytes} {ch : Channel}
      (hr : c.channel.read = (m, .success, ch))
      (he : (p.processHandshakeServerResponse hashes o m c.info).err.failed = true) :
      Refuses hashes ⟨.authMessage, p, o⟩ c p.negotiatedCaps

/-- How a step fails, and what the asynchronous handshake then completes with. -/
inductive Fails (hashes : Hashes) (h : HandshakeOp) (c : Conn) (err : ErrorCode) (c' : Conn) : Prop
  | io (hn : ∀ caps, ¬ Refuses hashes h c caps) (hm : received h c = []) (hi : c'.info = c.info)
      (ha : ∀ code e, CompletesAt hashes h c.channel code e ↔
        code = err ∧ e = ⟨c'.channel, .clear⟩)
  | refused {caps : Capabilities} {m : Bytes} (hr : Refuses hashes h c caps)
      (hm : h.point = .greeting ∧ received h c = [] ∨
        received h c = [m] ∧ ∀ e, errPacketOf m = some e → e.errorCode ≠ 0)
      (hc : c'.channel.currentCaps = c.channel.currentCaps) (hi : c'.info = textAfter c.info m)
      (ha : ∀ code e, CompletesAt hashes h c.channel code e ↔
        code = err ∧ e = ⟨{ c'.channel with currentCaps := caps }, textAfter .clear m⟩)

lemma resume_failed {op : AsyncHandshakeOp} {err : ErrorCode} (he : err.failed = true) (c : Conn) :
    op.resume hashes err c = (.complete err, c) := by
  rw [AsyncHandshakeOp.resume, if_pos he]

section Fails

variable {p : HandshakeProcessor} {o : AuthResult} {c c' : Conn} {err : ErrorCode}

lemma greeting_fails (hs : HandshakeOp.step hashes ⟨.greeting, p, o⟩ c = (.error err, c')) :
    Fails hashes ⟨.greeting, p, o⟩ c err c' := by
  rcases read_cases c.channel with ⟨m, rest, -, hr⟩ | ⟨m, e, ch, he, -, hr⟩
  · -- the greeting is read, and refused
    rcases hp : p.processHandshake hashes m c.info with ⟨err1, p', info⟩
    rw [step_greeting hr hp] at hs
    cases he : err1.failed with
    | false =>
      rw [outcome_ok he] at hs
      cases hs
    | true =>
      rw [outcome_failed he] at hs
      cases hs
      refine .refused (.greeting hr hp he) (Or.inl ⟨rfl, rfl⟩) (read_currentCaps hr :)
        (of_processHandshake hp).2 fun code e => ?_
      refine (from_read_iff hr).trans ?_
      rw [resume_greeting (of_processHandshake hp).1, he]
      rfl
  · -- it is not read
    have hs' : HandshakeOp.step hashes ⟨.greeting, p, o⟩ c = _ :=
      then_error (readShared_error he hr)
    rw [hs'] at hs
    cases hs
    refine .io ?_ rfl rfl fun code e => ?_
    · rintro caps ⟨hr'⟩
      rw [hr] at hr'
      cases hr'
      cases he
    · refine (from_read_iff hr).trans ?_
      rw [resume_failed he]
      rfl

lemma authMessage_fails (hs : HandshakeOp.step hashes ⟨.authMessage, p, o⟩ c = (.error err, c')) :
    Fails hashes ⟨.authMessage, p, o⟩ c err c' := by
  rcases read_cases c.channel with ⟨m, rest, -, hr⟩ | ⟨m, e, ch, he, -, hr⟩
  · -- the message is read, and refused; it may be an ERR packet, whose text is left
    rw [step_authMessage hr rfl] at hs
    cases he : (p.processHandshakeServerResponse hashes o m c.info).err.failed with
    | false =>
      rw [outcome_ok he] at hs
      cases hs
    | true =>
      rw [outcome_failed he] at hs
      cases hs
      refine .refused (.authMessage hr he)
        (Or.inr ⟨received_authMessage hr, fun e h => (errPacketOf_refused h).mp he⟩)
        (read_currentCaps hr :) ?_ fun code e => ?_
      · rw [answer_info]
      · have hinfo := congrArg HandshakeProcessor.Answer.info (@answer_info hashes p o m .clear)
        rw [answer_info] at he ⊢
        refine (from_read_iff hr).trans ?_
        rw [resume_authMessage rfl]
        simp only [he, if_true]
        rw [complete, HandshakeProcessor.answer_keeps.2, hinfo]
        rfl
  · have hs' : HandshakeOp.step hashes ⟨.authMessage, p, o⟩ c = _ :=
      then_error (readShared_error he hr)
    rw [hs'] at hs
    cases hs
    refine .io ?_ ?_ rfl fun code e => ?_
    · rintro caps (_ | ⟨hr', -⟩)
      rw [hr] at hr'
      cases hr'
      cases he
    · rw [received, hr]
      simp only [he, if_true]
    · refine (from_read_iff hr).trans ?_
      rw [resume_failed he]
      rfl

lemma of_write_error {h : HandshakeOp}
    (hs : (do writeShared; pure h : Operation HandshakeOp) c = (.error err, c')) :
    ∃ ch, c.channel.write c.channel.sharedBuffer = (err, ch) ∧ err.failed = true ∧
      c' = { c with channel := ch } := by
  rcases hw : c.channel.write c.channel.sharedBuffer with ⟨err1, ch⟩
  have h1 : writeShared c = (outcome err1, { c with channel := ch }) := by
    simp only [writeShared, onChannel, hw]
  cases he : err1.failed with
  | false =>
    rw [outcome_ok he] at h1
    rw [then_ok h1] at hs
    cases hs
  | true =>
    rw [outcome_failed he] at h1
    rw [then_error h1] at hs
    cases hs
    exact ⟨ch, rfl, he, rfl⟩

lemma of_serialize_write_error {α : Type} [Serializable α] {x : α} {caps : Capabilities}
    {h : HandshakeOp}
    (hs : (do serializeShared x caps; writeShared; pure h : Operation HandshakeOp) c =
      (.error err, c')) :
    ∃ ch, (composed x caps c).channel.write (composed x caps c).channel.sharedBuffer = (err, ch) ∧
      err.failed = true ∧ c' = { c with channel := ch } := by
  rw [serializeShared, then_ok (modifyChannel_apply _)] at hs
  exact of_write_error hs

lemma write_fails {h : HandshakeOp} {ch : Channel} {op : AsyncHandshakeOp} (he : err.failed = true)
    (hp : h.point = .sslRequest ∨ h.point = .response ∨ h.point = .authResponse)
    (ha : asyncAt h c.channel = (.await .write op, ⟨ch, .clear⟩))
    (hw : ch.write ch.sharedBuffer = (err, c'.channel)) (hi : c'.info = c.info) :
    Fails hashes h c err c' := by
  refine .io ?_ ?_ hi fun code e => ?_
  · rintro caps (_ | _) <;> simp at hp
  · rcases hp with hp | hp | hp <;> rw [received, hp]
  · rw [CompletesAt, ha, from_write_iff hw, resume_failed he]
    rfl

lemma step_fails {h : HandshakeOp} (hne : h.point ≠ .finished)
    (hs : h.step hashes c = (.error err, c')) : Fails hashes h c err c' := by
  obtain ⟨point, p, o⟩ := h
  cases point with
  | greeting => exact greeting_fails hs
  | authMessage => exact authMessage_fails hs
  -- what is written has no text of the server, and leaves that of the last message
  | sslRequest =>
    obtain ⟨ch, hw, he, rfl⟩ := of_serialize_write_error hs
    exact write_fails he (Or.inl rfl) rfl hw rfl
  | response =>
    obtain ⟨ch, hw, he, rfl⟩ := of_serialize_write_error hs
    exact write_fails he (Or.inr (Or.inl rfl)) rfl hw rfl
  | authResponse =>
    obtain ⟨ch, hw, he, rfl⟩ := of_write_error hs
    exact write_fails he (Or.inr (Or.inr rfl)) rfl hw rfl
  | sslHandshake =>
    rcases hp : c.channel.sslHandshake with ⟨err1, ch⟩
    have h1 : onChannel Channel.sslHandshake c = (outcome err1, { c with channel := ch }) := by
      simp only [onChannel, hp]
    cases he : err1.failed with
    | false =>
      rw [outcome_ok he] at h1
      cases (then_ok h1).symm.trans hs
    | true =>
      rw [outcome_failed he] at h1
      cases (then_error h1).symm.trans hs
      refine .io (fun caps hr => by cases hr) rfl rfl fun code e => ?_
      refine (from_sslHandshake_iff hp).trans ?_
      rw [resume_failed he]
      rfl
  | finished => exact absurd rfl hne

end Fails

lemma Refuses.stuck {h : HandshakeOp} {c : Conn} {caps : Capabilities}
    (hr : Refuses hashes h c caps) (h' : HandshakeOp) (c' : Conn) :
    ¬ Transition hashes h c h' c' := by
  intro ht
  have hs := ht.step
  cases hr with
  | greeting hr hp he =>
    rw [step_greeting hr hp, outcome_failed he] at hs
    cases hs
  | authMessage hr he =>
    rw [step_authMessage hr rfl, outcome_failed he] at hs
    cases hs

lemma Refuses.unique {h : HandshakeOp} {c : Conn} {caps caps' : Capabilities}
    (hr : Refuses hashes h c caps) (hr' : Refuses hashes h c caps') : caps = caps' := by
  cases hr with
  | greeting hr hp he =>
    cases hr' with
    | greeting hr' hp' he' =>
      cases hr.symm.trans hr'
      cases hp.symm.trans hp'
      rfl
  | authMessage hr he =>
    cases hr'
    rfl

/-! ### The difference -/

/-- The last ERR packet among some messages. -/
def lastErr (ms : List Bytes) : Option ErrPacket := (ms.filterMap errPacketOf).getLast?

lemma lastErr_concat (ms : List Bytes) (m : Bytes) :
    lastErr (ms ++ [m]) = (errPacketOf m).or (lastErr ms) := by
  rw [lastErr, List.filterMap_append]
  cases he : errPacketOf m <;> simp [he, lastErr]

lemma foldl_textAfter (ms : List Bytes) (info : ErrorInfo) :
    ms.foldl textAfter info = ((lastErr ms).map fun e => ⟨e.errorMessage⟩).getD info := by
  induction ms using List.reverseRecOn with
  | nil => rfl
  | append_singleton ms m ih =>
    rw [List.foldl_append, ih, lastErr_concat]
    cases he : errPacketOf m <;> simp [textAfter, he]

/-- What `handshake` reports. -/
def returned : Except ErrorCode Unit → ErrorCode
  | .ok _ => .success
  | .error err => err

/-- The asynchronous handshake completes with what the synchronous one reports, and leaves the
connection as that does: what was written, the channel, and the text of the error. -/
def Equivalent (hashes : Hashes) (params : ConnectionParams) (c : Conn) : Prop :=
  let r := cleared (handshake hashes params) c
  ∀ code c', AsyncHandshakes hashes params c code c' ↔ code = returned r.1 ∧ c' = r.2

/-- When the two are equivalent. -/
structure Alike (hashes : Hashes) (params : ConnectionParams) (c : Conn) : Prop where
  /-- A message is refused only with the capabilities negotiated that the channel already has. -/
  refused : ∀ h c' caps, Runs hashes (.start params) { c with info := .clear } h c' →
    Refuses hashes h c' caps → caps = c.channel.currentCaps
  /-- The last ERR packet of the authentication, if any, has a number or no text. -/
  errors : ∀ e, lastErr (authMessages hashes (.start params) { c with info := .clear }) = some e →
    e.errorCode ≠ 0 ∨ e.errorMessage = []

/-- Where no message is refused without a number, the text is that of the last ERR packet. -/
lemma text_clear_iff {ms : List Bytes}
    (hz : ∀ m ∈ ms, ∀ e, errPacketOf m = some e → e.errorCode = 0) :
    ms.foldl textAfter .clear = .clear ↔
      ∀ e, lastErr ms = some e → e.errorCode ≠ 0 ∨ e.errorMessage = [] := by
  rw [foldl_textAfter]
  cases he : lastErr ms with
  | none => simp
  | some e =>
    obtain ⟨m, hm, hme⟩ := List.mem_filterMap.mp (List.mem_of_getLast? he)
    simp [ErrorInfo.clear, hz m hm e hme]

lemma conn_eq_iff {ch : Channel} {info : ErrorInfo} {S : Conn} :
    (⟨ch, info⟩ : Conn) = S ↔ ch = S.channel ∧ info = S.info := by
  cases S
  exact Conn.mk.injEq _ _ _ _ ▸ Iff.rfl

lemma equivalent_iff_eq {c S E : Conn} {r : Except ErrorCode Unit} {err : ErrorCode}
    (hs : handshake hashes params { c with info := .clear } = (r, S)) (hr : returned r = err)
    (ha : ∀ code e, AsyncHandshakes hashes params c code e ↔ code = err ∧ e = E) :
    Equivalent hashes params c ↔ E = S := by
  simp only [Equivalent, cleared, hs, hr, ha]
  constructor
  · intro h
    exact ((h err E).mp ⟨rfl, rfl⟩).2
  · rintro rfl code e
    rfl

/-- At its end in a failure that is not of a message, the handshake leaves the capabilities. -/
lemma alike_iff_of_stuck {c c' : Conn} {h : HandshakeOp} {ms : List Bytes}
    (hr : Runs hashes (.start params) { c with info := .clear } h c')
    (hs : ∀ h1 c1, ¬ Transition hashes h c' h1 c1) (hn : ∀ caps, ¬ Refuses hashes h c' caps)
    (hms : authMessages hashes (.start params) { c with info := .clear } = ms) :
    Alike hashes params c ↔ ∀ e, lastErr ms = some e → e.errorCode ≠ 0 ∨ e.errorMessage = [] := by
  subst hms
  refine ⟨fun h => h.errors, fun h => ⟨fun h1 c1 caps hr1 hf => ?_, h⟩⟩
  obtain ⟨rfl, rfl⟩ := hr1.last_unique hr hf.stuck hs
  exact absurd hf (hn caps)

/-- At its end in the refusal of a message, it leaves those that were negotiated. -/
lemma alike_iff_of_refuses {c c' : Conn} {h : HandshakeOp} {caps : Capabilities} {ms : List Bytes}
    (hr : Runs hashes (.start params) { c with info := .clear } h c')
    (hf : Refuses hashes h c' caps)
    (hms : authMessages hashes (.start params) { c with info := .clear } = ms) :
    Alike hashes params c ↔ caps = c.channel.currentCaps ∧
      ∀ e, lastErr ms = some e → e.errorCode ≠ 0 ∨ e.errorMessage = [] := by
  subst hms
  refine ⟨fun h => ⟨h.refused _ _ _ hr hf, h.errors⟩, fun h => ⟨fun h1 c1 caps1 hr1 hf1 => ?_, h.2⟩⟩
  obtain ⟨rfl, rfl⟩ := hr1.last_unique hr hf1.stuck hf.stuck
  rw [hf1.unique hf, h.1]

/-- The text the refused message leaves is the same from no text as from that of the messages
before it. -/
lemma refused_text_iff {h : HandshakeOp} {c : Conn} {m : Bytes} {ms : List Bytes}
    (hg : h.point = .greeting → c.info = .clear) (hinfo : c.info = ms.foldl textAfter .clear)
    (hzero : ∀ m ∈ ms, ∀ e, errPacketOf m = some e → e.errorCode = 0)
    (hm : h.point = .greeting ∧ received h c = [] ∨
      received h c = [m] ∧ ∀ e, errPacketOf m = some e → e.errorCode ≠ 0) :
    textAfter .clear m = textAfter c.info m ↔
      ∀ e, lastErr (ms ++ received h c) = some e → e.errorCode ≠ 0 ∨ e.errorMessage = [] := by
  rcases hm with ⟨hp, hm⟩ | ⟨hm, he⟩
  · rw [hm, List.append_nil, ← text_clear_iff hzero, ← hinfo, hg hp]
    exact iff_of_true rfl rfl
  · rw [hm, lastErr_concat]
    cases hme : errPacketOf m with
    | some e => simp [textAfter, hme, he e hme]
    | none =>
      rw [Option.none_or, ← text_clear_iff hzero, ← hinfo]
      simp only [textAfter, hme]
      exact eq_comm

/-- **The asynchronous handshake is the synchronous one** exactly when no message is refused
with other capabilities negotiated than the channel has, and the last ERR packet of the
authentication has a number or no text. -/
theorem handshake_equivalent_iff (hashes : Hashes) (params : ConnectionParams) (c : Conn) :
    Equivalent hashes params c ↔ Alike hashes params c := by
  obtain ⟨h, c', hr, hend⟩ :=
    @run_cases hashes (.start params) { c with info := .clear }
  have hg := runs_stage hr
  obtain ⟨ms, hms, hinfo, hzero⟩ := hg.info
  rcases hend with ⟨hf, hrun⟩ | ⟨hne, err, S, hs, hrun⟩
  · -- the authentication has succeeded
    have hsync : handshake hashes params { c with info := .clear } =
        (.ok (), { c' with channel.currentCaps := h.processor.negotiatedCaps }) := then_ok hrun
    have hn (caps : Capabilities) : ¬ Refuses hashes h c' caps := by
      rintro (_ | _) <;> simp at hf
    have ha (code : ErrorCode) (e : Conn) : CompletesAt hashes h c'.channel code e ↔
        code = .success ∧
          e = ⟨{ c'.channel with currentCaps := h.processor.negotiatedCaps }, .clear⟩ := by
      rw [CompletesAt, asyncAt, hf]
      rfl
    rw [authMessages_finished hf, List.append_nil] at hms
    rw [equivalent_iff_eq hsync rfl fun code e => (hg.async code e).trans (ha code e),
      alike_iff_of_stuck hr (fun _ _ ht => ht.point_ne hf) hn hms, ← text_clear_iff hzero, ← hinfo,
      conn_eq_iff]
    simp [eq_comm]
  · -- it ends in a step that fails
    have hsync : handshake hashes params { c with info := .clear } = (.error err, S) :=
      then_error hrun
    have hstuck : ∀ h1 c1, ¬ Transition hashes h c' h1 c1 := fun h1 c1 ht => by
      cases hs.symm.trans ht.step
    rw [authMessages_error hne hs] at hms
    cases step_fails hne hs with
    | io hn hm hi ha =>
      rw [hm, List.append_nil] at hms
      rw [equivalent_iff_eq hsync rfl fun code e => (hg.async code e).trans (ha code e),
        alike_iff_of_stuck hr hstuck hn hms, ← text_clear_iff hzero, ← hinfo, ← hi, conn_eq_iff]
      simp [eq_comm]
    | @refused caps m hf hm hc hi ha =>
      rw [equivalent_iff_eq hsync rfl fun code e => (hg.async code e).trans (ha code e),
        alike_iff_of_refuses hr hf hms, ← refused_text_iff hg.greeting hinfo hzero hm, ← hi,
        ← hg.currentCaps, ← hc, conn_eq_iff]
      refine and_congr_left fun _ => ⟨fun h => congrArg Channel.currentCaps h, fun h => ?_⟩
      rw [h]

lemma asyncHandshakes_greeting_error {p' : HandshakeProcessor} {c : Conn} {m : Bytes}
    {ch : Channel} {err : ErrorCode} {info : ErrorInfo} (hr : c.channel.read = (m, .success, ch))
    (hp : (HandshakeProcessor.new params).processHandshake hashes m .clear = (err, p', info))
    (he : err.failed = true) :
    AsyncHandshakes hashes params c err
      ⟨{ ch with sharedBuffer := m, currentCaps := p'.negotiatedCaps }, info⟩ := by
  rw [AsyncHandshakes, completes_iff]
  refine (from_read_iff hr).mpr ?_
  rw [resume_greeting hp, he]
  exact ⟨rfl, rfl⟩

/-- A greeting whose plugin is unknown is refused when capabilities are negotiated. -/
theorem not_equivalent_unknownPlugin : ¬ ∀ hashes params c, Equivalent hashes params c := by
  intro h
  have hr : (Conn.fresh unknownPluginSession).channel.read = _ := read_frames rfl
  rcases hp : (HandshakeProcessor.new enableParams).processHandshake zeroHashes
    unknownPluginGreeting .clear with ⟨err, p', info⟩
  have hf : ((HandshakeProcessor.new enableParams).processHandshake zeroHashes
      unknownPluginGreeting .clear).1.failed = true := by decide
  have hcaps : ((HandshakeProcessor.new enableParams).processHandshake zeroHashes
      unknownPluginGreeting .clear).2.1.negotiatedCaps ≠ .none := by decide
  rw [hp] at hf hcaps
  have hasync := asyncHandshakes_greeting_error hr hp hf
  have hsync : cleared (handshake zeroHashes enableParams) (.fresh unknownPluginSession) = _ :=
    handshake_greeting_error hr hp hf
  obtain ⟨-, heq⟩ := (h zeroHashes enableParams _ _ _).mp hasync
  rw [hsync] at heq
  exact hcaps (congrArg (fun e : Conn => e.channel.currentCaps) heq)

end MysqlAsio.AsyncHandshake
