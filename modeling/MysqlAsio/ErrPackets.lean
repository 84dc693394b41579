import MysqlAsio.ExecuteGeneric
import MysqlAsio.Handshake

/-!
ERR packets: the places where the client tells messages apart, and what each makes of one.
-/

namespace MysqlAsio.ErrPackets

open MysqlAsio.Errors MysqlAsio.Serialization MysqlAsio.CommonMessages MysqlAsio.Auth
open MysqlAsio.PreparedStatementMessages MysqlAsio.HandshakeMessages MysqlAsio.Streams
open MysqlAsio.Channels MysqlAsio.Framing MysqlAsio.ReadRow MysqlAsio.Resultset
open MysqlAsio.Operations MysqlAsio.ExecuteGeneric MysqlAsio.Handshake MysqlAsio.Lib.Programs

/-- The body of an ERR packet reports an error that callers see: it does not decode, or its
code is not 0. -/
def Visible (s : Bytes) : Prop := ∀ e, deserializeErrPacket s = .ok (e, []) → e.errorCode ≠ 0

lemma processErrorPacket_failed_iff (s : Bytes) (caps : Capabilities) (info : ErrorInfo) :
    (processErrorPacket ⟨s, caps⟩ info).1.failed = true ↔ Visible s := by
  unfold processErrorPacket
  by_cases h : ∃ e, deserializeErrPacket s = .ok (e, [])
  · obtain ⟨e, he⟩ := h
    have hd : deserializeMessage deserializeErrPacket ⟨s, caps⟩ = .ok e := deserializeMessage_ok he
    simp only [hd, Visible, he, Except.ok.injEq, Prod.mk.injEq, and_true,
      makeErrorCode_server_failed, forall_eq']
  · obtain ⟨err, herr, hd⟩ :=
      deserializeMessage_undecodable errPacket_failsOnly (not_exists.mp h) caps
    simp only [hd, herr, true_iff]
    exact fun e he => absurd ⟨e, he⟩ h

/-! ### What is taken for an ERR packet -/

/-- The ERR packet a message is, if it is one that decodes. -/
def errPacketOf : Bytes → Option ErrPacket
  | [] => none
  | header :: s =>
    if header = errorPacketHeader then
      match deserializeErrPacket s with
      | .ok (e, []) => some e
      | _ => none
    else none

/-- The text of the last error, after a message that is reported where it is an ERR packet. -/
def textAfter (info : ErrorInfo) (m : Bytes) : ErrorInfo :=
  match errPacketOf m with
  | some e => ⟨e.errorMessage⟩
  | none => info

lemma errPacketOf_ne {b : UInt8} {s : Bytes} (h : b ≠ errorPacketHeader) :
    errPacketOf (b :: s) = none := by
  rw [errPacketOf, if_neg h]

lemma of_errPacketOf {m : Bytes} {e : ErrPacket} (h : errPacketOf m = some e) :
    ∃ s, m = errorPacketHeader :: s ∧ deserializeErrPacket s = .ok (e, []) := by
  cases m with
  | nil => cases h
  | cons b s =>
    by_cases hb : b = errorPacketHeader
    · rw [errPacketOf, if_pos hb] at h
      split at h
      · next e' hd =>
        cases h
        exact ⟨s, by rw [hb], hd⟩
      · cases h
    · rw [errPacketOf_ne hb] at h
      cases h

lemma processErrorPacket_info (s : Bytes) (caps : Capabilities) (info : ErrorInfo) :
    processErrorPacket ⟨s, caps⟩ info =
      ((processErrorPacket ⟨s, caps⟩ .clear).1, textAfter info (errorPacketHeader :: s)) := by
  rcases h : deserializeErrPacket s with err | ⟨e, _ | ⟨b, rest⟩⟩ <;>
    simp [processErrorPacket, deserializeMessage, textAfter, errPacketOf, h]

/-! ### Where messages are told apart -/

/-- The places where messages are told apart. -/
inductive DispatchPoint
  | greeting
  | authMessage
  | executeResponse
  | prepareResponse
  | row
  deriving DecidableEq, Repr

/-- An operation ends in an error that callers see, and leaves the channel so. -/
def EndsInErrorAt {α : Type} (result : Except ErrorCode α × Conn) (ch : Channel) : Prop :=
  ∃ err info, err.failed = true ∧ result = (.error err, ⟨ch, info⟩)

/-- Wherever the message `m` is read at a dispatch point, the operation in progress ends in an
error, and reads and writes nothing after `m`. -/
def EndsInError (m : Bytes) : DispatchPoint → Prop
  | .greeting => ∀ hashes params (c : Conn) ch, c.channel.read = (m, .success, ch) →
      EndsInErrorAt (handshake hashes params c) { ch with sharedBuffer := m }
  | .authMessage => ∀ hashes p o (c : Conn) ch, c.channel.read = (m, .success, ch) →
      EndsInErrorAt (HandshakeOp.run hashes ⟨.authMessage, p, o⟩ c) { ch with sharedBuffer := m }
  | .executeResponse => ∀ (α : Type) [Serializable α] (request : α) deserializer (c : Conn) ch1 ch2,
      c.channel.resetSequenceNumber.write
        (serializeMessage request c.channel.currentCaps []) = (.success, ch1) →
      ch1.read = (m, .success, ch2) → EndsInErrorAt (executeGeneric deserializer request c) ch2
  | .prepareResponse => ∀ statement buffer (c : Conn) ch1 ch2,
      buffer = serializeMessage (ComStmtPreparePacket.mk statement) c.channel.currentCaps
        c.channel.sharedBuffer →
      (Channel.resetSequenceNumber { c.channel with sharedBuffer := buffer }).write buffer =
        (.success, ch1) →
      ch1.read = (m, .success, ch2) →
      EndsInErrorAt (prepareStatement statement c) { ch2 with sharedBuffer := m }
  | .row => ∀ (rs : ResultSet) (call : FetchCall) ch ch', rs.complete = false → 0 < call.count →
      ch.read = (m, .success, ch') →
      let f := rs.fetch ch call
      f.1.err.failed = true ∧ f.1.rows = [] ∧ f.2.1.complete = false ∧ f.2.2 = ch'

/-! ### The greeting -/

/-- An ERR packet whose error callers do not see is taken for the greeting of a server without
capabilities. -/
lemma processHandshake_err (p : HandshakeProcessor) (hashes : Hashes) (s : Bytes)
    (info : ErrorInfo) :
    (p.processHandshake hashes (errorPacketHeader :: s) info).1.failed = true := by
  have h9 : errorPacketHeader ≠ handshakeProtocolVersion9 := by decide
  unfold HandshakeProcessor.processHandshake deserializeHandshake
  simp only [deserializeMessageType_cons, if_neg h9, if_true]
  by_cases hf : (processErrorPacket ⟨s, .none⟩ info).1.failed = true
  · simp only [hf, if_true]
  · have hc := HandshakeProcessor.not_hasAll_requiredCaps p.params
    simp only [hf, HandshakeProcessor.processCapabilities]
    have hd : HandshakePacket.default.capabilities = .none := rfl
    simp [hd, hc]

lemma greeting_endsInError (s : Bytes) : EndsInError (errorPacketHeader :: s) .greeting := by
  intro hashes params c ch hr
  have hf := processHandshake_err (.new params) hashes s c.info
  rcases hp : (HandshakeProcessor.new params).processHandshake hashes (errorPacketHeader :: s)
    c.info with ⟨err, p, info⟩
  rw [hp] at hf
  exact ⟨err, info, hf, handshake_greeting_error hr hp hf⟩

/-! ### What an ERR packet reports -/

section Report

variable {s : Bytes} (caps : Capabilities)

lemma processErrorPacket_visible (h : Visible s) (info : ErrorInfo) :
    ∃ err info', err.failed = true ∧ processErrorPacket ⟨s, caps⟩ info = (err, info') :=
  ⟨_, _, (processErrorPacket_failed_iff s caps info).mpr h, rfl⟩

lemma processErrorPacket_invisible (h : ¬ Visible s) (info : ErrorInfo) :
    ∃ err info', err.failed = false ∧ processErrorPacket ⟨s, caps⟩ info = (err, info') := by
  rw [← processErrorPacket_failed_iff s caps info, Bool.not_eq_true] at h
  exact ⟨_, _, h, rfl⟩

variable {α : Type} (default : α) (c : Conn)

lemma reportErr_visible (h : Visible s) :
    ∃ err info, err.failed = true ∧ reportErr s default c = (.error err, { c with info }) := by
  obtain ⟨err, info, hf, hp⟩ := processErrorPacket_visible c.channel.currentCaps h c.info
  refine ⟨err, info, hf, ?_⟩
  rw [reportErr, get_then, then_error (report_error hp hf)]

lemma reportErr_invisible (h : ¬ Visible s) :
    ∃ info, reportErr s default c = (.ok default, { c with info }) := by
  obtain ⟨err, info, hf, hp⟩ := processErrorPacket_invisible c.channel.currentCaps h c.info
  refine ⟨info, ?_⟩
  rw [reportErr, get_then, then_ok (report_ok hp hf), pure_apply]

end Report

lemma errorPacketHeader_ne_eof : errorPacketHeader ≠ eofPacketHeader := by decide

/-! ### The authentication -/

lemma processHandshakeServerResponse_err (p : HandshakeProcessor) (hashes : Hashes)
    (o : AuthResult) (s : Bytes) (info : ErrorInfo) :
    p.processHandshakeServerResponse hashes o (errorPacketHeader :: s) info =
      let r := processErrorPacket ⟨s, p.negotiatedCaps⟩ info
      ⟨r.1, p, o, errorPacketHeader :: s, r.2⟩ := by
  simp only [HandshakeProcessor.processHandshakeServerResponse, deserializeMessageType_cons,
    if_neg errorPacketHeader_ne_ok, if_true]

lemma authMessage_endsInError {s : Bytes} (h : Visible s) :
    EndsInError (errorPacketHeader :: s) .authMessage := by
  intro hashes p o c ch hr
  obtain ⟨err, info, hf, hp⟩ := processErrorPacket_visible p.negotiatedCaps h c.info
  have ha := processHandshakeServerResponse_err p hashes o s c.info
  rw [hp] at ha
  have hs := step_authMessage hr ha
  simp only [outcome_failed hf] at hs
  exact ⟨err, info, hf, run_error (by simp) hs⟩

lemma run_ok {hashes : Hashes} {p : HandshakeProcessor} {o : AuthResult} {c : Conn}
    {ch : Channel} (hr : c.channel.read = ([okPacketHeader], .success, ch)) :
    (HandshakeOp.run hashes ⟨.authMessage, p, o⟩ c).1 = .ok ⟨.finished, p, .complete⟩ := by
  have ha : p.processHandshakeServerResponse hashes o [okPacketHeader] c.info =
      ⟨.success, p, .complete, [okPacketHeader], c.info⟩ := rfl
  rw [run_step (by simp) (step_authMessage hr ha), run_finished rfl]
  rfl

/-- After an ERR packet whose error callers do not see, the authentication waits for another
message, and an OK ends it well. -/
lemma visible_of_authMessage {s : Bytes}
    (h : EndsInError (errorPacketHeader :: s) .authMessage) : Visible s := by
  by_contra hv
  set ms : List Bytes := [[okPacketHeader]]
  set c : Conn := ⟨channelOf 0 ((errorPacketHeader :: s) :: ms), .clear⟩
  set p : HandshakeProcessor := ⟨⟨[], [], [], ⟨0⟩, .disable⟩, .none, .new⟩
  have hr : c.channel.read = _ := (channelOf_delivers 0 _).read
  obtain ⟨err, info, hf, hp⟩ := processErrorPacket_invisible p.negotiatedCaps hv c.info
  have ha := processHandshakeServerResponse_err p zeroHashes .invalid s c.info
  rw [hp] at ha
  have hs := step_authMessage hr ha
  simp only [outcome_ok hf] at hs
  obtain ⟨err', info', -, hrun⟩ := h zeroHashes p .invalid c _ hr
  rw [run_step (by simp) hs] at hrun
  have hread := ((delivers_afterMessage c.channel (errorPacketHeader :: s) ms []).withBuffer
    (errorPacketHeader :: s)).read
  have hok := @run_ok zeroHashes p .invalid ⟨_, info⟩ _ hread
  have := congrArg Prod.fst hrun
  exact nomatch hok.symm.trans this

/-! ### Responses to commands -/

lemma executeResponse_endsInError {s : Bytes} (h : Visible s) :
    EndsInError (errorPacketHeader :: s) .executeResponse := by
  intro α _ request deserializer c ch1 ch2 hw hr
  obtain ⟨err, info, hf, he⟩ := reportErr_visible (0, OkPacket.default) ⟨ch2, c.info⟩ h
  rw [← processResponse_err] at he
  refine ⟨err, info, hf, ?_⟩
  rw [executeGeneric_written hw, receiveResultset, then_ok (read_ok hr), then_error he]

/-- A query that is answered with an ERR packet whose error callers do not see returns a
resultset, that of an OK. -/
lemma visible_of_executeResponse {s : Bytes}
    (h : EndsInError (errorPacketHeader :: s) .executeResponse) : Visible s := by
  by_contra hv
  set c : Conn := ⟨channelOf 1 [errorPacketHeader :: s], .clear⟩
  have hlen : (serializeMessage (ComQueryPacket.mk []) c.channel.currentCaps []).length ≤
      maxPacketSize := by
    rw [serializeMessage_eq]
    exact of_decide_eq_true rfl
  have hw := command_written (channelOf_sends 1 [errorPacketHeader :: s]) hlen
  have hr := (command_delivers (channelOf_delivers 1 [errorPacketHeader :: s])
    (serializeMessage (ComQueryPacket.mk []) c.channel.currentCaps [])).read
  obtain ⟨err, info, -, hres⟩ := h ComQueryPacket ⟨[]⟩ (fun _ _ => .ok []) c _ _ hw hr
  obtain ⟨info', he⟩ := reportErr_invisible (0, OkPacket.default) ⟨_, c.info⟩ hv
  rw [← processResponse_err] at he
  rw [executeGeneric_written hw, receiveResultset, then_ok (read_ok hr), then_ok he] at hres
  exact nomatch congrArg Prod.fst hres

lemma prepareResponse_endsInError {s : Bytes} (h : Visible s) :
    EndsInError (errorPacketHeader :: s) .prepareResponse := by
  intro statement buffer c ch1 ch2 hb hw hr
  obtain ⟨err, info, hf, he⟩ := reportErr_visible ComStmtPrepareOkPacket.default
    ⟨{ ch2 with sharedBuffer := errorPacketHeader :: s }, c.info⟩ h
  rw [← processPrepareResponse_err rfl] at he
  refine ⟨err, info, hf, ?_⟩
  rw [prepareStatement_written hb hw, receiveStatement, then_ok (readShared_ok hr), then_error he]

/-- A prepare that is answered with an ERR packet whose error callers do not see returns a
statement. -/
lemma visible_of_prepareResponse {s : Bytes}
    (h : EndsInError (errorPacketHeader :: s) .prepareResponse) : Visible s := by
  by_contra hv
  set c : Conn := ⟨channelOf 1 [errorPacketHeader :: s], .clear⟩
  set buffer := serializeMessage (ComStmtPreparePacket.mk []) c.channel.currentCaps
    c.channel.sharedBuffer with hb
  have hlen : buffer.length ≤ maxPacketSize := by
    rw [hb, serializeMessage_eq]
    exact of_decide_eq_true rfl
  have hs : Sends { c.channel with sharedBuffer := buffer } := ⟨rfl, rfl⟩
  have hd : Delivers { c.channel with sharedBuffer := buffer } [errorPacketHeader :: s] [] :=
    channelOf_delivers 1 [errorPacketHeader :: s]
  have hw := command_written hs hlen
  have hr := (command_delivers hd buffer).read
  obtain ⟨err, info, -, hres⟩ := h [] buffer c _ _ hb hw hr
  obtain ⟨info', he⟩ := reportErr_invisible ComStmtPrepareOkPacket.default
    ⟨{ afterMessage _ (errorPacketHeader :: s) [] [] with
      sharedBuffer := errorPacketHeader :: s }, c.info⟩ hv
  rw [← processPrepareResponse_err rfl] at he
  rw [prepareStatement_written hb hw, receiveStatement, then_ok (readShared_ok hr),
    then_ok he] at hres
  exact nomatch congrArg Prod.fst hres

/-! ### Rows -/

lemma processReadMessage_err {s : Bytes} (deserializer : DeserializeRowFn) (caps : Capabilities)
    (fields : List FieldMetadata) (okPacket : OkPacket) (info : ErrorInfo) :
    processReadMessage deserializer caps fields (errorPacketHeader :: s) okPacket info =
      let r := processErrorPacket ⟨s, caps⟩ info
      (.error okPacket, r.1, r.2) := by
  simp only [processReadMessage, deserializeMessageType_cons, if_neg errorPacketHeader_ne_eof,
    if_true]

lemma row_fetch {rs : ResultSet} {call : FetchCall} {ch ch' : Channel} {s : Bytes}
    (hc : rs.complete = false) (hn : 0 < call.count)
    (hr : ch.read = (errorPacketHeader :: s, .success, ch')) :
    rs.fetch ch call =
      let r := processErrorPacket ⟨s, ch'.currentCaps⟩ .clear
      (⟨[], r.1, r.2⟩, rs.received (.error rs.okPacket), ch') := by
  obtain ⟨count, hk⟩ := Nat.exists_eq_succ_of_ne_zero hn.ne'
  rw [fetch_eq, ResultSet.fetchMany, if_neg (by simp [hc]), hk, ResultSet.fetchLoop]
  simp [readRow, hr, processReadMessage_err]

lemma row_endsInError {s : Bytes} (h : Visible s) : EndsInError (errorPacketHeader :: s) .row := by
  intro rs call ch ch' hc hn hr
  rw [row_fetch hc hn hr]
  exact ⟨(processErrorPacket_failed_iff s _ _).mpr h, rfl, rfl, rfl⟩

/-- A fetch that meets an ERR packet whose error callers do not see returns no row and no
error. -/
lemma visible_of_row {s : Bytes} (h : EndsInError (errorPacketHeader :: s) .row) : Visible s := by
  set rs : ResultSet := .ofFields [] fun _ _ => .ok []
  have hr := (channelOf_delivers 0 [errorPacketHeader :: s]).read
  have hf := (h rs .one _ _ rfl (by decide) hr).1
  rw [row_fetch rfl (by decide) hr] at hf
  exact (processErrorPacket_failed_iff s _ _).mp hf

/-! ### Everywhere -/

lemma visible_of_endsInError {p : DispatchPoint} (hp : p ≠ .greeting) {s : Bytes}
    (h : EndsInError (errorPacketHeader :: s) p) : Visible s := by
  cases p with
  | greeting => exact absurd rfl hp
  | authMessage => exact visible_of_authMessage h
  | executeResponse => exact visible_of_executeResponse h
  | prepareResponse => exact visible_of_prepareResponse h
  | row => exact visible_of_row h

/-- **An ERR packet ends the operation in an error** exactly when it is in place of a greeting,
does not decode, or has a code that is not 0. -/
theorem endsInError_iff (s : Bytes) (p : DispatchPoint) :
    EndsInError (errorPacketHeader :: s) p ↔ p = .greeting ∨ Visible s := by
  refine ⟨fun h => ?_, ?_⟩
  · by_cases hp : p = .greeting
    · exact Or.inl hp
    · exact Or.inr (visible_of_endsInError hp h)
  · rintro (rfl | h)
    · exact greeting_endsInError s
    · cases p with
      | greeting => exact greeting_endsInError s
      | authMessage => exact authMessage_endsInError h
      | executeResponse => exact executeResponse_endsInError h
      | prepareResponse => exact prepareResponse_endsInError h
      | row => exact row_endsInError h

/-- A query that is answered with an ERR packet of code 0 does not end in an error. -/
theorem zero_err_not_endsInError :
    ¬ EndsInError (errorPacketHeader :: encodeErrPacket ⟨0, ascii "#", ascii "HY000", []⟩)
      .executeResponse := by
  intro h
  have hv := visible_of_endsInError (by decide) h
  exact hv _ (errPacket_decodes rfl rfl) rfl

end MysqlAsio.ErrPackets
