import MysqlAsio.AsyncFetch
import MysqlAsio.AsyncHandshake
import MysqlAsio.Reconnect

/-!
The asynchronous calls of connections and statements, as their callers see them: where a code
has not failed there is no error, whatever its number.

Seen so, they complete as the synchronous calls return. What is left differs in the text of an
error that is none, and, where a handshake was refused, in the capabilities of the channel.
-/

namespace MysqlAsio.AsyncCalls

open MysqlAsio.Errors MysqlAsio.Serialization MysqlAsio.CommonMessages MysqlAsio.Auth
open MysqlAsio.Values MysqlAsio.PreparedStatementMessages MysqlAsio.BinaryDeserialization
open MysqlAsio.Streams MysqlAsio.Channels MysqlAsio.Framing MysqlAsio.ReadRow MysqlAsio.Resultset
open MysqlAsio.Operations MysqlAsio.ExecuteGeneric MysqlAsio.ErrPackets MysqlAsio.Handshake
open MysqlAsio.Connection MysqlAsio.AsyncChannel MysqlAsio.AsyncHandshake MysqlAsio.AsyncExecute
open MysqlAsio.Lib.Programs MysqlAsio.Lib.Coroutines

/-! ### Statements -/

/-- `prepared_statement::async_execute`. A wrong number of parameters is posted. -/
def AsyncExecuteStatement (statement : ComStmtPrepareOkPacket) (params : List Value) (c : Conn)
    (code : ErrorCode) (output : Option ResultSet) (c' : Conn) : Prop :=
  match checkNumParams statement params { c with info := .clear } with
  | (.error err, c1) => code = err ∧ output = none ∧ c' = c1
  | (.ok (), c1) => AsyncExecuteGeneric deserializeBinaryRow
      (makeStmtExecutePacket statement.statementId params) c1 code output c'

/-- A command that is not answered, composed in the shared buffer before the operation begins. -/
def AsyncCommand {α : Type} [Serializable α] (input : α) (c : Conn) (code : ErrorCode)
    (c' : Conn) : Prop :=
  let ch := Channel.resetSequenceNumber { c.channel with
    sharedBuffer := serializeMessage input c.channel.currentCaps c.channel.sharedBuffer }
  ∃ ch', AsyncWrite ch ch.sharedBuffer code ch' ∧ c' = { c with channel := ch' }

def AsyncCloseStatement (statementId : UInt32) : Conn → ErrorCode → Conn → Prop :=
  AsyncCommand (ComStmtClosePacket.mk statementId)

/-! ### Closing -/

def AsyncQuitConnection : Conn → ErrorCode → Conn → Prop := AsyncCommand QuitPacket.mk

inductive ClosePoint
  | start | posted | quit
  deriving DecidableEq, Repr

inductive CloseAwait
  | post
  | quit

def CloseAwait.Performs : Performs CloseAwait ErrorCode Conn
  | .post, c, code, c' => code = .success ∧ c' = c
  | .quit, c, code, c' => AsyncQuitConnection c code c'

/-- `close_op::operator()`. -/
def CloseOp.resume : Coroutine ClosePoint ErrorCode CloseAwait ErrorCode Conn := fun point err c =>
  match point with
  | .start =>
    if !c.channel.stream.isOpen then (.await .post .posted, c) else (.await .quit .quit, c)
  | .posted => (.complete .success, c)
  | .quit =>
    let (closeErr, channel) := c.channel.close
    (.complete (if err.failed then err else closeErr), { c with channel })

/-- What `async_close_connection` completes with, and the connection it leaves. -/
def AsyncCloseConnection (c : Conn) (code : ErrorCode) (c' : Conn) : Prop :=
  Completes CloseOp.resume CloseAwait.Performs .start .success c code c'

/-! ### Connecting -/

inductive ConnectPoint
  | start | physical | handshake
  deriving DecidableEq, Repr

inductive ConnectAwait
  | connect
  | handshake

def ConnectAwait.Performs (hashes : Hashes) (params : ConnectionParams) (session : Session) :
    Performs ConnectAwait ErrorCode Conn
  | .connect, c, code, c' => ∃ stream, c.channel.stream.connect session = (code, stream) ∧
      c' = { c with channel.stream := stream }
  | .handshake, c, code, c' => Completes (AsyncHandshakeOp.resume hashes) HandshakeAwait.Performs
      ⟨.start, .new params, .invalid⟩ .success c code c'

/-- `connect_op::operator()`, with an `error_info` that is not null. -/
def ConnectOp.resume : Coroutine ConnectPoint ErrorCode ConnectAwait ErrorCode Conn :=
  fun point code c =>
    match point with
    | .start => (.await .connect .physical, c)
    | .physical =>
      if code.failed then
        (.complete code, { dropChannel c with info := ⟨ascii "Physical connect failed"⟩ })
      else (.await .handshake .handshake, c)
    | .handshake => (.complete code, if code.failed then dropChannel c else c)

/-- What `socket_connection::async_connect` completes with, and the connection it leaves. -/
def AsyncConnects (hashes : Hashes) (params : ConnectionParams) (session : Session) (c : Conn)
    (code : ErrorCode) (c' : Conn) : Prop :=
  Completes ConnectOp.resume (ConnectAwait.Performs hashes params session) .start .success
    { c with info := .clear } code c'

/-! ### As callers see them -/

/-- A code and an output as callers see them. -/
inductive Seen {α : Type} : ErrorCode → Option α → Except ErrorCode α → Prop
  | ok {code : ErrorCode} (a : α) (h : code.failed = false) : Seen code (some a) (.ok a)
  | error {code : ErrorCode} (h : code.failed = true) : Seen code none (.error code)

/-- An operation without an output as callers see it. -/
structure Completed (code : ErrorCode) (c' : Conn) (r : Except ErrorCode Unit × Conn) : Prop where
  seen : outcome code = r.1
  channel : ∃ caps, c'.channel = { r.2.channel with currentCaps := caps }

/-- The processor finds an ERR packet of number 0 and goes on. -/
lemma afterResponse_zero {s : Execution} (hc : s.processor.fieldCount = 0) {packet : ErrPacket}
    (hp : errPacketOf s.processor.buffer = some packet) (h0 : packet.errorCode = 0) :
    s.afterResponse = (makeErrorCode (.server 0),
      { s with conn.info := ⟨packet.errorMessage⟩ }) := by
  have hn : ¬ 0 < s.processor.fieldCount := by rw [hc]; exact lt_irrefl 0
  have hf : (makeErrorCode (.server 0)).failed = false := rfl
  rw [Execution.afterResponse, Execution.processResponse, processResponse_err _ _ hp, h0]
  simp only [hf, Bool.false_eq_true, if_false]
  rw [Execution.fieldLoop]
  exact if_neg hn

section Execute

variable {α : Type} [Serializable α]

/-- What a request that is answered with an ERR packet of number 0 comes to, either way. -/
lemma executes_zero {deserializer : DeserializeRowFn} {request : α} {c : Conn}
    (h : AnsweredByZero request c) : ∃ output c' info,
    AsyncExecuteGeneric deserializer request { c with info := .clear } .success (some output) c' ∧
    ExecuteGeneric.executeGeneric deserializer request { c with info := .clear } =
      (.ok output, { c' with info }) := by
  obtain ⟨ch, m, ch', packet, hw, hr, hp, h0⟩ := h
  set s : Execution := .start deserializer request { c with info := .clear } with hs
  have hw' : s.write = (.success, { s with conn.channel := ch }) := by
    simp only [hs, Execution.write, Execution.start, ExecuteProcessor.processRequest,
      ExecuteProcessor.new, hw]
  have hr' : s.write.2.read = (.success, { s with conn.channel := ch', processor.buffer := m }) := by
    simp only [hw', Execution.read, hr]
  have hp' : errPacketOf s.write.2.read.2.processor.buffer = some packet := by
    rw [hr']
    exact hp
  have hf : s.write.1.failed = false ∧ s.write.2.read.1.failed = false := by
    rw [hr', hw']
    exact ⟨rfl, rfl⟩
  have hasync : Completes ExecuteGenericOp.resume ExecuteAwait.Performs ⟨.start, 0⟩ .success s
      (.success, some s.write.2.read.2.processor.createResultset) s.write.2.read.2 := by
    rw [completes_iff, from_start_iff, hf.1, hf.2]
    exact (from_response_zero 0 rfl hp' h0).1
  have hrun : s.run = (makeErrorCode (.server 0),
      { s.write.2.read.2 with conn.info := ⟨packet.errorMessage⟩ }) := by
    rw [run_eq, hf.1, hf.2]
    exact afterResponse_zero rfl hp' h0
  refine ⟨_, _, ⟨packet.errorMessage⟩, ⟨_, hasync, rfl⟩, ?_⟩
  rw [executeGeneric_operation, AsyncExecute.executeGeneric, ← hs, hrun]
  rfl

/-- **An asynchronous execution completes** as callers see the synchronous one return, and leaves
the same text where it fails. -/
lemma executes_seen (deserializer : DeserializeRowFn) (request : α) (c : Conn) :
    ∃ code output c',
      AsyncExecuteGeneric deserializer request { c with info := .clear } code output c' ∧
      let r := ExecuteGeneric.executeGeneric deserializer request { c with info := .clear }
      Seen code output r.1 ∧ c'.channel = r.2.channel ∧ (code.failed = true → c' = r.2) := by
  by_cases hz : AnsweredByZero request c
  · obtain ⟨output, c', info, ha, hs⟩ := executes_zero hz
    refine ⟨_, _, _, ha, ?_⟩
    rw [hs]
    exact ⟨.ok output rfl, rfl, fun h => by cases h⟩
  · refine ⟨_, _, _, (executesAlike_of_not_zero hz _ _ _).mpr ⟨rfl, rfl, rfl⟩, ?_⟩
    rw [executeGeneric_operation]
    refine ⟨?_, rfl, fun _ => rfl⟩
    simp only [AsyncExecute.executeGeneric, outputOf]
    cases hf : (Execution.start deserializer request { c with info := .clear }).run.1.failed with
    | true => exact .error hf
    | false => exact .ok _ hf

lemma execute_determined : Determined ExecuteAwait.Performs := by
  rintro (_ | _) s i s1 j s2 hi hj
  · rw [AsyncExecute.performs_write_iff] at hi hj
    exact ⟨hi.1.trans hj.1.symm, hi.2.trans hj.2.symm⟩
  · rw [AsyncExecute.performs_read_iff] at hi hj
    exact ⟨hi.1.trans hj.1.symm, hi.2.trans hj.2.symm⟩

lemma executes_unique {deserializer : DeserializeRowFn} {request : α} {c c1 c2 : Conn}
    {code1 code2 : ErrorCode} {output1 output2 : Option ResultSet}
    (h1 : AsyncExecuteGeneric deserializer request c code1 output1 c1)
    (h2 : AsyncExecuteGeneric deserializer request c code2 output2 c2) :
    code1 = code2 ∧ output1 = output2 ∧ c1 = c2 := by
  obtain ⟨s1, h1, rfl⟩ := h1
  obtain ⟨s2, h2, rfl⟩ := h2
  obtain ⟨hr, rfl⟩ := Completes.unique execute_determined h1 h2
  cases hr
  exact ⟨rfl, rfl, rfl⟩

end Execute

/-! ### Commands without an answer -/

/-- The channel that is about to write a command. -/
def composedChannel {α : Type} [Serializable α] (input : α) (ch : Channel) : Channel :=
  Channel.resetSequenceNumber { ch with
    sharedBuffer := serializeMessage input ch.currentCaps ch.sharedBuffer }

section Command

variable {α : Type} [Serializable α] {input : α} {c c' : Conn} {code : ErrorCode}

lemma asyncCommand_iff :
    AsyncCommand input c code c' ↔
      let w := (composedChannel input c.channel).write (composedChannel input c.channel).sharedBuffer
      code = w.1 ∧ c' = { c with channel := w.2 } := by
  simp only [AsyncCommand, asyncWrite_iff]
  constructor
  · rintro ⟨ch', ⟨rfl, rfl⟩, rfl⟩
    exact ⟨rfl, rfl⟩
  · rintro ⟨rfl, rfl⟩
    exact ⟨_, ⟨rfl, rfl⟩, rfl⟩

lemma command_eq (input : α) (c : Conn) :
    (do
      serializeShared input (← get).channel.currentCaps
      modifyChannel Channel.resetSequenceNumber
      writeShared : Operation Unit) c =
      let w := (composedChannel input c.channel).write (composedChannel input c.channel).sharedBuffer
      (outcome w.1, { c with channel := w.2 }) := by
  rw [get_then, composeShared_then]
  rfl

/-- A command without an answer completes with what the synchronous one returns, and leaves what
that leaves. -/
lemma command_seen (input : α) (c : Conn) :
    let r := (do
      serializeShared input (← get).channel.currentCaps
      modifyChannel Channel.resetSequenceNumber
      writeShared : Operation Unit) c
    ∃ code, (∀ code' c', AsyncCommand input c code' c' ↔ code' = code ∧ c' = r.2) ∧
      outcome code = r.1 := by
  rw [command_eq]
  exact ⟨_, fun _ _ => asyncCommand_iff, rfl⟩

end Command

/-! ### The handshake -/

/-- An error that callers see. -/
def Visible (err : ErrorCode) : Prop := err.failed = true

lemma of_outcome_error {err e : ErrorCode} (h : outcome err = .error e) :
    err = e ∧ e.failed = true := by
  cases hf : err.failed with
  | true =>
    rw [outcome_failed hf] at h
    cases h
    exact ⟨rfl, hf⟩
  | false =>
    rw [outcome_ok hf] at h
    cases h

lemma of_map_outcome_error {err e : ErrorCode} {α : Type} {a : α}
    (h : (outcome err).map (fun _ => a) = .error e) : err = e ∧ e.failed = true := by
  rcases ho : outcome err with e' | u <;> rw [ho] at h <;> cases h
  exact of_outcome_error ho

lemma onChannel_visible (f : Channel → ErrorCode × Channel) : FailsWith Visible (onChannel f) :=
  fun _ _ _ h => (of_outcome_error (congrArg Prod.fst h)).2

lemma report_visible (f : ErrorInfo → ErrorCode × ErrorInfo) : FailsWith Visible (report f) :=
  fun _ _ _ h => (of_outcome_error (congrArg Prod.fst h)).2

lemma modifyChannel_visible (f : Channel → Channel) : FailsWith Visible (modifyChannel f) := by
  intro c e c' h
  rw [modifyChannel_apply] at h
  cases h

lemma step_visible {hashes : Hashes} (h : HandshakeOp) : FailsWith Visible (h.step hashes) := by
  obtain ⟨point, p, o⟩ := h
  cases point with
  | greeting =>
    refine (onChannel_visible _).then fun _ => FailsWith.then ?_ fun _ => failsWith_pure _
    exact fun c e c' h => (of_map_outcome_error (congrArg Prod.fst h)).2
  | sslRequest =>
    exact (modifyChannel_visible _).then fun _ => (onChannel_visible _).then fun _ => failsWith_pure _
  | sslHandshake => exact (onChannel_visible _).then fun _ => failsWith_pure _
  | response =>
    exact (modifyChannel_visible _).then fun _ => (onChannel_visible _).then fun _ => failsWith_pure _
  | authMessage =>
    refine (onChannel_visible _).then fun _ => FailsWith.then ?_ fun _ => failsWith_pure _
    exact fun c e c' h => (of_map_outcome_error (congrArg Prod.fst h)).2
  | authResponse => exact (onChannel_visible _).then fun _ => failsWith_pure _
  | finished => exact failsWith_pure _

/-- **The asynchronous handshake completes** as callers see the synchronous one return, and in one
way. -/
lemma handshake_seen (hashes : Hashes) (params : ConnectionParams) (c : Conn) :
    ∃ code e, (∀ code' c', AsyncHandshakes hashes params c code' c' ↔ code' = code ∧ c' = e) ∧
      Completed code e (cleared (handshake hashes params) c) := by
  obtain ⟨h, c', hr, hend⟩ := @run_cases hashes (.start params) { c with info := .clear }
  have hg := runs_stage hr
  rcases hend with ⟨hf, hrun⟩ | ⟨hne, err, S, hs, hrun⟩
  · -- the authentication has succeeded
    have hsync : cleared (handshake hashes params) c =
        (.ok (), { c' with channel.currentCaps := h.processor.negotiatedCaps }) := then_ok hrun
    refine ⟨.success, ⟨{ c'.channel with currentCaps := h.processor.negotiatedCaps }, .clear⟩,
      fun code e => (hg.async code e).trans ?_, ?_⟩
    · rw [CompletesAt, asyncAt, hf]
      rfl
    · rw [hsync]
      exact ⟨rfl, _, rfl⟩
  · -- a step has failed, in the stream or by the refusal of a message
    have hsync : cleared (handshake hashes params) c = (.error err, S) := then_error hrun
    have he : outcome err = .error err := outcome_failed (step_visible h _ _ _ hs)
    cases step_fails hne hs with
    | io hn hm hi ha =>
      refine ⟨err, ⟨S.channel, .clear⟩, fun code e => (hg.async code e).trans (ha code e), ?_⟩
      rw [hsync]
      exact ⟨he, _, rfl⟩
    | @refused caps m hf hm hc hi ha =>
      refine ⟨err, ⟨{ S.channel with currentCaps := caps }, textAfter .clear m⟩,
        fun code e => (hg.async code e).trans (ha code e), ?_⟩
      rw [hsync]
      exact ⟨he, _, rfl⟩

/-! ### Closing, side by side -/

/-- What the channel is left as where its stream is closed, and the error of that. -/
def quitWrite (c : Conn) : ErrorCode × Channel :=
  (composedChannel QuitPacket.mk c.channel).write
    (composedChannel QuitPacket.mk c.channel).sharedBuffer

lemma quitConnection_eq (c : Conn) :
    quitConnection c = (outcome (quitWrite c).1, { c with channel := (quitWrite c).2 }) :=
  command_eq QuitPacket.mk c

/-- `close_op` completes with the first error there is. -/
lemma asyncClose_iff {c c' : Conn} {code : ErrorCode} :
    AsyncCloseConnection c code c' ↔
      if c.channel.stream.isOpen then
        code = (if (quitWrite c).1.failed then (quitWrite c).1 else (quitWrite c).2.close.1) ∧
          c' = { c with channel := (quitWrite c).2.close.2 }
      else code = .success ∧ c' = c := by
  rw [AsyncCloseConnection, completes_iff, CloseOp.resume]
  cases ho : c.channel.stream.isOpen with
  | false =>
    rw [Bool.not_false, if_pos rfl, if_neg Bool.false_ne_true]
    refine (from_await_iff fun _ _ => Iff.rfl).trans ?_
    rfl
  | true =>
    rw [Bool.not_true, if_neg Bool.false_ne_true, if_pos rfl]
    have hquit (code : ErrorCode) (c1 : Conn) : CloseAwait.quit.Performs c code c1 ↔
        code = (quitWrite c).1 ∧ c1 = { c with channel := (quitWrite c).2 } := asyncCommand_iff
    exact from_await_iff hquit

lemma close_seen (c : Conn) :
    ∃ code e, (∀ code' c', AsyncCloseConnection c code' c' ↔ code' = code ∧ c' = e) ∧
      Completed code e (closeConnection c) := by
  simp only [asyncClose_iff, closeConnection, quitConnection_eq]
  cases c.channel.stream.isOpen with
  | false => exact ⟨.success, c, fun _ _ => Iff.rfl, rfl, _, rfl⟩
  | true =>
    refine ⟨_, _, fun _ _ => Iff.rfl, ?_⟩
    cases hf : (quitWrite c).1.failed with
    | true =>
      simp only [outcome_failed hf, if_true]
      exact ⟨outcome_failed hf, _, rfl⟩
    | false =>
      simp only [outcome_ok hf, if_true, Bool.false_eq_true, if_false]
      exact ⟨rfl, _, rfl⟩

/-! ### Connecting, side by side -/

lemma connect_seen (hashes : Hashes) (params : ConnectionParams) (session : Session) (c : Conn) :
    ∃ code e, (∀ code' c', AsyncConnects hashes params session c code' c' ↔
        code' = code ∧ c' = e) ∧ Completed code e (connect hashes params session c) := by
  have hphysical (code : ErrorCode) (c1 : Conn) :
      ConnectAwait.connect.Performs hashes params session { c with info := .clear } code c1 ↔
        code = (c.channel.stream.connect session).1 ∧
          c1 = ⟨{ c.channel with stream := (c.channel.stream.connect session).2 }, .clear⟩ := by
    simp only [ConnectAwait.Performs, Prod.ext_iff]
    constructor
    · rintro ⟨stream, ⟨rfl, rfl⟩, rfl⟩
      exact ⟨rfl, rfl⟩
    · rintro ⟨rfl, rfl⟩
      exact ⟨_, ⟨rfl, rfl⟩, rfl⟩
  have hstart (code : ErrorCode) (c' : Conn) : AsyncConnects hashes params session c code c' ↔ _ :=
    completes_iff.trans (from_await_iff hphysical)
  rcases he : session.connectError with _ | e
  · rw [connect_connected he]
    set c1 : Conn := ⟨{ c.channel with stream := session.stream }, .clear⟩
    obtain ⟨code, e, ha, hc⟩ := handshake_seen hashes params c1
    have hh : cleared (handshake hashes params) c1 = handshake hashes params c1 := rfl
    rw [hh] at hc
    refine ⟨code, if code.failed then dropChannel e else e, fun code' c' => ?_, ?_⟩
    · rw [hstart]
      simp only [Stream.connect, he]
      exact from_await_iff ha
    · obtain ⟨hseen, caps, hch⟩ := hc
      rcases hr : handshake hashes params c1 with ⟨err | _, S⟩ <;> rw [hr] at hseen hch
      · -- where the handshake fails, both close the stream and keep its error
        obtain ⟨rfl, hf⟩ := of_outcome_error hseen
        rw [if_pos hf]
        refine ⟨hseen, caps, ?_⟩
        simp only [dropChannel, hch]
        rfl
      · have hf : code.failed = false := by
          by_contra hne
          rw [outcome_failed (by simpa using hne)] at hseen
          cases hseen
        rw [hf, if_neg Bool.false_ne_true]
        exact ⟨hseen, caps, hch⟩
  · rw [connect_refused he]
    refine ⟨e, { dropChannel ⟨{ c.channel with stream := session.stream }, .clear⟩ with
      info := ⟨ascii "Physical connect failed"⟩ }, fun code' c' => ?_, outcome_failed e.2, _, rfl⟩
    rw [hstart]
    simp only [Stream.connect, he, ConnectOp.resume, e.2, if_true]
    rfl

end MysqlAsio.AsyncCalls
