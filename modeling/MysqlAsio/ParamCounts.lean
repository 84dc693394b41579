import MysqlAsio.Sessions

/-!
The number of parameters of an execution: the statement's, which the server tells in 16 bits,
against the assertions that the message is composed under.
-/

namespace MysqlAsio.ParamCounts

open MysqlAsio.Errors MysqlAsio.Serialization MysqlAsio.CommonMessages MysqlAsio.Values
open MysqlAsio.PreparedStatementMessages MysqlAsio.BinaryDeserialization
open MysqlAsio.TextDeserialization MysqlAsio.StatementExecution MysqlAsio.Channels
open MysqlAsio.Framing MysqlAsio.ReadRow MysqlAsio.Operations MysqlAsio.ExecuteGeneric
open MysqlAsio.Calls MysqlAsio.Sessions
open MysqlAsio.Lib.Decoding MysqlAsio.Lib.Programs

/-! ### Receiving sends nothing -/

/-- The operation leaves what was sent as it is. -/
def Silent {α : Type} (operation : Operation α) : Prop :=
  Preserves (fun c c' => c'.channel.stream.log = c.channel.stream.log) operation

section Silent

variable {α β : Type}

lemma silent_pure (a : α) : Silent (pure a) := fun _ => rfl

lemma Silent.then {m : Operation α} {f : α → Operation β} (hm : Silent m)
    (hf : ∀ a, Silent (f a)) : Silent (m >>= f) :=
  Preserves.then (fun _ _ _ h h' => h'.trans h) hm hf

lemma silent_attempt (result : Except ErrorCode α) : Silent (attempt result) := fun _ => rfl

lemma silent_throw (err : ErrorCode) : Silent (throw err : Operation α) := fun _ => rfl

lemma silent_report (f : ErrorInfo → ErrorCode × ErrorInfo) : Silent (report f) := fun _ => rfl

lemma silent_get {f : Conn → Operation α} (hf : ∀ c, Silent (f c)) : Silent (get >>= f) := by
  intro c
  rw [get_then]
  exact hf c c

lemma silent_read : Silent read := fun _ => read_log rfl

end Silent

lemma silent_processResponse (buffer : Bytes) : Silent (processResponse buffer) := by
  refine silent_get fun c => ?_
  rcases h : deserializeMessageType ⟨buffer, c.channel.currentCaps⟩ with err | ⟨msgType, ctx⟩
  · simp only [h]
    exact silent_throw err
  · simp only [h]
    split_ifs
    · exact (silent_attempt _).then fun _ => silent_pure _
    · exact (silent_report _).then fun _ => silent_pure _
    · refine (silent_attempt _).then fun numFields => ?_
      split_ifs
      · exact silent_throw _
      · exact silent_pure _

lemma silent_readFieldDefinitions (count : ℕ) : Silent (readFieldDefinitions count) := by
  induction count with
  | zero => exact silent_pure []
  | succ count ih =>
    refine silent_read.then fun buffer => ?_
    have hfield : Silent (processFieldDefinition buffer) :=
      silent_get fun _ => (silent_attempt _).then fun _ => silent_pure _
    exact hfield.then fun _ => ih.then fun _ => silent_pure _

lemma silent_receiveResultset (deserializer : DeserializeRowFn) :
    Silent (receiveResultset deserializer) :=
  silent_read.then fun buffer => (silent_processResponse buffer).then fun _ =>
    (silent_readFieldDefinitions _).then fun _ => silent_pure _

/-- A request is all that an execution sends, and it is sent as far as the stream takes it. -/
lemma executeGeneric_log {α : Type} [Serializable α] (deserializer : DeserializeRowFn)
    (request : α) (c : Conn) :
    (executeGeneric deserializer request c).2.channel.stream.log =
      (c.channel.resetSequenceNumber.write
        (serializeMessage request c.channel.currentCaps [])).2.stream.log := by
  rcases hw : c.channel.resetSequenceNumber.write
    (serializeMessage request c.channel.currentCaps []) with ⟨err, ch⟩
  have herr := (write_cases c.channel.resetSequenceNumber
    (serializeMessage request c.channel.currentCaps [])).2
  rw [hw] at herr
  rcases herr with rfl | hf
  · rw [executeGeneric_written hw]
    exact silent_receiveResultset deserializer { c with channel := ch }
  · have hwrite : write (serializeMessage request c.channel.currentCaps [])
        { c with channel := c.channel.resetSequenceNumber } =
          (.error err, { c with channel := ch }) := by
      simp only [write, onChannel, hw, outcome_failed hf]
    rw [executeGeneric, get_then, then_ok (modifyChannel_apply _), then_error hwrite]

/-! ### Executions -/

lemma execute_log {statement : ComStmtPrepareOkPacket} {params : List Value}
    (h : params.length = statement.numParams.toNat) (c : Conn) :
    (execute statement params c).2.channel.stream.log =
      (c.channel.resetSequenceNumber.write (serializeMessage
        (makeStmtExecutePacket statement.statementId params)
          c.channel.currentCaps [])).2.stream.log := by
  rw [execute_checked h]
  exact executeGeneric_log deserializeBinaryRow _ { c with info := .clear }

/-- An execution is carried out: the number of parameters meets the assertion where it is
compiled in, the program gets to the message and to the end of the call, and the message was
given to the stream, which on a channel that sends took all of its frames. -/
structure Executed (ndebug : Bool) (lexical : LexicalConvert) (c : Client) (into : ℕ)
    (statement : ComStmtPrepareOkPacket) (params : List Value) : Prop where
  counted : ndebug = true ∨
    numParamsAssertion (makeStmtExecutePacket statement.statementId params) = true
  sent : ∃ message outcome c',
    executeMessage ndebug statement.statementId params c.conn.channel.currentCaps [] =
      some message ∧
    c.perform ndebug lexical (.execute into statement params) = some (outcome, c') ∧
    c'.conn.channel.stream.log =
      (c.conn.channel.resetSequenceNumber.write message).2.stream.log ∧
    (Sends c.conn.channel → c'.conn.channel.stream.log =
      c.conn.channel.stream.log ++ (written 0 message).map (.write c.conn.channel.layer))

lemma executed_of_fit {ndebug : Bool} {statement : ComStmtPrepareOkPacket} {params : List Value}
    (hp : params.length = statement.numParams.toNat)
    (hfit : ndebug = true ∨ params.length ≤ 255) (lexical : LexicalConvert) (c : Client)
    (into : ℕ) : Executed ndebug lexical c into statement params := by
  have hcall : ndebug = true ∨ (Call.execute into statement params).ParamsFit :=
    hfit.imp_right fun h _ => h
  have hmessage := (executeMessage_isSome_iff ndebug statement.statementId params
    c.conn.channel.currentCaps []).mpr hfit
  obtain ⟨message, hm⟩ := Option.isSome_iff_exists.mp hmessage
  have heq : serializeMessage (makeStmtExecutePacket statement.statementId params)
      c.conn.channel.currentCaps [] = message := by
    simp only [executeMessage, Option.ite_none_right_eq_some, Option.some.injEq] at hm
    exact hm.2
  have hlog := execute_log hp c.conn
  rw [heq] at hlog
  rcases hr : execute statement params c.conn with ⟨result, conn⟩
  rw [hr] at hlog
  refine ⟨hfit.imp_right fun h => decide_eq_true h, message, (c.obtained into (result, conn)).1,
    (c.obtained into (result, conn)).2, hm, ?_, ?_, fun hs => ?_⟩
  · rw [perform_of_paramsFit hcall, Client.performed, hr]
  · cases result <;> exact hlog
  · have hs' : Sends c.conn.channel.resetSequenceNumber := ⟨hs.isOpen, hs.writeResults⟩
    rw [write_written hs'] at hlog
    cases result <;> exact hlog

/-- **Which executions are carried out**: with the parameters that `check_num_params` asks for,
those of statements with at most 255, or all of them where assertions are not compiled in. -/
theorem execution_carriedOut_iff (ndebug : Bool) (lexical : LexicalConvert) (c : Client)
    (into : ℕ) {statement : ComStmtPrepareOkPacket} {params : List Value}
    (hp : checkNumParams statement params c.conn = (.ok (), c.conn)) :
    Executed ndebug lexical c into statement params ↔
      ndebug = true ∨ statement.numParams.toNat ≤ 255 := by
  have hn := (checkNumParams_ok_iff statement params c.conn).mp hp
  constructor
  · intro h
    rw [← hn]
    exact h.counted.imp_right of_decide_eq_true
  · intro h
    rw [← hn] at h
    exact executed_of_fit hn h lexical c into

theorem execution_carriedOut_iff_two :
    Executed false noLexical freshClient 0 ⟨7, 0, 2, 0⟩ [.null, .int64 5] ↔
      false = true ∨ (⟨7, 0, 2, 0⟩ : ComStmtPrepareOkPacket).numParams.toNat ≤ 255 :=
  execution_carriedOut_iff false noLexical freshClient 0
    ((checkNumParams_ok_iff ⟨7, 0, 2, 0⟩ [.null, .int64 5] freshClient.conn).mpr rfl)

/-- A statement of 256 parameters that a server returned is not executed with them: all NULL,
assertions on. -/
theorem execution_256_not_carriedOut :
    deserializeMessage deserializeComStmtPrepareOkPacket
      ⟨encodePrepareOk ⟨7, 0, 256, 0⟩, .none⟩ = .ok ⟨7, 0, 256, 0⟩ ∧
    checkNumParams ⟨7, 0, 256, 0⟩ (List.replicate 256 .null) freshClient.conn =
      (.ok (), freshClient.conn) ∧
    ¬ Executed false noLexical freshClient 0 ⟨7, 0, 256, 0⟩ (List.replicate 256 .null) := by
  refine ⟨deserializeMessage_ok (prepareOk_reads _).exact, ?_, fun h => ?_⟩
  · exact (checkNumParams_ok_iff _ _ _).mpr (List.length_replicate ..)
  · have hle : (List.replicate 256 Value.null).length ≤ 255 :=
      h.counted.elim (fun hf => Bool.noConfusion hf) of_decide_eq_true
    rw [List.length_replicate] at hle
    omega

end MysqlAsio.ParamCounts
