import MysqlAsio.BinaryDeserialization
import MysqlAsio.Operations
import MysqlAsio.PreparedStatementMessages
import MysqlAsio.Resultset
import MysqlAsio.TextDeserialization

/-!
Executing queries and statements.
-/

namespace MysqlAsio.ExecuteGeneric

open MysqlAsio.Errors MysqlAsio.Serialization MysqlAsio.CommonMessages MysqlAsio.Values
open MysqlAsio.PreparedStatementMessages MysqlAsio.BinaryDeserialization
open MysqlAsio.TextDeserialization MysqlAsio.Channels MysqlAsio.ReadRow MysqlAsio.Resultset
open MysqlAsio.Operations MysqlAsio.Lib.Programs

/-- `execute_processor::process_response`: the number of columns, and the packet of an OK. -/
def processResponse (buffer : Bytes) : Operation (ℕ × OkPacket) := do
  let caps := (← get).channel.currentCaps
  match deserializeMessageType ⟨buffer, caps⟩ with
  | .error err => throw err
  | .ok (msgType, ctx) =>
    if msgType = okPacketHeader then
      let okPacket ← attempt (deserializeMessage (deserializeOkPacket .default) ctx)
      pure (0, okPacket)
    else if msgType = errorPacketHeader then
      report (processErrorPacket ctx)
      -- reached when callers do not see the error
      pure (0, .default)
    else
      -- the message type is the beginning of the number of columns
      let numFields ← attempt (deserializeMessage deserializeIntLenenc ⟨buffer, caps⟩)
      if numFields = 0 then throw (makeErrorCode .protocolValueError)
      else pure (numFields.toNat, .default)

/-- `execute_processor::process_field_definition`. -/
def processFieldDefinition (buffer : Bytes) : Operation FieldMetadata := do
  let caps := (← get).channel.currentCaps
  let fieldDefinition ←
    attempt (deserializeMessage deserializeColumnDefinitionPacket ⟨buffer, caps⟩)
  pure ⟨fieldDefinition⟩

/-- Read the definitions of so many columns. -/
def readFieldDefinitions : ℕ → Operation (List FieldMetadata)
  | 0 => pure []
  | count + 1 => do
    let buffer ← read
    let field ← processFieldDefinition buffer
    let fields ← readFieldDefinitions count
    pure (field :: fields)

/-- `execute_processor::create_resultset`. -/
def createResultset (deserializer : DeserializeRowFn) (fieldCount : ℕ) (okPacket : OkPacket)
    (fields : List FieldMetadata) : ResultSet :=
  if fieldCount = 0 then .ofOk okPacket else .ofFields fields deserializer

/-- What follows the response of the server. -/
def receiveResultset (deserializer : DeserializeRowFn) : Operation ResultSet := do
  let buffer ← read
  let (fieldCount, okPacket) ← processResponse buffer
  let fields ← readFieldDefinitions fieldCount
  pure (createResultset deserializer fieldCount okPacket fields)

def executeGeneric {α : Type} [Serializable α] (deserializer : DeserializeRowFn) (request : α) :
    Operation ResultSet := do
  let buffer := serializeMessage request (← get).channel.currentCaps []
  modifyChannel Channel.resetSequenceNumber
  write buffer
  receiveResultset deserializer

lemma executeGeneric_written {α : Type} [Serializable α] {deserializer : DeserializeRowFn}
    {request : α} {c : Conn} {ch : Channel}
    (hw : c.channel.resetSequenceNumber.write
      (serializeMessage request c.channel.currentCaps []) = (.success, ch)) :
    executeGeneric deserializer request c = receiveResultset deserializer { c with channel := ch } := by
  rw [executeGeneric, get_then, then_ok (modifyChannel_apply _), then_ok (write_ok hw)]

def executeQuery (lexical : LexicalConvert) (query : Bytes) : Operation ResultSet :=
  executeGeneric (deserializeTextRow lexical) (ComQueryPacket.mk query)

def executeStatement (statementId : UInt32) (params : List Value) : Operation ResultSet :=
  executeGeneric deserializeBinaryRow (makeStmtExecutePacket statementId params)

/-! ### Preparing and closing statements -/

/-- `prepare_statement_processor::process_response`. -/
def processPrepareResponse : Operation ComStmtPrepareOkPacket := do
  let ch := (← get).channel
  match deserializeMessageType ⟨ch.sharedBuffer, ch.currentCaps⟩ with
  | .error err => throw err
  | .ok (msgType, ctx) =>
    if msgType = errorPacketHeader then
      report (processErrorPacket ctx)
      -- reached when callers do not see the error
      pure .default
    else if msgType ≠ 0 then throw (makeErrorCode .protocolValueError)
    else attempt (deserializeMessage deserializeComStmtPrepareOkPacket ctx)

def numMetadataPackets (response : ComStmtPrepareOkPacket) : ℕ :=
  response.numColumns.toNat + response.numParams.toNat

/-- Read so many messages and ignore them. -/
def skipMessages : ℕ → Operation Unit
  | 0 => pure ()
  | count + 1 => do
    readShared
    skipMessages count

/-- What follows the response of the server. -/
def receiveStatement : Operation ComStmtPrepareOkPacket := do
  readShared
  let response ← processPrepareResponse
  skipMessages (numMetadataPackets response)
  pure response

/-- The statement is known by its response. -/
def prepareStatement (statement : Bytes) : Operation ComStmtPrepareOkPacket := do
  serializeShared (ComStmtPreparePacket.mk statement) (← get).channel.currentCaps
  modifyChannel Channel.resetSequenceNumber
  writeShared
  receiveStatement

lemma prepareStatement_written {statement buffer : Bytes} {c : Conn} {ch : Channel}
    (hb : buffer = serializeMessage (ComStmtPreparePacket.mk statement) c.channel.currentCaps
      c.channel.sharedBuffer)
    (hw : (Channel.resetSequenceNumber { c.channel with sharedBuffer := buffer }).write buffer =
      (.success, ch)) :
    prepareStatement statement c = receiveStatement { c with channel := ch } := by
  subst hb
  rw [prepareStatement, get_then, composeShared_then, then_ok (writeShared_ok hw)]

/-- No response is sent back. -/
def closeStatement (statementId : UInt32) : Operation Unit := do
  serializeShared (ComStmtClosePacket.mk statementId) (← get).channel.currentCaps
  modifyChannel Channel.resetSequenceNumber
  writeShared

/-! ### ERR packets -/

/-- What is done with an ERR packet in response to a command, and what goes on where callers do
not see its error. -/
def reportErr {α : Type} (s : Bytes) (default : α) : Operation α := do
  report (processErrorPacket ⟨s, (← get).channel.currentCaps⟩)
  pure default

lemma errorPacketHeader_ne_ok : errorPacketHeader ≠ okPacketHeader := by decide

lemma processResponse_err (s : Bytes) (c : Conn) :
    processResponse (errorPacketHeader :: s) c = reportErr s (0, .default) c := by
  rw [processResponse, get_then]
  simp only [deserializeMessageType_cons, if_neg errorPacketHeader_ne_ok, if_true]
  rfl

lemma processPrepareResponse_err {s : Bytes} {c : Conn}
    (hb : c.channel.sharedBuffer = errorPacketHeader :: s) :
    processPrepareResponse c = reportErr s .default c := by
  rw [processPrepareResponse, get_then]
  simp only [hb, deserializeMessageType_cons, if_true]
  rfl

/-! ### The operations of the user -/

/-- The text of a wrong number of parameters, as `stringize` makes it. -/
def wrongNumParamsMessage (numParams paramCount : ℕ) : Bytes :=
  ascii ("prepared_statement::execute: expected " ++ toString numParams ++
    " params, but got " ++ toString paramCount)

/-- `prepared_statement::check_num_params`. -/
def checkNumParams (statement : ComStmtPrepareOkPacket) (params : List Value) : Operation Unit :=
  report fun info =>
    if params.length ≠ statement.numParams.toNat then
      (makeErrorCode .wrongNumParams,
        ⟨wrongNumParamsMessage statement.numParams.toNat params.length⟩)
    else (.success, info)

/-- `connection::query`. -/
def query (lexical : LexicalConvert) (queryString : Bytes) : Operation ResultSet :=
  cleared (executeQuery lexical queryString)

/-- `connection::prepare_statement`. -/
def prepare (statement : Bytes) : Operation ComStmtPrepareOkPacket :=
  cleared (prepareStatement statement)

/-- `prepared_statement::execute`. -/
def execute (statement : ComStmtPrepareOkPacket) (params : List Value) : Operation ResultSet :=
  cleared do
    checkNumParams statement params
    executeStatement statement.statementId params

/-- `prepared_statement::close`. -/
def close (statement : ComStmtPrepareOkPacket) : Operation Unit :=
  cleared (closeStatement statement.statementId)

lemma checkNumParams_ok_iff (statement : ComStmtPrepareOkPacket) (params : List Value) (c : Conn) :
    checkNumParams statement params c = (.ok (), c) ↔
      params.length = statement.numParams.toNat := by
  by_cases h : params.length = statement.numParams.toNat
  · simp [checkNumParams, report, h]
  · have he : outcome (makeErrorCode .wrongNumParams) = .error (makeErrorCode .wrongNumParams) :=
      outcome_failed rfl
    simp only [checkNumParams, report, ne_eq, h, not_false_eq_true, if_true, he, iff_false]
    exact fun heq => by cases congrArg Prod.fst heq

lemma execute_checked {statement : ComStmtPrepareOkPacket} {params : List Value}
    (h : params.length = statement.numParams.toNat) (c : Conn) :
    execute statement params c =
      executeStatement statement.statementId params { c with info := .clear } := by
  have hp := (checkNumParams_ok_iff statement params { c with info := .clear }).mpr h
  rw [execute, cleared, then_ok hp]

end MysqlAsio.ExecuteGeneric
