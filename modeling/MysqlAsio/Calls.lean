import Mathlib.Logic.Function.Basic
import MysqlAsio.ExecuteGeneric
import MysqlAsio.StatementExecution

/-!
The client as its user sees it: calls, and what they return.

A user keeps resultsets in variables, which are numbered here.
-/

namespace MysqlAsio.Calls

open MysqlAsio.Errors MysqlAsio.Serialization MysqlAsio.CommonMessages MysqlAsio.Values
open MysqlAsio.PreparedStatementMessages MysqlAsio.TextDeserialization
open MysqlAsio.StatementExecution MysqlAsio.Channels MysqlAsio.Framing MysqlAsio.Resultset
open MysqlAsio.Operations MysqlAsio.ExecuteGeneric

/-- A call. A statement is known by the response it was prepared with. -/
inductive Call
  | query (into : ℕ) (queryString : Bytes)
  | prepare (statement : Bytes)
  | execute (into : ℕ) (statement : ComStmtPrepareOkPacket) (params : List Value)
  | close (statement : ComStmtPrepareOkPacket)
  | fetch (source : ℕ) (call : FetchCall)
  deriving DecidableEq

/-- The OK packet of a resultset, which users may look at when it is complete. -/
def okPacketOf (rs : ResultSet) : Option OkPacket := if rs.complete then some rs.okPacket else none

/-- What a call returns. -/
inductive Outcome
  | failed (err : ErrorCode) (info : ErrorInfo)
  | resultSet (fields : List FieldMetadata) (okPacket : Option OkPacket)
  | statement (response : ComStmtPrepareOkPacket)
  | closed
  | fetched (rows : Fetched) (okPacket : Option OkPacket)
  deriving DecidableEq

def Outcome.err : Outcome → ErrorCode
  | .failed err _ => err
  | .fetched rows _ => rows.err
  | .resultSet _ _ | .statement _ | .closed => .success

structure Client where
  conn : Conn
  resultSets : ℕ → Option ResultSet

/-- A resultset goes into its variable, and nothing does where there is none. -/
def Client.obtained (c : Client) (into : ℕ) : Except ErrorCode ResultSet × Conn → Outcome × Client
  | (.ok rs, conn) => (.resultSet rs.fields (okPacketOf rs),
      ⟨conn, Function.update c.resultSets into (some rs)⟩)
  | (.error err, conn) => (.failed err conn.info, ⟨conn, Function.update c.resultSets into none⟩)

/-- What a call does. There is nothing to fetch from where there is no resultset. -/
def Client.performed (lexical : LexicalConvert) (c : Client) : Call → Option (Outcome × Client)
  | .query into queryString => some (c.obtained into (query lexical queryString c.conn))
  | .prepare statement =>
    match prepare statement c.conn with
    | (.ok response, conn) => some (.statement response, { c with conn })
    | (.error err, conn) => some (.failed err conn.info, { c with conn })
  | .execute into statement params => some (c.obtained into (execute statement params c.conn))
  | .close statement =>
    match close statement c.conn with
    | (.ok (), conn) => some (.closed, { c with conn })
    | (.error err, conn) => some (.failed err conn.info, { c with conn })
  | .fetch source call =>
    (c.resultSets source).map fun rs =>
      let (fetched, rs, channel) := rs.fetch c.conn.channel call
      (.fetched fetched (okPacketOf rs),
        ⟨{ c.conn with channel }, Function.update c.resultSets source (some rs)⟩)

/-- The assertions of an execution, which come after the check of the number of parameters. -/
def callAssertions (caps : Capabilities) : Call → Bool
  | .execute _ statement params => params.length ≠ statement.numParams.toNat ||
      executeAssertions (makeStmtExecutePacket statement.statementId params) caps
  | _ => true

/-- A call, where the program gets to its end: with the assertions compiled in (`ndebug` false),
one that fails ends the program. -/
def Client.perform (ndebug : Bool) (lexical : LexicalConvert) (c : Client) (call : Call) :
    Option (Outcome × Client) :=
  if ndebug || callAssertions c.conn.channel.currentCaps call then c.performed lexical call
  else none

/-- The statement is not executed, or has no more than 255 parameters. -/
def Call.ParamsFit : Call → Prop
  | .execute _ statement params =>
    params.length = statement.numParams.toNat → params.length ≤ 255
  | _ => True

lemma callAssertions_iff (caps : Capabilities) (call : Call) :
    callAssertions caps call = true ↔ call.ParamsFit := by
  cases call with
  | execute into statement params =>
    have h := executeAssertions_iff (makeStmtExecutePacket statement.statementId params) caps
    simp only [makeStmtExecutePacket] at h
    simp only [callAssertions, Call.ParamsFit, makeStmtExecutePacket, Bool.or_eq_true,
      decide_eq_true_eq, h, ne_eq]
    tauto
  | _ => simp [callAssertions, Call.ParamsFit]

lemma perform_of_paramsFit {ndebug : Bool} {call : Call} (h : ndebug = true ∨ call.ParamsFit)
    (lexical : LexicalConvert) (c : Client) :
    c.perform ndebug lexical call = c.performed lexical call := by
  rw [← callAssertions_iff c.conn.channel.currentCaps] at h
  rw [Client.perform, if_pos (by simpa using h)]

lemma paramsFit_of_perform {ndebug : Bool} {lexical : LexicalConvert} {c : Client} {call : Call}
    {r : Outcome × Client} (h : c.perform ndebug lexical call = some r) :
    ndebug = true ∨ call.ParamsFit := by
  rw [← callAssertions_iff c.conn.channel.currentCaps]
  by_contra hne
  rw [Client.perform, if_neg (by simpa using hne)] at h
  cases h

end MysqlAsio.Calls
