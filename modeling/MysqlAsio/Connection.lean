import MysqlAsio.ExecuteGeneric
import MysqlAsio.Handshake

/-!
Connections over sockets: connecting, closing, and what a user may have done with one.
-/

namespace MysqlAsio.Connection

open MysqlAsio.Errors MysqlAsio.Serialization MysqlAsio.CommonMessages MysqlAsio.Auth
open MysqlAsio.Values MysqlAsio.PreparedStatementMessages MysqlAsio.TextDeserialization
open MysqlAsio.Streams MysqlAsio.Channels MysqlAsio.Resultset MysqlAsio.Operations
open MysqlAsio.ExecuteGeneric MysqlAsio.Handshake

/-! ### Connecting -/

/-- The physical connection. What was left to arrive in the stream is gone. -/
def physicalConnect (session : Session) : Operation Unit := fun c =>
  let (err, stream) := c.channel.stream.connect session
  (outcome err, { c with channel.stream := stream })

/-- `chan.close()`, whose result is dropped. -/
def dropChannel (c : Conn) : Conn := { c with channel := c.channel.close.2 }

/-- Whatever fails, the stream is closed. -/
def connectChannel (hashes : Hashes) (params : ConnectionParams) (session : Session) :
    Operation Unit := fun c =>
  match physicalConnect session c with
  | (.error err, c) => (.error err, { dropChannel c with info := ⟨ascii "Physical connect failed"⟩ })
  | (.ok (), c) =>
    match handshake hashes params c with
    | (.error err, c) => (.error err, dropChannel c)
    | (.ok (), c) => (.ok (), c)

/-- `socket_connection::connect`. -/
def connect (hashes : Hashes) (params : ConnectionParams) (session : Session) : Operation Unit :=
  cleared (connectChannel hashes params session)

section Connect

variable {hashes : Hashes} {params : ConnectionParams} {session : Session} {c : Conn}

lemma connect_refused {e : Failure} (h : session.connectError = some e) :
    connect hashes params session c = (.error e,
      ⟨(Channel.close { c.channel with stream := session.stream }).2,
        ⟨ascii "Physical connect failed"⟩⟩) := by
  simp only [connect, cleared, connectChannel, physicalConnect, Stream.connect, h,
    outcome_failed e.2, dropChannel]

lemma connect_connected (h : session.connectError = none) :
    connect hashes params session c =
      match handshake hashes params ⟨{ c.channel with stream := session.stream }, .clear⟩ with
      | (.error err, c) => (.error err, dropChannel c)
      | (.ok (), c) => (.ok (), c) := by
  simp only [connect, cleared, connectChannel, physicalConnect, Stream.connect, h,
    outcome_success]

end Connect

/-! ### Closing -/

def quitConnection : Operation Unit := do
  serializeShared QuitPacket.mk (← get).channel.currentCaps
  modifyChannel Channel.resetSequenceNumber
  writeShared

/-- The stream is closed whether the quit fails or not. -/
def closeConnection : Operation Unit := fun c =>
  if c.channel.stream.isOpen then
    match quitConnection c with
    | (.error err, c) => (.error err, dropChannel c)
    | (.ok (), c) => (outcome c.channel.close.1, dropChannel c)
  else (.ok (), c)

/-- `connection::quit`. -/
def quit : Operation Unit := cleared quitConnection

/-- `socket_connection::close`. -/
def close : Operation Unit := cleared closeConnection

/-! ### What a user may have done -/

/-- What a user may do with a connection, and with the stream under it. -/
inductive Call
  | connect (params : ConnectionParams) (session : Session)
  | physicalConnect (session : Session)
  | handshake (params : ConnectionParams)
  | query (lexical : LexicalConvert) (queryString : Bytes)
  | prepare (statement : Bytes)
  | execute (statement : ComStmtPrepareOkPacket) (params : List Value)
  | closeStatement (statement : ComStmtPrepareOkPacket)
  | fetch (rs : ResultSet) (call : FetchCall)
  | quit
  | close
  | physicalClose

/-- What a call leaves, however it ends. -/
def Call.perform (hashes : Hashes) (c : Conn) : Call → Conn
  | .connect params session => (Connection.connect hashes params session c).2
  | .physicalConnect session => (Connection.physicalConnect session c).2
  | .handshake params => (cleared (Handshake.handshake hashes params) c).2
  | .query lexical queryString => (ExecuteGeneric.query lexical queryString c).2
  | .prepare statement => (ExecuteGeneric.prepare statement c).2
  | .execute statement params => (ExecuteGeneric.execute statement params c).2
  | .closeStatement statement => (ExecuteGeneric.close statement c).2
  | .fetch rs call => { c with channel := (rs.fetch c.channel call).2.2 }
  | .quit => (Connection.quit c).2
  | .close => (Connection.close c).2
  | .physicalClose => dropChannel c

/-- A stream just constructed. -/
def closedStream : Stream := ⟨false, [], [], [], [], .success, 0, [], 0⟩

/-- A connection just constructed. -/
def constructed : Conn := ⟨.new closedStream, .clear⟩

/-- A connection after these calls. -/
def after (hashes : Hashes) (calls : List Call) : Conn :=
  calls.foldl (Call.perform hashes) constructed

end MysqlAsio.Connection
