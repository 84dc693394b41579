import MysqlAsio.Calls
import MysqlAsio.Lib.Machines
import MysqlAsio.Server

/-!
A session of a client with a conforming server, and what is specified about it.
-/

namespace MysqlAsio.Dialogue

open MysqlAsio.Errors MysqlAsio.Serialization MysqlAsio.CommonMessages MysqlAsio.Values
open MysqlAsio.PreparedStatementMessages MysqlAsio.TextDeserialization MysqlAsio.Streams
open MysqlAsio.Channels MysqlAsio.Framing MysqlAsio.ReadRow MysqlAsio.Resultset
open MysqlAsio.Fetching MysqlAsio.RowEncodings MysqlAsio.Operations MysqlAsio.ExecuteGeneric
open MysqlAsio.Server MysqlAsio.Calls MysqlAsio.Lib.Machines MysqlAsio.Lib.Programs

/-! ### Exchanges -/

/-- What a server has to say to a call. -/
abbrev Answer : Call → Type
  | .query .. | .execute .. => ResultsetAnswer
  | .prepare _ => PrepareAnswer
  | .close _ | .fetch .. => Unit

/-- A call, and what the server answers when it is asked. -/
structure Exchange where
  call : Call
  answer : Answer call

/-- The command of a call. A statement that is not given its parameters is not executed. -/
def command (caps : Capabilities) : Call → Option Bytes
  | .query _ queryString => some (Serializable.serialize caps (ComQueryPacket.mk queryString))
  | .prepare statement => some (Serializable.serialize caps (ComStmtPreparePacket.mk statement))
  | .execute _ statement params =>
    if params.length = statement.numParams.toNat then
      some (Serializable.serialize caps (makeStmtExecutePacket statement.statementId params))
    else none
  | .close statement =>
    some (Serializable.serialize caps (ComStmtClosePacket.mk statement.statementId))
  | .fetch _ _ => none

/-- The messages that answer a call. -/
def Exchange.messages : Exchange → List Bytes
  | ⟨.query .., answer⟩ => answer.messages
  | ⟨.prepare _, answer⟩ => answer.messages
  | ⟨.execute _ statement params, answer⟩ =>
    if params.length = statement.numParams.toNat then answer.messages else []
  | ⟨.close _, _⟩ | ⟨.fetch .., _⟩ => []

def Exchange.WellAnswered (lexical : LexicalConvert) : Exchange → Prop
  | ⟨.query .., answer⟩ => answer.WellFormed lexical .text
  | ⟨.prepare _, answer⟩ => answer.WellFormed
  | ⟨.execute .., answer⟩ => answer.WellFormed lexical .binary
  | ⟨.close _, _⟩ | ⟨.fetch .., _⟩ => True

/-- The answer is a proper one, and no message in either direction needs a second frame. -/
structure Exchange.Conforming (lexical : LexicalConvert) (caps : Capabilities)
    (e : Exchange) : Prop where
  answer : e.WellAnswered lexical
  messages : ∀ m ∈ e.messages, m.length < maxPacketSize
  command : ∀ m ∈ command caps e.call, m.length < maxPacketSize

/-- The bytes of the answer. Its frames are numbered on from those of the command. -/
def Exchange.arrivals (caps : Capabilities) (e : Exchange) : List Arrival :=
  match command caps e.call with
  | none => []
  | some m => (messageFrames (.ofNat (written 0 m).length) e.messages).map .byte

/-- The client when the answer is on its way, after what is there. It reads nothing of it before
it has sent its command. -/
def arrived (c : Client) (e : Exchange) : Client :=
  let ch := c.conn.channel
  { c with conn := { c.conn with
    channel := deliver ch (ch.pending ++ e.arrivals ch.currentCaps) } }

/-- An exchange on the client's side. -/
def exchange (ndebug : Bool) (lexical : LexicalConvert) : Machine Client Exchange Outcome :=
  fun c e => (arrived c e).perform ndebug lexical e.call

/-! ### What is specified -/

/-- A resultset being read: how its rows are encoded, and what is left of it. -/
structure Unread where
  encoding : RowEncoding
  fields : List FieldMetadata
  rows : List (Bytes × Row)
  ending : RowsEnd

/-- What a user and a server know of a session: what the server has received, which resultsets
are complete, and the one that is being read. -/
structure Ledger where
  received : Bytes
  complete : ℕ → Option OkPacket
  reading : Option (ℕ × Unread)

/-- An error of a server as it is reported. -/
def reported (e : ErrPacket) : Outcome :=
  .failed (makeErrorCode (.server e.errorCode)) ⟨e.errorMessage⟩

def Ledger.forget (l : Ledger) (v : ℕ) : Ledger :=
  { l with complete := Function.update l.complete v none }

def Ledger.completed (l : Ledger) (v : ℕ) (okPacket : OkPacket) : Ledger :=
  { l with complete := Function.update l.complete v (some okPacket) }

/-- What a query or an execution returns. -/
def Ledger.obtained (l : Ledger) (encoding : RowEncoding) (into : ℕ) :
    ResultsetAnswer → Outcome × Ledger
  | .ok okPacket _ => (.resultSet [] (some okPacket), l.completed into okPacket)
  | .err e => (reported e, l.forget into)
  | .resultset columns rows ending => (.resultSet (columns.map FieldMetadata.mk) none,
      { l.forget into with
        reading := some (into, ⟨encoding, columns.map FieldMetadata.mk, rows, ending⟩) })

def prepared : PrepareAnswer → Outcome
  | .ok response _ => .statement response
  | .err e => reported e

/-- What a call returns that fetches from the resultset being read. -/
def Ledger.fetched (l : Ledger) (v : ℕ) (u : Unread) (count : ℕ) : Outcome × Ledger :=
  if count ≤ u.rows.length then
    (.fetched ⟨(u.rows.take count).map Prod.snd, .success, .clear⟩ none,
      { l with reading := some (v, { u with rows := u.rows.drop count }) })
  else match u.ending with
    | .eof okPacket _ => (.fetched ⟨u.rows.map Prod.snd, .success, .clear⟩ (some okPacket),
        { l.completed v okPacket with reading := none })
    | .err e => (.fetched ⟨u.rows.map Prod.snd, (reported e).err, ⟨e.errorMessage⟩⟩ none,
        { l with reading := none })

/-- A complete resultset has nothing more, and one that ended in an error is not read again. -/
def Ledger.fetch (l : Ledger) (source : ℕ) (call : FetchCall) : Option (Outcome × Ledger) :=
  match l.complete source, l.reading with
  | some okPacket, _ => some (.fetched ⟨[], .success, .clear⟩ (some okPacket), l)
  | none, some (v, u) => if v = source then some (l.fetched v u call.count) else none
  | none, none => none

/-- What the calls that are commands return. -/
def Ledger.answer (l : Ledger) : Exchange → Outcome × Ledger
  | ⟨.query into _, answer⟩ => l.obtained .text into answer
  | ⟨.prepare _, answer⟩ => (prepared answer, l)
  | ⟨.execute into statement params, answer⟩ =>
    if params.length = statement.numParams.toNat then l.obtained .binary into answer
    else (.failed (makeErrorCode .wrongNumParams)
      ⟨wrongNumParamsMessage statement.numParams.toNat params.length⟩, l.forget into)
  | ⟨.close _, _⟩ | ⟨.fetch .., _⟩ => (.closed, l)

/-- The server has received the command. -/
def Ledger.hears (l : Ledger) (command : Option Bytes) : Ledger :=
  { l with received := l.received ++ command.elim [] (frame 0) }

/-- What is specified: it is stuck where the rule is broken that a resultset is read to its end
before the next command. -/
def specified (caps : Capabilities) : Machine Ledger Exchange Outcome := fun l e =>
  match e with
  | ⟨.fetch source call, _⟩ => l.fetch source call
  | e => if l.reading.isSome then none
    else some ((l.hears (command caps e.call)).answer e)

def Unread.messages (u : Unread) : List Bytes := rowsMessages u.rows u.ending

/-- The messages of answers that no call has taken. -/
def Ledger.messages (l : Ledger) : List Bytes :=
  match l.reading with
  | none => []
  | some (_, u) => u.messages

/-- At the beginning of a session there is no resultset. -/
def Ledger.start (sent : Bytes) : Ledger := ⟨sent, fun _ => none, none⟩

/-- The errors of a client that has lost the place in what arrives. -/
def Misaligned (err : ErrorCode) : Prop :=
  err = makeErrorCode .sequenceNumberMismatch ∨ err = makeErrorCode .incompleteMessage ∨
    err = makeErrorCode .extraBytes

/-- A session goes as is specified: every call gets to its end and returns what the server
answered, the server has received the commands, no message has been taken but those of the
answers, and the client has never lost the place. -/
def AsSpecified (ndebug : Bool) (lexical : LexicalConvert) (c : Client)
    (exchanges : List Exchange) (outcomes : List Outcome) (l : Ledger) : Prop :=
  ∃ c', (exchange ndebug lexical).run c exchanges = some (outcomes, c') ∧
    c'.conn.channel.stream.sent = l.received ∧ Delivers c'.conn.channel l.messages [] ∧
    ∀ o ∈ outcomes, ¬ Misaligned o.err

end MysqlAsio.Dialogue
