import MysqlAsio.Framing
import MysqlAsio.ReadRow

/-!
Fetching the rows of a resultset.
-/

namespace MysqlAsio.Resultset

open MysqlAsio.Errors MysqlAsio.Serialization MysqlAsio.CommonMessages MysqlAsio.Values
open MysqlAsio.Streams MysqlAsio.Channels MysqlAsio.Framing MysqlAsio.ReadRow

abbrev Row := List Value

/-- A resultset that is valid; the channel is passed along. -/
structure ResultSet where
  deserializer : DeserializeRowFn
  fields : List FieldMetadata
  okPacket : OkPacket
  eofReceived : Bool

/-- The resultset of a response with columns. -/
def ResultSet.ofFields (fields : List FieldMetadata) (deserializer : DeserializeRowFn) :
    ResultSet := ⟨deserializer, fields, .default, false⟩

/-- The resultset of an OK response. Its deserializer is null, and never called. -/
def ResultSet.ofOk (okPacket : OkPacket) : ResultSet := ⟨fun _ _ => .ok [], [], okPacket, true⟩

def ResultSet.complete (rs : ResultSet) : Bool := rs.eofReceived

/-- The resultset after a message: `eof_received_` is set anew by each. -/
def ResultSet.received (rs : ResultSet) : ReadRowResult → ResultSet
  | .eof okPacket => { rs with okPacket, eofReceived := true }
  | .row _ => { rs with eofReceived := false }
  | .error okPacket => { rs with okPacket, eofReceived := false }

/-- What a fetch returns. -/
structure Fetched where
  rows : List Row
  err : ErrorCode
  info : ErrorInfo
  deriving DecidableEq

def ResultSet.fetchOne (rs : ResultSet) (ch : Channel) :
    Option Row × ErrorCode × ErrorInfo × ResultSet × Channel :=
  if rs.complete then (none, .success, .clear, rs, ch)
  else
    let (result, err, info, ch) := readRow rs.deserializer ch rs.fields rs.okPacket .clear
    match result with
    | .row values => (some values, err, info, rs.received result, ch)
    | _ => (none, err, info, rs.received result, ch)

/-- The loop of `fetch_many`, with `count` more rows to read. -/
def ResultSet.fetchLoop : ℕ → ResultSet → Channel → ErrorInfo → Fetched × ResultSet × Channel
  | 0, rs, ch, info => (⟨[], .success, info⟩, rs, ch)
  | count + 1, rs, ch, info =>
    let (result, err, info, ch) := readRow rs.deserializer ch rs.fields rs.okPacket info
    let rs := rs.received result
    match result with
    | .row values =>
      let (fetched, rs, ch) := ResultSet.fetchLoop count rs ch info
      ({ fetched with rows := values :: fetched.rows }, rs, ch)
    | _ => (⟨[], err, info⟩, rs, ch)

def ResultSet.fetchMany (count : ℕ) (rs : ResultSet) (ch : Channel) :
    Fetched × ResultSet × Channel :=
  if rs.complete then (⟨[], .success, .clear⟩, rs, ch) else rs.fetchLoop count ch .clear

/-- `std::numeric_limits<std::size_t>::max()`. -/
def sizeMax : ℕ := 2 ^ 64 - 1

def ResultSet.fetchAll (rs : ResultSet) (ch : Channel) : Fetched × ResultSet × Channel :=
  rs.fetchMany sizeMax ch

/-! ### Calls -/

inductive FetchCall
  | one
  | many (count : ℕ)
  | all
  deriving DecidableEq, Repr

def FetchCall.count : FetchCall → ℕ
  | .one => 1
  | .many count => count
  | .all => sizeMax

def ResultSet.fetch (rs : ResultSet) (ch : Channel) : FetchCall → Fetched × ResultSet × Channel
  | .one =>
    let (row, err, info, rs, ch) := rs.fetchOne ch
    (⟨row.toList, err, info⟩, rs, ch)
  | .many count => rs.fetchMany count ch
  | .all => rs.fetchAll ch

/-- The three fetches differ in how many rows they ask for. -/
lemma fetch_eq (rs : ResultSet) (ch : Channel) (call : FetchCall) :
    rs.fetch ch call = rs.fetchMany call.count ch := by
  cases call with
  | one =>
    simp only [ResultSet.fetch, ResultSet.fetchOne, ResultSet.fetchMany, FetchCall.count]
    split_ifs with hc
    · rfl
    · rw [ResultSet.fetchLoop]
      rcases hr : readRow rs.deserializer ch rs.fields rs.okPacket .clear with
        ⟨result, err, info, ch'⟩
      cases result with
      | row values =>
        cases readRow_row hr
        rfl
      | eof okPacket => rfl
      | error okPacket => rfl
  | many count => rfl
  | all => rfl

/-! ### What fetching keeps -/

lemma readRow_moved (deserializer : DeserializeRowFn) (ch : Channel)
    (fields : List FieldMetadata) (okPacket : OkPacket) (info : ErrorInfo) :
    ch.Moved (readRow deserializer ch fields okPacket info).2.2.2 := by
  have hm := read_moved ch
  rcases hr : ch.read with ⟨buffer, err, ch'⟩
  rw [hr] at hm
  simp only [readRow, hr]
  split_ifs
  · exact hm
  · exact hm

lemma fetchLoop_moved (count : ℕ) (rs : ResultSet) (ch : Channel) (info : ErrorInfo) :
    ch.Moved (rs.fetchLoop count ch info).2.2 := by
  induction count generalizing rs ch info with
  | zero => exact Channel.moved_refl ch
  | succ count ih =>
    have hm := readRow_moved rs.deserializer ch rs.fields rs.okPacket info
    rw [ResultSet.fetchLoop]
    rcases hr : readRow rs.deserializer ch rs.fields rs.okPacket info with ⟨result, err, info', ch'⟩
    rw [hr] at hm
    cases result with
    | row values => exact hm.trans (ih (rs.received (.row values)) ch' info')
    | eof okPacket => exact hm
    | error okPacket => exact hm

lemma fetch_moved (rs : ResultSet) (ch : Channel) (call : FetchCall) :
    ch.Moved (rs.fetch ch call).2.2 := by
  rw [fetch_eq, ResultSet.fetchMany]
  split_ifs
  · exact Channel.moved_refl ch
  · exact fetchLoop_moved call.count rs ch .clear

end MysqlAsio.Resultset
