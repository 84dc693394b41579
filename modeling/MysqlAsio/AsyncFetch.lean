import MysqlAsio.AsyncExecute

/-!
Fetching rows asynchronously. The operations do as the synchronous ones: they differ in when
they look at whether the resultset is complete, and in where they note that it is.
-/

namespace MysqlAsio.AsyncFetch

open MysqlAsio.Errors MysqlAsio.Serialization MysqlAsio.CommonMessages MysqlAsio.Channels
open MysqlAsio.Framing MysqlAsio.ReadRow MysqlAsio.Resultset MysqlAsio.Operations
open MysqlAsio.PreparedStatementMessages MysqlAsio.ErrPackets MysqlAsio.AsyncChannel
open MysqlAsio.AsyncExecute MysqlAsio.Lib.Coroutines

/-! ### Reading a row -/

/-- What `read_row_op` works on: its channel, the caller's `error_info`, and its buffer. -/
structure RowReading where
  channel : Channel
  info : ErrorInfo
  buffer : Bytes

/-- `read_row_op`, suspended. -/
structure ReadRowOp where
  started : Bool
  deserializer : DeserializeRowFn
  fields : List FieldMetadata
  okPacket : OkPacket

/-- Its only await: a read of the channel into the buffer. -/
def PerformsMessage : Performs Unit ErrorCode RowReading :=
  fun _ m code m' => ∃ ch buffer, PerformsRead m.channel m.buffer code ch buffer ∧
    m' = { m with channel := ch, buffer }

/-- `read_row_op::operator()`. The text of the error is assigned where a message was read. -/
def ReadRowOp.resume :
    Coroutine ReadRowOp ErrorCode Unit (ErrorCode × ReadRowResult) RowReading := fun op err m =>
  if err.failed then (.complete (err, .error op.okPacket), m)
  else if !op.started then (.await () { op with started := true }, m)
  else
    let (result, err, info) := processReadMessage op.deserializer m.channel.currentCaps op.fields
      m.buffer op.okPacket .clear
    (.complete (err, result), { m with info })

/-- What `async_read_row` completes with, and the channel and the text of the error it leaves. -/
def AsyncReadRow (rs : ResultSet) (c : Conn) (code : ErrorCode) (result : ReadRowResult)
    (c' : Conn) : Prop :=
  ∃ buffer m', Completes ReadRowOp.resume PerformsMessage ⟨false, rs.deserializer, rs.fields,
    rs.okPacket⟩ .success ⟨c.channel, c.info, buffer⟩ (code, result) m' ∧ c' = ⟨m'.channel, m'.info⟩

lemma performsMessage_iff {m m' : RowReading} {code : ErrorCode} :
    PerformsMessage () m code m' ↔ code = m.channel.read.2.1 ∧
      m' = { m with channel := m.channel.read.2.2, buffer := m.channel.read.1 } := by
  simp only [PerformsMessage, performsRead_iff]
  constructor
  · rintro ⟨ch, buffer, ⟨rfl, rfl, rfl⟩, rfl⟩
    exact ⟨rfl, rfl⟩
  · rintro ⟨rfl, rfl⟩
    exact ⟨_, _, ⟨rfl, rfl, rfl⟩, rfl⟩

/-- `async_read_row` completes as `read_row` returns, from an `error_info` that is clear. -/
lemma asyncReadRow_iff {rs : ResultSet} {ch : Channel} {code : ErrorCode} {result : ReadRowResult}
    {c' : Conn} :
    AsyncReadRow rs ⟨ch, .clear⟩ code result c' ↔
      let r := readRow rs.deserializer ch rs.fields rs.okPacket .clear
      result = r.1 ∧ code = r.2.1 ∧ c' = ⟨r.2.2.2, r.2.2.1⟩ := by
  have hcompletes (buffer : Bytes) (m' : RowReading) :
      Completes ReadRowOp.resume PerformsMessage ⟨false, rs.deserializer, rs.fields,
        rs.okPacket⟩ .success ⟨ch, .clear, buffer⟩ (code, result) m' ↔
      let r := readRow rs.deserializer ch rs.fields rs.okPacket .clear
      (code, result) = (r.2.1, r.1) ∧ m' = ⟨r.2.2.2, r.2.2.1, ch.read.1⟩ := by
    rw [completes_iff]
    refine (from_await_iff fun _ _ => performsMessage_iff).trans ?_
    rcases hr : ch.read with ⟨message, err, ch'⟩
    simp only [ReadRowOp.resume, readRow, hr]
    cases he : err.failed <;> simp [CompletesFrom]
  constructor
  · rintro ⟨buffer, m', hc, rfl⟩
    obtain ⟨hres, rfl⟩ := (hcompletes buffer m').mp hc
    cases hres
    exact ⟨rfl, rfl, rfl⟩
  · rintro ⟨rfl, rfl, rfl⟩
    exact ⟨[], _, (hcompletes [] _).mpr ⟨rfl, rfl⟩, rfl⟩

/-! ### Fetching -/

/-- What a fetch works on. -/
structure FetchState where
  conn : Conn
  resultset : ResultSet

/-- What the operations are resumed with. -/
structure RowRead where
  err : ErrorCode
  result : ReadRowResult

/-- What they are first called with, and after a `post`. -/
def RowRead.none : RowRead := ⟨.success, .error .default⟩

inductive FetchAwait
  | readRow
  | post (resumedWith : RowRead)

/-- The packet of an OK is written to where the reading of the row was given, also where it fails. -/
def FetchState.readInto (rs : ResultSet) : ReadRowResult → ResultSet
  | .eof okPacket | .error okPacket => { rs with okPacket }
  | .row _ => rs

def FetchAwait.Performs : Performs FetchAwait RowRead FetchState
  | .readRow, s, r, s' => ∃ c', AsyncReadRow s.resultset s.conn r.err r.result c' ∧
      s' = ⟨c', FetchState.readInto s.resultset r.result⟩
  | .post resumedWith, s, r, s' => r = resumedWith ∧ s' = s

inductive FetchPoint
  | start | posted | row
  deriving DecidableEq, Repr

/-- `fetch_one_op::operator()`. -/
def FetchOneOp.resume :
    Coroutine FetchPoint RowRead FetchAwait (ErrorCode × Option Row) FetchState := fun point r s =>
  match point with
  | .start =>
    if s.resultset.complete then (.await (.post .none) .posted, s) else (.await .readRow .row, s)
  | .posted => (.complete (.success, none), s)
  | .row =>
    let s := { s with resultset.eofReceived := match r.result with
      | .eof _ => true
      | _ => false }
    (.complete (r.err, match r.result with
      | .row values => some values
      | _ => none), s)

/-- `fetch_many_op`, suspended. -/
structure FetchManyOp where
  point : FetchPoint
  cont : Bool
  remaining : ℕ
  rows : List Row

namespace FetchManyOp

abbrev FetchTurn := Turn FetchAwait FetchManyOp (ErrorCode × List Row) × FetchState

/-- The loop over the rows, and what comes after it, with the last error. -/
def loop (op : FetchManyOp) (err : ErrorCode) (s : FetchState) : FetchTurn :=
  if !s.resultset.complete && 0 < op.remaining then
    (.await .readRow { op with point := .row, cont := true }, s)
  else if !op.cont then (.await (.post ⟨err, .error .default⟩) { op with point := .posted }, s)
  else (.complete (err, op.rows), s)

/-- `fetch_many_op::operator()`. -/
def resume : Coroutine FetchManyOp RowRead FetchAwait (ErrorCode × List Row) FetchState :=
  fun op r s =>
    match op.point with
    | .start => op.loop r.err s
    | .row =>
      match r.result with
      | .error _ => (.complete (r.err, op.rows), s)
      | .eof _ => op.loop r.err { s with resultset.eofReceived := true }
      | .row values =>
        loop { op with remaining := op.remaining - 1, rows := op.rows ++ [values] } r.err s
    | .posted => (.complete (r.err, op.rows), s)

end FetchManyOp

/-- What `async_fetch_one`, `async_fetch_many` and `async_fetch_all` complete with, and what they
leave. -/
def AsyncFetches (rs : ResultSet) (ch : Channel) (fetched : Fetched) (rs' : ResultSet)
    (ch' : Channel) : FetchCall → Prop
  | .one => ∃ row, fetched.rows = row.toList ∧
      Completes FetchOneOp.resume FetchAwait.Performs .start .none ⟨⟨ch, .clear⟩, rs⟩
        (fetched.err, row) ⟨⟨ch', fetched.info⟩, rs'⟩
  | .many count =>
      Completes FetchManyOp.resume FetchAwait.Performs ⟨.start, false, count, []⟩ .none
        ⟨⟨ch, .clear⟩, rs⟩ (fetched.err, fetched.rows) ⟨⟨ch', fetched.info⟩, rs'⟩
  | .all =>
      Completes FetchManyOp.resume FetchAwait.Performs ⟨.start, false, sizeMax, []⟩ .none
        ⟨⟨ch, .clear⟩, rs⟩ (fetched.err, fetched.rows) ⟨⟨ch', fetched.info⟩, rs'⟩

/-! ### The two side by side -/

lemma readRow_ok {deserializer : DeserializeRowFn} {ch ch' : Channel}
    {fields : List FieldMetadata} {okPacket : OkPacket} {info info' : ErrorInfo}
    {result : ReadRowResult} {err : ErrorCode} (hne : ∀ okPacket, result ≠ .error okPacket)
    (h : readRow deserializer ch fields okPacket info = (result, err, info', ch')) :
    err = .success ∧ info' = info := by
  rcases hr : ch.read with ⟨buffer, e, ch1⟩
  simp only [readRow, hr] at h
  split_ifs at h
  · cases h
    exact absurd rfl (hne _)
  · unfold processReadMessage at h
    split at h
    · cases h
      exact absurd rfl (hne _)
    · split_ifs at h
      · split at h <;> cases h
        · exact absurd rfl (hne _)
        · exact ⟨rfl, rfl⟩
      · cases h
        exact absurd rfl (hne _)
      · split at h <;> cases h
        · exact absurd rfl (hne _)
        · exact ⟨rfl, rfl⟩

lemma performs_readRow_iff {ch : Channel} {rs : ResultSet} {r : RowRead} {s' : FetchState} :
    FetchAwait.readRow.Performs ⟨⟨ch, .clear⟩, rs⟩ r s' ↔
      let q := readRow rs.deserializer ch rs.fields rs.okPacket .clear
      r = ⟨q.2.1, q.1⟩ ∧ s' = ⟨⟨q.2.2.2, q.2.2.1⟩, FetchState.readInto rs q.1⟩ := by
  simp only [FetchAwait.Performs, asyncReadRow_iff]
  constructor
  · rintro ⟨c', ⟨hresult, herr, rfl⟩, rfl⟩
    obtain ⟨err, result⟩ := r
    cases hresult
    cases herr
    exact ⟨rfl, rfl⟩
  · rintro ⟨rfl, rfl⟩
    exact ⟨_, ⟨rfl, rfl, rfl⟩, rfl⟩

lemma performs_post_iff {resumedWith r : RowRead} {s s' : FetchState} :
    (FetchAwait.post resumedWith).Performs s r s' ↔ r = resumedWith ∧ s' = s := Iff.rfl

variable {rs : ResultSet} {ch : Channel}

lemma fetchOne_iff {code : ErrorCode} {row : Option Row} {e : FetchState} :
    Completes FetchOneOp.resume FetchAwait.Performs .start .none ⟨⟨ch, .clear⟩, rs⟩ (code, row) e ↔
      let f := rs.fetchOne ch
      (code, row) = (f.2.1, f.1) ∧ e = ⟨⟨f.2.2.2.2, f.2.2.1⟩, f.2.2.2.1⟩ := by
  rw [completes_iff, ResultSet.fetchOne]
  cases hc : rs.complete with
  | true =>
    have hstart : FetchOneOp.resume .start .none ⟨⟨ch, .clear⟩, rs⟩ =
        (.await (.post .none) .posted, ⟨⟨ch, .clear⟩, rs⟩) := by
      simp only [FetchOneOp.resume, hc, if_true]
    rw [hstart, from_await_iff fun _ _ => performs_post_iff]
    rfl
  | false =>
    have hstart : FetchOneOp.resume .start .none ⟨⟨ch, .clear⟩, rs⟩ =
        (.await .readRow .row, ⟨⟨ch, .clear⟩, rs⟩) := by
      simp only [FetchOneOp.resume, hc, Bool.false_eq_true, if_false]
    rw [hstart, from_await_iff fun _ _ => performs_readRow_iff]
    rcases readRow rs.deserializer ch rs.fields rs.okPacket .clear with ⟨result, err, info, ch'⟩
    cases result <;> rfl

lemma received_error (hc : rs.complete = false) (okPacket : OkPacket) :
    rs.received (.error okPacket) = FetchState.readInto rs (.error okPacket) := by
  obtain ⟨deserializer, fields, okPacket, eofReceived⟩ := rs
  cases hc
  rfl

lemma received_row (hc : rs.complete = false) (values : Row) : rs.received (.row values) = rs := by
  obtain ⟨deserializer, fields, okPacket, eofReceived⟩ := rs
  cases hc
  rfl

/-- `fetch_many_op`, about to go on with `n` more rows, does as the loop of `fetch_many`. -/
lemma from_loop_iff {code : ErrorCode} {out : List Row} {e : FetchState} (point : FetchPoint)
    (cont : Bool) (n : ℕ) (rows : List Row) (hc : rs.complete = false) :
    CompletesFrom FetchManyOp.resume FetchAwait.Performs
      (FetchManyOp.loop ⟨point, cont, n, rows⟩ .success ⟨⟨ch, .clear⟩, rs⟩) (code, out) e ↔
      let f := rs.fetchLoop n ch .clear
      (code, out) = (f.1.err, rows ++ f.1.rows) ∧ e = ⟨⟨f.2.2, f.1.info⟩, f.2.1⟩ := by
  induction n generalizing point cont rows ch with
  | zero =>
    rw [FetchManyOp.loop, if_neg (by simp), ResultSet.fetchLoop]
    simp only [List.append_nil]
    cases cont with
    | true => rfl
    | false =>
      -- nothing was awaited so far, so its completion is posted
      refine (from_await_iff fun _ _ => performs_post_iff).trans ?_
      rfl
  | succ n ih =>
    rw [FetchManyOp.loop, if_pos (by simp [hc]), ResultSet.fetchLoop,
      from_await_iff fun _ _ => performs_readRow_iff]
    rcases hq : readRow rs.deserializer ch rs.fields rs.okPacket .clear with
      ⟨result, err, info, ch'⟩
    cases result with
    | error okPacket =>
      simp only [received_error hc, List.append_nil]
      rfl
    | eof okPacket =>
      simp only [List.append_nil]
      rfl
    | row values =>
      obtain ⟨rfl, rfl⟩ := readRow_ok (fun _ h => by cases h) hq
      simp only [received_row hc]
      refine (ih .row true (rows ++ [values])).trans ?_
      simp only [List.append_assoc, List.singleton_append]

lemma fetchMany_iff {code : ErrorCode} {out : List Row} {e : FetchState} (count : ℕ) :
    Completes FetchManyOp.resume FetchAwait.Performs ⟨.start, false, count, []⟩ .none
      ⟨⟨ch, .clear⟩, rs⟩ (code, out) e ↔
      let f := rs.fetchMany count ch
      (code, out) = (f.1.err, f.1.rows) ∧ e = ⟨⟨f.2.2, f.1.info⟩, f.2.1⟩ := by
  rw [completes_iff, ResultSet.fetchMany]
  have hstart : FetchManyOp.resume ⟨.start, false, count, []⟩ .none ⟨⟨ch, .clear⟩, rs⟩ =
      FetchManyOp.loop ⟨.start, false, count, []⟩ .success ⟨⟨ch, .clear⟩, rs⟩ := rfl
  cases hc : rs.complete with
  | true =>
    rw [hstart, FetchManyOp.loop, if_neg (by simp [hc])]
    refine (from_await_iff fun _ _ => performs_post_iff).trans ?_
    rfl
  | false =>
    rw [hstart]
    exact from_loop_iff .start false count [] hc

/-- A fetch completes as the synchronous one returns. -/
lemma asyncFetches_iff (call : FetchCall) {fetched : Fetched} {rs' : ResultSet} {ch' : Channel} :
    AsyncFetches rs ch fetched rs' ch' call ↔ rs.fetch ch call = (fetched, rs', ch') := by
  have hmany (count : ℕ) : Completes FetchManyOp.resume FetchAwait.Performs
      ⟨.start, false, count, []⟩ .none ⟨⟨ch, .clear⟩, rs⟩ (fetched.err, fetched.rows)
      ⟨⟨ch', fetched.info⟩, rs'⟩ ↔ rs.fetchMany count ch = (fetched, rs', ch') := by
    rw [fetchMany_iff]
    obtain ⟨rows, err, info⟩ := fetched
    rcases rs.fetchMany count ch with ⟨⟨rows1, err1, info1⟩, rs1, ch1⟩
    constructor
    · rintro ⟨hres, heq⟩
      cases hres
      cases heq
      rfl
    · intro h
      cases h
      exact ⟨rfl, rfl⟩
  cases call with
  | one =>
    simp only [AsyncFetches, fetchOne_iff, ResultSet.fetch]
    constructor
    · rintro ⟨row, hrow, hres, heq⟩
      obtain ⟨rows, err, info⟩ := fetched
      cases hres
      cases heq
      cases hrow
      rfl
    · intro h
      cases h
      exact ⟨_, rfl, rfl, rfl⟩
  | many count => exact hmany count
  | all => exact hmany sizeMax

/-! ### Schedules -/

/-- Fetch after fetch. -/
def fetchAll (rs : ResultSet) (ch : Channel) : List FetchCall → List Fetched × ResultSet × Channel
  | [] => ([], rs, ch)
  | call :: calls =>
    let (fetched, rs, ch) := rs.fetch ch call
    let (rest, rs, ch) := fetchAll rs ch calls
    (fetched :: rest, rs, ch)

/-- Asynchronous fetch after fetch, each begun when the one before it has completed. -/
inductive AsyncFetchAll :
    ResultSet → Channel → List FetchCall → List Fetched → ResultSet → Channel → Prop
  | nil (rs : ResultSet) (ch : Channel) : AsyncFetchAll rs ch [] [] rs ch
  | cons {rs rs1 rs2 : ResultSet} {ch ch1 ch2 : Channel} {call : FetchCall}
      {calls : List FetchCall} {fetched : Fetched} {rest : List Fetched}
      (h : AsyncFetches rs ch fetched rs1 ch1 call) (hs : AsyncFetchAll rs1 ch1 calls rest rs2 ch2) :
      AsyncFetchAll rs ch (call :: calls) (fetched :: rest) rs2 ch2

lemma asyncFetchAll_iff (calls : List FetchCall) {out : List Fetched} {rs rs' : ResultSet}
    {ch ch' : Channel} :
    AsyncFetchAll rs ch calls out rs' ch' ↔ fetchAll rs ch calls = (out, rs', ch') := by
  induction calls generalizing rs ch out with
  | nil =>
    constructor
    · rintro ⟨⟩
      rfl
    · intro h
      cases h
      exact .nil _ _
  | cons call calls ih =>
    constructor
    · rintro (_ | ⟨h, hs⟩)
      rw [asyncFetches_iff] at h
      rw [ih] at hs
      simp only [fetchAll, h, hs]
    · intro h
      cases h
      exact .cons ((asyncFetches_iff call).mpr rfl) (ih.mpr rfl)

/-- A request is executed alike synchronously and asynchronously, and so are all fetches of any
resultset. -/
structure Equivalent {α : Type} [Serializable α] (deserializer : DeserializeRowFn) (request : α)
    (c : Conn) : Prop where
  execute : ExecutesAlike deserializer request c
  fetch : ∀ rs ch calls out rs' ch',
    AsyncFetchAll rs ch calls out rs' ch' ↔ fetchAll rs ch calls = (out, rs', ch')

/-- **Asynchronous execution and fetching are the synchronous ones**, except where the request is
answered with an ERR packet of number 0. -/
theorem executeFetch_equivalent_iff {α : Type} [Serializable α] (deserializer : DeserializeRowFn)
    (request : α) (c : Conn) : Equivalent deserializer request c ↔ ¬ AnsweredByZero request c := by
  constructor
  · exact fun h => not_zero_of_executesAlike h.execute
  · intro h
    exact ⟨executesAlike_of_not_zero h, fun rs ch calls out rs' ch' => asyncFetchAll_iff calls⟩

/-- A query that is answered with an ERR packet of number 0 returns that number as its error, in
the category of the server, and completes asynchronously without one. -/
theorem zero_err_not_equivalent : ¬ ∀ (deserializer : DeserializeRowFn) (request : ComQueryPacket)
    (c : Conn), Equivalent deserializer request c := by
  intro h
  set m : Bytes := errorPacketHeader :: encodeErrPacket ⟨0, ascii "#", ascii "HY000", []⟩
  set c : Conn := ⟨channelOf 1 [m], .clear⟩
  have hlen : (serializeMessage (ComQueryPacket.mk []) c.channel.currentCaps []).length ≤
      maxPacketSize := by
    rw [serializeMessage_eq]
    exact of_decide_eq_true rfl
  have hw := command_written (channelOf_sends 1 [m]) hlen
  have hr := (command_delivers (channelOf_delivers 1 [m])
    (serializeMessage (ComQueryPacket.mk []) c.channel.currentCaps [])).read
  have hm : errPacketOf m = some ⟨0, ascii "#", ascii "HY000", []⟩ := by decide
  exact not_zero_of_executesAlike (h (fun _ _ => .ok []) ⟨[]⟩ c).execute
    ⟨_, _, _, _, hw, hr, hm, rfl⟩

end MysqlAsio.AsyncFetch
