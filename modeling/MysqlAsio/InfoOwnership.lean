import MysqlAsio.AsyncFetch
import MysqlAsio.Lib.Views

/-!
Which buffer the text of the OK packet is in, when a resultset is complete.

The text is a view of the buffer its packet was read into: that of the resultset for
`fetch_one`, and one of the call for the other fetches.
-/

namespace MysqlAsio.InfoOwnership

open MysqlAsio.Errors MysqlAsio.Serialization MysqlAsio.CommonMessages MysqlAsio.Channels
open MysqlAsio.Framing
open MysqlAsio.ReadRow MysqlAsio.Resultset MysqlAsio.AsyncFetch MysqlAsio.Lib.Decoding
open MysqlAsio.Lib.Views

/-! ### The text as a view -/

/-- The fields of an OK packet in a message of that size: where its text is, if it has one, and
how long. -/
def deserializeOkRange (size : ℕ) : Deserializer (Option (ℕ × ℕ)) := do
  let _affectedRows ← deserializeIntLenenc
  let _lastInsertId ← deserializeIntLenenc
  let _statusFlags ← deserializeInt2
  let _warnings ← deserializeInt2
  let left ← get
  if left = [] then pure none
  else do
    let length ← deserializeIntLenenc
    let here ← get
    let _info ← takeN .incompleteMessage length.toNat
    pure (some (size - here.length, length.toNat))

/-- The same of a message, behind its first byte. Bytes behind the fields do not matter here: the
fields are set before they are noticed. -/
def okRange : Bytes → Option (ℕ × ℕ)
  | [] => none
  | _ :: s =>
    match deserializeOkRange (1 + s.length) s with
    | .ok (range, _) => range
    | .error _ => none

/-- The text of the OK packet a message is. -/
def okText : Bytes → Bytes
  | [] => []
  | _ :: s =>
    match deserializeOkPacket .default s with
    | .ok (okPacket, _) => okPacket.info
    | .error _ => []

/-- A message whose fields are those of an OK packet and nothing more. -/
def IsOk (message : Bytes) : Prop :=
  ∃ b s okPacket, message = b :: s ∧ deserializeOkPacket .default s = .ok (okPacket, [])

lemma okRange_fields {s rest : Bytes} {okPacket : OkPacket} (n : ℕ)
    (h : deserializeOkPacket .default s = .ok (okPacket, rest)) :
    (deserializeOkRange n s = .ok (none, rest) ∧ okPacket.info = []) ∨
    ∃ here, here <:+ s ∧ okPacket.info.length ≤ here.length ∧
      deserializeOkRange n s = .ok (some (n - here.length, okPacket.info.length), rest) ∧
      okPacket.info = here.take okPacket.info.length := by
  unfold deserializeOkPacket at h
  obtain ⟨affectedRows, s1, h1, h⟩ := of_bind_ok h
  obtain ⟨lastInsertId, s2, h2, h⟩ := of_bind_ok h
  obtain ⟨statusFlags, s3, h3, h⟩ := of_bind_ok h
  obtain ⟨warnings, s4, h4, h⟩ := of_bind_ok h
  have hs4 : s4 <:+ s :=
    (((fixedSizeInt_consumes _ 2) _ _ _ h4).trans ((fixedSizeInt_consumes _ 2) _ _ _ h3)).trans
      ((intLenenc_consumes _ _ _ h2).trans (intLenenc_consumes _ _ _ h1))
  rw [get_bind] at h
  unfold deserializeOkRange
  rw [bind_ok h1, bind_ok h2, bind_ok h3, bind_ok h4, get_bind]
  by_cases hempty : s4 = []
  · rw [if_pos hempty] at h ⊢
    cases h
    exact Or.inl ⟨by rw [hempty]; rfl, rfl⟩
  · rw [if_neg hempty] at h ⊢
    obtain ⟨info, s5, h5, h⟩ := of_bind_ok h
    cases h
    obtain ⟨length, here, h6, h7⟩ := of_bind_ok h5
    obtain ⟨hle, rfl, rfl⟩ := of_takeN_ok h7
    have hlen : (here.take length.toNat).length = length.toNat := by
      rw [List.length_take]
      omega
    refine Or.inr ⟨here, (intLenenc_consumes _ _ _ h6).trans hs4, by rw [hlen]; exact hle, ?_, ?_⟩
    · rw [bind_ok h6, get_bind, bind_ok h7, hlen]
      rfl
    · rw [hlen]

/-! ### Buffers -/

/-- A buffer: `buffer_` of the resultset, or one that a fetch of many rows allocated. -/
inductive Buffer
  | resultset
  | fetched (n : ℕ)
  deriving DecidableEq, Repr

/-- The text of an OK packet that was read into a buffer; none where it was omitted. -/
def okView (b : Buffer) (message : Bytes) : Option (View Buffer) :=
  (okRange message).map fun range => ⟨b, range.1, range.2⟩

lemma okView_none {b : Buffer} {message : Bytes} (hok : IsOk message)
    (hv : okView b message = none) : okText message = [] := by
  obtain ⟨header, s, okPacket, rfl, hd⟩ := hok
  simp only [okView, okRange, Option.map_eq_none_iff] at hv
  simp only [okText, hd]
  rcases okRange_fields (1 + s.length) hd with ⟨-, hi⟩ | ⟨here, -, -, hr, -⟩
  · exact hi
  · rw [hr] at hv
    cases hv

lemma okView_some {b : Buffer} {message : Bytes} (hok : IsOk message) {v : View Buffer}
    (hv : okView b message = some v) :
    v.buffer = b ∧ ∀ heap : Heap Buffer UInt8, heap b = some message →
      v.read heap = some (okText message) := by
  obtain ⟨header, s, okPacket, rfl, hd⟩ := hok
  simp only [okView, okRange] at hv
  simp only [okText, hd]
  rcases okRange_fields (1 + s.length) hd with ⟨hr, -⟩ | ⟨here, hsuffix, hlen, hr, hinfo⟩
  · rw [hr] at hv
    cases hv
  · rw [hr] at hv
    cases hv
    refine ⟨rfl, fun heap hheap => ?_⟩
    obtain ⟨used, rfl⟩ := hsuffix
    have hoffset : 1 + (used ++ here).length - here.length = (header :: used).length := by
      rw [List.length_append, List.length_cons]
      omega
    have hdrop : (header :: (used ++ here)).drop (header :: used).length = here :=
      List.drop_left
    rw [View.read_live hheap, hoffset, hdrop, ← hinfo]
    · simp only [List.length_cons, List.length_append]
      omega

/-! ### Reading and fetching -/

/-- A resultset whose OK packet refers to its text, and the memory around it. -/
structure Held where
  rs : ResultSet
  channel : Channel
  info : Option (View Buffer)
  heap : Heap Buffer UInt8
  /-- How many buffers were allocated. -/
  allocated : ℕ
  /-- The messages that were processed, and where each was read into. -/
  reads : List (Buffer × Bytes)

/-- A row, and the buffer its values refer to. -/
abbrev FetchedRow := Row × Buffer

/-- What a processed message sets the text of the OK packet to. -/
def setInfo (read : Buffer × Bytes) : Option (View Buffer) :=
  if read.2.head? = some eofPacketHeader then okView read.1 read.2 else none

namespace Held

/-- `bytestring buff;`. -/
def allocate (s : Held) : Buffer × Held :=
  (.fetched s.allocated, { s with
    allocated := s.allocated + 1, heap := Function.update s.heap (.fetched s.allocated) (some []) })

/-- The end of the life of the object that owns a buffer. -/
def destroy (s : Held) (b : Buffer) : Held := { s with heap := Function.update s.heap b none }

/-- `read_row`, into a buffer. -/
def readRow (s : Held) (b : Buffer) : ReadRowResult × ErrorCode × Held :=
  let (message, err, channel) := s.channel.read
  let s := { s with channel, heap := Function.update s.heap b (some message) }
  if err.failed then (.error s.rs.okPacket, err, s)
  else
    let (result, err, _) := processReadMessage s.rs.deserializer channel.currentCaps s.rs.fields
      message s.rs.okPacket .clear
    (result, err, { s with
      info := (setInfo (b, message)).or s.info, reads := s.reads ++ [(b, message)] })

/-- `fetch_one`, and `fetch_one_op`. -/
def fetchOne (s : Held) : List FetchedRow × ErrorCode × Held :=
  if s.rs.complete then ([], .success, s)
  else
    let (result, err, s) := s.readRow .resultset
    let s := { s with rs := s.rs.received result }
    match result with
    | .row values => ([(values, .resultset)], err, s)
    | _ => ([], err, s)

/-- The loop of `fetch_many`: each turn has a buffer of its own, which a row takes with it. -/
def fetchLoop : ℕ → Held → List FetchedRow × ErrorCode × Held
  | 0, s => ([], .success, s)
  | count + 1, s =>
    let (buff, s) := s.allocate
    let (result, err, s) := s.readRow buff
    let s := { s with rs := s.rs.received result }
    match result with
    | .row values =>
      let (rows, err, s) := fetchLoop count s
      ((values, buff) :: rows, err, s)
    | _ => ([], err, s.destroy buff)

def fetchMany (count : ℕ) (s : Held) : List FetchedRow × ErrorCode × Held :=
  if s.rs.complete then ([], .success, s) else fetchLoop count s

/-- The loop of `fetch_many_op`: the buffer is that of the operation, until a row takes it. The
buffer the operation is left with comes last. -/
def fetchOpLoop : ℕ → Buffer → Held → List FetchedRow × ErrorCode × Held × Buffer
  | 0, buffer, s => ([], .success, s, buffer)
  | remaining + 1, buffer, s =>
    let (result, err, s) := s.readRow buffer
    match result with
    | .error _ => ([], err, { s with rs := FetchState.readInto s.rs result }, buffer)
    | .eof _ => ([], err, { s with rs := s.rs.received result }, buffer)
    | .row values =>
      let (next, s) := s.allocate
      let (rows, err, s, last) := fetchOpLoop remaining next s
      ((values, buffer) :: rows, err, s, last)

/-- `fetch_many_op`: what it owns is destroyed when it has completed. -/
def fetchManyOp (count : ℕ) (s : Held) : List FetchedRow × ErrorCode × Held :=
  let (buffer, s) := s.allocate
  if s.rs.complete then ([], .success, s.destroy buffer)
  else
    let (rows, err, s, last) := fetchOpLoop count buffer s
    (rows, err, s.destroy last)

/-- A fetch, synchronous or not. -/
def fetch (s : Held) (async : Bool) : FetchCall → List FetchedRow × ErrorCode × Held
  | .one => s.fetchOne
  | .many count => if async then s.fetchManyOp count else s.fetchMany count
  | .all => if async then s.fetchManyOp sizeMax else s.fetchMany sizeMax

/-- Fetch after fetch, and the rows of all of them. -/
def run (s : Held) : List (Bool × FetchCall) → List FetchedRow × Held
  | [] => ([], s)
  | (async, call) :: calls =>
    let (rows, _, s) := s.fetch async call
    let (rest, s) := s.run calls
    (rows ++ rest, s)

end Held

/-! ### What the fetches do to the resultset -/

lemma readRow_of {s : Held} {result : ReadRowResult} {err : ErrorCode} {info : ErrorInfo}
    {ch : Channel} (b : Buffer)
    (hq : ReadRow.readRow s.rs.deserializer s.channel s.rs.fields s.rs.okPacket .clear =
      (result, err, info, ch)) :
    ∃ s', s.readRow b = (result, err, s') ∧ s'.rs = s.rs ∧ s'.channel = ch := by
  rcases hr : s.channel.read with ⟨message, err, channel⟩
  simp only [ReadRow.readRow, hr] at hq
  simp only [Held.readRow, hr]
  cases he : err.failed with
  | true =>
    simp only [he, if_true] at hq ⊢
    cases hq
    exact ⟨_, rfl, rfl, rfl⟩
  | false =>
    simp only [he, Bool.false_eq_true, if_false] at hq ⊢
    cases hq
    exact ⟨_, rfl, rfl, rfl⟩

/-- What a fetch returns and leaves, but for the buffers. -/
def forget (r : List FetchedRow × ErrorCode × Held) : List Row × ErrorCode × ResultSet × Channel :=
  (r.1.map Prod.fst, r.2.1, r.2.2.rs, r.2.2.channel)

/-- The same of a fetch without buffers, and its text of the error left out. -/
def withoutInfo (r : Fetched × ResultSet × Channel) : List Row × ErrorCode × ResultSet × Channel :=
  (r.1.rows, r.1.err, r.2.1, r.2.2)

lemma fetchOne_forget (s : Held) :
    forget s.fetchOne = withoutInfo (s.rs.fetch s.channel .one) := by
  rw [Held.fetchOne, ResultSet.fetch, ResultSet.fetchOne]
  cases hc : s.rs.complete with
  | true => rfl
  | false =>
    rcases hq : ReadRow.readRow s.rs.deserializer s.channel s.rs.fields s.rs.okPacket .clear with
      ⟨result, err, info, ch⟩
    obtain ⟨s', hr, hrs, rfl⟩ := readRow_of .resultset hq
    simp only [hr, Bool.false_eq_true, if_false, ← hrs]
    cases result <;> rfl

lemma fetchLoop_forget (count : ℕ) (s : Held) :
    forget (s.fetchLoop count) = withoutInfo (s.rs.fetchLoop count s.channel .clear) := by
  induction count generalizing s with
  | zero => rfl
  | succ count ih =>
    rcases hq : ReadRow.readRow s.rs.deserializer s.channel s.rs.fields s.rs.okPacket .clear with
      ⟨result, err, info, ch⟩
    obtain ⟨s', hr, hrs, rfl⟩ := @readRow_of s.allocate.2 _ _ _ _ s.allocate.1 hq
    have hrs' : s'.rs = s.rs := hrs
    simp only [Held.fetchLoop, ResultSet.fetchLoop, hr, hq, hrs']
    cases result with
    | error => rfl
    | eof okPacket => rfl
    | row values =>
      obtain ⟨-, rfl⟩ := readRow_ok (fun _ h => by cases h) hq
      have h := ih { s' with rs := s.rs.received (.row values) }
      simp only [forget, withoutInfo, Prod.mk.injEq] at h ⊢
      exact ⟨congrArg (values :: ·) h.1, h.2⟩

lemma fetchOpLoop_forget (count : ℕ) (b : Buffer) (s : Held) (hc : s.rs.complete = false) :
    let r := s.fetchOpLoop count b
    forget (r.1, r.2.1, r.2.2.1) = withoutInfo (s.rs.fetchLoop count s.channel .clear) := by
  induction count generalizing b s with
  | zero => rfl
  | succ count ih =>
    rcases hq : ReadRow.readRow s.rs.deserializer s.channel s.rs.fields s.rs.okPacket .clear with
      ⟨result, err, info, ch⟩
    obtain ⟨s', hr, hrs, rfl⟩ := readRow_of b hq
    simp only [Held.fetchOpLoop, ResultSet.fetchLoop, hr, hq, hrs]
    cases result with
    | error =>
      rw [received_error hc, ← hrs]
      rfl
    | eof okPacket => rfl
    | row values =>
      obtain ⟨-, rfl⟩ := readRow_ok (fun _ h => by cases h) hq
      rw [← hrs] at hc
      have h := ih s'.allocate.1 s'.allocate.2 hc
      rw [← hrs, received_row hc]
      simp only [forget, withoutInfo, Prod.mk.injEq] at h ⊢
      exact ⟨congrArg (values :: ·) h.1, h.2⟩

/-- But for the buffers, a fetch does what it does to a resultset and its channel. -/
theorem fetch_forget (s : Held) (async : Bool) (call : FetchCall) :
    forget (s.fetch async call) = withoutInfo (s.rs.fetch s.channel call) := by
  have hmany (count : ℕ) :
      forget (if async then s.fetchManyOp count else s.fetchMany count) =
        withoutInfo (s.rs.fetchMany count s.channel) := by
    cases async with
    | false =>
      simp only [Held.fetchMany, ResultSet.fetchMany, Bool.false_eq_true, if_false]
      split_ifs
      · rfl
      · exact fetchLoop_forget count s
    | true =>
      rw [if_pos rfl, Held.fetchManyOp, ResultSet.fetchMany]
      cases hc : s.rs.complete with
      | true =>
        rw [if_pos rfl]
        have hc' : s.allocate.2.rs.complete = true := hc
        simp only [hc', if_true]
        rfl
      | false =>
        have hc' : s.allocate.2.rs.complete = false := hc
        simp only [hc', Bool.false_eq_true, if_false]
        exact fetchOpLoop_forget count s.allocate.1 s.allocate.2 hc
  cases call with
  | one => exact fetchOne_forget s
  | many count => exact hmany count
  | all => exact hmany sizeMax

/-! ### What holds of the text -/

/-- The text that the last message to set it has set. -/
def lastInfo (reads : List (Buffer × Bytes)) : Option (View Buffer) :=
  (reads.filterMap setInfo).getLast?

lemma lastInfo_concat (reads : List (Buffer × Bytes)) (read : Buffer × Bytes) :
    lastInfo (reads ++ [read]) = (setInfo read).or (lastInfo reads) := by
  rw [lastInfo, List.filterMap_append]
  cases hi : setInfo read <;> simp [hi, lastInfo]

/-- A message that ends a resultset. -/
def EndsResultset (message : Bytes) : Prop :=
  message.head? = some eofPacketHeader ∧ IsOk message

/-- What holds of a resultset with columns in all fetches. -/
structure Traced (s : Held) : Prop where
  info : s.info = lastInfo s.reads
  complete : s.rs.complete = true → ∃ pre b message, s.reads = pre ++ [(b, message)] ∧
    EndsResultset message ∧ (b = .resultset → s.heap .resultset = some message)

/-- Whether the fields are those of an OK packet does not depend on where they are read to. -/
lemma okPacket_output {output okPacket : OkPacket} (output' : OkPacket) {s rest : Bytes}
    (h : deserializeOkPacket output s = .ok (okPacket, rest)) :
    ∃ okPacket', deserializeOkPacket output' s = .ok (okPacket', rest) := by
  unfold deserializeOkPacket at h ⊢
  obtain ⟨affectedRows, s1, h1, h⟩ := of_bind_ok h
  obtain ⟨lastInsertId, s2, h2, h⟩ := of_bind_ok h
  obtain ⟨statusFlags, s3, h3, h⟩ := of_bind_ok h
  obtain ⟨warnings, s4, h4, h⟩ := of_bind_ok h
  rw [bind_ok h1, bind_ok h2, bind_ok h3, bind_ok h4]
  rw [get_bind] at h ⊢
  by_cases hempty : s4 = []
  · rw [if_pos hempty] at h ⊢
    cases h
    exact ⟨_, rfl⟩
  · rw [if_neg hempty] at h ⊢
    exact ⟨_, h⟩

lemma processReadMessage_eof {deserializer : DeserializeRowFn} {caps : Capabilities}
    {fields : List FieldMetadata} {message : Bytes} {output okPacket : OkPacket}
    {info info' : ErrorInfo} {err : ErrorCode}
    (h : processReadMessage deserializer caps fields message output info =
      (.eof okPacket, err, info')) : EndsResultset message := by
  cases message with
  | nil => cases h
  | cons b s =>
    simp only [processReadMessage, deserializeMessageType_cons] at h
    by_cases hb : b = eofPacketHeader
    · rw [if_pos hb] at h
      split at h
      · cases h
      · next okPacket1 hd =>
        obtain ⟨okPacket', h'⟩ := okPacket_output .default (of_deserializeMessage_ok hd)
        exact ⟨by rw [hb]; rfl, b, s, okPacket', rfl, h'⟩
    · rw [if_neg hb] at h
      split_ifs at h
      · cases h
      · split at h <;> cases h

lemma Traced.readRow {s : Held} (ht : Traced s) (b : Buffer) :
    let r := s.readRow b
    Traced { r.2.2 with rs := s.rs.received r.1 } := by
  rcases hr : s.channel.read with ⟨message, err, channel⟩
  simp only [Held.readRow, hr]
  cases he : err.failed with
  | true =>
    simp only [if_true]
    exact ⟨ht.info, fun h => by cases h⟩
  | false =>
    rcases hp : processReadMessage s.rs.deserializer channel.currentCaps s.rs.fields message
      s.rs.okPacket .clear with ⟨result, err', info⟩
    simp only [Bool.false_eq_true, if_false]
    refine ⟨?_, fun h => ⟨s.reads, b, message, rfl, ?_, ?_⟩⟩
    · rw [ht.info, lastInfo_concat]
    · cases result with
      | eof okPacket => exact processReadMessage_eof hp
      | error => cases h
      | row values => cases h
    · rintro rfl
      exact Function.update_self Buffer.resultset (some message) s.heap

lemma update_fetched (heap : Heap Buffer UInt8) (n : ℕ) (contents : Option Bytes) :
    Function.update heap (.fetched n) contents .resultset = heap .resultset :=
  Function.update_of_ne (by simp) _ _

/-- What happens to the buffers of the fetches of many rows does not matter. -/
lemma Traced.withHeap {s : Held} (ht : Traced s) {heap : Heap Buffer UInt8} {allocated : ℕ}
    (hh : heap .resultset = s.heap .resultset) : Traced { s with heap, allocated } where
  info := ht.info
  complete h := by
    obtain ⟨pre, b, message, hreads, hend, hb⟩ := ht.complete h
    exact ⟨pre, b, message, hreads, hend, fun h => hh.trans (hb h)⟩

lemma allocate_heap (s : Held) : s.allocate.2.heap .resultset = s.heap .resultset :=
  update_fetched s.heap s.allocated (some [])

lemma destroy_heap (s : Held) (n : ℕ) :
    (s.destroy (.fetched n)).heap .resultset = s.heap .resultset :=
  update_fetched s.heap n none

lemma Traced.allocate {s : Held} (ht : Traced s) : Traced s.allocate.2 :=
  ht.withHeap (allocate_heap s)

lemma Traced.destroy {s : Held} (ht : Traced s) (n : ℕ) : Traced (s.destroy (.fetched n)) :=
  ht.withHeap (destroy_heap s n)

lemma readRow_rs (s : Held) (b : Buffer) : (s.readRow b).2.2.rs = s.rs := by
  obtain ⟨s', hr, hrs, -⟩ := @readRow_of s _ _ _ _ b rfl
  rw [hr, hrs]

lemma Traced.fetchOne {s : Held} (ht : Traced s) : Traced s.fetchOne.2.2 := by
  rw [Held.fetchOne]
  split_ifs with hc
  · exact ht
  · have hrow := ht.readRow .resultset
    have hrs := readRow_rs s .resultset
    rcases hr : s.readRow .resultset with ⟨result, err, s'⟩
    rw [hr] at hrow hrs
    simp only [] at hrow hrs
    cases result <;> simpa only [hrs] using hrow

lemma Traced.fetchLoop (count : ℕ) {s : Held} (ht : Traced s) :
    Traced (s.fetchLoop count).2.2 := by
  induction count generalizing s with
  | zero => exact ht
  | succ count ih =>
    have hrow := ht.allocate.readRow s.allocate.1
    have hrs := readRow_rs s.allocate.2 s.allocate.1
    rcases hr : s.allocate.2.readRow s.allocate.1 with ⟨result, err, s'⟩
    rw [hr] at hrow hrs
    simp only [← hrs] at hrow
    simp only [Held.fetchLoop, hr]
    cases result with
    | row values => exact ih hrow
    | eof okPacket => exact hrow.destroy s.allocated
    | error => exact hrow.destroy s.allocated

lemma Traced.fetchOpLoop (count n : ℕ) {s : Held} (ht : Traced s) (hc : s.rs.complete = false) :
    let r := s.fetchOpLoop count (.fetched n)
    Traced r.2.2.1 ∧ ∃ m, r.2.2.2 = .fetched m := by
  induction count generalizing n s with
  | zero => exact ⟨ht, n, rfl⟩
  | succ count ih =>
    have hrow := ht.readRow (.fetched n)
    have hrs := readRow_rs s (.fetched n)
    rcases hr : s.readRow (.fetched n) with ⟨result, err, s'⟩
    rw [hr] at hrow hrs
    simp only [← hrs] at hrow
    rw [← hrs] at hc
    simp only [Held.fetchOpLoop, hr]
    cases result with
    | error =>
      simp only [received_error hc] at hrow
      exact ⟨hrow, n, rfl⟩
    | eof okPacket => exact ⟨hrow, n, rfl⟩
    | row values =>
      simp only [received_row hc] at hrow
      exact ih s'.allocated hrow.allocate hc

lemma Traced.fetch {s : Held} (ht : Traced s) (async : Bool) (call : FetchCall) :
    Traced (s.fetch async call).2.2 := by
  have hmany (count : ℕ) :
      Traced (if async then s.fetchManyOp count else s.fetchMany count).2.2 := by
    cases async with
    | false =>
      simp only [Held.fetchMany, Bool.false_eq_true, if_false]
      split_ifs
      · exact ht
      · exact ht.fetchLoop count
    | true =>
      -- the operation allocates a buffer before it looks whether the resultset is complete
      simp only [if_true, Held.fetchManyOp]
      cases hc : s.allocate.2.rs.complete with
      | true => exact ht.allocate.destroy _
      | false =>
        obtain ⟨hl, m, hm⟩ := ht.allocate.fetchOpLoop count s.allocated hc
        have hb : s.allocate.1 = .fetched s.allocated := rfl
        simp only [Bool.false_eq_true, if_false, hb, hm]
        exact hl.destroy m
  cases call with
  | one => exact ht.fetchOne
  | many count => exact hmany count
  | all => exact hmany sizeMax

lemma Traced.run {s : Held} (ht : Traced s) (calls : List (Bool × FetchCall)) :
    Traced (s.run calls).2 := by
  induction calls generalizing s with
  | nil => exact ht
  | cons call calls ih => exact ih (ht.fetch call.1 call.2)

/-! ### Resultsets that are complete from the start -/

/-- What a fetch leaves of a resultset that is complete. -/
structure Untouched (s s' : Held) : Prop where
  rs : s'.rs = s.rs
  info : s'.info = s.info
  reads : s'.reads = s.reads
  heap : s'.heap .resultset = s.heap .resultset

lemma fetch_untouched {s : Held} (hc : s.rs.complete = true) (async : Bool) (call : FetchCall) :
    ∃ s', s.fetch async call = ([], .success, s') ∧ Untouched s s' := by
  have hone : s.fetchOne = ([], .success, s) := by rw [Held.fetchOne, if_pos hc]
  have hmany (count : ℕ) : s.fetchMany count = ([], .success, s) := by
    rw [Held.fetchMany, if_pos hc]
  have hop (count : ℕ) :
      s.fetchManyOp count = ([], .success, s.allocate.2.destroy s.allocate.1) := if_pos hc
  have hs : Untouched s s := ⟨rfl, rfl, rfl, rfl⟩
  have hd : Untouched s (s.allocate.2.destroy s.allocate.1) :=
    ⟨rfl, rfl, rfl, (destroy_heap s.allocate.2 s.allocated).trans (allocate_heap s)⟩
  cases call with
  | one => exact ⟨s, hone, hs⟩
  | many count =>
    cases async with
    | false => exact ⟨s, hmany count, hs⟩
    | true => exact ⟨_, hop count, hd⟩
  | all =>
    cases async with
    | false => exact ⟨s, hmany sizeMax, hs⟩
    | true => exact ⟨_, hop sizeMax, hd⟩

lemma run_untouched {s : Held} (hc : s.rs.complete = true) (calls : List (Bool × FetchCall)) :
    (s.run calls).1 = [] ∧ Untouched s (s.run calls).2 := by
  induction calls generalizing s with
  | nil => exact ⟨rfl, rfl, rfl, rfl, rfl⟩
  | cons call calls ih =>
    obtain ⟨s', hf, h⟩ := fetch_untouched hc call.1 call.2
    obtain ⟨hrest, h'⟩ := ih (h.rs ▸ hc)
    simp only [Held.run, hf, List.nil_append]
    exact ⟨hrest, h'.rs.trans h.rs, h'.info.trans h.info, h'.reads.trans h.reads,
      h'.heap.trans h.heap⟩

/-! ### The resultset owns its text -/

/-- What a resultset is obtained from: an OK response, whose buffer is moved into it, or a
response with columns. -/
inductive Origin
  | ok (message : Bytes) (h : IsOk message)
  | columns (fields : List FieldMetadata) (deserializer : DeserializeRowFn)

def emptyHeap : Heap Buffer UInt8
  | .resultset => some []
  | .fetched _ => none

/-- The OK packet of a response. -/
def okPacketOf : Bytes → OkPacket
  | [] => .default
  | _ :: s =>
    match deserializeOkPacket .default s with
    | .ok (okPacket, _) => okPacket
    | .error _ => .default

/-- The resultset, as it is obtained. -/
def Origin.start (channel : Channel) : Origin → Held
  | .ok message _ => ⟨.ofOk (okPacketOf message), channel, okView .resultset message,
      Function.update emptyHeap .resultset (some message), 0, []⟩
  | .columns fields deserializer => ⟨.ofFields fields deserializer, channel, none, emptyHeap, 0, []⟩

/-- The text of the OK packet that ended the resultset: of the last message, or of the response
where no message was needed. -/
def Origin.endText (o : Origin) (reads : List (Buffer × Bytes)) : Bytes :=
  match reads.getLast?, o with
  | some (_, message), _ => okText message
  | none, .ok message _ => okText message
  | none, .columns _ _ => []

/-- Destroy some rows, and the buffers they own. -/
def destroyRows (rows : List FetchedRow) (heap : Heap Buffer UInt8) : Heap Buffer UInt8
  | .resultset => heap .resultset
  | .fetched n => if .fetched n ∈ rows.map Prod.snd then none else heap (.fetched n)

/-- `info()`, where it can be read. -/
def infoText (info : Option (View Buffer)) (heap : Heap Buffer UInt8) : Option Bytes :=
  match info with
  | none => some []
  | some v => v.read heap

/-- The text refers to the buffer of the resultset, and is that of the packet that ended it,
whichever rows are destroyed. -/
structure InfoOwned (o : Origin) (rows : List FetchedRow) (s : Held) : Prop where
  owned : ∀ v, s.info = some v → v.buffer = .resultset
  text : ∀ gone, gone ⊆ rows → infoText s.info (destroyRows gone s.heap) = some (o.endText s.reads)

/-- The last message that set the text was read into the buffer of the resultset, and is the one
that ended it or has no text. -/
def ReadIntoResultset (reads : List (Buffer × Bytes)) : Prop :=
  ∀ v, lastInfo reads = some v → v.buffer = .resultset ∧
    (v.length = 0 ∨ ∃ last, reads.getLast? = some last ∧ setInfo last = some v)

lemma infoOwned_ok (message : Bytes) (h : IsOk message) (channel : Channel)
    (calls : List (Bool × FetchCall)) :
    let r := ((Origin.ok message h).start channel).run calls
    InfoOwned (.ok message h) r.1 r.2 := by
  obtain ⟨-, hu⟩ := @run_untouched ((Origin.ok message h).start channel) rfl calls
  have hreads : (((Origin.ok message h).start channel).run calls).2.reads = [] := hu.reads
  have hinfo : (((Origin.ok message h).start channel).run calls).2.info =
    okView .resultset message := hu.info
  have hheap : (((Origin.ok message h).start channel).run calls).2.heap .resultset =
    some message := hu.heap
  refine ⟨fun v hv => ?_, fun gone _ => ?_⟩
  · rw [hinfo] at hv
    exact (okView_some h hv).1
  · rw [hinfo, hreads]
    cases hv : okView .resultset message with
    | none => simp only [infoText, Origin.endText, List.getLast?_nil, okView_none h hv]
    | some v => exact (okView_some h hv).2 _ hheap

lemma setInfo_of_ends {b : Buffer} {message : Bytes} (h : EndsResultset message) :
    setInfo (b, message) = okView b message := if_pos h.1

lemma endText_concat (o : Origin) (pre : List (Buffer × Bytes)) (b : Buffer) (message : Bytes) :
    o.endText (pre ++ [(b, message)]) = okText message := by
  simp only [Origin.endText, List.getLast?_concat]

section Columns

variable {o : Origin} {s : Held} {rows : List FetchedRow} {pre : List (Buffer × Bytes)}
  {b : Buffer} {message : Bytes}

lemma infoOwned_iff_of_text (hi : s.info = lastInfo s.reads)
    (hreads : s.reads = pre ++ [(b, message)])
    (hm : EndsResultset message) (hb : b = .resultset → s.heap .resultset = some message)
    {v : View Buffer} (hv : okView b message = some v) :
    InfoOwned o rows s ↔ ReadIntoResultset s.reads := by
  have hset : setInfo (b, message) = some v := (setInfo_of_ends hm).trans hv
  have hlast : lastInfo s.reads = some v := by
    rw [hreads, lastInfo_concat, hset, Option.some_or]
  obtain ⟨rfl, hread⟩ := okView_some hm.2 hv
  constructor
  · intro h v' hv'
    cases hlast.symm.trans hv'
    exact ⟨h.owned v (hi.trans hlast), Or.inr ⟨_, hreads ▸ List.getLast?_concat, hset⟩⟩
  · intro h
    obtain ⟨hbuffer, -⟩ := h v hlast
    refine ⟨fun v' hv' => ?_, fun gone _ => ?_⟩
    -- its buffer is that of the resultset, which still has the message
    · rw [hi, hlast] at hv'
      cases hv'
      exact hbuffer
    · rw [hi, hlast, hreads, endText_concat]
      refine hread _ ?_
      rw [hbuffer]
      exact hb hbuffer

lemma infoOwned_iff_of_empty (hi : s.info = lastInfo s.reads)
    (hreads : s.reads = pre ++ [(b, message)]) (hm : EndsResultset message)
    (hv : okView b message = none) : InfoOwned o rows s ↔ ReadIntoResultset s.reads := by
  have hset : setInfo (b, message) = none := (setInfo_of_ends hm).trans hv
  have hend : o.endText s.reads = [] := by rw [hreads, endText_concat, okView_none hm.2 hv]
  have hno (v : View Buffer) : ¬ ∃ last, s.reads.getLast? = some last ∧ setInfo last = some v := by
    rintro ⟨last, hl, hs⟩
    rw [hreads, List.getLast?_concat] at hl
    cases hl
    rw [hset] at hs
    cases hs
  constructor
  · intro h v hl
    have htext := h.text [] (List.nil_subset rows)
    rw [hi, hl, hend] at htext
    exact ⟨h.owned v (hi.trans hl), Or.inl (View.read_nil_iff.mp htext)⟩
  · intro h
    refine ⟨fun v hs => (h v (hi.symm.trans hs)).1, fun gone _ => ?_⟩
    rw [hi, hend]
    cases hl : lastInfo s.reads with
    | none => rfl
    -- a text that was set before has to be empty, as that of the end is
    | some v => exact View.read_empty ((h v hl).2.resolve_right (hno v))

lemma infoOwned_columns_iff (ht : Traced s) (hc : s.rs.complete = true) :
    InfoOwned o rows s ↔ ReadIntoResultset s.reads := by
  obtain ⟨pre, b, message, hreads, hm, hb⟩ := ht.complete hc
  cases hv : okView b message with
  | some v => exact infoOwned_iff_of_text ht.info hreads hm hb hv
  | none => exact infoOwned_iff_of_empty ht.info hreads hm hv

end Columns

end MysqlAsio.InfoOwnership
