import MysqlAsio.BinaryRoundTrip
import MysqlAsio.Resultset
import MysqlAsio.TextDeserialization

/-!
Fetching in any order, from a server that sends rows and then an end.
-/

namespace MysqlAsio.Fetching

open MysqlAsio.Errors MysqlAsio.Serialization MysqlAsio.CommonMessages MysqlAsio.Values
open MysqlAsio.Streams MysqlAsio.Channels MysqlAsio.Framing MysqlAsio.ReadRow
open MysqlAsio.Resultset MysqlAsio.TextDeserialization MysqlAsio.BinaryRoundTrip

/-! ### What arrives -/

/-- How the client reads the messages of a resultset. -/
structure Reading where
  deserializer : DeserializeRowFn
  currentCaps : Capabilities
  fields : List FieldMetadata

/-- The messages of rows: no ERR packet, and the deserializer makes a row of them. -/
structure RowMessage (r : Reading) (message : Bytes) (row : Row) : Prop where
  ne_nil : message ≠ []
  not_err : message.head? ≠ some errorPacketHeader
  decodes : r.deserializer ⟨message, r.currentCaps⟩ r.fields = .ok row

/-- A message that is an ERR packet with a code, or that does not decode. -/
inductive Broken (r : Reading) : Bytes → Prop
  | empty : Broken r []
  | err (e : ErrPacket) (hm : e.sqlStateMarker.length = 1) (hs : e.sqlState.length = 5)
      (hc : e.errorCode ≠ 0) : Broken r (errorPacketHeader :: encodeErrPacket e)
  | undecodableErr (s : Bytes) (h : ∀ e, deserializeErrPacket s ≠ .ok (e, [])) :
      Broken r (errorPacketHeader :: s)
  | undecodableEof (s : Bytes) (h : ∀ output ok, deserializeOkPacket output s ≠ .ok (ok, [])) :
      Broken r (eofPacketHeader :: s)
  | undecodableRow (b : UInt8) (s : Bytes) (err : ErrorCode) (he : b ≠ errorPacketHeader)
      (hf : b ≠ eofPacketHeader) (hd : r.deserializer ⟨b :: s, r.currentCaps⟩ r.fields = .error err)
      (herr : err.failed = true) : Broken r (b :: s)

/-- What comes after the rows. -/
inductive Ending (r : Reading) where
  | eof (okPacket : OkPacket) (omitInfo : Bool) (h : okPacket.info.length < 2 ^ 64)
  | broken (message : Bytes) (h : Broken r message)

def Ending.message {r : Reading} : Ending r → Bytes
  | .eof okPacket omitInfo _ => encodeEof okPacket omitInfo
  | .broken message _ => message

/-- The rows a server sends, each with its message, and how they end. -/
structure Incoming (r : Reading) where
  rows : List (Bytes × Row)
  ending : Ending r
  rowMessages : ∀ p ∈ rows, RowMessage r p.1 p.2

/-- The messages still to arrive when `left` are the rows not fetched yet. -/
def Incoming.messages {r : Reading} (i : Incoming r) (left : List (Bytes × Row)) : List Bytes :=
  left.map Prod.fst ++ [i.ending.message]

/-- No row is taken for the end. -/
def Incoming.Recognisable {r : Reading} (i : Incoming r) : Prop :=
  ∀ p ∈ i.rows, p.1.head? ≠ some eofPacketHeader

/-! ### One message -/

section Message

variable {r : Reading} (okPacket : OkPacket) (info : ErrorInfo)

lemma Broken.process {message : Bytes} (h : Broken r message) :
    ∃ left err info', err.failed = true ∧
      processReadMessage r.deserializer r.currentCaps r.fields message okPacket info =
        (.error left, err, info') := by
  cases h with
  | empty => exact ⟨_, _, _, rfl, rfl⟩
  | err e hm hs hc =>
    refine ⟨okPacket, makeErrorCode (.server e.errorCode), ⟨e.errorMessage⟩, by simpa using hc, ?_⟩
    have hp := processErrorPacket_encode hm hs r.currentCaps info
    simp [processReadMessage, hp, errorPacketHeader, eofPacketHeader]
  | undecodableErr s h =>
    obtain ⟨err, he, hd⟩ := deserializeMessage_undecodable errPacket_failsOnly h r.currentCaps
    refine ⟨okPacket, err, info, he, ?_⟩
    simp [processReadMessage, processErrorPacket, hd, errorPacketHeader, eofPacketHeader]
  | undecodableEof s h =>
    obtain ⟨err, he, hd⟩ :=
      deserializeMessage_undecodable (okPacket_failsOnly okPacket) (h okPacket) r.currentCaps
    -- the fields that could be read are left in the packet
    exact ⟨okPacketLeft okPacket s, err, info, he, by simp [processReadMessage, hd]⟩
  | undecodableRow b s err he hf hd herr =>
    exact ⟨okPacket, err, info, herr, by simp [processReadMessage, he, hf, hd]⟩

lemma RowMessage.process {message : Bytes} {row : Row} (h : RowMessage r message row)
    (hne : message.head? ≠ some eofPacketHeader) :
    processReadMessage r.deserializer r.currentCaps r.fields message okPacket info =
      (.row row, .success, info) := by
  obtain ⟨b, s, rfl⟩ := List.exists_cons_of_ne_nil h.ne_nil
  have h1 : b ≠ eofPacketHeader := by simpa using hne
  have h2 : b ≠ errorPacketHeader := by simpa using h.not_err
  simp [processReadMessage, h1, h2, h.decodes]

lemma process_eof_not_row {message : Bytes} (h : message.head? = some eofPacketHeader) :
    ∀ values, (processReadMessage r.deserializer r.currentCaps r.fields message okPacket info).1 ≠
      .row values := by
  intro values
  obtain ⟨b, s, rfl⟩ : ∃ b s, message = b :: s := by
    cases message with
    | nil => cases h
    | cons b s => exact ⟨b, s, rfl⟩
  have hb : b = eofPacketHeader := by simpa using h
  simp only [processReadMessage, deserializeMessageType_cons, hb, if_true]
  split <;> simp

end Message

/-! ### Positions -/

section Position

variable {r : Reading} (i : Incoming r) (rest : List Arrival)

/-- The resultset has these rows left, and has not seen how they end. -/
structure Unfinished (left : List (Bytes × Row)) (rs : ResultSet) (ch : Channel) : Prop where
  deserializer : rs.deserializer = r.deserializer
  fields : rs.fields = r.fields
  currentCaps : ch.currentCaps = r.currentCaps
  incomplete : rs.complete = false
  delivers : Delivers ch (i.messages left) rest

/-- The resultset is complete, and nothing of it is left to arrive. -/
structure Finished (rs : ResultSet) (ch : Channel) : Prop where
  complete : rs.complete = true
  delivers : Delivers ch [] rest

variable {i rest}

lemma Unfinished.readRow {left : List (Bytes × Row)} {rs : ResultSet} {ch : Channel}
    (h : Unfinished i rest left rs ch) {m : Bytes} {ms : List Bytes}
    (hm : i.messages left = m :: ms) (info : ErrorInfo) :
    ReadRow.readRow rs.deserializer ch rs.fields rs.okPacket info =
      let p := processReadMessage r.deserializer r.currentCaps r.fields m rs.okPacket info
      (p.1, p.2.1, p.2.2, afterMessage ch m ms rest) := by
  have hd := h.delivers
  rw [hm] at hd
  simp [ReadRow.readRow, hd.read, h.deserializer, h.fields, h.currentCaps]

lemma Unfinished.next {p : Bytes × Row} {left : List (Bytes × Row)} {rs : ResultSet}
    {ch : Channel} (h : Unfinished i rest (p :: left) rs ch) (hp : RowMessage r p.1 p.2)
    (hne : p.1.head? ≠ some eofPacketHeader) :
    ∃ rs' ch', Unfinished i rest left rs' ch' ∧ rs'.okPacket = rs.okPacket ∧
      ∀ count info, rs.fetchLoop (count + 1) ch info =
        let f := rs'.fetchLoop count ch' info
        ({ f.1 with rows := p.2 :: f.1.rows }, f.2) := by
  refine ⟨rs.received (.row p.2), afterMessage ch p.1 (i.messages left) rest, ?_, rfl, ?_⟩
  · exact ⟨h.deserializer, h.fields, h.currentCaps, rfl, delivers_afterMessage _ _ _ _⟩
  · intro count info
    rw [ResultSet.fetchLoop, h.readRow rfl, hp.process _ _ hne]
    rfl

lemma Unfinished.skip {pre post : List (Bytes × Row)} {rs : ResultSet} {ch : Channel}
    (h : Unfinished i rest (pre ++ post) rs ch) (hp : ∀ p ∈ pre, RowMessage r p.1 p.2)
    (hne : ∀ p ∈ pre, p.1.head? ≠ some eofPacketHeader) :
    ∃ rs' ch', Unfinished i rest post rs' ch' ∧ rs'.okPacket = rs.okPacket ∧
      ∀ count info, rs.fetchLoop (pre.length + count) ch info =
        let f := rs'.fetchLoop count ch' info
        ({ f.1 with rows := pre.map Prod.snd ++ f.1.rows }, f.2) := by
  induction pre generalizing rs ch with
  | nil => exact ⟨rs, ch, h, rfl, fun count info => by simp⟩
  | cons p pre ih =>
    obtain ⟨rs1, ch1, h1, ho1, hf1⟩ := h.next (hp p (by simp)) (hne p (by simp))
    obtain ⟨rs2, ch2, h2, ho2, hf2⟩ :=
      ih h1 (fun q hq => hp q (by simp [hq])) (fun q hq => hne q (by simp [hq]))
    refine ⟨rs2, ch2, h2, ho2.trans ho1, fun count info => ?_⟩
    rw [List.length_cons, show pre.length + 1 + count = pre.length + count + 1 by omega, hf1, hf2]
    rfl

/-- What the message that ends the rows does, however the client takes it. -/
lemma Unfinished.fetchLoop_last {rs : ResultSet} {ch : Channel} (h : Unfinished i rest [] rs ch)
    {result : ReadRowResult} {err : ErrorCode} {info info' : ErrorInfo}
    (hp : processReadMessage r.deserializer r.currentCaps r.fields i.ending.message rs.okPacket
      info = (result, err, info')) (hne : ∀ values, result ≠ .row values) (count : ℕ) :
    rs.fetchLoop (count + 1) ch info =
      (⟨[], err, info'⟩, rs.received result, afterMessage ch i.ending.message [] rest) := by
  have hm : i.messages [] = [i.ending.message] := rfl
  rw [ResultSet.fetchLoop, h.readRow hm info, hp]
  cases result with
  | row values => exact absurd rfl (hne values)
  | eof okPacket => rfl
  | error okPacket => rfl

lemma Unfinished.ends {rs : ResultSet} {ch : Channel} (h : Unfinished i rest [] rs ch)
    (count : ℕ) (info : ErrorInfo) :
    let f := rs.fetchLoop (count + 1) ch info
    f.1.rows = [] ∧ Delivers f.2.2 [] rest ∧
    match i.ending with
    | .eof _ _ _ => f.1.err = .success ∧ f.2.1.complete = true
    | .broken _ _ => f.1.err.failed = true ∧ f.2.1.complete = false := by
  have hd := delivers_afterMessage ch i.ending.message [] rest
  cases he : i.ending with
  | eof okPacket omitInfo hi =>
    have hp : processReadMessage r.deserializer r.currentCaps r.fields i.ending.message
        rs.okPacket info = (.eof (okPacket.withInfo rs.okPacket omitInfo), .success, info) := by
      rw [he]
      exact encodeEof_takenForEof hi omitInfo _ _ _ _ _
    rw [h.fetchLoop_last hp (by simp) count]
    exact ⟨rfl, hd, rfl, rfl⟩
  | broken message hb =>
    obtain ⟨left, err, info', herr, hp⟩ := hb.process rs.okPacket info
    have hp' : processReadMessage r.deserializer r.currentCaps r.fields i.ending.message
        rs.okPacket info = (.error left, err, info') := by
      rw [he]
      exact hp
    rw [h.fetchLoop_last hp' (by simp) count]
    exact ⟨rfl, hd, herr, rfl⟩

/-- A row that looks like the end is not fetched. -/
lemma Unfinished.fetchLoop_eof {p : Bytes × Row} {left : List (Bytes × Row)} {rs : ResultSet}
    {ch : Channel} (h : Unfinished i rest (p :: left) rs ch)
    (hp : p.1.head? = some eofPacketHeader) (count : ℕ) (info : ErrorInfo) :
    (rs.fetchLoop (count + 1) ch info).1.rows = [] := by
  have hne := @process_eof_not_row r rs.okPacket info _ hp
  rw [ResultSet.fetchLoop, h.readRow rfl]
  rcases hpr : processReadMessage r.deserializer r.currentCaps r.fields p.1 rs.okPacket info with
    ⟨result, err, info'⟩
  rw [hpr] at hne
  cases result with
  | row values => exact absurd rfl (hne values)
  | eof okPacket => rfl
  | error okPacket => rfl

end Position

/-! ### Calls in any order -/

/-- What a call for `count` rows does. -/
structure FaithfulCall {r : Reading} (i : Incoming r) (rest : List Arrival)
    (left : List (Bytes × Row)) (rs : ResultSet) (count : ℕ) (fetched : Fetched)
    (rs' : ResultSet) (ch' : Channel) : Prop where
  rows : fetched.rows = (left.map Prod.snd).take count
  within : count ≤ left.length → fetched.err = .success ∧ rs'.complete = false ∧
    Delivers ch' (i.messages (left.drop count)) rest
  beyond : left.length < count → Delivers ch' [] rest ∧
    match i.ending with
    | .eof _ _ _ => fetched.err = .success ∧ rs'.complete = true
    | .broken _ _ => fetched.err.failed = true ∧ rs'.complete = false

/-- What calls can lead to, as long as none of them ends in an error, and the rows they have
returned. -/
inductive Reached (rs : ResultSet) (ch : Channel) : List Row → ResultSet → Channel → Prop
  | start : Reached rs ch [] rs ch
  | call {out : List Row} {rs' : ResultSet} {ch' : Channel} (h : Reached rs ch out rs' ch')
      (call : FetchCall) (he : (rs'.fetch ch' call).1.err.failed = false) :
      Reached rs ch (out ++ (rs'.fetch ch' call).1.rows) (rs'.fetch ch' call).2.1
        (rs'.fetch ch' call).2.2

/-- Fetching is faithful to what the server sends: whatever was called so far, the rows
returned are the first ones, the others are left, and the next call does what it has to. -/
def Faithful {r : Reading} (i : Incoming r) (rest : List Arrival) (rs : ResultSet) (ch : Channel) :
    Prop :=
  ∀ out rs' ch', Reached rs ch out rs' ch' →
    ∃ left, i.rows.map Prod.snd = out ++ left.map Prod.snd ∧
      if rs'.complete then
        left = [] ∧ Delivers ch' [] rest ∧
          ∀ call : FetchCall, rs'.fetch ch' call = (⟨[], .success, .clear⟩, rs', ch')
      else
        Delivers ch' (i.messages left) rest ∧ ∀ call : FetchCall,
          let f := rs'.fetch ch' call
          FaithfulCall i rest left rs' call.count f.1 f.2.1 f.2.2

section Schedule

variable {r : Reading} {i : Incoming r} {rest : List Arrival}

lemma fetch_complete {rs : ResultSet} (h : rs.complete = true) (ch : Channel) (call : FetchCall) :
    rs.fetch ch call = (⟨[], .success, .clear⟩, rs, ch) := by
  rw [fetch_eq, ResultSet.fetchMany, if_pos h]

lemma Unfinished.fetch_within (hi : i.Recognisable) {left : List (Bytes × Row)}
    (hl : left ⊆ i.rows) {rs : ResultSet} {ch : Channel} (h : Unfinished i rest left rs ch)
    {call : FetchCall} (hc : call.count ≤ left.length) :
    ∃ rs' ch', Unfinished i rest (left.drop call.count) rs' ch' ∧ rs'.okPacket = rs.okPacket ∧
      rs.fetch ch call = (⟨(left.take call.count).map Prod.snd, .success, .clear⟩, rs', ch') := by
  have hlen : (left.take call.count).length + 0 = call.count := by simp [hc]
  have hsplit := h
  rw [← List.take_append_drop call.count left] at hsplit
  obtain ⟨rs', ch', h', ho, hf⟩ :=
    hsplit.skip (fun p hp => i.rowMessages p (hl (List.mem_of_mem_take hp)))
      (fun p hp => hi p (hl (List.mem_of_mem_take hp)))
  refine ⟨rs', ch', h', ho, ?_⟩
  have hf0 := hf 0 .clear
  rw [hlen] at hf0
  rw [fetch_eq, ResultSet.fetchMany, if_neg (by simp [h.incomplete]), hf0]
  simp [ResultSet.fetchLoop]

lemma Unfinished.fetch_beyond (hi : i.Recognisable) {left : List (Bytes × Row)}
    (hl : left ⊆ i.rows) {rs : ResultSet} {ch : Channel} (h : Unfinished i rest left rs ch)
    {call : FetchCall} (hc : left.length < call.count) :
    ∃ rs' ch' count, Unfinished i rest [] rs' ch' ∧ rs'.okPacket = rs.okPacket ∧
      rs.fetch ch call =
        let f := rs'.fetchLoop (count + 1) ch' .clear
        ({ f.1 with rows := left.map Prod.snd ++ f.1.rows }, f.2) := by
  obtain ⟨k, hk⟩ : ∃ k, call.count = left.length + (k + 1) :=
    ⟨call.count - left.length - 1, by omega⟩
  have hsplit := h
  rw [← List.append_nil left] at hsplit
  obtain ⟨rs', ch', h', ho, hf⟩ := hsplit.skip (fun p hp => i.rowMessages p (hl hp))
    (fun p hp => hi p (hl hp))
  refine ⟨rs', ch', k, h', ho, ?_⟩
  rw [fetch_eq, ResultSet.fetchMany, if_neg (by simp [h.incomplete]), hk, hf]

lemma Unfinished.fetch (hi : i.Recognisable) {left : List (Bytes × Row)} (hl : left ⊆ i.rows)
    {rs : ResultSet} {ch : Channel} (h : Unfinished i rest left rs ch) (call : FetchCall) :
    let f := rs.fetch ch call
    FaithfulCall i rest left rs call.count f.1 f.2.1 f.2.2 ∧
      (call.count ≤ left.length → Unfinished i rest (left.drop call.count) f.2.1 f.2.2) := by
  rcases Nat.lt_or_ge left.length call.count with hc | hc
  · obtain ⟨rs', ch', count, h', -, hf⟩ := h.fetch_beyond hi hl hc
    obtain ⟨hrows, hend⟩ := h'.ends count .clear
    rw [hf]
    refine ⟨⟨?_, fun hle => absurd hle (by omega), fun _ => hend⟩, fun hle => absurd hle (by omega)⟩
    simp only
    rw [hrows, List.append_nil, List.take_of_length_le (by simpa using hc.le)]
  · obtain ⟨rs', ch', h', -, hf⟩ := h.fetch_within hi hl hc
    rw [hf]
    exact ⟨⟨List.map_take, fun _ => ⟨rfl, h'.incomplete, h'.delivers⟩,
      fun hlt => absurd hlt (by omega)⟩, fun _ => h'⟩

/-- Where calls have led: the rows returned and the rows left are the rows sent. -/
lemma reached_position (hi : i.Recognisable) {rs rs' : ResultSet} {ch ch' : Channel}
    {out : List Row} (h : Unfinished i rest i.rows rs ch) (hr : Reached rs ch out rs' ch') :
    ∃ left, left ⊆ i.rows ∧ i.rows.map Prod.snd = out ++ left.map Prod.snd ∧
      (Unfinished i rest left rs' ch' ∨ left = [] ∧ Finished rest rs' ch') := by
  induction hr with
  | start => exact ⟨i.rows, List.Subset.refl _, rfl, Or.inl h⟩
  | @call out rs' ch' _ call he ih =>
    obtain ⟨left, hl, hrows, hu | ⟨rfl, hf⟩⟩ := ih
    · obtain ⟨⟨hr, -, hbeyond⟩, hwithin⟩ := hu.fetch hi hl call
      rcases Nat.lt_or_ge left.length call.count with hc | hc
      · obtain ⟨hd, hend⟩ := hbeyond hc
        refine ⟨[], List.nil_subset _, ?_, Or.inr ⟨rfl, ?_, hd⟩⟩
        · rw [hr, hrows, List.take_of_length_le (by simpa using hc.le)]
          simp
        · split at hend
          · exact hend.2
          · rw [he] at hend
            cases hend.1
      · refine ⟨left.drop call.count, List.Subset.trans (List.drop_subset _ _) hl, ?_,
          Or.inl (hwithin hc)⟩
        rw [hr, hrows, List.append_assoc, List.map_drop, List.take_append_drop]
    · rw [fetch_complete hf.complete] at he ⊢
      exact ⟨[], List.nil_subset _, by simpa using hrows, Or.inr ⟨rfl, hf⟩⟩

/-- Where no row looks like the end, fetching is faithful. -/
lemma faithful_of_recognisable (hi : i.Recognisable) {rs : ResultSet} {ch : Channel}
    (h : Unfinished i rest i.rows rs ch) : Faithful i rest rs ch := by
  intro out rs' ch' hr
  obtain ⟨left, hl, hrows, hu | ⟨rfl, hf⟩⟩ := reached_position hi h hr
  · refine ⟨left, hrows, ?_⟩
    rw [if_neg (by simp [hu.incomplete])]
    exact ⟨hu.delivers, fun call => (hu.fetch hi hl call).1⟩
  · refine ⟨[], hrows, ?_⟩
    rw [if_pos hf.complete]
    exact ⟨rfl, hf.delivers, fetch_complete hf.complete ch'⟩

/-- A row that looks like the end is lost, with all after it. -/
lemma recognisable_of_faithful {rs : ResultSet} {ch : Channel}
    (h : Unfinished i rest i.rows rs ch) (hf : Faithful i rest rs ch) : i.Recognisable := by
  by_contra hne
  obtain ⟨pre, p, post, hsplit, hpre, hp⟩ : ∃ pre p post, i.rows = pre ++ p :: post ∧
      (∀ q ∈ pre, q.1.head? ≠ some eofPacketHeader) ∧ p.1.head? = some eofPacketHeader := by
    simp only [Incoming.Recognisable, not_forall, not_not] at hne
    obtain ⟨q, hq, hqe⟩ := hne
    have hfind : (i.rows.find? fun q => q.1.head? = some eofPacketHeader).isSome = true :=
      List.find?_isSome.mpr ⟨q, hq, decide_eq_true hqe⟩
    obtain ⟨p, hp⟩ := Option.isSome_iff_exists.mp hfind
    obtain ⟨hpe, pre, post, hsplit, hpre⟩ := List.find?_eq_some_iff_append.mp hp
    exact ⟨pre, p, post, hsplit, fun q hq => by simpa using hpre q hq, of_decide_eq_true hpe⟩
  obtain ⟨left, hrows, hcall⟩ := hf [] rs ch .start
  rw [if_neg (by simp [h.incomplete])] at hcall
  have hleft : left.length = i.rows.length := by
    simpa using (congrArg List.length hrows).symm
  have hall := (hcall.2 (.many (i.rows.length + 1))).rows
  rw [List.take_of_length_le (by simp [FetchCall.count, hleft])] at hall
  have hu := h
  rw [hsplit] at hu
  obtain ⟨rs', ch', hu', -, hskip⟩ :=
    hu.skip (fun q hq => i.rowMessages q (by rw [hsplit]; simp [hq])) hpre
  have hlen : i.rows.length + 1 = pre.length + (post.length + 1 + 1) := by
    rw [hsplit, List.length_append, List.length_cons]
    omega
  rw [fetch_eq, ResultSet.fetchMany, if_neg (by simp [h.incomplete]), FetchCall.count, hlen,
    hskip] at hall
  simp only [hu'.fetchLoop_eof hp] at hall
  have := congrArg List.length hall
  simp only [List.append_nil, List.length_map] at this
  omega

/-- **Fetching is faithful to what the server sends**, in any order of calls, exactly when no
row begins with the byte that an end begins with. -/
theorem faithful_iff {rs : ResultSet} {ch : Channel} (h : Unfinished i rest i.rows rs ch) :
    Faithful i rest rs ch ↔ i.Recognisable :=
  ⟨recognisable_of_faithful h, fun hi => faithful_of_recognisable hi h⟩

end Schedule

/-! ### A resultset of one string -/

/-- A query for one string, by a client that is not asked to convert anything else. -/
def stringReading : Reading where
  deserializer :=
    deserializeTextRow ⟨fun _ => none, fun _ => none, fun _ => none, fun _ => none⟩
  currentCaps := .none
  fields := [typedField .varchar false]

lemma string_rowMessage {s : Bytes} (h : s.length < 2 ^ 64) :
    RowMessage stringReading (serializeStringLenenc s) [.string s] where
  ne_nil := serializeStringLenenc_ne_nil s
  not_err := by
    obtain ⟨b, t, hb, he, -, -⟩ := serializeIntLenenc_head (.ofNat s.length)
    simpa [serializeStringLenenc, hb] using he
  decodes := deserializeTextRow_string _ h _ rfl

/-- The row of the string, and the end. -/
def stringIncoming (s : Bytes) (h : s.length < 2 ^ 64) : Incoming stringReading where
  rows := [(serializeStringLenenc s, [.string s])]
  ending := .eof .default true (by decide)
  rowMessages p hp := by
    rw [List.mem_singleton] at hp
    rw [hp]
    exact string_rowMessage h

def stringResultSet : ResultSet := .ofFields stringReading.fields stringReading.deserializer

/-- The channel from which the row and the end arrive. -/
def stringChannel (s : Bytes) (h : s.length < 2 ^ 64) : Channel :=
  deliver (.new quietStream)
    ((messageFrames 0 ((stringIncoming s h).messages (stringIncoming s h).rows)).map .byte ++ [])

lemma string_unfinished (s : Bytes) (h : s.length < 2 ^ 64) :
    Unfinished (stringIncoming s h) [] (stringIncoming s h).rows stringResultSet
      (stringChannel s h) :=
  ⟨rfl, rfl, rfl, rfl, Channel.moveTo_pending ..⟩

theorem faithful_iff_string :
    Faithful (stringIncoming [0x61] (by decide)) [] stringResultSet
      (stringChannel [0x61] (by decide)) ↔ (stringIncoming [0x61] (by decide)).Recognisable :=
  faithful_iff (string_unfinished [0x61] (by decide))

lemma longString_length : (List.replicate (2 ^ 24) (0 : UInt8)).length < 2 ^ 64 := by
  rw [List.length_replicate]
  omega

/-- A string of `2 ^ 24` bytes is not fetched. -/
theorem long_string_not_faithful :
    ¬ Faithful (stringIncoming _ longString_length) [] stringResultSet
      (stringChannel _ longString_length) := by
  intro hf
  have hr := recognisable_of_faithful (string_unfinished _ longString_length) hf
  have hne := hr _ (List.mem_singleton_self _)
  obtain ⟨b, t, hb, -, -, heof⟩ :=
    serializeIntLenenc_head (.ofNat (List.replicate (2 ^ 24) (0 : UInt8)).length)
  have hb' : b = eofPacketHeader := heof.mpr (by
    rw [UInt64.toNat_ofNat_of_lt' longString_length, List.length_replicate])
  apply hne
  simp only [serializeStringLenenc, hb, hb']
  rfl

end MysqlAsio.Fetching
