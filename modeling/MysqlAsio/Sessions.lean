import MysqlAsio.Dialogue

/-!
A client stays in step with a conforming server over a whole session: every call returns what
the server answers, and takes no message but those of its answer.
-/

namespace MysqlAsio.Sessions

open MysqlAsio.Errors MysqlAsio.Serialization MysqlAsio.CommonMessages MysqlAsio.Values
open MysqlAsio.BinarySerialization MysqlAsio.NullBitmap MysqlAsio.PreparedStatementMessages
open MysqlAsio.BinaryDeserialization MysqlAsio.ServerRows MysqlAsio.BinaryRows
open MysqlAsio.TextDeserialization MysqlAsio.Streams MysqlAsio.Channels MysqlAsio.Framing
open MysqlAsio.BinaryRoundTrip MysqlAsio.ReadRow MysqlAsio.Resultset MysqlAsio.Fetching
open MysqlAsio.RowEncodings MysqlAsio.Operations MysqlAsio.ExecuteGeneric MysqlAsio.Server
open MysqlAsio.Calls MysqlAsio.Dialogue MysqlAsio.Lib.Machines MysqlAsio.Lib.Programs

/-! ### The channel of a session -/

/-- A channel that sends all it is given and has sent these bytes. -/
structure Linked (caps : Capabilities) (sent : Bytes) (ch : Channel) : Prop where
  sends : Sends ch
  currentCaps : ch.currentCaps = caps
  sent : ch.stream.sent = sent

/-- The channel when it has sent a command. -/
def asked (ch : Channel) (m : Bytes) : Channel := afterWrites ch.resetSequenceNumber [frame 0 m]

section Channel

variable {caps : Capabilities} {sent : Bytes} {ch : Channel}

lemma Linked.kept (h : Linked caps sent ch) {ch' : Channel} (hk : Kept ch ch') :
    Linked caps sent ch' := by
  have hs := hk.sends h.sends
  obtain ⟨seq, n, rest, b, rfl⟩ := hk
  refine ⟨hs, h.currentCaps, ?_⟩
  rw [← h.sent]
  simp [Stream.sent]

lemma Linked.withBuffer (h : Linked caps sent ch) (sharedBuffer : Bytes) :
    Linked caps sent { ch with sharedBuffer } :=
  ⟨⟨h.sends.isOpen, h.sends.writeResults⟩, h.currentCaps, h.sent⟩

lemma kept_deliver (ch : Channel) (l : List Arrival) : Kept ch (deliver ch l) :=
  ⟨ch.sequenceNumber, 0, l, ch.sharedBuffer, rfl⟩

lemma kept_of_moved {ch ch' : Channel} (h : ch.Moved ch') : Kept ch ch' := by
  obtain ⟨seq, n, rest, -, rfl⟩ := h
  exact ⟨seq, n, rest, ch.sharedBuffer, rfl⟩

lemma linked_asked (h : Linked caps sent ch) (m : Bytes) :
    Linked caps (sent ++ frame 0 m) (asked ch m) := by
  refine ⟨⟨h.sends.isOpen, h.sends.writeResults⟩, h.currentCaps, ?_⟩
  rw [asked, sent_afterWrites, List.flatten_singleton, ← h.sent]
  rfl

lemma write_asked (h : Sends ch) {m : Bytes} (hm : m.length < maxPacketSize) :
    ch.resetSequenceNumber.write m = (.success, asked ch m) := command_written h hm.le

end Channel

/-! ### Commands are sent -/

lemma execute_refused (c : Conn) {statement : ComStmtPrepareOkPacket} {params : List Value}
    (hn : params.length ≠ statement.numParams.toNat) :
    execute statement params c = (.error (makeErrorCode .wrongNumParams),
      { c with info := ⟨wrongNumParamsMessage statement.numParams.toNat params.length⟩ }) := by
  have hp : checkNumParams statement params { c with info := .clear } =
      (.error (makeErrorCode .wrongNumParams),
        { c with info := ⟨wrongNumParamsMessage statement.numParams.toNat params.length⟩ }) := by
    refine report_error ?_ rfl
    rw [if_pos hn]
  rw [execute, cleared, then_error hp]

section Commands

variable {caps : Capabilities} {sent : Bytes} {c : Conn} (h : Linked caps sent c.channel)

include h

lemma query_asked (lexical : LexicalConvert) {queryString m : Bytes}
    (hc : m = Serializable.serialize caps (ComQueryPacket.mk queryString))
    (hm : m.length < maxPacketSize) :
    query lexical queryString c =
      receiveResultset (deserializeTextRow lexical) ⟨asked c.channel m, .clear⟩ := by
  have hw := write_asked h.sends hm
  rw [hc, ← serializeMessage_eq _ _ [], ← h.currentCaps] at hw ⊢
  change executeQuery lexical queryString { c with info := .clear } = _
  exact executeGeneric_written hw

lemma execute_asked {statement : ComStmtPrepareOkPacket} {params : List Value} {m : Bytes}
    (hn : params.length = statement.numParams.toNat)
    (hc : m = Serializable.serialize caps (makeStmtExecutePacket statement.statementId params))
    (hm : m.length < maxPacketSize) :
    execute statement params c =
      receiveResultset deserializeBinaryRow ⟨asked c.channel m, .clear⟩ := by
  have hw := write_asked h.sends hm
  rw [hc, ← serializeMessage_eq _ _ [], ← h.currentCaps] at hw ⊢
  rw [execute_checked hn]
  exact executeGeneric_written hw

lemma prepare_asked {statement m : Bytes}
    (hc : m = Serializable.serialize caps (ComStmtPreparePacket.mk statement))
    (hm : m.length < maxPacketSize) :
    prepare statement c =
      receiveStatement ⟨{ asked c.channel m with sharedBuffer := m }, .clear⟩ := by
  have hs : Sends { c.channel with sharedBuffer := m } := ⟨h.sends.isOpen, h.sends.writeResults⟩
  have hw := write_asked hs hm
  have hb : m = serializeMessage (ComStmtPreparePacket.mk statement) c.channel.currentCaps
      c.channel.sharedBuffer := by
    rw [serializeMessage_eq, h.currentCaps, hc]
  change prepareStatement statement { c with info := .clear } = _
  exact prepareStatement_written hb hw

lemma close_asked {statement : ComStmtPrepareOkPacket} {m : Bytes}
    (hc : m = Serializable.serialize caps (ComStmtClosePacket.mk statement.statementId))
    (hm : m.length < maxPacketSize) :
    close statement c = (.ok (), ⟨{ asked c.channel m with sharedBuffer := m }, .clear⟩) := by
  have hs : Sends { c.channel with sharedBuffer := m } := ⟨h.sends.isOpen, h.sends.writeResults⟩
  have hw := write_asked hs hm
  have hb : m = serializeMessage (ComStmtClosePacket.mk statement.statementId)
      c.channel.currentCaps c.channel.sharedBuffer := by
    rw [serializeMessage_eq, h.currentCaps, hc]
  rw [close, cleared, closeStatement, get_then, composeShared_then, ← hb]
  exact writeShared_ok hw

end Commands

/-! ### Client and specification in step -/

/-- What is left of a resultset in the middle of it, and that the client can convert it. -/
structure WellFormedUnread (lexical : LexicalConvert) (u : Unread) : Prop where
  converts : ConvertsIntegers lexical
  fields : u.fields ≠ []
  rows : ∀ p ∈ u.rows, u.encoding.IsRow lexical u.fields p.1 p.2
  short : ∀ p ∈ u.rows, p.1.length < maxPacketSize
  ending : u.ending.WellFormed

/-- How the client takes the end of the rows. -/
def toEnding {r : Reading} : (ending : RowsEnd) → ending.WellFormed → Ending r
  | .eof okPacket omitInfo, h => .eof okPacket omitInfo h.info
  | .err e, h => .broken (errMessage e) (.err e h.sqlStateMarker h.sqlState h.errorCode)

lemma toEnding_message {r : Reading} (ending : RowsEnd) (h : ending.WellFormed) :
    (toEnding ending h : Ending r).message = ending.message := by
  cases ending <;> rfl

section Unread

variable {lexical : LexicalConvert} {u : Unread}

/-- What arrives of a resultset in the middle of it. -/
def incoming (caps : Capabilities) (h : WellFormedUnread lexical u) :
    Incoming ⟨u.encoding.deserializer lexical, caps, u.fields⟩ where
  rows := u.rows
  ending := toEnding u.ending h.ending
  rowMessages p hp := u.encoding.rowMessage h.converts h.fields (h.rows p hp) caps

lemma incoming_recognisable (caps : Capabilities) (h : WellFormedUnread lexical u) :
    (incoming caps h).Recognisable := fun p hp =>
  u.encoding.not_eof h.converts h.fields (h.rows p hp) (h.short p hp)

lemma incoming_messages (caps : Capabilities) (h : WellFormedUnread lexical u)
    (left : List (Bytes × Row)) :
    (incoming caps h).messages left = rowsMessages left u.ending := by
  rw [Incoming.messages, rowsMessages, incoming, toEnding_message]

end Unread

/-- The client holds the complete resultsets. -/
def Holds (complete : ℕ → Option OkPacket) (resultSets : ℕ → Option ResultSet) : Prop :=
  ∀ v okPacket, complete v = some okPacket →
    ∃ rs, resultSets v = some rs ∧ rs.complete = true ∧ rs.okPacket = okPacket

/-- The client is in the middle of a resultset. -/
structure InMiddle (lexical : LexicalConvert) (caps : Capabilities) (c : Client) (v : ℕ)
    (u : Unread) (rs : ResultSet) : Prop where
  wellFormed : WellFormedUnread lexical u
  resultSet : c.resultSets v = some rs
  okPacket : rs.okPacket = .default
  unfinished : Unfinished (incoming caps wellFormed) [] u.rows rs c.conn.channel

/-- What is known of a session is so at the client. -/
structure InStep (lexical : LexicalConvert) (caps : Capabilities) (l : Ledger) (c : Client) :
    Prop where
  linked : Linked caps l.received c.conn.channel
  holds : Holds l.complete c.resultSets
  idle : l.reading = none → c.conn.channel.pending = []
  middle : ∀ v u, l.reading = some (v, u) →
    l.complete v = none ∧ ∃ rs, InMiddle lexical caps c v u rs

lemma inStep_of_idle {lexical : LexicalConvert} {caps : Capabilities} {l : Ledger} {c : Client}
    (hr : l.reading = none) (hl : Linked caps l.received c.conn.channel)
    (hh : Holds l.complete c.resultSets)
    (hp : c.conn.channel.pending = []) : InStep lexical caps l c where
  linked := hl
  holds := hh
  idle _ := hp
  middle v u hv := by
    rw [hr] at hv
    cases hv

/-- In step, what is left to arrive are the messages that no call has taken. -/
lemma InStep.delivers {lexical : LexicalConvert} {caps : Capabilities} {l : Ledger} {c : Client}
    (h : InStep lexical caps l c) :
    Delivers c.conn.channel l.messages [] := by
  cases hr : l.reading with
  | none =>
    rw [Ledger.messages, hr]
    exact delivers_nil.mpr (h.idle hr)
  | some p =>
    obtain ⟨-, rs, hm⟩ := h.middle p.1 p.2 hr
    have hd := hm.unfinished.delivers
    rw [incoming_messages] at hd
    rwa [Ledger.messages, hr]

section Holds

variable {complete : ℕ → Option OkPacket} {resultSets : ℕ → Option ResultSet} {v : ℕ}

lemma Holds.completed (h : Holds complete resultSets) {rs : ResultSet} {okPacket : OkPacket}
    (hc : rs.complete = true) (ho : rs.okPacket = okPacket) :
    Holds (Function.update complete v (some okPacket))
      (Function.update resultSets v (some rs)) := by
  intro w okPacket' hw
  by_cases hv : w = v
  · subst hv
    rw [Function.update_self, Option.some.injEq] at hw
    exact ⟨rs, Function.update_self .., hc, ho.trans hw⟩
  · rw [Function.update_of_ne hv] at hw ⊢
    exact h w okPacket' hw

lemma Holds.forget (h : Holds complete resultSets) (v : ℕ) (rs : Option ResultSet) :
    Holds (Function.update complete v none) (Function.update resultSets v rs) := by
  intro w okPacket hw
  by_cases hv : w = v
  · subst hv
    rw [Function.update_self] at hw
    cases hw
  · rw [Function.update_of_ne hv] at hw ⊢
    exact h w okPacket hw

end Holds

/-! ### One call -/

section Step

variable {lexical : LexicalConvert} {caps : Capabilities} {l : Ledger} {c : Client}

/-- What a query or an execution returns, and what it leaves. -/
lemma InStep.obtained (hlex : ConvertsIntegers lexical) (h : InStep lexical caps l c)
    (hr : l.reading = none) {received : Bytes} {ch : Channel} (hl : Linked caps received ch)
    {encoding : RowEncoding} {answer : ResultsetAnswer} (hw : answer.WellFormed lexical encoding)
    (hm : ∀ m ∈ answer.messages, m.length < maxPacketSize) (hd : Delivers ch answer.messages [])
    (into : ℕ) :
    ∃ c', c.obtained into (receiveResultset (encoding.deserializer lexical) ⟨ch, .clear⟩) =
        ((Ledger.obtained { l with received } encoding into answer).1, c') ∧
      InStep lexical caps (Ledger.obtained { l with received } encoding into answer).2 c' := by
  cases answer with
  | ok okPacket omitInfo =>
    have ht : Takes (receiveResultset (encoding.deserializer lexical)) ⟨ch, .clear⟩
        (.ofOk okPacket) [] [] := takes_ok hw hd _
    obtain ⟨ch', ht, hd', hk⟩ := ht
    exact ⟨⟨⟨ch', .clear⟩, Function.update c.resultSets into (some (.ofOk okPacket))⟩,
      by rw [ht]; rfl,
      inStep_of_idle hr (hl.kept hk) (h.holds.completed rfl rfl) (delivers_nil.mp hd')⟩
  | err e =>
    have ht : Reports (receiveResultset (encoding.deserializer lexical)) ⟨ch, .clear⟩ e [] :=
      reports_resultset hw hd _
    obtain ⟨ch', ht, hd', hk⟩ := ht
    exact ⟨⟨⟨ch', ⟨e.errorMessage⟩⟩, Function.update c.resultSets into none⟩,
      by rw [ht]; rfl,
      inStep_of_idle hr (hl.kept hk) (h.holds.forget _ none) (delivers_nil.mp hd')⟩
  | resultset columns rows ending =>
    -- its rows, which no call has asked for, are left to arrive
    obtain ⟨h0, hn, hc, hrows, hend⟩ := hw
    have ht : Takes (receiveResultset (encoding.deserializer lexical)) ⟨ch, .clear⟩
        (.ofFields (columns.map FieldMetadata.mk) (encoding.deserializer lexical))
        (rowsMessages rows ending) [] := takes_resultset h0 hn hc hd _
    obtain ⟨ch', ht, hd', hk⟩ := ht
    have hu : WellFormedUnread lexical ⟨encoding, columns.map FieldMetadata.mk, rows, ending⟩ := by
      refine ⟨hlex, by simpa using h0, hrows, fun p hp => hm p.1 ?_, hend⟩
      simp only [ResultsetAnswer.messages, rowsMessages, List.mem_cons, List.mem_append,
        List.mem_map]
      exact Or.inr (Or.inr (Or.inl ⟨p, hp, rfl⟩))
    refine ⟨⟨⟨ch', .clear⟩, Function.update c.resultSets into
        (some (.ofFields (columns.map FieldMetadata.mk) (encoding.deserializer lexical)))⟩,
      by rw [ht]; rfl, hl.kept hk, h.holds.forget _ _, nofun, ?_⟩
    rintro v u hv
    cases hv
    refine ⟨Function.update_self .., _, hu, Function.update_self .., rfl, ?_⟩
    refine ⟨rfl, rfl, (hl.kept hk).currentCaps, rfl, ?_⟩
    rw [incoming_messages]
    exact hd'

lemma InStep.afterCommand (h : InStep lexical caps l c) (hr : l.reading = none) {received : Bytes}
    {ch : Channel} (hl : Linked caps received ch) (hp : ch.pending = []) (info : ErrorInfo) :
    InStep lexical caps { l with received } { c with conn := ⟨ch, info⟩ } :=
  inStep_of_idle hr hl h.holds hp

lemma InStep.prepared (h : InStep lexical caps l c) (hr : l.reading = none) {received : Bytes}
    {ch : Channel} (hl : Linked caps received ch) {answer : PrepareAnswer}
    (hw : answer.WellFormed) (hd : Delivers ch answer.messages []) :
    ∃ c', (match receiveStatement ⟨ch, .clear⟩ with
        | (.ok response, conn) => some (.statement response, { c with conn })
        | (.error err, conn) => some (.failed err conn.info, { c with conn })) =
        some (Dialogue.prepared answer, c') ∧ InStep lexical caps { l with received } c' := by
  cases answer with
  | ok response definitions =>
    have ht : Takes receiveStatement ⟨ch, .clear⟩ response [] [] := by
      refine takes_statement hw ?_
      rw [List.append_nil]
      exact hd
    obtain ⟨ch', ht, hd', hk⟩ := ht
    exact ⟨_, by rw [ht]; rfl, h.afterCommand hr (hl.kept hk) (delivers_nil.mp hd') .clear⟩
  | err e =>
    have ht : Reports receiveStatement ⟨ch, .clear⟩ e [] := reports_statement hw hd
    obtain ⟨ch', ht, hd', hk⟩ := ht
    exact ⟨_, by rw [ht]; rfl, h.afterCommand hr (hl.kept hk) (delivers_nil.mp hd') _⟩

/-- What the client makes of the end of the rows, which come with a packet that is empty yet. -/
def endResult (info : ErrorInfo) : RowsEnd → ReadRowResult × ErrorCode × ErrorInfo
  | .eof okPacket _ => (.eof okPacket, .success, info)
  | .err e => (.error .default, (reported e).err, ⟨e.errorMessage⟩)

lemma process_ending (r : Reading) {ending : RowsEnd} (hw : ending.WellFormed) (info : ErrorInfo) :
    processReadMessage r.deserializer r.currentCaps r.fields ending.message .default info =
      endResult info ending := by
  cases ending with
  | eof okPacket omitInfo =>
    have hp := encodeEof_takenForEof hw.info omitInfo r.deserializer r.currentCaps r.fields
      .default info
    rwa [hw.withInfo rfl] at hp
  | err e =>
    have hp := processErrorPacket_encode hw.sqlStateMarker hw.sqlState r.currentCaps info
    simp [processReadMessage, RowsEnd.message, errMessage, hp, errorPacketHeader, eofPacketHeader,
      reported, Outcome.err, endResult]

lemma endResult_not_row {info info' : ErrorInfo} {ending : RowsEnd} {result : ReadRowResult}
    {err : ErrorCode} (h : endResult info ending = (result, err, info')) :
    ∀ values, result ≠ .row values := by
  rintro values rfl
  cases ending <;> cases h

lemma InMiddle.fetch_beyond {v : ℕ} {u : Unread} {rs : ResultSet}
    (h : InMiddle lexical caps c v u rs) {call : FetchCall} (hc : u.rows.length < call.count)
    {result : ReadRowResult} {err : ErrorCode} {info : ErrorInfo}
    (he : endResult .clear u.ending = (result, err, info)) :
    ∃ (rs' : ResultSet) (ch' : Channel), Delivers ch' [] [] ∧
      rs.fetch c.conn.channel call =
        (⟨u.rows.map Prod.snd, err, info⟩, rs'.received result, ch') := by
  obtain ⟨rs', ch', count, hu, ho, hf⟩ := h.unfinished.fetch_beyond
    (incoming_recognisable caps h.wellFormed) (List.Subset.refl _) hc
  have hp := process_ending ⟨u.encoding.deserializer lexical, caps, u.fields⟩ h.wellFormed.ending
    .clear
  rw [← toEnding_message u.ending h.wellFormed.ending, he, ← ho.trans h.okPacket] at hp
  rw [hu.fetchLoop_last hp (endResult_not_row he) count] at hf
  simp only [List.append_nil] at hf
  exact ⟨rs', _, delivers_afterMessage _ _ _ _, hf⟩

lemma InStep.fetch_within (h : InStep lexical caps l c) {v : ℕ} {u : Unread}
    (hr : l.reading = some (v, u)) {call : FetchCall} (hc : call.count ≤ u.rows.length) :
    ∃ c', c.performed lexical (.fetch v call) = some ((l.fetched v u call.count).1, c') ∧
      InStep lexical caps (l.fetched v u call.count).2 c' := by
  obtain ⟨hv, rs, hm⟩ := h.middle v u hr
  obtain ⟨rs', ch', hu, ho, hf⟩ := hm.unfinished.fetch_within
    (incoming_recognisable caps hm.wellFormed) (List.Subset.refl _) hc
  have hk := kept_of_moved (fetch_moved rs c.conn.channel call)
  rw [hf] at hk
  rw [Ledger.fetched, if_pos hc]
  refine ⟨⟨{ c.conn with channel := ch' }, Function.update c.resultSets v (some rs')⟩, ?_,
    h.linked.kept hk, ?_, nofun, ?_⟩
  · simp only [Client.performed, hm.resultSet, Option.map_some, hf, okPacketOf, hu.incomplete,
      Bool.false_eq_true, if_false]
    rfl
  · have hh := h.holds.forget v (some rs')
    rwa [← hv, Function.update_eq_self] at hh
  · rintro v' u' hv'
    cases hv'
    have hw : WellFormedUnread lexical { u with rows := u.rows.drop call.count } :=
      ⟨hm.wellFormed.converts, hm.wellFormed.fields,
        fun p hp => hm.wellFormed.rows p (List.mem_of_mem_drop hp),
        fun p hp => hm.wellFormed.short p (List.mem_of_mem_drop hp), hm.wellFormed.ending⟩
    exact ⟨hv, rs', hw, Function.update_self .., ho.trans hm.okPacket,
      hu.deserializer, hu.fields, hu.currentCaps, hu.incomplete, hu.delivers⟩

lemma InStep.fetch_beyond (h : InStep lexical caps l c) {v : ℕ} {u : Unread}
    (hr : l.reading = some (v, u)) {call : FetchCall} (hc : u.rows.length < call.count) :
    ∃ c', c.performed lexical (.fetch v call) = some ((l.fetched v u call.count).1, c') ∧
      InStep lexical caps (l.fetched v u call.count).2 c' := by
  obtain ⟨hv, rs, hm⟩ := h.middle v u hr
  have hk := kept_of_moved (fetch_moved rs c.conn.channel call)
  rw [Ledger.fetched, if_neg (by omega)]
  cases he : u.ending with
  | eof okPacket omitInfo =>
    obtain ⟨rs', ch', hd, hf⟩ := hm.fetch_beyond hc (congrArg (endResult .clear) he)
    rw [hf] at hk
    refine ⟨⟨{ c.conn with channel := ch' },
        Function.update c.resultSets v (some (rs'.received (.eof okPacket)))⟩, ?_,
      h.linked.kept hk, h.holds.completed rfl rfl, fun _ => delivers_nil.mp hd, nofun⟩
    simp only [Client.performed, hm.resultSet, Option.map_some, hf]
    rfl
  | err e =>
    obtain ⟨rs', ch', hd, hf⟩ := hm.fetch_beyond hc (congrArg (endResult .clear) he)
    rw [hf] at hk
    have hh := h.holds.forget v (some (rs'.received (.error .default)))
    rw [← hv, Function.update_eq_self] at hh
    refine ⟨⟨{ c.conn with channel := ch' }, _⟩, ?_, h.linked.kept hk, hh,
      fun _ => delivers_nil.mp hd, nofun⟩
    simp only [Client.performed, hm.resultSet, Option.map_some, hf]
    rfl

/-- Fetching from a complete resultset, or from the one that is being read. -/
lemma InStep.fetch (h : InStep lexical caps l c) {source : ℕ} {call : FetchCall} {o : Outcome}
    {l' : Ledger} (hs : l.fetch source call = some (o, l')) :
    ∃ c', c.performed lexical (.fetch source call) = some (o, c') ∧ InStep lexical caps l' c' := by
  rw [Ledger.fetch] at hs
  cases hc : l.complete source with
  | some okPacket =>
    -- nothing is read, and the resultset stays as it is
    rw [hc] at hs
    cases hs
    obtain ⟨rs, hrs, hcomplete, rfl⟩ := h.holds source okPacket hc
    refine ⟨c, ?_, h⟩
    simp only [Client.performed, hrs, Option.map_some, fetch_complete hcomplete, okPacketOf,
      hcomplete, if_true]
    rw [← hrs, Function.update_eq_self]
  | none =>
    rcases hr : l.reading with _ | ⟨v, u⟩ <;> rw [hc, hr] at hs
    · cases hs
    · simp only at hs
      split_ifs at hs with hv
      subst hv
      have hs' : l.fetched v u call.count = (o, l') := Option.some.inj hs
      have hstep : ∃ c', c.performed lexical (.fetch v call) =
          some ((l.fetched v u call.count).1, c') ∧
            InStep lexical caps (l.fetched v u call.count).2 c' := by
        rcases Nat.lt_or_ge u.rows.length call.count with hlt | hle
        · exact h.fetch_beyond hr hlt
        · exact h.fetch_within hr hle
      rwa [hs'] at hstep

lemma deliver_pending (ch : Channel) : deliver ch (ch.pending ++ []) = ch := by
  rw [List.append_nil, deliver, Channel.moveTo, Channel.pending, Stream.advance_zero]

lemma InStep.asked (h : InStep lexical caps l c) (hr : l.reading = none) (e : Exchange) {m : Bytes}
    (hc : command caps e.call = some m) (hm : m.length < maxPacketSize) :
    Linked caps (l.received ++ frame 0 m) (asked (arrived c e).conn.channel m) ∧
      Delivers (Sessions.asked (arrived c e).conn.channel m) e.messages [] := by
  refine ⟨linked_asked (h.linked.kept (kept_deliver _ _)) m, command_delivers ?_ m⟩
  have hseq : UInt8.ofNat (written 0 m).length = 1 := by
    rw [written_short hm.le]
    rfl
  have ha : e.arrivals c.conn.channel.currentCaps = (messageFrames 1 e.messages).map .byte := by
    rw [Exchange.arrivals, h.linked.currentCaps, hc]
    simp only [hseq]
  simp only [arrived, deliver, Channel.moveTo_pending, h.idle hr, ha, List.nil_append,
    List.append_nil]

/-- Where no command is sent nothing arrives, and the resultset of the call is forgotten. -/
lemma InStep.refused (h : InStep lexical caps l c) (hr : l.reading = none) {e : Exchange}
    (hcmd : command caps e.call = none) (into : ℕ) (info : ErrorInfo) :
    InStep lexical caps ((l.hears (command caps e.call)).forget into)
      ⟨{ (arrived c e).conn with info }, Function.update c.resultSets into none⟩ := by
  have ha : (arrived c e).conn.channel = c.conn.channel := by
    simp only [arrived, Exchange.arrivals, h.linked.currentCaps, hcmd]
    exact deliver_pending _
  refine inStep_of_idle hr ?_ (h.holds.forget into none) ?_
  · rw [ha, hcmd]
    simp only [Ledger.forget, Ledger.hears, Option.elim_none, List.append_nil]
    exact h.linked
  · rw [ha, h.idle hr]

lemma InStep.answer (hlex : ConvertsIntegers lexical) (h : InStep lexical caps l c)
    (hr : l.reading = none) {e : Exchange} (he : e.Conforming lexical caps)
    (hf : ∀ source call, e.call ≠ .fetch source call) :
    ∃ c', (arrived c e).performed lexical e.call =
        some (((l.hears (command caps e.call)).answer e).1, c') ∧
      InStep lexical caps ((l.hears (command caps e.call)).answer e).2 c' := by
  have hl : Linked caps l.received (arrived c e).conn.channel := h.linked.kept (kept_deliver _ _)
  obtain ⟨call, answer⟩ := e
  cases call with
  | query into queryString =>
    have hm := he.command _ rfl
    obtain ⟨hl', hd⟩ := h.asked hr ⟨.query into queryString, answer⟩ rfl hm
    obtain ⟨c', hc, hs⟩ := h.obtained hlex hr hl' he.answer he.messages hd into
    refine ⟨c', ?_, hs⟩
    rw [Client.performed, query_asked hl lexical rfl hm]
    exact congrArg some hc
  | prepare statement =>
    have hm := he.command _ rfl
    obtain ⟨hl', hd⟩ := h.asked hr ⟨.prepare statement, answer⟩ rfl hm
    obtain ⟨c', hc, hs⟩ := h.prepared hr (hl'.withBuffer _) he.answer (hd.withBuffer _)
    refine ⟨c', ?_, hs⟩
    rw [Client.performed, prepare_asked hl rfl hm]
    exact hc
  | execute into statement params =>
    by_cases hn : params.length = statement.numParams.toNat
    · have hcmd : command caps (.execute into statement params) = _ := if_pos hn
      have hm := he.command _ hcmd
      obtain ⟨hl', hd⟩ := h.asked hr ⟨.execute into statement params, answer⟩ hcmd hm
      have hmsgs : Exchange.messages ⟨.execute into statement params, answer⟩ = _ := if_pos hn
      have hshort := he.messages
      rw [hmsgs] at hd hshort
      obtain ⟨c', hc, hs⟩ := h.obtained hlex hr hl' he.answer hshort hd into
      refine ⟨c', ?_, ?_⟩
      · rw [Client.performed, execute_asked hl hn rfl hm, Ledger.answer, if_pos hn, hcmd]
        exact congrArg some hc
      · rw [Ledger.answer, if_pos hn, hcmd]
        exact hs
    · -- refused by the client; the server hears nothing, and answers nothing
      have hcmd : command caps (.execute into statement params) = none := if_neg hn
      rw [Client.performed, execute_refused _ hn, Ledger.answer, if_neg hn]
      exact ⟨_, rfl, h.refused hr hcmd into _⟩
  | close statement =>
    have hm := he.command _ rfl
    obtain ⟨hl', hd⟩ := h.asked hr ⟨.close statement, answer⟩ rfl hm
    have hp := delivers_nil.mp (hd.withBuffer (Serializable.serialize caps
      (ComStmtClosePacket.mk statement.statementId)))
    refine ⟨_, ?_, h.afterCommand hr (hl'.withBuffer _) hp .clear⟩
    rw [Client.performed, close_asked hl rfl hm]
    rfl
  | fetch source call => exact absurd rfl (hf source call)

end Step

/-- Where no assertion ends the program, the client answers as is specified. -/
theorem exchange_refines (ndebug : Bool) {lexical : LexicalConvert}
    (hlex : ConvertsIntegers lexical) (caps : Capabilities) :
    Refines (InStep lexical caps)
      (fun e => e.Conforming lexical caps ∧ (ndebug = true ∨ e.call.ParamsFit))
      (specified caps) (exchange ndebug lexical) := by
  intro l c e o l' h ⟨he, hfit⟩ hs
  rw [exchange, perform_of_paramsFit hfit]
  obtain ⟨call, answer⟩ := e
  cases call with
  | fetch source call =>
    have ha : arrived c ⟨.fetch source call, answer⟩ = c := by
      have hd := deliver_pending c.conn.channel
      simp only [arrived, Exchange.arrivals, command, hd]
    rw [ha]
    exact h.fetch hs
  | _ =>
    simp only [specified] at hs
    split_ifs at hs with hr
    have hr' : l.reading = none := by simpa using hr
    have ha := h.answer hlex hr' he nofun
    rwa [Option.some.inj hs] at ha

/-! ### Whole sessions -/

lemma reported_aligned (e : ErrPacket) : ¬ Misaligned (reported e).err := by
  have hlt := e.errorCode.toNat_lt
  simp only [Misaligned, reported, Outcome.err, makeErrorCode, ErrorCode.mk.injEq, Errc.value,
    and_true]
  omega

lemma success_aligned : ¬ Misaligned .success := by
  rintro (h | h | h) <;> cases h

lemma obtained_aligned (l : Ledger) (encoding : RowEncoding) (into : ℕ)
    (answer : ResultsetAnswer) : ¬ Misaligned (l.obtained encoding into answer).1.err := by
  cases answer with
  | err e => exact reported_aligned e
  | _ => exact success_aligned

lemma fetched_aligned (l : Ledger) (v : ℕ) (u : Unread) (count : ℕ) :
    ¬ Misaligned (l.fetched v u count).1.err := by
  rw [Ledger.fetched]
  split_ifs
  · exact success_aligned
  · cases u.ending with
    | eof okPacket omitInfo => exact success_aligned
    | err e => exact reported_aligned e

lemma answer_aligned (l : Ledger) (e : Exchange) :
    ¬ Misaligned (l.answer e).1.err := by
  obtain ⟨call, answer⟩ := e
  cases call with
  | query into queryString => exact obtained_aligned l _ into answer
  | prepare statement =>
    cases answer with
    | ok response definitions => exact success_aligned
    | err e => exact reported_aligned e
  | execute into statement params =>
    rw [Ledger.answer]
    split_ifs
    · exact obtained_aligned l _ into answer
    · rintro (h | h | h) <;> cases h
  | _ => exact success_aligned

lemma specified_aligned {caps : Capabilities} (l : Ledger)
    (e : Exchange) (o : Outcome) (l' : Ledger) (h : specified caps l e = some (o, l')) :
    ¬ Misaligned o.err := by
  obtain ⟨call, answer⟩ := e
  have ha := answer_aligned (l.hears (command caps call)) ⟨call, answer⟩
  cases call with
  | fetch source call =>
    simp only [specified, Ledger.fetch] at h
    split at h
    · cases h
      exact success_aligned
    · next v u _ _ =>
      split_ifs at h
      have hf := fetched_aligned l v u call.count
      rwa [Option.some.inj h] at hf
    · cases h
  | _ =>
    simp only [specified] at h
    split_ifs at h
    rwa [Option.some.inj h] at ha

lemma inStep_start {lexical : LexicalConvert} {c : Client} (hs : Sends c.conn.channel)
    (hp : c.conn.channel.pending = []) :
    InStep lexical c.conn.channel.currentCaps (.start c.conn.channel.stream.sent) c := by
  have hn : ∀ {α : Type} {a : α}, (none : Option α) ≠ some a := nofun
  exact ⟨⟨hs, rfl, rfl⟩, fun _ _ h => absurd h hn, fun _ => hp, fun _ _ h => absurd h hn⟩

/-- **Sessions go as is specified** that read every resultset to its end, with a server that
conforms, unless the program ends before: it does when its assertions are compiled in and a
statement is executed with more than 255 parameters. -/
theorem session_asSpecified_iff (ndebug : Bool) {lexical : LexicalConvert}
    (hlex : ConvertsIntegers lexical) {c : Client}
    (hs : Sends c.conn.channel) (hp : c.conn.channel.pending = []) {exchanges : List Exchange}
    (he : ∀ e ∈ exchanges, e.Conforming lexical c.conn.channel.currentCaps)
    {outcomes : List Outcome} {l : Ledger}
    (hr : (specified c.conn.channel.currentCaps).run
      (.start c.conn.channel.stream.sent) exchanges = some (outcomes, l)) :
    AsSpecified ndebug lexical c exchanges outcomes l ↔
      ndebug = true ∨ ∀ e ∈ exchanges, e.call.ParamsFit := by
  constructor
  · rintro ⟨c', hrun, -⟩
    by_cases hn : ndebug = true
    · exact Or.inl hn
    · refine Or.inr fun e hm => ?_
      obtain ⟨t, r, hx⟩ := of_run hrun e hm
      exact (paramsFit_of_perform hx).resolve_left hn
  · intro hfit
    have hE : ∀ e ∈ exchanges, e.Conforming lexical c.conn.channel.currentCaps ∧
        (ndebug = true ∨ e.call.ParamsFit) := fun e hm => ⟨he e hm, hfit.imp_right fun h => h e hm⟩
    obtain ⟨c', hrun, hin⟩ :=
      (exchange_refines ndebug hlex _).run (inStep_start hs hp) hE hr
    exact ⟨c', hrun, hin.linked.sent, hin.delivers, run_answers specified_aligned hr⟩

/-! ### Two sessions -/

/-- A client that is asked to convert nothing. -/
def noLexical : LexicalConvert := ⟨fun _ => none, fun _ => none, fun _ => none, fun _ => none⟩

/-- A client that has just got a channel. -/
def freshClient : Client := ⟨⟨.new quietStream, .clear⟩, fun _ => none⟩

def bigintColumn : ColumnDefinitionPacket := (typedField .longlong false).msg

def textColumn : ColumnDefinitionPacket := (typedField .varchar false).msg

lemma bigintColumn_wellFormed : bigintColumn.WellFormed := by
  constructor <;> decide

lemma textColumn_wellFormed : textColumn.WellFormed := by
  constructor <;> decide

/-- A number and a string, as text. -/
def textCells : List (Option Bytes × Value) :=
  [(some (integerText 2 (-42)), .int64 (-42)), (some [0x61, 0x62], .string [0x61, 0x62])]

/-- The same in the binary protocol. -/
def binaryCells : List (Option Bytes × Value) :=
  [(some (serializeFixedSizeInt 8 (2 ^ 64 - 42)), .int64 (-42)),
    (some (serializeStringLenenc [0x61, 0x62]), .string [0x61, 0x62])]

def shortRow : Row := [.int64 (-42), .string [0x61, 0x62]]

/-- An answer of one row. -/
def shortAnswer (message : Bytes) : ResultsetAnswer :=
  .resultset [bigintColumn, textColumn] [(message, shortRow)] (.eof .default true)

/-- A query for a row, which is fetched, and the execution of a statement for it, which is fetched
up to the end; then the statement is closed. -/
def shortSession : List Exchange :=
  [⟨.query 0 [0x41], shortAnswer (encodeTextFields textCells)⟩, ⟨.fetch 0 .all, ()⟩,
    ⟨.execute 0 ⟨7, 0, 1, 0⟩ [.int64 5], shortAnswer (encodeBinaryRow [0] binaryCells)⟩,
    ⟨.fetch 0 .one, ()⟩, ⟨.fetch 0 .one, ()⟩, ⟨.close ⟨7, 0, 1, 0⟩, ()⟩]

lemma textCells_row :
    IsTextRow decimalIntegers [⟨bigintColumn⟩, ⟨textColumn⟩] (encodeTextFields textCells)
      shortRow := by
  have hn : TextCell decimalIntegers ⟨bigintColumn⟩ (some (integerText 2 (-42)), .int64 (-42)) :=
    @TextCell.int64 _ _ 8 2 (-42) rfl rfl (by decide) (by decide) (by decide) (by decide)
  have hs : TextCell decimalIntegers ⟨textColumn⟩ (some [0x61, 0x62], .string [0x61, 0x62]) :=
    .string ⟨rfl, rfl, nofun, nofun⟩ (by decide)
  exact .mk (.cons hn (.cons hs .nil))

lemma binaryCells_row :
    IsBinaryRow [⟨bigintColumn⟩, ⟨textColumn⟩] (encodeBinaryRow [0] binaryCells) shortRow := by
  have hn : Encodes ⟨bigintColumn⟩ (.int64 (-42)) (serializeFixedSizeInt 8 (2 ^ 64 - 42)) :=
    @Encodes.int _ 8 _ _ rfl (@EncodesInt.int64 _ _ (-42) rfl (by decide))
  have hs : Encodes ⟨textColumn⟩ (.string [0x61, 0x62]) (serializeStringLenenc [0x61, 0x62]) :=
    .string ⟨rfl, rfl, nofun, nofun⟩ (by decide)
  exact .mk (.cons (.value hn) (.cons (.value hs) .nil)) ⟨rfl, by decide⟩

lemma shortAnswer_wellFormed {encoding : RowEncoding} {message : Bytes}
    (h : encoding.IsRow decimalIntegers [⟨bigintColumn⟩, ⟨textColumn⟩] message shortRow) :
    (shortAnswer message).WellFormed decimalIntegers encoding := by
  refine ⟨nofun, by decide, ?_, ?_, ⟨by decide, fun _ => rfl⟩⟩
  · intro c hc
    simp only [List.mem_cons, List.not_mem_nil, or_false] at hc
    rcases hc with rfl | rfl
    · exact bigintColumn_wellFormed
    · exact textColumn_wellFormed
  · intro p hp
    rw [List.mem_singleton.mp hp]
    exact h

lemma shortSession_conforming : ∀ e ∈ shortSession, e.Conforming decimalIntegers .none := by
  intro e he
  simp only [shortSession, List.mem_cons, List.not_mem_nil, or_false] at he
  rcases he with rfl | rfl | rfl | rfl | rfl | rfl
  · exact ⟨shortAnswer_wellFormed textCells_row, by decide, by decide⟩
  · exact ⟨trivial, by decide, by decide⟩
  · exact ⟨shortAnswer_wellFormed binaryCells_row, by decide, by decide⟩
  all_goals exact ⟨trivial, by decide, by decide⟩

def shortOutcomes : List Outcome :=
  [.resultSet [⟨bigintColumn⟩, ⟨textColumn⟩] none,
    .fetched ⟨[shortRow], .success, .clear⟩ (some .default),
    .resultSet [⟨bigintColumn⟩, ⟨textColumn⟩] none, .fetched ⟨[shortRow], .success, .clear⟩ none,
    .fetched ⟨[], .success, .clear⟩ (some .default), .closed]

def shortLedger : Ledger where
  received := frame 0 [0x03, 0x41] ++
    frame 0 (Serializable.serialize .none (makeStmtExecutePacket 7 [.int64 5])) ++
    frame 0 [0x19, 7, 0, 0, 0]
  complete := Function.update (Function.update (Function.update (Function.update (fun _ => none)
    0 none) 0 (some .default)) 0 none) 0 (some .default)
  reading := none

theorem session_asSpecified_iff_short :
    AsSpecified false decimalIntegers freshClient shortSession shortOutcomes shortLedger ↔
      false = true ∨ ∀ e ∈ shortSession, e.call.ParamsFit :=
  session_asSpecified_iff false decimalIntegers_converts ⟨rfl, rfl⟩ rfl shortSession_conforming rfl

/-- A statement is prepared that has 256 parameters, and executed with all of them NULL. -/
def longSession : List Exchange :=
  [⟨.prepare [0x41], .ok ⟨1, 0, 256, 0⟩ (List.replicate 256 (encodeColumnDefinition textColumn))⟩,
    ⟨.execute 0 ⟨1, 0, 256, 0⟩ (List.replicate 256 .null), .ok .default true⟩]

lemma longSession_conforming : ∀ e ∈ longSession, e.Conforming noLexical .none := by
  intro e he
  simp only [longSession, List.mem_cons, List.not_mem_nil, or_false] at he
  rcases he with rfl | rfl
  · refine ⟨List.length_replicate, ?_, by decide⟩
    intro m hm
    rcases List.mem_cons.mp hm with rfl | hm
    · decide
    · rw [List.eq_of_mem_replicate hm]
      decide
  · have hn : (List.replicate 256 Value.null).length = (256 : UInt16).toNat :=
      List.length_replicate
    refine ⟨⟨by decide, fun _ => rfl⟩, ?_, ?_⟩
    · intro m hm
      rw [Exchange.messages, if_pos hn] at hm
      rw [List.mem_singleton.mp hm]
      decide
    · intro m hm
      rw [command, if_pos hn, Option.mem_some_iff] at hm
      rw [← hm, LawfulSerializable.serialize_length]
      simp only [Serializable.getSize, makeStmtExecutePacket,
        ComStmtExecutePacket.nullBitmapTraits, NullBitmapTraits.byteCount, List.length_replicate,
        List.map_replicate, List.sum_replicate_nat]
      decide

/-- The session keeps to the rule and the server conforms, and with its assertions compiled in
the program does not get to the end. -/
theorem longSession_not_asSpecified :
    (∀ e ∈ longSession, e.Conforming noLexical .none) ∧
    ∃ outcomes l, (specified .none).run (.start []) longSession = some (outcomes, l) ∧
      ¬ AsSpecified false noLexical freshClient longSession outcomes l := by
  have hn : (List.replicate 256 Value.null).length = (256 : UInt16).toNat := List.length_replicate
  obtain ⟨l, hl⟩ : ∃ l, specified .none
      ((Ledger.start []).hears (some [0x16, 0x41])) ⟨.execute 0 ⟨1, 0, 256, 0⟩
        (List.replicate 256 .null), .ok .default true⟩ =
      some (.resultSet [] (some .default), l) := by
    simp only [specified, Ledger.answer, if_pos hn]
    exact ⟨_, rfl⟩
  refine ⟨longSession_conforming, _, l, run_cons rfl (run_cons hl rfl), ?_⟩
  rintro ⟨c', hrun, -⟩
  obtain ⟨t, r, hx⟩ := of_run hrun _ (List.mem_cons_of_mem _ (List.mem_singleton_self _))
  have hle := (paramsFit_of_perform hx).resolve_left nofun List.length_replicate
  rw [List.length_replicate] at hle
  omega

end MysqlAsio.Sessions
