import MysqlAsio.ExecuteGeneric
import MysqlAsio.RowEncodings

/-!
What a conforming server answers to commands, and how the client receives it.
-/

namespace MysqlAsio.Server

open MysqlAsio.Errors MysqlAsio.Serialization MysqlAsio.CommonMessages MysqlAsio.Values
open MysqlAsio.PreparedStatementMessages MysqlAsio.Streams MysqlAsio.Channels MysqlAsio.Framing
open MysqlAsio.ReadRow MysqlAsio.Resultset MysqlAsio.Fetching MysqlAsio.RowEncodings
open MysqlAsio.TextDeserialization
open MysqlAsio.Operations MysqlAsio.ExecuteGeneric MysqlAsio.Lib.Decoding MysqlAsio.Lib.Programs

/-! ### Answers -/

/-- An ERR packet of a server: its code is not 0. -/
structure WellFormedErr (e : ErrPacket) : Prop where
  sqlStateMarker : e.sqlStateMarker.length = 1
  sqlState : e.sqlState.length = 5
  errorCode : e.errorCode ≠ 0

/-- An OK packet of a server. Only an empty text may be omitted. -/
structure WellFormedOk (okPacket : OkPacket) (omitInfo : Bool) : Prop where
  info : okPacket.info.length < 2 ^ 64
  omitted : omitInfo = true → okPacket.info = []

def errMessage (e : ErrPacket) : Bytes := errorPacketHeader :: encodeErrPacket e

def okMessage (okPacket : OkPacket) (omitInfo : Bool) : Bytes :=
  okPacketHeader :: encodeOkPacket okPacket omitInfo

/-- How rows end. -/
inductive RowsEnd
  | eof (okPacket : OkPacket) (omitInfo : Bool)
  | err (e : ErrPacket)
  deriving DecidableEq, Repr

def RowsEnd.message : RowsEnd → Bytes
  | .eof okPacket omitInfo => encodeEof okPacket omitInfo
  | .err e => errMessage e

def RowsEnd.WellFormed : RowsEnd → Prop
  | .eof okPacket omitInfo => WellFormedOk okPacket omitInfo
  | .err e => WellFormedErr e

/-- What a query or an execution is answered with. Each row comes with its message. -/
inductive ResultsetAnswer
  | ok (okPacket : OkPacket) (omitInfo : Bool)
  | err (e : ErrPacket)
  | resultset (columns : List ColumnDefinitionPacket) (rows : List (Bytes × Row)) (ending : RowsEnd)
  deriving DecidableEq

/-- The messages of rows and of their end. -/
def rowsMessages (rows : List (Bytes × Row)) (ending : RowsEnd) : List Bytes :=
  rows.map Prod.fst ++ [ending.message]

def ResultsetAnswer.messages : ResultsetAnswer → List Bytes
  | .ok okPacket omitInfo => [okMessage okPacket omitInfo]
  | .err e => [errMessage e]
  | .resultset columns rows ending => serializeIntLenenc (.ofNat columns.length) ::
      (columns.map encodeColumnDefinition ++ rowsMessages rows ending)

def ResultsetAnswer.WellFormed (lexical : LexicalConvert) (encoding : RowEncoding) :
    ResultsetAnswer → Prop
  | .ok okPacket omitInfo => WellFormedOk okPacket omitInfo
  | .err e => WellFormedErr e
  | .resultset columns rows ending => columns ≠ [] ∧ columns.length < 2 ^ 64 ∧
      (∀ c ∈ columns, c.WellFormed) ∧
      (∀ p ∈ rows, encoding.IsRow lexical (columns.map FieldMetadata.mk) p.1 p.2) ∧
      ending.WellFormed

/-- What a prepare is answered with. The client does not look at the definitions. -/
inductive PrepareAnswer
  | ok (response : ComStmtPrepareOkPacket) (definitions : List Bytes)
  | err (e : ErrPacket)
  deriving DecidableEq

def PrepareAnswer.messages : PrepareAnswer → List Bytes
  | .ok response definitions => (0x00 :: encodePrepareOk response) :: definitions
  | .err e => [errMessage e]

def PrepareAnswer.WellFormed : PrepareAnswer → Prop
  | .ok response definitions => definitions.length = numMetadataPackets response
  | .err e => WellFormedErr e

/-! ### What reading keeps -/

/-- Nothing was done but reads. -/
def Kept (ch ch' : Channel) : Prop :=
  ∃ seq n rest sharedBuffer, ch' = { ch.moveTo seq n rest with sharedBuffer }

lemma Kept.trans {ch ch' ch'' : Channel} (h : Kept ch ch') (h' : Kept ch' ch'') : Kept ch ch'' := by
  obtain ⟨seq, n, rest, b, rfl⟩ := h
  obtain ⟨seq', n', rest', b', rfl⟩ := h'
  refine ⟨seq', n + n', rest', b', ?_⟩
  rw [← Channel.moveTo_moveTo ch seq seq' n n' rest rest']
  rfl

lemma kept_refl (ch : Channel) : Kept ch ch := by
  refine ⟨ch.sequenceNumber, 0, ch.pending, ch.sharedBuffer, ?_⟩
  rw [Channel.moveTo, Channel.pending, Stream.advance_zero]

lemma kept_afterMessage (ch : Channel) (m : Bytes) (ms : List Bytes) (rest : List Arrival) :
    Kept ch (afterMessage ch m ms rest) := ⟨_, _, _, ch.sharedBuffer, rfl⟩

lemma Kept.withBuffer {ch ch' : Channel} (h : Kept ch ch') (sharedBuffer : Bytes) :
    Kept ch { ch' with sharedBuffer } := by
  obtain ⟨seq, n, rest, b, rfl⟩ := h
  exact ⟨seq, n, rest, sharedBuffer, rfl⟩

lemma Kept.sends {ch ch' : Channel} (h : Kept ch ch') (hs : Sends ch) : Sends ch' := by
  obtain ⟨seq, n, rest, b, rfl⟩ := h
  exact ⟨by simpa using hs.isOpen, by simpa using hs.writeResults⟩

/-! ### Receiving -/

section Receiving

variable {c : Conn} {ms : List Bytes} {rest : List Arrival}

/-- An operation goes well: it returns a value, takes its messages and leaves these. -/
def Takes {α : Type} (m : Operation α) (c : Conn) (a : α) (ms : List Bytes)
    (rest : List Arrival) : Prop :=
  ∃ ch, m c = (.ok a, { c with channel := ch }) ∧ Delivers ch ms rest ∧ Kept c.channel ch

/-- An operation reports what a server says. -/
def Reports {α : Type} (m : Operation α) (c : Conn) (e : ErrPacket) (rest : List Arrival) : Prop :=
  ∃ ch, m c = (.error (makeErrorCode (.server e.errorCode)), ⟨ch, ⟨e.errorMessage⟩⟩) ∧
    Delivers ch [] rest ∧ Kept c.channel ch

lemma Takes.then {α β : Type} {m : Operation α} {f : α → Operation β} {a : α} {b : β}
    {ms' : List Bytes} (h : Takes m c a ms rest)
    (hf : ∀ ch, Delivers ch ms rest → Takes (f a) { c with channel := ch } b ms' rest) :
    Takes (m >>= f) c b ms' rest := by
  obtain ⟨ch, hm, hd, hk⟩ := h
  obtain ⟨ch', hm', hd', hk'⟩ := hf ch hd
  exact ⟨ch', by rw [then_ok hm, hm'], hd', hk.trans hk'⟩

lemma Takes.thenReports {α β : Type} {m : Operation α} {f : α → Operation β} {a : α}
    {e : ErrPacket} (h : Takes m c a ms rest)
    (hf : ∀ ch, Delivers ch ms rest → Reports (f a) { c with channel := ch } e rest) :
    Reports (m >>= f) c e rest := by
  obtain ⟨ch, hm, hd, hk⟩ := h
  obtain ⟨ch', hm', hd', hk'⟩ := hf ch hd
  exact ⟨ch', by rw [then_ok hm, hm'], hd', hk.trans hk'⟩

lemma Reports.then {α β : Type} {m : Operation α} {e : ErrPacket} (h : Reports m c e rest)
    (f : α → Operation β) : Reports (m >>= f) c e rest := by
  obtain ⟨ch, hm, hd, hk⟩ := h
  exact ⟨ch, then_error hm, hd, hk⟩

lemma takes_pure {α : Type} (a : α) (h : Delivers c.channel ms rest) :
    Takes (pure a : Operation α) c a ms rest := ⟨c.channel, rfl, h, kept_refl _⟩

lemma takes_read {m : Bytes} (h : Delivers c.channel (m :: ms) rest) :
    Takes read c m ms rest :=
  ⟨_, read_ok h.read, delivers_afterMessage _ _ _ _, kept_afterMessage _ _ _ _⟩

lemma takes_readFieldDefinitions {columns : List ColumnDefinitionPacket}
    (hc : ∀ c ∈ columns, c.WellFormed)
    (h : Delivers c.channel (columns.map encodeColumnDefinition ++ ms) rest) :
    Takes (readFieldDefinitions columns.length) c (columns.map FieldMetadata.mk) ms rest := by
  induction columns generalizing c with
  | nil => exact takes_pure _ h
  | cons column columns ih =>
    rw [List.map_cons, List.cons_append] at h
    refine (takes_read h).then fun ch hd => ?_
    have hp : Takes (processFieldDefinition (encodeColumnDefinition column))
        { c with channel := ch } ⟨column⟩ (columns.map encodeColumnDefinition ++ ms) rest := by
      have hm := @deserializeMessage_ok _ deserializeColumnDefinitionPacket
        (encodeColumnDefinition column) column ch.currentCaps
        (columnDefinition_reads (hc column (by simp))).exact
      refine ⟨ch, ?_, hd, kept_refl ch⟩
      rw [processFieldDefinition, get_then]
      simp only [hm]
      rfl
    refine hp.then fun ch hd => ?_
    exact (ih (fun c hm => hc c (by simp [hm])) hd).then fun ch hd => takes_pure _ hd

lemma reports_reportErr {e : ErrPacket} (hw : WellFormedErr e) (h : Delivers c.channel [] rest)
    {α : Type} (default : α) : Reports (reportErr (encodeErrPacket e) default) c e rest := by
  have hf : (makeErrorCode (.server e.errorCode)).failed = true := by
    rw [makeErrorCode_server_failed]
    exact hw.errorCode
  have hp := processErrorPacket_encode hw.sqlStateMarker hw.sqlState c.channel.currentCaps c.info
  refine ⟨c.channel, ?_, h, kept_refl _⟩
  rw [reportErr, get_then, then_error (report_error hp hf)]

lemma WellFormedOk.withInfo {okPacket output : OkPacket} {omitInfo : Bool}
    (h : WellFormedOk okPacket omitInfo) (ho : output.info = []) :
    okPacket.withInfo output omitInfo = okPacket := by
  cases omitInfo with
  | true => rw [OkPacket.withInfo, if_pos rfl, ho, ← h.omitted rfl]
  | false => rfl

lemma takes_ok {okPacket : OkPacket} {omitInfo : Bool} (hw : WellFormedOk okPacket omitInfo)
    (h : Delivers c.channel (okMessage okPacket omitInfo :: ms) rest)
    (deserializer : DeserializeRowFn) :
    Takes (receiveResultset deserializer) c (.ofOk okPacket) ms rest := by
  refine (takes_read h).then fun ch hd => ?_
  have hm := @deserializeMessage_ok _ (deserializeOkPacket .default)
    (encodeOkPacket okPacket omitInfo) _ ch.currentCaps (okPacket_decodes .default omitInfo hw.info)
  rw [hw.withInfo rfl] at hm
  have hp : Takes (processResponse (okMessage okPacket omitInfo)) { c with channel := ch }
      (0, okPacket) ms rest := by
    refine ⟨ch, ?_, hd, kept_refl ch⟩
    rw [processResponse, get_then]
    simp only [okMessage, deserializeMessageType_cons, if_true, hm]
    rfl
  exact hp.then fun ch hd => (takes_pure [] hd).then fun ch hd => takes_pure _ hd

/-- The number of columns is told from the headers of OK and ERR packets. -/
lemma columnCount_head {n : ℕ} (h0 : n ≠ 0) (hn : n < 2 ^ 64) :
    ∃ b s, serializeIntLenenc (.ofNat n) = b :: s ∧ b ≠ okPacketHeader ∧ b ≠ errorPacketHeader := by
  obtain ⟨b, s, hb, he, -, -⟩ := serializeIntLenenc_head (.ofNat n)
  refine ⟨b, s, hb, ?_, he⟩
  rintro rfl
  have h1 := (intLenenc_reads (.ofNat n)).exact
  have h2 : deserializeIntLenenc (okPacketHeader :: s) = .ok (0, s) := by
    rw [deserializeIntLenenc, bind_ok (deserializeInt1_cons okPacketHeader s)]
    rfl
  rw [hb, h2, Except.ok.injEq, Prod.mk.injEq] at h1
  have hv := congrArg UInt64.toNat h1.1
  rw [UInt64.toNat_ofNat_of_lt' hn] at hv
  exact h0 hv.symm

lemma takes_resultset {columns : List ColumnDefinitionPacket} (h0 : columns ≠ [])
    (hn : columns.length < 2 ^ 64) (hc : ∀ c ∈ columns, c.WellFormed)
    (h : Delivers c.channel (serializeIntLenenc (.ofNat columns.length) ::
      (columns.map encodeColumnDefinition ++ ms)) rest) (deserializer : DeserializeRowFn) :
    Takes (receiveResultset deserializer) c (.ofFields (columns.map FieldMetadata.mk) deserializer)
      ms rest := by
  have hlen : columns.length ≠ 0 := by simpa using h0
  refine (takes_read h).then fun ch hd => ?_
  have hp : Takes (processResponse (serializeIntLenenc (.ofNat columns.length)))
      { c with channel := ch } (columns.length, .default)
      (columns.map encodeColumnDefinition ++ ms) rest := by
    have hm := @deserializeMessage_ok _ deserializeIntLenenc _ _ ch.currentCaps
      (intLenenc_reads (.ofNat columns.length)).exact
    obtain ⟨b, s, hb, hok, herr⟩ := columnCount_head hlen hn
    refine ⟨ch, ?_, hd, kept_refl ch⟩
    rw [processResponse, get_then]
    simp only [hb, deserializeMessageType_cons, hok, herr, if_false]
    have hv : (UInt64.ofNat columns.length).toNat = columns.length := UInt64.toNat_ofNat_of_lt' hn
    have hz : UInt64.ofNat columns.length ≠ 0 := by
      intro hz
      rw [hz] at hv
      exact hlen hv.symm
    have ha : attempt (.ok (UInt64.ofNat columns.length)) { c with channel := ch } =
        (.ok (UInt64.ofNat columns.length), { c with channel := ch }) := rfl
    rw [← hb, hm, then_ok ha, if_neg hz, hv]
    rfl
  refine hp.then fun ch hd => (takes_readFieldDefinitions hc hd).then fun ch hd => ?_
  have hr : createResultset deserializer columns.length .default (columns.map FieldMetadata.mk) =
      .ofFields (columns.map FieldMetadata.mk) deserializer := if_neg hlen
  rw [← hr]
  exact takes_pure _ hd

lemma reports_resultset {e : ErrPacket} (hw : WellFormedErr e)
    (h : Delivers c.channel [errMessage e] rest) (deserializer : DeserializeRowFn) :
    Reports (receiveResultset deserializer) c e rest := by
  refine (takes_read h).thenReports fun ch hd => Reports.then ?_ _
  have hr : Reports (reportErr (encodeErrPacket e) ((0, .default) : ℕ × OkPacket))
      { c with channel := ch } e rest := reports_reportErr hw hd _
  obtain ⟨ch', hr⟩ := hr
  rw [← processResponse_err] at hr
  exact ⟨ch', hr⟩

lemma takes_readShared {m : Bytes} (h : Delivers c.channel (m :: ms) rest) :
    ∃ ch, readShared c = (.ok (), { c with channel := ch }) ∧ ch.sharedBuffer = m ∧
      Delivers ch ms rest ∧ Kept c.channel ch :=
  ⟨_, readShared_ok h.read, rfl, delivers_afterMessage _ _ _ _,
    (kept_afterMessage c.channel m ms rest).withBuffer m⟩

lemma takes_skipMessages {skipped : List Bytes} (h : Delivers c.channel (skipped ++ ms) rest) :
    Takes (skipMessages skipped.length) c () ms rest := by
  induction skipped generalizing c with
  | nil => exact takes_pure _ h
  | cons m skipped ih =>
    obtain ⟨ch, hr, -, hd, hk⟩ := takes_readShared h
    have hread : Takes readShared c () (skipped ++ ms) rest := ⟨ch, hr, hd, hk⟩
    exact hread.then fun ch hd => ih hd

lemma takes_statement {response : ComStmtPrepareOkPacket} {definitions : List Bytes}
    (hn : definitions.length = numMetadataPackets response)
    (h : Delivers c.channel ((0x00 :: encodePrepareOk response) :: (definitions ++ ms)) rest) :
    Takes receiveStatement c response ms rest := by
  obtain ⟨ch, hr, hb, hd, hk⟩ := takes_readShared h
  have hp : Takes processPrepareResponse { c with channel := ch } response (definitions ++ ms)
      rest := by
    have hm := @deserializeMessage_ok _ deserializeComStmtPrepareOkPacket
      (encodePrepareOk response) response ch.currentCaps (prepareOk_reads response).exact
    have h0 : (0x00 : UInt8) ≠ errorPacketHeader := by decide
    refine ⟨ch, ?_, hd, kept_refl ch⟩
    rw [processPrepareResponse, get_then]
    simp only [hb, deserializeMessageType_cons, if_neg h0, ne_eq, not_true_eq_false, if_false, hm]
    rfl
  obtain ⟨ch1, h1, hd1, hk1⟩ := hp
  have hs : Takes (skipMessages (numMetadataPackets response)) { c with channel := ch1 } () ms
      rest := by
    rw [← hn]
    exact takes_skipMessages hd1
  obtain ⟨ch2, h2, hd2, hk2⟩ := hs
  refine ⟨ch2, ?_, hd2, (hk.trans hk1).trans hk2⟩
  rw [receiveStatement, then_ok hr, then_ok h1, then_ok h2]
  rfl

lemma reports_statement {e : ErrPacket} (hw : WellFormedErr e)
    (h : Delivers c.channel [errMessage e] rest) : Reports receiveStatement c e rest := by
  obtain ⟨ch, hr, hb, hd, hk⟩ := takes_readShared h
  have hp : Reports (reportErr (encodeErrPacket e) ComStmtPrepareOkPacket.default)
      { c with channel := ch } e rest := reports_reportErr hw hd _
  obtain ⟨ch', hp, hd', hk'⟩ := hp
  rw [← processPrepareResponse_err hb] at hp
  refine ⟨ch', ?_, hd', hk.trans hk'⟩
  rw [receiveStatement, then_ok hr, then_error hp]

end Receiving

end MysqlAsio.Server
