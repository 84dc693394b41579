import MysqlAsio.Lives

/-!
A table is read the same by a query and by an execution.

A server sends the rows of a table as text to the one and in the binary protocol to the other.
-/

namespace MysqlAsio.RowAgreement

open MysqlAsio.Errors MysqlAsio.Serialization MysqlAsio.CommonMessages MysqlAsio.Auth
open MysqlAsio.Values MysqlAsio.BinaryDeserialization MysqlAsio.TextDeserialization
open MysqlAsio.PreparedStatementMessages MysqlAsio.Temporal MysqlAsio.TemporalLengths
open MysqlAsio.TemporalAgreement MysqlAsio.BinaryRows MysqlAsio.BinaryRoundTrip MysqlAsio.Channels
open MysqlAsio.Framing MysqlAsio.Resultset MysqlAsio.ServerRows MysqlAsio.RowEncodings
open MysqlAsio.Operations MysqlAsio.Server MysqlAsio.Calls MysqlAsio.Dialogue MysqlAsio.Sessions
open MysqlAsio.Lives MysqlAsio.Lib.Civil MysqlAsio.Lib.Decoding MysqlAsio.Lib.Machines

/-! ### Cells -/

/-- A cell of a table: what is sent of it as text, what in the binary protocol, and its value. A
number with a fraction is sent as a text that converts to it. -/
inductive Cell (lexical : LexicalConvert) (field : FieldMetadata) :
    Option Bytes → Option Bytes → Value → Prop
  | null : Cell lexical field none none .null
  | uint64 {size width : ℕ} {v : UInt64} (ht : intSize field.protocolType = some size)
      (hu : field.isUnsigned = true) (hv : v.toNat < 256 ^ size) (h0 : 0 < width)
      (hw : v.toNat < 10 ^ width) (hl : width < 2 ^ 32) :
      Cell lexical field (some (integerText width v.toNat))
        (some (serializeFixedSizeInt size v.toNat)) (.uint64 v)
  | int64 {size width : ℕ} {v : Int64} (ht : intSize field.protocolType = some size)
      (hu : field.isUnsigned = false)
      (hv : -(256 ^ size : ℕ) ≤ 2 * v.toInt ∧ 2 * v.toInt < (256 ^ size : ℕ)) (h0 : 0 < width)
      (hw : v.toInt.natAbs < 10 ^ width) (hl : width < 2 ^ 32) :
      Cell lexical field (some (integerText width v.toInt))
        (some (serializeFixedSizeInt size (v.toInt % (256 ^ size : ℕ)).toNat)) (.int64 v)
  | float {bits : UInt32} {s : Bytes} (ht : field.protocolType = .float)
      (hf : floatNotFinite bits = false) (hs : lexical.toFloat s = some bits)
      (hl : s.length < 2 ^ 64) :
      Cell lexical field (some s) (some (serializeInt4 bits)) (.float bits)
  | double {bits : UInt64} {s : Bytes} (ht : field.protocolType = .double)
      (hf : doubleNotFinite bits = false) (hs : lexical.toDouble s = some bits)
      (hl : s.length < 2 ^ 64) :
      Cell lexical field (some s) (some (serializeInt8 bits)) (.double bits)
  | date {c : Components} {n : ℕ} (ht : field.protocolType = .date) (h : c.DateLength n)
      (hl : c.date.InLimits) :
      Cell lexical field (some c.dateText) (some (Components.dateFields h).bytes)
        (orNull c.date.ymd.ok (.date (toDays c.date.ymd)))
  | datetime {c : Components} {n : ℕ}
      (ht : field.protocolType = .datetime ∨ field.protocolType = .timestamp)
      (hd : field.decimals = c.decimals) (h : c.DatetimeLength n)
      (hl : c.date.InLimits ∧ c.time.InLimits maxHour) :
      Cell lexical field (some c.datetimeText) (some (Components.datetimeFields h).bytes)
        (orNull c.date.ymd.ok (.datetime (toDays c.date.ymd * Values.day + c.time.total)))
  | time {d : Duration} {n width : ℕ} (ht : field.protocolType = .time)
      (hd : field.decimals = d.decimals) (h : d.TimeLength n) (hw : d.HoursWidth width) :
      Cell lexical field (some (d.text width)) (some (Duration.timeFields h).bytes)
        (signedTime d.isNegative d.time)
  | string {s : Bytes} (ht : IsStringLike field.protocolType) (hl : s.length < 2 ^ 64) :
      Cell lexical field (some s) (some (serializeStringLenenc s)) (.string s)

section Cells

variable {lexical : LexicalConvert} {field : FieldMetadata} {t w : Option Bytes} {v : Value}

lemma Cell.text (h : Cell lexical field t w v) : TextCell lexical field (t, v) := by
  cases h with
  | null => exact .null
  | uint64 ht hu hv h0 hw hl => exact .uint64 ht hu hv h0 hw hl
  | int64 ht hu hv h0 hw hl => exact .int64 ht hu hv h0 hw hl
  | float ht hf hs hl => exact .float ht hf hs hl
  | double ht hf hs hl => exact .double ht hf hs hl
  | date ht _ hl => exact .date ht hl
  | datetime ht hd _ hl => exact .datetime ht hd hl
  | time ht hd _ hw => exact .time ht hd hw
  | string ht hl => exact .string ht hl

lemma dateOf_dateFields {c : Components} {n : ℕ} (h : c.DateLength n) :
    DateFields.dateOf (Components.dateFields h) =
      orNull c.date.ymd.ok (.date (toDays c.date.ymd)) := by
  rw [DateFields.dateOf, Components.dateFields_parts, orNull]

lemma datetimeOf_datetimeFields {c : Components} {n : ℕ} (h : c.DatetimeLength n) :
    DatetimeFields.datetimeOf (Components.datetimeFields h) =
      orNull c.date.ymd.ok (.datetime (toDays c.date.ymd * Values.day + c.time.total)) := by
  rw [DatetimeFields.datetimeOf, Components.datetimeFields_parts, Components.datetimeFields_time,
    orNull]

lemma timeForm_timeFields {d : Duration} {n : ℕ} (h : d.TimeLength n) :
    timeForm.valueOf (Duration.timeFields h) = signedTime d.isNegative d.time := by
  have hv := Duration.timeFields_value h
  rw [TimeFields.value, if_pos (Duration.timeFields_inLimits h)] at hv
  exact Except.ok.inj hv

lemma Cell.binary (h : Cell lexical field t w v) : BinaryCell field (w, v) := by
  cases h with
  | null => exact .null
  | uint64 ht hu hv => exact .value (.int ht (.uint64 hu hv))
  | int64 ht hu hv => exact .value (.int ht (.int64 hu hv))
  | float ht hf => exact .value (.float ht hf)
  | double ht hf => exact .value (.double ht hf)
  | @date c n ht h hl =>
    rw [← dateOf_dateFields h]
    have hform : temporalForm field.protocolType = some dateForm := congrArg temporalForm ht
    refine .value (.temporal hform _ ?_ ?_)
    · change (UInt8.ofNat n).toNat ∈ dateForm.sizes
      obtain rfl | ⟨rfl, -⟩ := h <;> decide
    · change (Components.dateFields h).parts.InLimits
      rwa [Components.dateFields_parts]
  | @datetime c n ht hd h hl =>
    rw [← datetimeOf_datetimeFields h]
    have hform : temporalForm field.protocolType = some datetimeForm := by
      obtain ht | ht := ht <;> exact congrArg temporalForm ht
    refine .value (.temporal hform _ ?_ ?_)
    · change (UInt8.ofNat n).toNat ∈ datetimeForm.sizes
      obtain rfl | ⟨rfl, -⟩ | ⟨rfl, -⟩ | ⟨rfl, -⟩ := h <;> decide
    · change (Components.datetimeFields h).parts.InLimits ∧
        (Components.datetimeFields h).time.InLimits maxHour
      rwa [Components.datetimeFields_parts, Components.datetimeFields_time]
  | @time d n width ht hd h hw =>
    rw [← timeForm_timeFields h]
    have hform : temporalForm field.protocolType = some timeForm := congrArg temporalForm ht
    refine .value (.temporal hform _ ?_ (Duration.timeFields_inLimits h))
    change (UInt8.ofNat n).toNat ∈ timeForm.sizes
    obtain rfl | ⟨rfl, -⟩ | ⟨rfl, -⟩ := h <;> decide
  | string ht hl => exact .value (.string ht hl)

end Cells

/-! ### Rows -/

/-- A cell of a row as it is sent in both protocols, and its value. -/
structure SentCell where
  text : Option Bytes
  binary : Option Bytes
  value : Value

def SentCell.inText (c : SentCell) : Option Bytes × Value := (c.text, c.value)
def SentCell.inBinary (c : SentCell) : Option Bytes × Value := (c.binary, c.value)

/-- A row as it is sent in both protocols, and its values. -/
structure SentRow where
  text : Bytes
  binary : Bytes
  row : Row

/-- The cells of a row are those of its fields, one after the other. -/
inductive IsRow (lexical : LexicalConvert) (fields : List FieldMetadata) : SentRow → Prop
  | mk {cells : List SentCell} {bitmap : Bytes}
      (h : List.Forall₂ (fun f c => Cell lexical f c.text c.binary c.value) fields cells)
      (hb : RowBitmap (cells.map SentCell.inBinary) bitmap) :
      IsRow lexical fields ⟨encodeTextFields (cells.map SentCell.inText),
        encodeBinaryRow bitmap (cells.map SentCell.inBinary), cells.map SentCell.value⟩

section Rows

variable {lexical : LexicalConvert} {fields : List FieldMetadata} {r : SentRow}

lemma IsRow.inText (h : IsRow lexical fields r) : IsTextRow lexical fields r.text r.row := by
  cases h with
  | @mk cells bitmap h hb =>
    have hf : List.Forall₂ (TextCell lexical) fields (cells.map SentCell.inText) := by
      rw [List.forall₂_map_right_iff]
      exact h.imp fun _ _ hcell => hcell.text
    have hm := IsTextRow.mk hf
    rwa [List.map_map] at hm

lemma IsRow.inBinary (h : IsRow lexical fields r) : IsBinaryRow fields r.binary r.row := by
  cases h with
  | @mk cells bitmap h hb =>
    have hf : List.Forall₂ BinaryCell fields (cells.map SentCell.inBinary) := by
      rw [List.forall₂_map_right_iff]
      exact h.imp fun _ _ hcell => hcell.binary
    have hm := IsBinaryRow.mk hf hb
    rwa [List.map_map] at hm

end Rows

/-! ### Tables -/

/-- A table, no message of which needs a second frame in either protocol. -/
structure Table (lexical : LexicalConvert) where
  columns : List ColumnDefinitionPacket
  rows : List SentRow
  ending : RowsEnd
  columns_ne : columns ≠ []
  columns_length : columns.length < 2 ^ 64
  columns_wellFormed : ∀ c ∈ columns, c.WellFormed ∧ (encodeColumnDefinition c).length < maxPacketSize
  rows_are : ∀ r ∈ rows, IsRow lexical (columns.map FieldMetadata.mk) r
  rows_short : ∀ r ∈ rows, r.text.length < maxPacketSize ∧ r.binary.length < maxPacketSize
  ending_wellFormed : ending.WellFormed
  ending_short : ending.message.length < maxPacketSize

lemma intLenenc_short_frame (v : UInt64) : (serializeIntLenenc v).length < maxPacketSize := by
  rw [intLenenc_length]
  unfold sizeIntLenenc
  split_ifs <;> decide

namespace Table

variable {lexical : LexicalConvert} (t : Table lexical)

/-- What a query is answered with. -/
def text : ResultsetAnswer := .resultset t.columns (t.rows.map fun r => (r.text, r.row)) t.ending

/-- What an execution is answered with. -/
def binary : ResultsetAnswer :=
  .resultset t.columns (t.rows.map fun r => (r.binary, r.row)) t.ending

lemma text_wellFormed : t.text.WellFormed lexical .text := by
  refine ⟨t.columns_ne, t.columns_length, fun c h => (t.columns_wellFormed c h).1, ?_,
    t.ending_wellFormed⟩
  intro p hp
  obtain ⟨r, hr, rfl⟩ := List.mem_map.mp hp
  exact (t.rows_are r hr).inText

lemma binary_wellFormed : t.binary.WellFormed lexical .binary := by
  refine ⟨t.columns_ne, t.columns_length, fun c h => (t.columns_wellFormed c h).1, ?_,
    t.ending_wellFormed⟩
  intro p hp
  obtain ⟨r, hr, rfl⟩ := List.mem_map.mp hp
  exact (t.rows_are r hr).inBinary

lemma messages_short {form : SentRow → Bytes}
    (hf : ∀ r ∈ t.rows, (form r).length < maxPacketSize) :
    ∀ m ∈ (ResultsetAnswer.resultset t.columns (t.rows.map fun r => (form r, r.row))
      t.ending).messages, m.length < maxPacketSize := by
  intro m hm
  simp only [ResultsetAnswer.messages, rowsMessages, List.mem_cons, List.mem_append, List.mem_map,
    List.not_mem_nil, or_false] at hm
  rcases hm with rfl | ⟨c, hc, rfl⟩ | ⟨_, ⟨r, hr, rfl⟩, rfl⟩ | rfl
  · exact intLenenc_short_frame _
  · exact (t.columns_wellFormed c hc).2
  · exact hf r hr
  · exact t.ending_short

end Table

/-! ### Sessions that read a table -/

/-- What a fetch sees of what is left of a resultset. -/
def left (p : ℕ × Unread) : ℕ × List Row × RowsEnd := (p.1, p.2.rows.map Prod.snd, p.2.ending)

/-- Fetches see the same. -/
structure Alike (l m : Ledger) : Prop where
  complete : m.complete = l.complete
  reading : m.reading.map left = l.reading.map left

lemma fetched_alike {l m : Ledger} (h : m.complete = l.complete) {v : ℕ} {u w : Unread}
    (hr : w.rows.map Prod.snd = u.rows.map Prod.snd) (he : w.ending = u.ending) (count : ℕ) :
    (m.fetched v w count).1 = (l.fetched v u count).1 ∧
      Alike (l.fetched v u count).2 (m.fetched v w count).2 := by
  have hlen : w.rows.length = u.rows.length := by
    simpa using congrArg List.length hr
  rw [Ledger.fetched, Ledger.fetched, hlen]
  split_ifs
  · refine ⟨by rw [List.map_take, List.map_take, hr], h, ?_⟩
    simp only [Option.map_some, left, List.map_drop, hr, he]
  · rw [he]
    cases u.ending with
    | eof okPacket omitInfo => exact ⟨by rw [hr], by simp only [Ledger.completed, h], rfl⟩
    | err e => exact ⟨by rw [hr], h, rfl⟩

lemma fetch_alike {l m : Ledger} (h : Alike l m) {source : ℕ} {call : FetchCall} {o : Outcome}
    {l' : Ledger} (hf : l.fetch source call = some (o, l')) :
    ∃ m', m.fetch source call = some (o, m') ∧ Alike l' m' := by
  unfold Ledger.fetch at hf ⊢
  rw [h.complete]
  have hr := h.reading
  split at hf
  · next okPacket hc =>
    cases hf
    rw [hc]
    exact ⟨m, rfl, h⟩
  · next v u hc hu =>
    split_ifs at hf with hv
    rw [hu, Option.map_some, Option.map_eq_some_iff] at hr
    obtain ⟨⟨v', w⟩, hw, heq⟩ := hr
    simp only [left, Prod.mk.injEq] at heq
    obtain ⟨rfl, hrows, hending⟩ := heq
    obtain ⟨ho, ha⟩ := @fetched_alike l m h.complete v' u w hrows hending call.count
    rw [hc, hw]
    simp only [if_pos hv]
    rw [Option.some.inj hf] at ho ha
    exact ⟨(m.fetched v' w call.count).2, congrArg some (Prod.ext ho rfl), ha⟩
  · cases hf

/-- The exchange is a fetch. -/
def IsFetch (e : Exchange) : Prop := ∃ source call, e = ⟨.fetch source call, ()⟩

lemma specified_alike (caps : Capabilities) :
    Refines Alike IsFetch (specified caps) (specified caps) := by
  rintro l m e o l' h ⟨source, call, rfl⟩ hs
  exact fetch_alike h hs

section Agreement

variable {lexical : LexicalConvert} (t : Table lexical)

/-- A query for a table. -/
def Table.query (into : ℕ) (queryString : Bytes) : Exchange := ⟨.query into queryString, t.text⟩

/-- An execution of a statement for it. -/
def Table.execution (into : ℕ) (statement : ComStmtPrepareOkPacket) (params : List Value) :
    Exchange := ⟨.execute into statement params, t.binary⟩

lemma first_alike {caps : Capabilities} {l : Ledger} {into : ℕ} {queryString : Bytes}
    {statement : ComStmtPrepareOkPacket} {params : List Value}
    (hn : params.length = statement.numParams.toNat) {o : Outcome} {l' : Ledger}
    (h : specified caps l (t.query into queryString) = some (o, l')) :
    ∃ m', specified caps l (t.execution into statement params) = some (o, m') ∧
      Alike l' m' := by
  simp only [specified, Table.query, Table.execution] at h ⊢
  split_ifs at h ⊢
  simp only [Ledger.answer, if_pos hn]
  cases h
  refine ⟨_, rfl, rfl, ?_⟩
  simp [left, Function.comp_def]

lemma fetch_conforming {e : Exchange} (h : IsFetch e) (caps : Capabilities) :
    e.Conforming lexical caps := by
  obtain ⟨source, call, rfl⟩ := h
  exact ⟨trivial, fun m hm => absurd hm List.not_mem_nil, fun m hm => absurd hm (by simp [command])⟩

lemma Table.query_conforming {queryString : Bytes}
    (hq : queryString.length + 1 < maxPacketSize) (into : ℕ) (caps : Capabilities) :
    (t.query into queryString).Conforming lexical caps where
  answer := t.text_wellFormed
  messages := t.messages_short fun r hr => (t.rows_short r hr).1
  command m hm := by
    obtain rfl := Option.some.inj hm
    rw [LawfulSerializable.serialize_length]
    change 1 + queryString.length < maxPacketSize
    omega

lemma Table.execution_conforming {statement : ComStmtPrepareOkPacket} {params : List Value}
    (hn : params.length = statement.numParams.toNat)
    (hx : (Serializable.serialize .none (makeStmtExecutePacket statement.statementId params)).length <
      maxPacketSize) (into : ℕ) (caps : Capabilities) :
    (t.execution into statement params).Conforming lexical caps where
  answer := t.binary_wellFormed
  messages := by
    have h := t.messages_short fun r hr => (t.rows_short r hr).2
    rwa [execution, Exchange.messages, if_pos hn]
  command m hm := by
    rw [execution, command, if_pos hn] at hm
    obtain rfl := Option.some.inj hm
    exact hx

/-- **A table is read the same by a query and by an execution**, whichever way each call is made:
with the same fetches, neither going on after an error, both sessions go to their end and return
the same fields, rows and ends. -/
theorem query_execution_agree (hashes : Hashes) (hc : ConvertsIntegers lexical) {conn : Conn}
    (hs : Sends conn.channel) (hp : conn.channel.pending = []) {into : ℕ} {queryString : Bytes}
    (hq : queryString.length + 1 < maxPacketSize) {statement : ComStmtPrepareOkPacket}
    {params : List Value} (hn : params.length = statement.numParams.toNat)
    (hx : (Serializable.serialize .none (makeStmtExecutePacket statement.statementId params)).length <
      maxPacketSize) {fetches : List Exchange} (hf : ∀ e ∈ fetches, IsFetch e)
    {outcomes : List Outcome} {l : Ledger}
    (hr : (specified conn.channel.currentCaps).run (.start conn.channel.stream.sent)
      (t.query into queryString :: fetches) = some (outcomes, l))
    {makings makings' : List MadeExchange}
    (hm : makings.map MadeExchange.exchange = t.query into queryString :: fetches)
    (hm' : makings'.map MadeExchange.exchange = t.execution into statement params :: fetches) :
    ((∃ c, (mixedExchange hashes lexical).Runs (sessionClient conn) makings outcomes c) ∧
      ∃ c, (mixedExchange hashes lexical).Runs (sessionClient conn) makings' outcomes c) ∧
    ∀ outcomes' c, (mixedExchange hashes lexical).Runs (sessionClient conn) makings outcomes' c ∨
      (mixedExchange hashes lexical).Runs (sessionClient conn) makings' outcomes' c →
      outcomes' = outcomes := by
  have hfetch (e : Exchange) (he : e ∈ fetches) : e.Conforming lexical conn.channel.currentCaps :=
    fetch_conforming (hf e he) _
  have hquery : ∀ m ∈ makings, m.exchange.Conforming lexical conn.channel.currentCaps := by
    intro m hmem
    have he : m.exchange ∈ t.query into queryString :: fetches := hm ▸ List.mem_map_of_mem hmem
    rcases List.mem_cons.mp he with he | he
    · exact he ▸ t.query_conforming hq into _
    · exact hfetch _ he
  have hexecution : ∀ m ∈ makings', m.exchange.Conforming lexical conn.channel.currentCaps := by
    intro m hmem
    have he : m.exchange ∈ t.execution into statement params :: fetches :=
      hm' ▸ List.mem_map_of_mem hmem
    rcases List.mem_cons.mp he with he | he
    · exact he ▸ t.execution_conforming hn hx into _
    · exact hfetch _ he
  -- the execution is specified as the query is
  obtain ⟨o, l₁, os, hfirst, hrest, rfl⟩ := of_run_cons hr
  obtain ⟨m₁, hfirst', ha⟩ := first_alike t hn hfirst
  obtain ⟨m, hrest', -⟩ := (specified_alike _).run ha hf hrest
  have hr' := run_cons hfirst' hrest'
  rw [← hm] at hr
  rw [← hm'] at hr'
  obtain ⟨hex, hall⟩ := mixedExchange_specified hashes hc hs hp hquery hr
  obtain ⟨hex', hall'⟩ := mixedExchange_specified hashes hc hs hp hexecution hr'
  refine ⟨⟨hex, hex'⟩, fun outcomes' c h => ?_⟩
  rcases h with h | h
  · exact (hall _ c h).1
  · exact (hall' _ c h).1

end Agreement

/-! ### An integer and a NULL -/

def integerCell : SentCell :=
  ⟨some (integerText 2 (-42)), some (serializeFixedSizeInt 8 (2 ^ 64 - 42)), .int64 (-42)⟩

def nullCell : SentCell := ⟨none, none, .null⟩

/-- A row of a cell. -/
def cellRow (bitmap : Bytes) (c : SentCell) : SentRow :=
  ⟨encodeTextFields [c.inText], encodeBinaryRow bitmap [c.inBinary], [c.value]⟩

/-- A table of two rows. -/
def bigints : Table decimalIntegers where
  columns := [bigintColumn]
  rows := [cellRow [0] integerCell, cellRow [4] nullCell]
  ending := .eof .default true
  columns_ne := nofun
  columns_length := by decide
  columns_wellFormed c hc := by
    rw [List.mem_singleton.mp hc]
    exact ⟨by constructor <;> decide, by decide⟩
  rows_are r hr := by
    simp only [List.mem_cons, List.not_mem_nil, or_false] at hr
    rcases hr with rfl | rfl
    · have hcell : Cell decimalIntegers ⟨bigintColumn⟩ (some (integerText 2 (-42)))
          (some (serializeFixedSizeInt 8 (2 ^ 64 - 42))) (.int64 (-42)) :=
        @Cell.int64 _ _ 8 2 (-42) rfl rfl (by decide) (by decide) (by decide) (by decide)
      exact @IsRow.mk _ _ [integerCell] [0] (.cons hcell .nil) ⟨rfl, by decide⟩
    · exact @IsRow.mk _ _ [nullCell] [4] (.cons .null .nil) ⟨rfl, by decide⟩
  rows_short r hr := by
    simp only [List.mem_cons, List.not_mem_nil, or_false] at hr
    rcases hr with rfl | rfl <;> decide
  ending_wellFormed := ⟨by decide, fun _ => rfl⟩
  ending_short := by decide

/-- The first row is fetched, and then the rest. -/
def bigintFetches : List Exchange := [⟨.fetch 0 .one, ()⟩, ⟨.fetch 0 (.many 2), ()⟩]

lemma bigintFetches_fetch : ∀ e ∈ bigintFetches, IsFetch e := by
  intro e he
  simp only [bigintFetches, List.mem_cons, List.not_mem_nil, or_false] at he
  rcases he with rfl | rfl <;> exact ⟨0, _, rfl⟩

def queryMade : List MadeExchange :=
  [⟨bigints.query 0 [0x41], true, fun _ => rfl⟩, .fetch 0 .one false, .fetch 0 (.many 2) true]

def executionMade : List MadeExchange :=
  [.sync (bigints.execution 0 ⟨7, 0, 1, 0⟩ [.int64 5]), .fetch 0 .one true,
    .fetch 0 (.many 2) false]

def bigintOutcomes : List Outcome :=
  [.resultSet [⟨bigintColumn⟩] none, .fetched ⟨[[.int64 (-42)]], .success, .clear⟩ none,
    .fetched ⟨[[.null]], .success, .clear⟩ (some .default)]

theorem query_execution_agree_bigints :
    ((∃ c, (mixedExchange zeroHashes decimalIntegers).Runs (sessionClient freshClient.conn)
        queryMade bigintOutcomes c) ∧
      ∃ c, (mixedExchange zeroHashes decimalIntegers).Runs (sessionClient freshClient.conn)
        executionMade bigintOutcomes c) ∧
    ∀ outcomes' c, (mixedExchange zeroHashes decimalIntegers).Runs (sessionClient freshClient.conn)
        queryMade outcomes' c ∨
      (mixedExchange zeroHashes decimalIntegers).Runs (sessionClient freshClient.conn)
        executionMade outcomes' c →
      outcomes' = bigintOutcomes :=
  @query_execution_agree _ bigints zeroHashes decimalIntegers_converts freshClient.conn ⟨rfl, rfl⟩
    rfl 0 [0x41] (by decide) ⟨7, 0, 1, 0⟩ [.int64 5] rfl (by decide) bigintFetches
    bigintFetches_fetch _ _ rfl _ _ rfl rfl

end MysqlAsio.RowAgreement
