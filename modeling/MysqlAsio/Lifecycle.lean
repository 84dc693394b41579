import MysqlAsio.HandshakeLogs
import MysqlAsio.Lives
import MysqlAsio.Receiving

/-!
When a connection is open, what is sent on it, and in which layer, over its whole life.
-/

namespace MysqlAsio.Lifecycle

open MysqlAsio.Errors MysqlAsio.Serialization MysqlAsio.Auth MysqlAsio.Values
open MysqlAsio.PreparedStatementMessages MysqlAsio.TextDeserialization MysqlAsio.Streams
open MysqlAsio.Channels MysqlAsio.Framing MysqlAsio.ReadRow MysqlAsio.Resultset
open MysqlAsio.Operations MysqlAsio.ExecuteGeneric MysqlAsio.Handshake MysqlAsio.Connection
open MysqlAsio.Receiving MysqlAsio.HandshakeMessages MysqlAsio.TlsPolicy MysqlAsio.Challenges
open MysqlAsio.Calls MysqlAsio.HandshakeLogs
open MysqlAsio.AsyncCalls MysqlAsio.Lives MysqlAsio.Sessions MysqlAsio.Lib.Programs
open MysqlAsio.Lib.Machines

/-! ### What is done with a stream -/

def layerOf (tls : Bool) : Layer := if tls then .tls else .plain

/-- What is done with a stream while it stays connected, and whether the channel over it uses TLS
before and afterwards. -/
inductive Trace : Bool → List Event → Bool → Prop
  | nil (tls : Bool) : Trace tls [] tls
  | write {tls tls' : Bool} {events : List Event} (data : Bytes) (h : Trace tls events tls') :
      Trace tls (.write (layerOf tls) data :: events) tls'
  | tlsHandshake {tls tls' : Bool} {events : List Event} (completed : Bool)
      (h : Trace true events tls') : Trace tls (.tlsHandshake completed :: events) tls'

lemma Trace.append {a b c : Bool} {l l' : List Event} (h : Trace a l b) (h' : Trace b l' c) :
    Trace a (l ++ l') c := by
  induction h with
  | nil tls => exact h'
  | write data _ ih => exact .write data (ih h')
  | tlsHandshake completed _ ih => exact .tlsHandshake completed (ih h')

lemma trace_writes (tls : Bool) (data : List Bytes) :
    Trace tls (data.map (.write (layerOf tls))) tls := by
  induction data with
  | nil => exact .nil tls
  | cons d data ih => exact .write d ih

/-- Once TLS is used, all that is written goes through it, and it stays in use. -/
lemma Trace.of_true {b : Bool} {l : List Event} (h : Trace true l b) :
    b = true ∧ ∀ data, .write .plain data ∉ l := by
  induction l with
  | nil =>
    cases h
    exact ⟨rfl, fun _ => List.not_mem_nil⟩
  | cons e l ih =>
    have hcons (h : Trace true l b) (he : ∀ data, e ≠ .write .plain data) :
        b = true ∧ ∀ data, .write .plain data ∉ e :: l := by
      refine ⟨(ih h).1, fun data hm => ?_⟩
      rcases List.mem_cons.mp hm with heq | hm
      · exact he data heq.symm
      · exact (ih h).2 data hm
    cases h with
    | write data h => exact hcons h fun _ heq => by cases heq
    | tlsHandshake completed h => exact hcons h nofun

lemma Trace.of_false {a : Bool} {l : List Event} (h : Trace a l false) :
    a = false ∧ ∀ e ∈ l, ∃ data, e = .write .plain data := by
  induction l generalizing a with
  | nil =>
    cases h
    exact ⟨rfl, fun _ hm => absurd hm List.not_mem_nil⟩
  | cons e l ih =>
    cases h with
    | write data h =>
      obtain ⟨rfl, hl⟩ := ih h
      refine ⟨rfl, fun e he => ?_⟩
      rcases List.mem_cons.mp he with rfl | he
      · exact ⟨data, rfl⟩
      · exact hl e he
    | tlsHandshake completed h => cases (ih h).1

/-- Behind the first sign of TLS nothing is written in the clear. -/
lemma Trace.after {a b : Bool} {pre post : List Event} {e : Event} (h : Trace a (pre ++ e :: post) b)
    (he : ∀ data, e ≠ .write .plain data) : ∀ data, .write .plain data ∉ post := by
  induction pre generalizing a with
  | nil =>
    rw [List.nil_append] at h
    cases h with
    | write data h =>
      cases a with
      | false => exact absurd rfl (he data)
      | true => exact h.of_true.2
    | tlsHandshake completed h => exact h.of_true.2
  | cons x pre ih =>
    rw [List.cons_append] at h
    cases h with
    | write data h => exact ih h
    | tlsHandshake completed h => exact ih h

/-! ### What operations do with it -/

/-- Messages are read, and written in the layer in use; nothing is sent in a stream that is
closed. -/
structure Talks (c c' : Conn) : Prop where
  isOpen : c'.channel.stream.isOpen = c.channel.stream.isOpen
  sslActive : c'.channel.sslActive = c.channel.sslActive
  log : ∃ data : List Bytes, c'.channel.stream.log =
    c.channel.stream.log ++ data.map (.write (layerOf c.channel.sslActive))
  closed : c.channel.stream.isOpen = false → c'.channel.stream.log = c.channel.stream.log
  plain : c.channel.stream.plain = [] → c'.channel.stream.plain = []

lemma talks_refl (c : Conn) : Talks c c :=
  ⟨rfl, rfl, ⟨[], (List.append_nil _).symm⟩, fun _ => rfl, id⟩

lemma Talks.trans (a b c : Conn) (h : Talks a b) (h' : Talks b c) : Talks a c where
  isOpen := h'.isOpen.trans h.isOpen
  sslActive := h'.sslActive.trans h.sslActive
  log := by
    obtain ⟨data, hl⟩ := h.log
    obtain ⟨data', hl'⟩ := h'.log
    refine ⟨data ++ data', ?_⟩
    rw [hl', hl, h.sslActive, List.map_append, List.append_assoc]
  closed ho := (h'.closed (h.isOpen.trans ho)).trans (h.closed ho)
  plain hp := h'.plain (h.plain hp)

lemma talks_of_stream {c c' : Conn} (hs : c'.channel.stream = c.channel.stream)
    (ha : c'.channel.sslActive = c.channel.sslActive) : Talks c c' := by
  refine ⟨by rw [hs], ha, ⟨[], ?_⟩, fun _ => by rw [hs], fun h => by rwa [hs]⟩
  rw [hs, List.map_nil, List.append_nil]

lemma talks_clear (c : Conn) : Talks c { c with info := .clear } := talks_of_stream rfl rfl

lemma advance_plain {s : Stream} {layer : Layer} {n : ℕ} {rest : List Arrival}
    (hl : rest.length ≤ (s.arrivals layer).length) (h : s.plain = []) :
    (s.advance layer n rest).plain = [] := by
  cases layer with
  | plain =>
    have h0 : (s.arrivals .plain).length = 0 := congrArg List.length h
    have hrest : rest = [] := List.length_eq_zero_iff.mp (by omega)
    exact hrest
  | tls => exact h

lemma talks_of_moved {c : Conn} {ch : Channel} (h : c.channel.Moved ch) (info : ErrorInfo) :
    Talks c ⟨ch, info⟩ := by
  obtain ⟨seq, n, rest, hl, rfl⟩ := h
  refine ⟨Stream.advance_isOpen .., rfl, ⟨[], ?_⟩, fun _ => Stream.advance_log ..,
    advance_plain hl⟩
  rw [List.map_nil, List.append_nil]
  exact Stream.advance_log ..

lemma write_closed {ch : Channel} (h : ch.stream.isOpen = false) (m : Bytes) :
    ch.write m = (badDescriptor, { ch with sequenceNumber := ch.sequenceNumber + 1 }) := by
  have hf : badDescriptor.failed = true := rfl
  rw [Channel.write, Channel.writeLoop]
  simp only [Channel.processHeaderWrite, Channel.writeImpl, Stream.write, h, Bool.not_false, if_true,
    hf]

lemma not_written {ch ch' : Channel} (h : ch.stream.isOpen = false) {m : Bytes}
    (hw : ch.write m = (.success, ch')) : False := by
  rw [write_closed h] at hw
  cases hw

lemma talks_write (c : Conn) (m : Bytes) (info : ErrorInfo) :
    Talks c ⟨(c.channel.write m).2, info⟩ := by
  cases ho : c.channel.stream.isOpen with
  | false =>
    -- the first frame is refused, and nothing leaves
    rw [write_closed ho]
    exact talks_of_stream rfl rfl
  | true =>
    obtain ⟨seq, results, data, hw⟩ := (write_cases c.channel m).1
    rw [hw]
    refine ⟨rfl, rfl, ⟨data, rfl⟩, fun h => ?_, id⟩
    rw [ho] at h
    cases h

section Preserves

variable {α β : Type}

lemma talks_closedUnderReads : ClosedUnderReads Talks where
  trans := Talks.trans
  moved c _ h := talks_of_moved h c.info
  sharedBuffer _ _ := talks_of_stream rfl rfl
  info _ _ := talks_of_stream rfl rfl

lemma talks_then {m : Operation α} {f : α → Operation β} (hm : Preserves Talks m)
    (hf : ∀ a, Preserves Talks (f a)) : Preserves Talks (m >>= f) := hm.then Talks.trans hf

lemma talks_resetSequenceNumber : Preserves Talks (modifyChannel Channel.resetSequenceNumber) :=
  fun _ => talks_of_stream rfl rfl

lemma talks_serializeShared {α : Type} [Serializable α] (input : α) (caps : Capabilities) :
    Preserves Talks (serializeShared input caps) := fun _ => talks_of_stream rfl rfl

lemma talks_writeOp (m : Bytes) : Preserves Talks (Operations.write m) :=
  fun c => talks_write c m c.info

lemma talks_writeShared : Preserves Talks writeShared :=
  fun c => talks_write c c.channel.sharedBuffer c.info

lemma talks_cleared {m : Operation α} (hm : Preserves Talks m) : Preserves Talks (cleared m) :=
  fun c => .trans _ _ _ (talks_clear c) (hm _)

/-! ### Commands -/

lemma executeGeneric_talks {α : Type} [Serializable α] (deserializer : DeserializeRowFn)
    (request : α) : Preserves Talks (executeGeneric deserializer request) :=
  talks_then talks_closedUnderReads.get fun _ => talks_then talks_resetSequenceNumber fun _ =>
    talks_then (talks_writeOp _) fun _ => talks_closedUnderReads.receiveResultset deserializer

lemma composed_talks {α β : Type} [Serializable α] (input : α) {next : Operation β}
    (hn : Preserves Talks next) : Preserves Talks (do
      serializeShared input (← get).channel.currentCaps
      modifyChannel Channel.resetSequenceNumber
      next : Operation β) :=
  talks_then talks_closedUnderReads.get fun _ => talks_then (talks_serializeShared _ _) fun _ =>
    talks_then talks_resetSequenceNumber fun _ => hn

lemma prepareStatement_talks (statement : Bytes) : Preserves Talks (prepareStatement statement) :=
  composed_talks _ (talks_then talks_writeShared fun _ => talks_closedUnderReads.receiveStatement)

lemma quitConnection_talks : Preserves Talks quitConnection := composed_talks _ talks_writeShared

lemma execute_talks (statement : ComStmtPrepareOkPacket) (params : List Value) :
    Preserves Talks (execute statement params) :=
  talks_cleared (talks_then (talks_closedUnderReads.report _) fun _ => executeGeneric_talks _ _)

end Preserves

/-! ### Closed streams -/

/-- The operation fails with a stream that is closed. -/
def NeedsOpen {α : Type} (m : Operation α) : Prop :=
  ∀ c : Conn, c.channel.stream.isOpen = false → ∃ err c', m c = (.error err, c')

section NeedsOpen

variable {α β : Type}

lemma needsOpen_cleared {m : Operation α} (hm : NeedsOpen m) : NeedsOpen (cleared m) :=
  fun _ ho => hm _ ho

lemma needsOpen_then {m : Operation α} (hm : NeedsOpen m) (f : α → Operation β) :
    NeedsOpen (m >>= f) := fun c ho =>
  have ⟨err, c', h⟩ := hm c ho
  ⟨err, c', then_error h⟩

lemma write_needsOpen (m : Bytes) : NeedsOpen (Operations.write m) := fun c ho =>
  ⟨badDescriptor, _, by rw [Operations.write, onChannel, write_closed ho]; rfl⟩

lemma writeShared_needsOpen : NeedsOpen writeShared := fun c ho =>
  ⟨badDescriptor, _, by rw [writeShared, onChannel, write_closed ho]; rfl⟩

lemma executeGeneric_needsOpen {α : Type} [Serializable α] (deserializer : DeserializeRowFn)
    (request : α) : NeedsOpen (executeGeneric deserializer request) := fun c ho =>
  needsOpen_then (write_needsOpen _) _ { c with channel := c.channel.resetSequenceNumber } ho

lemma composed_needsOpen {α : Type} [Serializable α] (input : α) {next : Operation β}
    (hn : NeedsOpen next) : NeedsOpen (do
      serializeShared input (← get).channel.currentCaps
      modifyChannel Channel.resetSequenceNumber
      next : Operation β) := by
  intro c ho
  rw [get_then, composeShared_then]
  exact hn _ ho

lemma prepareStatement_needsOpen (statement : Bytes) : NeedsOpen (prepareStatement statement) :=
  composed_needsOpen _ (needsOpen_then writeShared_needsOpen _)

lemma quitConnection_needsOpen : NeedsOpen quitConnection :=
  composed_needsOpen _ writeShared_needsOpen

lemma closeStatement_needsOpen (statementId : UInt32) : NeedsOpen (closeStatement statementId) :=
  composed_needsOpen _ writeShared_needsOpen

lemma execute_needsOpen (statement : ComStmtPrepareOkPacket) (params : List Value) :
    NeedsOpen (execute statement params) := by
  intro c ho
  rcases hn : checkNumParams statement params { c with info := .clear } with ⟨err | _, c1⟩
  · -- the wrong number of parameters: nothing is even composed
    exact ⟨err, c1, then_error hn⟩
  · -- the request is composed, and refused when it is written
    have hr : execute statement params c =
        executeStatement statement.statementId params c1 := then_ok hn
    have hc : c1.channel = c.channel := by
      have h2 := congrArg (fun r => r.2.channel) hn
      exact h2.symm
    rw [hr]
    exact executeGeneric_needsOpen _ _ c1 (by rw [hc]; exact ho)

end NeedsOpen

/-- Without TLS, no row is fetched where nothing is going to arrive. -/
lemma fetch_drained {ch : Channel} (hp : ch.stream.plain = []) (hs : ch.sslActive = false)
    (rs : ResultSet) (call : FetchCall) : (rs.fetch ch call).1.rows = [] := by
  have hpending : ch.pending = [] := by
    rw [Channel.pending, Channel.layer, hs]
    exact hp
  rw [fetch_eq, ResultSet.fetchMany]
  split_ifs
  · rfl
  · cases call.count with
    | zero => rfl
    | succ count =>
      rcases read_cases ch with ⟨m, rest, hf, -⟩ | ⟨m, err, ch', he, -, hr⟩
      · -- no message is there without frames
        rw [hpending] at hf
        have hl := congrArg List.length hf
        rw [List.length_append, List.length_map, frames_length, frameCount, List.length_nil] at hl
        generalize m.length / CommonMessages.maxPacketSize = k at hl
        omega
      · have hrow : readRow rs.deserializer ch rs.fields rs.okPacket .clear =
            (.error rs.okPacket, err, .clear, ch') := by
          simp only [readRow, hr, he, if_true]
        rw [ResultSet.fetchLoop, hrow]

/-! ### The handshake -/

/-- The stream stays connected, and the channel may begin to use TLS. -/
structure Works (c c' : Conn) : Prop where
  isOpen : c'.channel.stream.isOpen = c.channel.stream.isOpen
  log : ∃ events, c'.channel.stream.log = c.channel.stream.log ++ events ∧
    Trace c.channel.sslActive events c'.channel.sslActive

lemma works_refl (c : Conn) : Works c c := ⟨rfl, [], (List.append_nil _).symm, .nil _⟩

lemma Works.trans (a b c : Conn) (h : Works a b) (h' : Works b c) : Works a c where
  isOpen := h'.isOpen.trans h.isOpen
  log := by
    obtain ⟨events, hl, ht⟩ := h.log
    obtain ⟨events', hl', ht'⟩ := h'.log
    exact ⟨events ++ events', by rw [hl', hl, List.append_assoc], ht.append ht'⟩

lemma Talks.works {c c' : Conn} (h : Talks c c') : Works c c' where
  isOpen := h.isOpen
  log := by
    obtain ⟨data, hl⟩ := h.log
    refine ⟨_, hl, ?_⟩
    rw [h.sslActive]
    exact trace_writes _ data

lemma works_then {α β : Type} {m : Operation α} {f : α → Operation β} (hm : Preserves Works m)
    (hf : ∀ a, Preserves Works (f a)) : Preserves Works (m >>= f) := hm.then Works.trans hf

lemma works_of_talks {α : Type} {m : Operation α} (hm : Preserves Talks m) : Preserves Works m :=
  fun c => (hm c).works

lemma sslHandshake_works : Preserves Works (onChannel Channel.sslHandshake) := by
  intro c
  obtain ⟨completed, tls, outcomes, err, hs, -⟩ := tlsHandshake_cases c.channel.stream
  have hc : (onChannel Channel.sslHandshake c).2.channel =
      { c.channel with sslActive := true, stream := { c.channel.stream with
        tls, tlsOutcomes := outcomes, log := c.channel.stream.log ++ [.tlsHandshake completed] } } := by
    simp only [onChannel, Channel.sslHandshake, hs]
  refine ⟨by rw [hc], [.tlsHandshake completed], by rw [hc], ?_⟩
  rw [hc]
  exact .tlsHandshake completed (.nil true)

/-- Only the TLS handshake does more than to talk. -/
lemma step_talks (hashes : Hashes) {h : HandshakeOp} (hne : h.point ≠ .sslHandshake) :
    Preserves Talks (h.step hashes) := by
  have hpure (h' : HandshakeOp) : Preserves Talks (pure h' : Operation HandshakeOp) :=
    preserves_pure talks_refl h'
  have hprocess {α : Type} {m : Operation α}
      (hm : ∀ c, (m c).2.channel.stream = c.channel.stream ∧
        (m c).2.channel.sslActive = c.channel.sslActive) : Preserves Talks m :=
    fun c => talks_of_stream (hm c).1 (hm c).2
  have hread := talks_closedUnderReads.readShared
  obtain ⟨point, p, o⟩ := h
  cases point with
  | greeting =>
    exact talks_then hread fun _ => talks_then (hprocess fun _ => ⟨rfl, rfl⟩) fun _ => hpure _
  | sslRequest =>
    exact talks_then (talks_serializeShared _ _) fun _ =>
      talks_then talks_writeShared fun _ => hpure _
  | sslHandshake => exact absurd rfl hne
  | response =>
    exact talks_then (talks_serializeShared _ _) fun _ =>
      talks_then talks_writeShared fun _ => hpure _
  | authMessage =>
    exact talks_then hread fun _ => talks_then (hprocess fun _ => ⟨rfl, rfl⟩) fun _ => hpure _
  | authResponse => exact talks_then talks_writeShared fun _ => hpure _
  | finished => exact hpure _

lemma step_works (hashes : Hashes) (h : HandshakeOp) : Preserves Works (h.step hashes) := by
  by_cases hp : h.point = .sslHandshake
  · obtain ⟨point, p, o⟩ := h
    cases hp
    exact works_then sslHandshake_works fun _ => preserves_pure works_refl _
  · exact works_of_talks (step_talks hashes hp)

/-- A closed stream stops the handshake before its first write. -/
lemma runs_closed {hashes : Hashes} {params : ConnectionParams} {c c' : Conn} {h : HandshakeOp}
    (ho : c.channel.stream.isOpen = false) (hr : Runs hashes (.start params) c h c') :
    Talks c c' ∧ (h.point = .greeting ∨ h.point = .sslRequest ∨ h.point = .response) := by
  induction hr with
  | start => exact ⟨talks_refl c, Or.inl rfl⟩
  | @step h1 h2 c1 c2 _ ht ih =>
    obtain ⟨htalks, hpoint⟩ := ih
    have ho1 : c1.channel.stream.isOpen = false := htalks.isOpen.trans ho
    have hne : h1.point ≠ .sslHandshake := by rcases hpoint with h | h | h <;> simp [h]
    have hs := step_talks hashes hne c1
    rw [ht.step] at hs
    cases ht with
    | @greeting p p' o c m ch err info _ _ _ =>
      refine ⟨.trans _ _ _ htalks hs, ?_⟩
      cases p'.useSsl <;> simp
    -- what comes next begins with a write, and so does not come to its end
    | sslRequest _ hw | response _ hw => exact (not_written (by exact ho1) hw).elim
    | sslHandshake | authMessage | authResponse => simp at hpoint

/-- A handshake in a closed stream fails, and nothing is sent. -/
lemma handshake_closed {hashes : Hashes} {params : ConnectionParams} {c : Conn}
    (ho : c.channel.stream.isOpen = false) :
    ∃ err c', cleared (handshake hashes params) c = (.error err, c') ∧ Talks c c' := by
  obtain ⟨h, c1, hr, hend⟩ := @run_cases hashes (.start params) { c with info := .clear }
  have ho' : ({ c with info := .clear } : Conn).channel.stream.isOpen = false := ho
  obtain ⟨htalks, hpoint⟩ := runs_closed ho' hr
  rcases hend with ⟨hf, -⟩ | ⟨-, err, c2, hs, hrun⟩
  · -- it does not get as far as to be finished
    simp [hf] at hpoint
  · have hne : h.point ≠ .sslHandshake := by rcases hpoint with h | h | h <;> simp [h]
    have hstep := step_talks hashes hne c1
    rw [hs] at hstep
    exact ⟨err, c2, then_error hrun,
      .trans _ _ _ (talks_clear c) (.trans _ _ _ htalks hstep)⟩

lemma runs_works {hashes : Hashes} {h h' : HandshakeOp} {c c' : Conn}
    (hr : Runs hashes h c h' c') : Works c c' := by
  induction hr with
  | start => exact works_refl c
  | @step h1 h2 c1 c2 _ ht ih =>
    have hs := step_works hashes h1 c1
    rw [ht.step] at hs
    exact .trans _ _ _ ih hs

lemma handshake_works (hashes : Hashes) (params : ConnectionParams) :
    Preserves Works (handshake hashes params) := by
  refine works_then (fun c => ?_) fun _ => works_of_talks fun _ => talks_of_stream rfl rfl
  obtain ⟨h, c', hr, ⟨-, hrun⟩ | ⟨-, err, S, hs, hrun⟩⟩ := @run_cases hashes (.start params) c
  · rw [hrun]
    exact runs_works hr
  · have hw := step_works hashes h c'
    rw [hs] at hw
    rw [hrun]
    exact .trans _ _ _ (runs_works hr) hw

/-! ### The life of a connection -/

/-- A connection as it is open or closed, and what was done with its stream since that was last
connected. -/
structure Life where
  isOpen : Bool
  usesSsl : Bool
  log : List Event

def lifeOf (c : Client) : Life :=
  ⟨c.conn.channel.stream.isOpen, c.conn.channel.sslActive, c.conn.channel.stream.log⟩

/-- What a closed connection brings: errors, and no rows but those that a TLS layer took in before
it was closed. -/
def Fruitless (usesSsl : Bool) : Outcome → Prop
  | .failed _ _ => True
  | .fetched rows _ => usesSsl = false → rows.rows = []
  | .resultSet _ _ | .statement _ | .closed => False

/-- What calls may come to. A connection opens by connecting only, is closed where that fails, and
while it is closed nothing is sent on it, and little is to be had from it. -/
inductive Allowed : Life → LifeCall → LifeOutcome → Life → Prop
  | connected {l : Life} {params : ConnectionParams} {session : Session} {usesSsl : Bool}
      {events : List Event} (h : Trace l.usesSsl events usesSsl) :
      Allowed l (.connect params session) (.returned (.ok ())) ⟨true, usesSsl, events⟩
  | notConnected {l : Life} {params : ConnectionParams} {session : Session} {usesSsl : Bool}
      {events : List Event} (err : ErrorCode) (h : Trace l.usesSsl events usesSsl) :
      Allowed l (.connect params session) (.returned (.error err)) ⟨false, usesSsl, events⟩
  | physicalConnect {l : Life} {session : Session} (r : Except ErrorCode Unit) :
      Allowed l (.physicalConnect session) (.returned r) ⟨true, l.usesSsl, []⟩
  | handshake {l : Life} {params : ConnectionParams} {usesSsl : Bool} {events : List Event}
      (ho : l.isOpen = true) (r : Except ErrorCode Unit) (h : Trace l.usesSsl events usesSsl) :
      Allowed l (.handshake params) (.returned r) ⟨true, usesSsl, l.log ++ events⟩
  | noHandshake {l : Life} {params : ConnectionParams} (ho : l.isOpen = false) (err : ErrorCode) :
      Allowed l (.handshake params) (.returned (.error err)) l
  | session {l : Life} {call : Calls.Call} (ho : l.isOpen = true) (o : Outcome)
      (data : List Bytes) : Allowed l (.session call) (.session o)
        { l with log := l.log ++ data.map (.write (layerOf l.usesSsl)) }
  | noSession {l : Life} {call : Calls.Call} {o : Outcome} (ho : l.isOpen = false)
      (h : Fruitless l.usesSsl o) : Allowed l (.session call) (.session o) l
  | quit {l : Life} (ho : l.isOpen = true) (r : Except ErrorCode Unit) (data : List Bytes) :
      Allowed l .quit (.returned r) { l with log := l.log ++ data.map (.write (layerOf l.usesSsl)) }
  | noQuit {l : Life} (ho : l.isOpen = false) (err : ErrorCode) :
      Allowed l .quit (.returned (.error err)) l
  | close {l : Life} (ho : l.isOpen = true) (r : Except ErrorCode Unit) (data : List Bytes) :
      Allowed l .close (.returned r)
        ⟨false, l.usesSsl, l.log ++ data.map (.write (layerOf l.usesSsl))⟩
  | closedAlready {l : Life} (ho : l.isOpen = false) : Allowed l .close (.returned (.ok ())) l
  | physicalClose {l : Life} (r : Except ErrorCode Unit) :
      Allowed l .physicalClose (.returned r) { l with isOpen := false }

/-- The life a client is in; nothing is going to arrive in the clear where it is closed. -/
structure InLife (l : Life) (c : Client) : Prop where
  life : l = lifeOf c
  plain : l.isOpen = false → c.conn.channel.stream.plain = []

section Step

variable {l : Life} {c : Client}

lemma InLife.talks (h : InLife l c) {conn : Conn} (ht : Talks c.conn conn)
    (rss : ℕ → Option ResultSet) :
    ∃ data : List Bytes,
      InLife { l with log := l.log ++ data.map (.write (layerOf l.usesSsl)) } ⟨conn, rss⟩ ∧
      (l.isOpen = false → data = []) := by
  obtain ⟨rfl, hd⟩ := h
  obtain ⟨data, hl⟩ := ht.log
  cases ho : c.conn.channel.stream.isOpen with
  | true =>
    -- what is sent is added to the log; nothing is claimed of what arrives
    refine ⟨data, ⟨?_, fun h => ?_⟩, fun h => ?_⟩
    · simp only [lifeOf, ht.isOpen, ht.sslActive, hl]
    · exact absurd (ho.symm.trans h) (by decide)
    · exact absurd (ho.symm.trans h) (by decide)
  | false =>
    refine ⟨[], ⟨?_, fun h => ht.plain (hd h)⟩, fun _ => rfl⟩
    simp only [lifeOf, ht.isOpen, ht.sslActive, ht.closed ho, List.map_nil, List.append_nil]

lemma InLife.closed (h : InLife l c) (ho : l.isOpen = false) {conn : Conn}
    (ht : Talks c.conn conn) (rss : ℕ → Option ResultSet) : InLife l ⟨conn, rss⟩ := by
  obtain ⟨data, hl, hn⟩ := h.talks ht rss
  rw [hn ho, List.map_nil, List.append_nil] at hl
  exact hl

variable {hashes : Hashes} {lexical : LexicalConvert} {o : Outcome} {c' : Client}

lemma performed_talks {call : Calls.Call} (hp : c.performed lexical call = some (o, c')) :
    Talks c.conn c'.conn := by
  have hobtained {into : ℕ} {r : Except ErrorCode ResultSet × Conn} (hr : Talks c.conn r.2)
      (hp : some (c.obtained into r) = some (o, c')) : Talks c.conn c'.conn := by
    obtain ⟨_ | _, conn⟩ := r <;> cases hp <;> exact hr
  cases call with
  | query into queryString => exact hobtained (talks_cleared (executeGeneric_talks _ _) _) hp
  | execute into statement params => exact hobtained (execute_talks statement params _) hp
  | prepare statement =>
    have ht := talks_cleared (prepareStatement_talks statement) c.conn
    rw [performed_prepare] at hp
    rcases hr : prepare statement c.conn with ⟨_ | _, conn⟩ <;> rw [hr] at hp <;> cases hp <;>
      rw [prepare] at hr <;> rw [hr] at ht <;> exact ht
  | close statement =>
    have ht := talks_cleared (composed_talks (ComStmtClosePacket.mk statement.statementId)
      talks_writeShared) c.conn
    rw [performed_close] at hp
    rcases hr : ExecuteGeneric.close statement c.conn with ⟨_ | _, conn⟩ <;> rw [hr] at hp <;>
      cases hp <;> rw [ExecuteGeneric.close, closeStatement] at hr <;> rw [hr] at ht <;> exact ht
  | fetch source call =>
    obtain ⟨rs, -, hf⟩ := Option.map_eq_some_iff.mp hp
    have hm := fetch_moved rs c.conn.channel call
    cases hf
    exact talks_of_moved hm c.conn.info

lemma performed_fruitless {call : Calls.Call} (ho : c.conn.channel.stream.isOpen = false)
    (hplain : c.conn.channel.stream.plain = []) (hp : c.performed lexical call = some (o, c')) :
    Fruitless c.conn.channel.sslActive o := by
  have hobtained {into : ℕ} {m : Operation ResultSet} (hm : NeedsOpen m)
      (hp : some (c.obtained into (m c.conn)) = some (o, c')) :
      Fruitless c.conn.channel.sslActive o := by
    obtain ⟨err, conn, hr⟩ := hm c.conn ho
    rw [hr] at hp
    cases hp
    trivial
  cases call with
  | query into queryString =>
    exact hobtained (needsOpen_cleared (executeGeneric_needsOpen _ _)) hp
  | execute into statement params => exact hobtained (execute_needsOpen statement params) hp
  | prepare statement =>
    obtain ⟨err, conn, hr⟩ := needsOpen_cleared (prepareStatement_needsOpen statement) c.conn ho
    rw [performed_prepare, prepare, hr] at hp
    cases hp
    trivial
  | close statement =>
    obtain ⟨err, conn, hr⟩ := needsOpen_cleared (closeStatement_needsOpen statement.statementId)
      c.conn ho
    rw [performed_close, ExecuteGeneric.close, hr] at hp
    cases hp
    trivial
  | fetch source call =>
    -- a fetch writes nothing that could be refused, but there is nothing to read
    obtain ⟨rs, -, hf⟩ := Option.map_eq_some_iff.mp hp
    cases hf
    exact fun hs => fetch_drained hplain hs rs call

lemma connect_allowed (params : ConnectionParams) (session : Session) (l : Life) (c : Client)
    (h : InLife l c) :
    let r := returned c (connect hashes params session c.conn)
    ∃ l', Allowed l (.connect params session) r.1 l' ∧ InLife l' r.2 := by
  have hssl : l.usesSsl = c.conn.channel.sslActive := by rw [h.life]; rfl
  rcases he : session.connectError with _ | e
  · rw [connect_connected he]
    set c1 : Conn := ⟨{ c.conn.channel with stream := session.stream }, .clear⟩ with hc1
    have hw := handshake_works hashes params c1
    rcases hr : handshake hashes params c1 with ⟨err | _, c2⟩ <;> rw [hr] at hw
    · -- the handshake has failed, and its stream is closed
      obtain ⟨events, hl, ht⟩ := hw.log
      refine ⟨_, .notConnected err (hssl ▸ ht), ?_, fun _ => rfl⟩
      have hlog : c2.channel.stream.log = events := hl
      simp only [returned, lifeOf, dropChannel, Channel.close, Stream.close, hlog]
    · obtain ⟨events, hl, ht⟩ := hw.log
      have ho : c2.channel.stream.isOpen = true := hw.isOpen
      have hlog : c2.channel.stream.log = events := hl
      refine ⟨_, .connected (hssl ▸ ht), ?_, fun h => by cases h⟩
      simp only [returned, lifeOf, ho, hlog]
  · rw [connect_refused he]
    refine ⟨_, .notConnected _ (.nil _), ?_, fun _ => rfl⟩
    rw [hssl]
    rfl

lemma InLife.works (h : InLife l c) (ho : l.isOpen = true) {conn : Conn} (hw : Works c.conn conn)
    (rss : ℕ → Option ResultSet) : ∃ usesSsl events, Trace l.usesSsl events usesSsl ∧
      InLife ⟨true, usesSsl, l.log ++ events⟩ ⟨conn, rss⟩ := by
  obtain ⟨rfl, -⟩ := h
  obtain ⟨events, hl, ht⟩ := hw.log
  refine ⟨conn.channel.sslActive, events, ht, ?_, fun h => by cases h⟩
  have ho' : conn.channel.stream.isOpen = true := hw.isOpen.trans ho
  simp only [lifeOf, ho', hl]

lemma InLife.dropped (h : InLife l c) (rss : ℕ → Option ResultSet) :
    InLife { l with isOpen := false } ⟨dropChannel c.conn, rss⟩ := by
  obtain ⟨rfl, -⟩ := h
  exact ⟨rfl, fun _ => rfl⟩

lemma close_allowed (l : Life) (c : Client) (h : InLife l c) :
    let r := returned c (close c.conn)
    ∃ l', Allowed l .close r.1 l' ∧ InLife l' r.2 := by
  have hopen : l.isOpen = c.conn.channel.stream.isOpen := by rw [h.life]; rfl
  cases ho : l.isOpen with
  | false =>
    have hc : close c.conn = (.ok (), { c.conn with info := .clear }) :=
      if_neg (Bool.eq_false_iff.mp (hopen.symm.trans ho))
    rw [hc]
    exact ⟨l, .closedAlready ho, h.closed ho (talks_clear c.conn) c.resultSets⟩
  | true =>
    have ht := talks_cleared quitConnection_talks c.conn
    obtain ⟨data, hl, -⟩ := h.talks ht c.resultSets
    have hd := hl.dropped c.resultSets
    have ho' : c.conn.channel.stream.isOpen = true := hopen.symm.trans ho
    rcases hr : cleared quitConnection c.conn with ⟨err | _, conn⟩
    -- the stream is closed whether or not the server could be told
    all_goals
      have hq : quitConnection { c.conn with info := .clear } = _ := hr
      rw [Connection.close, cleared, closeConnection, if_pos ho', hq]
      rw [hr] at hd
      exact ⟨_, .close ho _ data, hd⟩

/-- Whatever is called, the connection stays in its life. -/
lemma perform_allowed : Allows InLife id Allowed (perform hashes lexical) := by
  intro l c call o c' h hp
  cases call with
  | connect params session =>
    obtain ⟨l', ha, hl⟩ := @connect_allowed hashes params session l c h
    cases hp
    exact ⟨l', ha, hl⟩
  | physicalConnect session =>
    cases hp
    refine ⟨⟨true, l.usesSsl, []⟩, .physicalConnect _, ?_, fun h => by cases h⟩
    rw [h.life]
    simp only [physicalConnect, Stream.connect]
    cases session.connectError <;> rfl
  | handshake params =>
    cases hp
    cases ho : l.isOpen with
    | true =>
      obtain ⟨usesSsl, events, ht, hl⟩ := h.works ho (.trans _ _ _ (talks_clear c.conn).works
        (handshake_works hashes params _)) c.resultSets
      exact ⟨_, .handshake ho _ ht, hl⟩
    | false =>
      have ho' : c.conn.channel.stream.isOpen = false := by rw [← ho, h.life]; rfl
      obtain ⟨err, conn, hr, ht⟩ := @handshake_closed hashes params c.conn ho'
      rw [hr]
      exact ⟨l, .noHandshake ho err, h.closed ho ht _⟩
  | session call =>
    obtain ⟨⟨o', c1⟩, hc, heq⟩ := Option.map_eq_some_iff.mp hp
    cases heq
    have ht := performed_talks hc
    cases ho : l.isOpen with
    | true =>
      obtain ⟨data, hl, -⟩ := h.talks ht c1.resultSets
      exact ⟨_, .session ho o' data, hl⟩
    | false =>
      have ho' : c.conn.channel.stream.isOpen = false := by rw [← ho, h.life]; rfl
      have hf := performed_fruitless ho' (h.plain ho) hc
      have hssl : c.conn.channel.sslActive = l.usesSsl := by rw [h.life]; rfl
      exact ⟨l, .noSession ho (hssl ▸ hf), h.closed ho ht _⟩
  | quit =>
    have ht := talks_cleared quitConnection_talks c.conn
    cases hp
    cases ho : l.isOpen with
    | true =>
      obtain ⟨data, hl, -⟩ := h.talks ht c.resultSets
      exact ⟨_, .quit ho _ data, hl⟩
    | false =>
      have ho' : c.conn.channel.stream.isOpen = false := by rw [← ho, h.life]; rfl
      obtain ⟨err, conn, hr⟩ := needsOpen_cleared quitConnection_needsOpen c.conn ho'
      rw [hr] at ht
      rw [quit, hr]
      exact ⟨l, .noQuit ho err, h.closed ho ht _⟩
  | close =>
    obtain ⟨l', ha, hl⟩ := close_allowed l c h
    cases hp
    exact ⟨l', ha, hl⟩
  | physicalClose =>
    cases hp
    exact ⟨_, .physicalClose _, h.dropped _⟩

end Step

/-! ### Whole lives -/

section Runs

variable {hashes : Hashes} {lexical : LexicalConvert}

/-- The life of a connection just constructed. -/
def newLife : Life := ⟨false, false, []⟩

/-- The life of a client, as of one that makes all calls synchronously. -/
def Lived (l : Life) (c : Client) : Prop := ∃ d, SameClient c d ∧ InLife l d

lemma lived_new : Lived newLife newClient :=
  ⟨newClient, sameClient_newClient, rfl, fun _ => rfl⟩

lemma Lived.life {l : Life} {c : Client} (h : Lived l c) : l = lifeOf c := by
  obtain ⟨d, hs, hl⟩ := h
  obtain ⟨caps, hch⟩ := hs.conn
  rw [hl.life, lifeOf, lifeOf, hch]

lemma Lived.run {l : Life} {c c' : Client} (h : Lived l c) {makings : List Made}
    {outcomes : List LifeOutcome} (hr : (Makes hashes lexical).Runs c makings outcomes c') :
    ∃ l', Behaviour.Runs Allowed l (makings.map Made.call) outcomes l' ∧ Lived l' c' := by
  obtain ⟨d, hs, hl⟩ := h
  obtain ⟨d', hd, hs'⟩ := (makes_given hashes lexical).run hs hr
  rw [← List.map_id (makings.map Made.call)] at hd
  obtain ⟨l', hl', hin⟩ := perform_allowed.run hl hd
  exact ⟨l', hl', d', hs', hin⟩

/-- It is lost behind the TLS handshake. -/
def tlsSession : Session :=
  ⟨none, (frames 0 tlsGreeting).map .byte ++ [], [], [], [.ok []], .success, 0⟩

/-- The channel uses TLS. -/
def UsesTls (c : Client) : Prop := c.conn.channel.sslActive = true

/-- What is negotiated with it. -/
def tlsProcessor : HandshakeProcessor :=
  ⟨enableParams, ⟨0x1288a00⟩, ⟨some .mysqlNativePassword, .blank⟩⟩

def connectTls : Made := .sync (.connect enableParams tlsSession)

lemma usesSsl_of_tlsStarted {params : ConnectionParams} {session : Session}
    (h : TlsStarted (handshake hashes params (.fresh session)).2.channel) :
    (handshake hashes params (.fresh session)).2.channel.sslActive = true := by
  obtain ⟨completed, hmem⟩ := h
  obtain ⟨events, hl, ht⟩ := (handshake_works hashes params (.fresh session)).log
  by_contra hn
  -- without TLS at the end, the log has writes in the clear and nothing else
  rw [Bool.eq_false_iff.mpr hn] at ht
  have hlog : (handshake hashes params (.fresh session)).2.channel.stream.log = events := hl
  obtain ⟨data, heq⟩ := ht.of_false.2 _ (hlog ▸ hmem)
  cases heq

lemma connect_usesSsl {params : ConnectionParams} {session : Session}
    (he : session.connectError = none) :
    (connect hashes params session constructed).2.channel.sslActive =
      (handshake hashes params (.fresh session)).2.channel.sslActive := by
  have hfresh : (⟨{ constructed.channel with stream := session.stream }, .clear⟩ : Conn) =
      .fresh session := rfl
  rw [connect_connected he, hfresh]
  rcases handshake hashes params (.fresh session) with ⟨_ | _, c⟩ <;> rfl

lemma connect_tlsSession :
    ∃ o c, Makes zeroHashes noLexical newClient connectTls o c ∧ UsesTls c := by
  have h0 : Served (Conn.fresh tlsSession).channel 0 ((frames 0 tlsGreeting).map .byte ++ []) :=
    ⟨⟨rfl, rfl⟩, rfl, rfl⟩
  obtain ⟨ch, hr, h1⟩ := h0.read (by decide)
  have hd : deserializeHandshake tlsGreeting .clear =
      (.success, (deserializeHandshake tlsGreeting .clear).2.1, .clear) := by decide
  have hp : (HandshakeProcessor.new enableParams).processHandshake zeroHashes tlsGreeting .clear =
      (.success, tlsProcessor, .clear) := by decide
  obtain ⟨ch', hw, -⟩ := ((h1.withBuffer tlsGreeting).withBuffer _).write (m := serializeMessage
    tlsProcessor.sslRequest tlsProcessor.negotiatedCaps tlsGreeting) (by decide)
  have ha : Accepted zeroHashes enableParams (.fresh tlsSession)
      (deserializeHandshake tlsGreeting .clear).2.1 tlsProcessor
      ⟨{ ch with sharedBuffer := tlsGreeting }, .clear⟩ := ⟨tlsGreeting, ch, hr, hd, hp, rfl⟩
  have hstarted := handshake_tlsStarted_iff.mpr ⟨_, _, _, ch', ha, by decide, hw⟩
  refine ⟨_, _, rfl, ?_⟩
  rw [UsesTls]
  exact (connect_usesSsl rfl).trans (usesSsl_of_tlsStarted hstarted)

/-! ### Going on -/

/-- What a life came to later: its log has gone on, or the stream was connected anew, and then
nothing has been in the clear if TLS was in use. -/
inductive Later (l l' : Life) : Prop
  | continued {events : List Event} (h : Trace l.usesSsl events l'.usesSsl)
      (hl : l'.log = l.log ++ events)
  | renewed {tls : Bool} (h : Trace tls l'.log l'.usesSsl) (ht : l.usesSsl = true → tls = true)

lemma later_refl (l : Life) : Later l l := .continued (.nil _) (List.append_nil _).symm

lemma Later.usesSsl {l l' : Life} (h : Later l l') (ht : l.usesSsl = true) : l'.usesSsl = true := by
  cases h with
  | continued h hl =>
    rw [ht] at h
    exact h.of_true.1
  | renewed h hu =>
    rw [hu ht] at h
    exact h.of_true.1

lemma Later.trans (a b c : Life) (h : Later a b) (h' : Later b c) : Later a c := by
  cases h' with
  | continued ht' hl' =>
    cases h with
    | continued ht hl => exact .continued (ht.append ht') (by rw [hl', hl, List.append_assoc])
    | renewed ht hu => exact .renewed (hl' ▸ ht.append ht') hu
  | renewed ht' hu' =>
    -- whatever there was before the stream was connected anew is gone but for TLS
    exact .renewed ht' fun ha => hu' (h.usesSsl ha)

lemma allowed_later (l : Life) (call : LifeCall) (o : LifeOutcome) (l' : Life)
    (h : Allowed l call o l') : Later l l' := by
  cases h with
  | connected h => exact .renewed h id
  | notConnected err h => exact .renewed h id
  | physicalConnect r => exact .renewed (.nil _) id
  | handshake ho r h => exact .continued h rfl
  | noHandshake ho err => exact later_refl l
  | session ho o data => exact .continued (trace_writes _ data) rfl
  | noSession ho h => exact later_refl l
  | quit ho r data => exact .continued (trace_writes _ data) rfl
  | noQuit ho err => exact later_refl l
  | close ho r data => exact .continued (trace_writes _ data) rfl
  | closedAlready ho => exact later_refl l
  | physicalClose r => exact .continued (.nil _) (List.append_nil _).symm

/-- Over a run, the life of a client has gone on or begun anew. -/
lemma Lived.later {l : Life} {c c' : Client} (h : Lived l c) {makings : List Made}
    {outcomes : List LifeOutcome} (hr : (Makes hashes lexical).Runs c makings outcomes c') :
    Later l (lifeOf c') ∧ Lived (lifeOf c') c' := by
  obtain ⟨l', hl', hlived⟩ := h.run hr
  have hlate := hl'.relates later_refl Later.trans allowed_later
  rw [← hlived.life]
  exact ⟨hlate, hlived⟩

/-- **Over its whole life a connection does as is allowed**, whichever way each call is made: it
opens by connecting only, is closed where that fails and where it is closed, and while it is closed
nothing is sent, and nothing but errors is to be had from it, and the rows that a TLS layer took in
before. -/
theorem life_allowed {makings : List Made} {outcomes : List LifeOutcome} {c : Client}
    (hr : (Makes hashes lexical).Runs newClient makings outcomes c) :
    Behaviour.Runs Allowed newLife (makings.map Made.call) outcomes (lifeOf c) := by
  obtain ⟨l, hl, hlived⟩ := lived_new.run hr
  rw [← hlived.life]
  exact hl

/-- Calls on a connection that is closed: because the handshake failed behind that of TLS, and
because it was closed when it had been connected anew. -/
def closedCalls : List Made :=
  [.sync (.session (.query 0 [0x41])), .sync .quit, .sync .close, .sync (.handshake enableParams),
    .sync (.physicalConnect tlsSession), .sync (.session (.query 0 [0x41])), .sync .close,
    .sync (.session (.execute 0 ⟨1, 0, 0, 0⟩ [])), .sync .physicalClose]

theorem life_allowed_closed : ∃ outcomes c,
    Behaviour.Runs Allowed newLife (.connect enableParams tlsSession :: closedCalls.map Made.call)
      outcomes (lifeOf c) ∧ UsesTls c ∧ c.conn.channel.stream.isOpen = false := by
  obtain ⟨o, c, hm, hu⟩ := connect_tlsSession
  have hr : (Makes zeroHashes noLexical).Runs c closedCalls _ _ :=
    .cons rfl (.cons rfl (.cons rfl (.cons rfl (.cons rfl (.cons rfl (.cons rfl (.cons rfl
      (.cons rfl (.nil _)))))))))
  obtain ⟨-, hlived⟩ := lived_new.later (.cons hm (.nil c))
  exact ⟨_, _, life_allowed (.cons hm hr), (hlived.later hr).1.usesSsl hu, rfl⟩

/-- What was done with its stream since that was last connected. -/
def logOf (c : Client) : List Event := c.conn.channel.stream.log

/-- **TLS is never given up.** Until it is in use all is written in the clear; behind its first sign
nothing is; and once it is in use it stays in use whatever calls follow, also where the stream is
closed and connected anew, and nothing more is ever written in the clear. -/
theorem tls_kept {makings further : List Made} {outcomes outcomes' : List LifeOutcome}
    {c c' : Client} (hr : (Makes hashes lexical).Runs newClient makings outcomes c)
    (hr' : (Makes hashes lexical).Runs c further outcomes' c') :
    (¬ UsesTls c → ∀ e ∈ logOf c, ∃ data, e = .write .plain data) ∧
    (∀ pre e post, logOf c = pre ++ e :: post → (∀ data, e ≠ .write .plain data) →
      ∀ data, .write .plain data ∉ post) ∧
    (UsesTls c → UsesTls c' ∧ ∃ earlier later, logOf c' = earlier ++ later ∧
      (earlier = logOf c ∨ earlier = []) ∧ ∀ data, .write .plain data ∉ later) := by
  obtain ⟨hlate, hlived⟩ := lived_new.later hr
  obtain ⟨hlate', -⟩ := hlived.later hr'
  have ⟨tls, htrace⟩ : ∃ tls, Trace tls (logOf c) c.conn.channel.sslActive := by
    cases hlate with
    | continued h hl =>
      have hlog : logOf c = [] ++ _ := hl
      exact ⟨_, by rw [hlog, List.nil_append]; exact h⟩
    | renewed h ht => exact ⟨_, h⟩
  refine ⟨fun hn e he => ?_, fun pre e post hlog he => ?_, fun hu => ?_⟩
  · rw [Bool.eq_false_iff.mpr hn] at htrace
    exact htrace.of_false.2 e he
  · rw [hlog] at htrace
    exact htrace.after he
  · cases hlate' with
    | continued h hl =>
      rw [lifeOf, hu] at h
      exact ⟨h.of_true.1, _, _, hl, Or.inl rfl, h.of_true.2⟩
    | renewed h ht =>
      -- the layer of the channel is kept, so the new log begins in TLS
      rw [ht hu] at h
      exact ⟨h.of_true.1, [], _, (List.nil_append _).symm, Or.inr rfl, h.of_true.2⟩

/-- Where TLS is started, and a query is sent when the stream was connected anew. -/
theorem tls_kept_reconnected : ∃ c c', UsesTls c ∧ UsesTls c' ∧
    ∃ earlier later, logOf c' = earlier ++ later ∧
      (earlier = logOf c ∨ earlier = []) ∧ ∀ data, .write .plain data ∉ later := by
  obtain ⟨o, c, hm, hu⟩ := connect_tlsSession
  have hr' : (Makes zeroHashes noLexical).Runs c
      [.sync (.physicalConnect tlsSession), .sync (.session (.query 0 [0x41]))] _ _ :=
    .cons rfl (.cons rfl (.nil _))
  exact ⟨c, _, hu, (tls_kept (.cons hm (.nil c)) hr').2.2 hu⟩

end Runs

end MysqlAsio.Lifecycle
