import MysqlAsio.AsyncCalls
import MysqlAsio.IgnoredCaps
import MysqlAsio.Sessions

/-!
The life of a connection, with every call made synchronously or asynchronously.

Whichever way a call is made, its caller sees the same, and so does the server.
-/

namespace MysqlAsio.Lives

open MysqlAsio.Errors MysqlAsio.Serialization MysqlAsio.Auth MysqlAsio.Values
open MysqlAsio.PreparedStatementMessages MysqlAsio.BinaryDeserialization
open MysqlAsio.TextDeserialization MysqlAsio.Streams MysqlAsio.Channels MysqlAsio.Framing
open MysqlAsio.ReadRow MysqlAsio.Resultset MysqlAsio.Operations MysqlAsio.ExecuteGeneric
open MysqlAsio.Handshake MysqlAsio.Connection MysqlAsio.Reconnect MysqlAsio.Calls MysqlAsio.Dialogue
open MysqlAsio.Sessions MysqlAsio.AsyncChannel MysqlAsio.AsyncHandshake MysqlAsio.AsyncExecute
open MysqlAsio.AsyncFetch MysqlAsio.AsyncCalls MysqlAsio.IgnoredCaps MysqlAsio.RowEncodings
open MysqlAsio.ServerRows MysqlAsio.BinaryRows MysqlAsio.Lib.Programs MysqlAsio.Lib.Machines

/-! ### Calls -/

/-- What a user does with a connection, with the stream under it, and in a session. -/
inductive LifeCall
  | connect (params : ConnectionParams) (session : Session)
  | physicalConnect (session : Session)
  | handshake (params : ConnectionParams)
  | session (call : Calls.Call)
  | quit
  | close
  | physicalClose

/-- What a caller sees of it. -/
inductive LifeOutcome
  | returned (result : Except ErrorCode Unit)
  | session (outcome : Outcome)

/-- What a call without an output returns. -/
def returned (c : Client) (r : Except ErrorCode Unit × Conn) : LifeOutcome × Client :=
  (.returned r.1, { c with conn := r.2 })

/-- The calls, made synchronously. No assertions are compiled in. -/
def perform (hashes : Hashes) (lexical : LexicalConvert) : Machine Client LifeCall LifeOutcome :=
  fun c call =>
    match call with
    | .connect params session => some (returned c (connect hashes params session c.conn))
    | .physicalConnect session => some (returned c (physicalConnect session c.conn))
    | .handshake params => some (returned c (cleared (handshake hashes params) c.conn))
    | .session call => (c.performed lexical call).map fun r => (.session r.1, r.2)
    | .quit => some (returned c (Connection.quit c.conn))
    | .close => some (returned c (Connection.close c.conn))
    | .physicalClose => some (returned c (outcome c.conn.channel.close.1, dropChannel c.conn))

/-- The calls that can be made asynchronously. The operation that prepares a statement cannot:
it completes by a member it does not have. -/
def LifeCall.hasAsync : LifeCall → Bool
  | .connect .. | .handshake _ | .quit | .close => true
  | .session (.prepare _) => false
  | .session _ => true
  | .physicalConnect _ | .physicalClose => false

/-- A call, and the way it is made. -/
structure Made where
  call : LifeCall
  async : Bool
  hasAsync : async = true → call.hasAsync = true

/-- A call that is made synchronously. -/
def Made.sync (call : LifeCall) : Made := ⟨call, false, nofun⟩

/-- A call without an output that completes asynchronously. -/
def Unanswered (c : Client) (completes : ErrorCode → Conn → Prop) (o : LifeOutcome)
    (c' : Client) : Prop :=
  ∃ code conn, completes code conn ∧ (o, c') = returned c (outcome code, conn)

/-- A query or an execution that completes asynchronously. -/
def Obtained (c : Client) (into : ℕ) (completes : ErrorCode → Option ResultSet → Conn → Prop)
    (o : LifeOutcome) (c' : Client) : Prop :=
  ∃ code output conn r, completes code output conn ∧ Seen code output r ∧
    o = .session (c.obtained into (r, conn)).1 ∧ c' = (c.obtained into (r, conn)).2

/-- What the closing of a statement returns. -/
def closedOutcome (c : Client) : Except ErrorCode Unit × Conn → Outcome × Client
  | (.ok (), conn) => (.closed, { c with conn })
  | (.error err, conn) => (.failed err conn.info, { c with conn })

/-- What the preparing of a statement returns. -/
def preparedOutcome (c : Client) : Except ErrorCode ComStmtPrepareOkPacket × Conn → Outcome × Client
  | (.ok response, conn) => (.statement response, { c with conn })
  | (.error err, conn) => (.failed err conn.info, { c with conn })

/-- The calls, made asynchronously. -/
def AsyncPerforms (hashes : Hashes) (lexical : LexicalConvert) (c : Client) (o : LifeOutcome)
    (c' : Client) : LifeCall → Prop
  | .connect params session => Unanswered c (AsyncConnects hashes params session c.conn) o c'
  | .handshake params => Unanswered c (AsyncHandshakes hashes params c.conn) o c'
  | .quit => Unanswered c (AsyncQuitConnection { c.conn with info := .clear }) o c'
  | .close => Unanswered c (AsyncCloseConnection { c.conn with info := .clear }) o c'
  | .session (.query into queryString) =>
    Obtained c into (AsyncExecuteGeneric (deserializeTextRow lexical)
      (ComQueryPacket.mk queryString) { c.conn with info := .clear }) o c'
  | .session (.execute into statement params) =>
    Obtained c into (AsyncExecuteStatement statement params c.conn) o c'
  | .session (.close statement) => ∃ code conn,
    AsyncCloseStatement statement.statementId { c.conn with info := .clear } code conn ∧
      o = .session (closedOutcome c (outcome code, conn)).1 ∧
      c' = (closedOutcome c (outcome code, conn)).2
  | .session (.fetch source call) => ∃ rs fetched rs' channel, c.resultSets source = some rs ∧
    AsyncFetches rs c.conn.channel fetched rs' channel call ∧
      o = .session (.fetched fetched (okPacketOf rs')) ∧
      c' = ⟨{ c.conn with channel }, Function.update c.resultSets source (some rs')⟩
  | .session (.prepare _) | .physicalConnect _ | .physicalClose => False

/-- The calls, each made in its way. -/
def Makes (hashes : Hashes) (lexical : LexicalConvert) : Behaviour Client Made LifeOutcome :=
  fun c m o c' =>
    if m.async then AsyncPerforms hashes lexical c o c' m.call
    else perform hashes lexical c m.call = some (o, c')

/-! ### What is left -/

/-- The connections differ in the capabilities and in the text of the last error at most. -/
def Same (c d : Conn) : Prop := ∃ caps, d.channel = { c.channel with currentCaps := caps }

lemma same_refl (c : Conn) : Same c c := ⟨_, rfl⟩

lemma Same.symm {c d : Conn} (h : Same c d) : Same d c := by
  obtain ⟨caps, h⟩ := h
  exact ⟨c.channel.currentCaps, by rw [h]⟩

lemma Same.trans {c d e : Conn} (h : Same c d) (h' : Same d e) : Same c e := by
  obtain ⟨caps, h⟩ := h
  obtain ⟨caps', h'⟩ := h'
  exact ⟨caps', by rw [h', h]⟩

lemma same_of_sameButCaps {c d : Conn} (h : SameButCaps c d) : Same c d := by
  obtain ⟨k, rfl⟩ := h
  exact ⟨k, rfl⟩

lemma Same.clear {c d : Conn} (h : Same c d) :
    SameButCaps { c with info := .clear } { d with info := .clear } := by
  obtain ⟨caps, h⟩ := h
  exact ⟨caps, by rw [h]; rfl⟩

/-- The clients differ in the capabilities and in the text of the last error at most, and have
resultsets whose deserializers look at neither. -/
structure SameClient (c d : Client) : Prop where
  conn : Same c.conn d.conn
  resultSets : d.resultSets = c.resultSets
  blind : ∀ v rs, c.resultSets v = some rs → BlindDeserializer rs.deserializer

namespace SameClient

variable {c d e : Client}

lemma symm (h : SameClient c d) : SameClient d c where
  conn := h.conn.symm
  resultSets := h.resultSets.symm
  blind v rs hv := h.blind v rs (by rwa [h.resultSets] at hv)

lemma trans (h : SameClient c d) (h' : SameClient d e) : SameClient c e where
  conn := h.conn.trans h'.conn
  resultSets := h'.resultSets.trans h.resultSets
  blind := h.blind

lemma withConn (h : SameClient c d) {p q : Conn} (hp : Same p q) :
    SameClient { c with conn := p } { d with conn := q } := ⟨hp, h.resultSets, h.blind⟩

lemma update (h : SameClient c d) {p q : Conn} (hp : Same p q) (v : ℕ) (rs : Option ResultSet)
    (hrs : ∀ r, rs = some r → BlindDeserializer r.deserializer) :
    SameClient ⟨p, Function.update c.resultSets v rs⟩ ⟨q, Function.update d.resultSets v rs⟩ where
  conn := hp
  resultSets := by rw [h.resultSets]
  blind w r hw := by
    by_cases hv : w = v
    · subst hv
      exact hrs r (by simpa using hw)
    · exact h.blind w r (by simpa [hv] using hw)

end SameClient

/-! ### Two clients, synchronously -/

/-- The results are the same, and so are the connections. -/
structure SameResult {α : Type} (p q : Except ErrorCode α × Conn) : Prop where
  result : p.1 = q.1
  conn : Same p.2 q.2
  /-- The text is the same where there is an error. -/
  info : ∀ err, p.1 = .error err → p.2.info = q.2.info

lemma sameResult_of_agree {α : Type} {p q : Except ErrorCode α × Conn}
    (h : Agree SameButCaps SameButCaps p q) : SameResult p q := by
  cases h with
  | ok a h => exact ⟨rfl, same_of_sameButCaps h, nofun⟩
  | error e h =>
    refine ⟨rfl, same_of_sameButCaps h, fun _ _ => ?_⟩
    obtain ⟨k, rfl⟩ := h
    rfl

lemma cleared_same {α : Type} {m : Operation α} (hm : Blind m) {c d : Conn} (h : Same c d) :
    SameResult (cleared m c) (cleared m d) := sameResult_of_agree (hm _ _ h.clear)

section SameResult

variable {c d : Client} {p q : Except ErrorCode Unit × Conn}

lemma returned_same (h : SameClient c d) (hr : p.1 = q.1) (hp : Same p.2 q.2) :
    (returned c p).1 = (returned d q).1 ∧ SameClient (returned c p).2 (returned d q).2 :=
  ⟨by rw [returned, returned, hr], h.withConn hp⟩

lemma closedOutcome_same (h : SameClient c d) (hp : SameResult p q) :
    (closedOutcome c p).1 = (closedOutcome d q).1 ∧
      SameClient (closedOutcome c p).2 (closedOutcome d q).2 := by
  obtain ⟨r, s⟩ := p
  obtain ⟨r', t⟩ := q
  obtain ⟨rfl, hs, hi⟩ := hp
  cases r with
  | ok u => exact ⟨rfl, h.withConn hs⟩
  | error err => exact ⟨by rw [closedOutcome, closedOutcome, hi err rfl], h.withConn hs⟩

lemma preparedOutcome_same (h : SameClient c d)
    {p q : Except ErrorCode ComStmtPrepareOkPacket × Conn} (hp : SameResult p q) :
    (preparedOutcome c p).1 = (preparedOutcome d q).1 ∧
      SameClient (preparedOutcome c p).2 (preparedOutcome d q).2 := by
  obtain ⟨r, s⟩ := p
  obtain ⟨r', t⟩ := q
  obtain ⟨rfl, hs, hi⟩ := hp
  cases r with
  | ok u => exact ⟨rfl, h.withConn hs⟩
  | error err => exact ⟨by rw [preparedOutcome, preparedOutcome, hi err rfl], h.withConn hs⟩

lemma obtained_same (h : SameClient c d) {p q : Except ErrorCode ResultSet × Conn}
    (hp : SameResult p q) (hb : ∀ rs, p.1 = .ok rs → BlindDeserializer rs.deserializer)
    (into : ℕ) :
    (c.obtained into p).1 = (d.obtained into q).1 ∧
      SameClient (c.obtained into p).2 (d.obtained into q).2 := by
  obtain ⟨r, s⟩ := p
  obtain ⟨r', t⟩ := q
  obtain ⟨rfl, hs, hi⟩ := hp
  cases r with
  | ok rs => exact ⟨rfl, h.update hs into _ fun r hr => hb r (by rw [Option.some.inj hr])⟩
  | error err =>
    exact ⟨by rw [Client.obtained, Client.obtained, hi err rfl], h.update hs into _ nofun⟩

end SameResult

/-- A resultset that was obtained reads rows with the deserializer it was asked for, or none. -/
lemma executeGeneric_blind_deserializer {α : Type} [Serializable α] {request : α}
    {deserializer : DeserializeRowFn} (hd : BlindDeserializer deserializer) {c c' : Conn}
    {rs : ResultSet} (h : ExecuteGeneric.executeGeneric deserializer request c = (.ok rs, c')) :
    BlindDeserializer rs.deserializer := by
  obtain ⟨c0, c1, h1, h⟩ := of_then_ok h
  obtain ⟨_, c2, h2, h⟩ := of_then_ok h
  obtain ⟨_, c3, h3, h⟩ := of_then_ok h
  obtain ⟨buffer, c4, h4, h⟩ := of_then_ok h
  obtain ⟨⟨fieldCount, okPacket⟩, c5, h5, h⟩ := of_then_ok h
  obtain ⟨fields, c6, h6, h⟩ := of_then_ok h
  cases h
  rw [createResultset]
  split_ifs
  · exact fun _ _ _ _ => rfl
  · exact hd

lemma execute_blind_deserializer {statement : ComStmtPrepareOkPacket} {params : List Value}
    {c c' : Conn} {rs : ResultSet} (h : execute statement params c = (.ok rs, c')) :
    BlindDeserializer rs.deserializer := by
  obtain ⟨_, c1, h1, h⟩ := of_then_ok h
  exact executeGeneric_blind_deserializer deserializeBinaryRow_blind h

lemma execute_blind (statement : ComStmtPrepareOkPacket) (params : List Value) :
    Blind (do
      checkNumParams statement params
      executeStatement statement.statementId params : Operation ResultSet) :=
  (blind_report _).then fun _ => executeGeneric_blind (fun _ _ => rfl) _

section Perform

variable {hashes : Hashes} {lexical : LexicalConvert} {c d : Client}

lemma answered_same {ω : Type} {x y : ω × Client} (h : x.1 = y.1 ∧ SameClient x.2 y.2) {o : ω}
    {c1 : Client} (hx : some x = some (o, c1)) : ∃ d1, some y = some (o, d1) ∧ SameClient c1 d1 := by
  obtain rfl : x = (o, c1) := Option.some.inj hx
  exact ⟨y.2, congrArg some (Prod.ext h.1.symm rfl), h.2⟩

lemma performed_prepare (c : Client) (statement : Bytes) :
    c.performed lexical (.prepare statement) =
      some (preparedOutcome c (prepare statement c.conn)) := by
  rw [Client.performed]
  rcases prepare statement c.conn with ⟨_ | _, conn⟩ <;> rfl

lemma performed_close (c : Client) (statement : ComStmtPrepareOkPacket) :
    c.performed lexical (.close statement) =
      some (closedOutcome c (ExecuteGeneric.close statement c.conn)) := by
  rw [Client.performed]
  rcases ExecuteGeneric.close statement c.conn with ⟨_ | _, conn⟩ <;> rfl

lemma performed_same (h : SameClient c d) {call : Calls.Call} {o : Outcome} {c1 : Client}
    (hp : c.performed lexical call = some (o, c1)) :
    ∃ d1, d.performed lexical call = some (o, d1) ∧ SameClient c1 d1 := by
  cases call with
  | query into queryString =>
    have hq : Blind (executeQuery lexical queryString) := executeGeneric_blind (fun _ _ => rfl) _
    exact answered_same (obtained_same h (cleared_same hq h.conn) (fun rs hr =>
      executeGeneric_blind_deserializer (deserializeTextRow_blind lexical) (Prod.ext hr rfl)) into) hp
  | execute into statement params =>
    exact answered_same (obtained_same h (cleared_same (execute_blind statement params) h.conn)
      (fun rs hr => execute_blind_deserializer (Prod.ext hr rfl)) into) hp
  | prepare statement =>
    rw [performed_prepare] at hp ⊢
    exact answered_same (preparedOutcome_same h
      (cleared_same (prepareStatement_blind statement) h.conn)) hp
  | close statement =>
    rw [performed_close] at hp ⊢
    exact answered_same (closedOutcome_same h
      (cleared_same (closeStatement_blind statement.statementId) h.conn)) hp
  | fetch source call =>
    obtain ⟨rs, hrs, hf⟩ := Option.map_eq_some_iff.mp hp
    obtain ⟨caps, hch⟩ := h.conn
    have hb := h.blind source rs hrs
    have hd : d.resultSets source = some rs := by rw [h.resultSets, hrs]
    have hfd := fetch_caps hb c.conn.channel caps call
    have hk := fetch_deserializer rs c.conn.channel call
    rcases hr : rs.fetch c.conn.channel call with ⟨fetched, rs', ch⟩
    rw [hr] at hf hfd hk
    simp only [Client.performed, hd, Option.map_some, hch, hfd]
    cases hf
    refine ⟨_, rfl, h.update ⟨caps, rfl⟩ source _ fun r hr => ?_⟩
    rw [← Option.some.inj hr, hk]
    exact hb

/-- A call does the same for the same clients. -/
lemma perform_same (h : SameClient c d) {call : LifeCall} {o : LifeOutcome} {c1 : Client}
    (hp : perform hashes lexical c call = some (o, c1)) :
    ∃ d1, perform hashes lexical d call = some (o, d1) ∧ SameClient c1 d1 := by
  have hcleared {m : Operation Unit} (hm : Blind m)
      (hp : some (returned c (cleared m c.conn)) = some (o, c1)) :
      ∃ d1, some (returned d (cleared m d.conn)) = some (o, d1) ∧ SameClient c1 d1 :=
    have hs := cleared_same hm h.conn
    answered_same (returned_same h hs.result hs.conn) hp
  cases call with
  | connect params session => exact hcleared (connectChannel_blind hashes params session) hp
  | handshake params => exact hcleared (handshake_blind hashes params) hp
  | quit => exact hcleared quitConnection_blind hp
  | close => exact hcleared closeConnection_blind hp
  | physicalConnect session =>
    obtain ⟨caps, hch⟩ := h.conn
    refine answered_same (returned_same h ?_ ⟨caps, ?_⟩) hp
    · rw [physicalConnect, physicalConnect, hch]
    · simp only [physicalConnect, hch]
  | physicalClose =>
    obtain ⟨caps, hch⟩ := h.conn
    refine answered_same (returned_same h ?_ ⟨caps, ?_⟩) hp
    · rw [hch]
      rfl
    · simp only [dropChannel, hch]
      rfl
  | session call =>
    obtain ⟨⟨o', c'⟩, hc, ho⟩ := Option.map_eq_some_iff.mp hp
    cases ho
    obtain ⟨d1, hd, hs⟩ := performed_same h hc
    exact ⟨d1, by simp only [perform, hd, Option.map_some], hs⟩

end Perform

/-! ### One client, either way -/

/-- What a call returns synchronously is what it completes with asynchronously, in one way, and the
same is left. -/
def EitherWay (sync : LifeOutcome × Client) (async : LifeOutcome → Client → Prop) : Prop :=
  ∃ e, SameClient e sync.2 ∧ ∀ o c', async o c' ↔ o = sync.1 ∧ c' = e

lemma same_of_completed {code : ErrorCode} {e : Conn} {r : Except ErrorCode Unit × Conn}
    (h : Completed code e r) : Same e r.2 := by
  obtain ⟨caps, hch⟩ := h.channel
  exact ⟨r.2.channel.currentCaps, by rw [hch]⟩

section EitherWay

variable {c : Client}

lemma unanswered_eitherWay (h : SameClient c c) {completes : ErrorCode → Conn → Prop}
    {r : Except ErrorCode Unit × Conn}
    (hr : ∃ code e, (∀ code' c', completes code' c' ↔ code' = code ∧ c' = e) ∧ Completed code e r) :
    EitherWay (returned c r) (Unanswered c completes) := by
  obtain ⟨code, e, hu, hc⟩ := hr
  refine ⟨{ c with conn := e }, h.withConn (same_of_completed hc), fun o c' => ?_⟩
  simp only [Unanswered, hu, returned, Prod.mk.injEq, ← hc.seen]
  constructor
  · rintro ⟨_, _, ⟨rfl, rfl⟩, rfl, rfl⟩
    exact ⟨rfl, rfl⟩
  · rintro ⟨rfl, rfl⟩
    exact ⟨_, _, ⟨rfl, rfl⟩, rfl, rfl⟩

lemma seen_unique {α : Type} {code : ErrorCode} {output : Option α} {r r' : Except ErrorCode α}
    (h : Seen code output r) (h' : Seen code output r') : r = r' := by
  cases h <;> cases h' <;> rfl

lemma obtained_eitherWay (h : SameClient c c) (into : ℕ)
    {completes : ErrorCode → Option ResultSet → Conn → Prop} {r : Except ErrorCode ResultSet × Conn}
    (hb : ∀ rs, r.1 = .ok rs → BlindDeserializer rs.deserializer)
    (hr : ∃ code output e, (∀ code' output' c', completes code' output' c' ↔
        code' = code ∧ output' = output ∧ c' = e) ∧
      Seen code output r.1 ∧ e.channel = r.2.channel ∧ (code.failed = true → e = r.2)) :
    EitherWay (.session (c.obtained into r).1, (c.obtained into r).2)
      (Obtained c into completes) := by
  obtain ⟨code, output, e, hu, hseen, hch, he⟩ := hr
  have hs : SameResult (r.1, e) r := by
    refine ⟨rfl, ⟨_, hch.symm⟩, fun err herr => ?_⟩
    have hr1 : r.1 = .error err := herr
    rw [hr1] at hseen
    cases hseen with
    | error hf => rw [he hf]
  obtain ⟨ho, hc⟩ := obtained_same h hs hb into
  refine ⟨_, hc, fun o c' => ?_⟩
  rw [← ho]
  constructor
  · rintro ⟨_, _, _, r', hp, hseen', rfl, rfl⟩
    obtain ⟨rfl, rfl, rfl⟩ := (hu _ _ _).mp hp
    rw [seen_unique hseen hseen']
    exact ⟨rfl, rfl⟩
  · rintro ⟨rfl, rfl⟩
    exact ⟨_, _, _, _, (hu _ _ _).mpr ⟨rfl, rfl, rfl⟩, hseen, rfl, rfl⟩

lemma executeGeneric_completed {α : Type} [Serializable α] (deserializer : DeserializeRowFn)
    (request : α) (c : Conn) :
    let r := ExecuteGeneric.executeGeneric deserializer request { c with info := .clear }
    ∃ code output e, (∀ code' output' c',
      AsyncExecuteGeneric deserializer request { c with info := .clear } code' output' c' ↔
        code' = code ∧ output' = output ∧ c' = e) ∧
      Seen code output r.1 ∧ e.channel = r.2.channel ∧ (code.failed = true → e = r.2) := by
  obtain ⟨code, output, e, ha, hseen⟩ := executes_seen deserializer request c
  refine ⟨code, output, e, fun code' output' c' => ⟨fun h => executes_unique h ha, ?_⟩, hseen⟩
  rintro ⟨rfl, rfl, rfl⟩
  exact ha

lemma executeStatement_completed (statement : ComStmtPrepareOkPacket) (params : List Value)
    (c : Conn) :
    let r := execute statement params c
    ∃ code output e, (∀ code' output' c', AsyncExecuteStatement statement params c code' output' c' ↔
        code' = code ∧ output' = output ∧ c' = e) ∧
      Seen code output r.1 ∧ e.channel = r.2.channel ∧ (code.failed = true → e = r.2) := by
  rcases hn : checkNumParams statement params { c with info := .clear } with ⟨err | _, c1⟩
  · have hr : execute statement params c = (.error err, c1) := then_error hn
    have hf : err.failed = true := report_visible _ _ _ _ hn
    simp only [AsyncExecuteStatement, hn, hr]
    exact ⟨err, none, c1, fun _ _ _ => Iff.rfl, .error hf, rfl, fun _ => rfl⟩
  · have hp : params.length = statement.numParams.toNat := by
      by_contra hne
      have ho := congrArg Prod.fst hn
      simp only [checkNumParams, report, ne_eq, hne, not_false_eq_true, if_true] at ho
      cases ho
    obtain rfl : { c with info := .clear } = c1 := by
      rw [(checkNumParams_ok_iff _ _ _).mpr hp] at hn
      exact congrArg Prod.snd hn
    simp only [AsyncExecuteStatement, hn, execute_checked hp]
    exact executeGeneric_completed deserializeBinaryRow _ c

end EitherWay

section Makes

variable (hashes : Hashes) (lexical : LexicalConvert)

/-- A call that can be made asynchronously completes as it returns. -/
lemma async_eitherWay {c : Client} (h : SameClient c c) {call : LifeCall}
    (ha : call.hasAsync = true) :
    (perform hashes lexical c call = none ∧ ∀ o c', ¬ AsyncPerforms hashes lexical c o c' call) ∨
    ∃ sync, perform hashes lexical c call = some sync ∧
      EitherWay sync fun o c' => AsyncPerforms hashes lexical c o c' call := by
  cases call with
  | connect params session =>
    exact Or.inr ⟨_, rfl, unanswered_eitherWay h (connect_seen hashes params session c.conn)⟩
  | handshake params =>
    exact Or.inr ⟨_, rfl, unanswered_eitherWay h (handshake_seen hashes params c.conn)⟩
  | quit =>
    obtain ⟨code, hu, hseen⟩ := command_seen CommonMessages.QuitPacket.mk { c.conn with info := .clear }
    exact Or.inr ⟨_, rfl, unanswered_eitherWay h ⟨code, _, hu, hseen, _, rfl⟩⟩
  | close => exact Or.inr ⟨_, rfl, unanswered_eitherWay h (close_seen _)⟩
  | physicalConnect session => cases ha
  | physicalClose => cases ha
  | session call =>
    cases call with
    -- executions complete in one way, which is what the synchronous ones return
    | query into queryString =>
      exact Or.inr ⟨_, rfl, obtained_eitherWay h into (fun rs hr =>
        executeGeneric_blind_deserializer (deserializeTextRow_blind lexical) (Prod.ext hr rfl))
        (executeGeneric_completed _ _ _)⟩
    | execute into statement params =>
      exact Or.inr ⟨_, rfl, obtained_eitherWay h into
        (fun rs hr => execute_blind_deserializer (Prod.ext hr rfl))
        (executeStatement_completed statement params c.conn)⟩
    | prepare statement => cases ha
    | close statement =>
      obtain ⟨code, hu, hseen⟩ :=
        command_seen (ComStmtClosePacket.mk statement.statementId) { c.conn with info := .clear }
      have hr : ExecuteGeneric.close statement c.conn = (outcome code, _) := Prod.ext hseen.symm rfl
      refine Or.inr ⟨_, by rw [perform, performed_close, hr]; rfl, _, (closedOutcome_same h
        ⟨rfl, same_refl _, fun _ _ => rfl⟩).2, fun o c' => ?_⟩
      simp only [AsyncPerforms, AsyncCloseStatement, hu]
      constructor
      · rintro ⟨_, _, ⟨rfl, rfl⟩, rfl, rfl⟩
        exact ⟨rfl, rfl⟩
      · rintro ⟨rfl, rfl⟩
        exact ⟨_, _, ⟨rfl, rfl⟩, rfl, rfl⟩
    | fetch source call =>
      cases hrs : c.resultSets source with
      | none =>
        -- there is nothing to fetch from, either way
        refine Or.inl ⟨by simp only [perform, Client.performed, hrs, Option.map_none], fun o c' => ?_⟩
        rintro ⟨rs, _, _, _, hrs', -⟩
        rw [hrs] at hrs'
        cases hrs'
      | some rs =>
        have hb := h.blind source rs hrs
        have hk := fetch_deserializer rs c.conn.channel call
        rcases hf : rs.fetch c.conn.channel call with ⟨fetched, rs', ch⟩
        rw [hf] at hk
        have hs : SameClient ⟨{ c.conn with channel := ch }, _⟩ ⟨{ c.conn with channel := ch }, _⟩ :=
          h.update (same_refl _) source (some rs') fun r hr => by
            rw [← Option.some.inj hr, hk]
            exact hb
        have hp : perform hashes lexical c (.session (.fetch source call)) =
            some (.session (.fetched fetched (okPacketOf rs')),
              ⟨{ c.conn with channel := ch }, Function.update c.resultSets source (some rs')⟩) := by
          simp only [perform, Client.performed, hrs, hf, Option.map_some]
        refine Or.inr ⟨_, hp, _, hs, fun o c' => ?_⟩
        simp only [AsyncPerforms, asyncFetches_iff, hrs]
        constructor
        · rintro ⟨_, _, _, _, heq, hf', rfl, rfl⟩
          cases heq
          cases hf.symm.trans hf'
          exact ⟨rfl, rfl⟩
        · rintro ⟨rfl, rfl⟩
          exact ⟨_, _, _, _, rfl, hf, rfl, rfl⟩

/-- The calls, each made in its way, come to what they come to when all are made synchronously. -/
lemma makes_given : Gives SameClient Made.call (Makes hashes lexical) (perform hashes lexical) := by
  intro c d m o c' h hm
  rw [Makes] at hm
  split_ifs at hm with ha
  · rcases async_eitherWay hashes lexical (h.trans h.symm) (m.hasAsync ha) with
      ⟨-, hn⟩ | ⟨sync, hp, e, hs, hu⟩
    · exact absurd hm (hn o c')
    · obtain ⟨rfl, rfl⟩ := (hu o c').mp hm
      obtain ⟨d1, hd, hs'⟩ := perform_same h hp
      exact ⟨d1, hd, hs.trans hs'⟩
  · exact perform_same h hm

/-- What they come to when all are made synchronously they can come to when each is made in its
way. -/
lemma makes_allowed : Allows SameClient Made.call (Makes hashes lexical)
    (perform hashes lexical) := by
  intro c d m o d' h hd
  obtain ⟨c1, hc, hs⟩ := perform_same h.symm hd
  simp only [Makes]
  split_ifs with ha
  · rcases async_eitherWay hashes lexical (h.trans h.symm) (m.hasAsync ha) with
      ⟨hn, -⟩ | ⟨sync, hp, e, hs', hu⟩
    · rw [hc] at hn
      cases hn
    · obtain rfl : sync = (o, c1) := Option.some.inj (hp.symm.trans hc)
      exact ⟨e, (hu _ _).mpr ⟨rfl, rfl⟩, hs'.trans hs.symm⟩
  · exact ⟨c1, hc, hs.symm⟩

/-- A client with a connection just constructed. -/
def newClient : Client := ⟨constructed, fun _ => none⟩

lemma sameClient_newClient : SameClient newClient newClient := ⟨same_refl _, rfl, nofun⟩

/-- **Over the life of a connection outcomes do not tell** which calls were made synchronously and
which asynchronously: whatever arrives and whatever fails, the same calls come to the same
outcomes, and leave the same in the resultsets, the stream and the channel, but for the negotiated
capabilities, which a handshake that fails may leave different. -/
theorem life_eitherWay (makings : List Made) (outcomes : List LifeOutcome) :
    (∀ c, (Makes hashes lexical).Runs newClient makings outcomes c →
      ∃ d, (perform hashes lexical).run newClient (makings.map Made.call) = some (outcomes, d) ∧
        SameClient c d) ∧
    ∀ d, (perform hashes lexical).run newClient (makings.map Made.call) = some (outcomes, d) →
      ∃ c, (Makes hashes lexical).Runs newClient makings outcomes c ∧ SameClient c d :=
  ⟨fun _ hc => (makes_given hashes lexical).run sameClient_newClient hc,
    fun _ hd => (makes_allowed hashes lexical).run sameClient_newClient hd⟩

end Makes

/-- A session where nothing fails, and what the server sends is there from the beginning. -/
def quietSession (arrivals : List Arrival) : Session := ⟨none, arrivals, [], [], [], .success, 0⟩

/-- The client at the beginning of such a session. -/
def quietClient (arrivals : List Arrival) : Client :=
  (returned newClient (physicalConnect (quietSession arrivals) constructed)).2

/-! ### Sessions with a conforming server -/

/-- An exchange, and the way its call is made. -/
structure MadeExchange where
  exchange : Exchange
  async : Bool
  hasAsync : async = true → (LifeCall.session exchange.call).hasAsync = true

def MadeExchange.sync (exchange : Exchange) : MadeExchange := ⟨exchange, false, nofun⟩

/-- A fetch, made either way. -/
def MadeExchange.fetch (source : ℕ) (call : FetchCall) (async : Bool) : MadeExchange :=
  ⟨⟨.fetch source call, ()⟩, async, fun _ => rfl⟩

def MadeExchange.made (m : MadeExchange) : Made := ⟨.session m.exchange.call, m.async, m.hasAsync⟩

/-- An exchange on the client's side, its call made in its way. -/
def mixedExchange (hashes : Hashes) (lexical : LexicalConvert) :
    Behaviour Client MadeExchange Outcome :=
  fun c m o c' => Makes hashes lexical (arrived c m.exchange) m.made (.session o) c'

lemma arrivals_caps (e : Exchange) (caps caps' : Capabilities) :
    e.arrivals caps = e.arrivals caps' := by
  obtain ⟨call, answer⟩ := e
  cases call <;> rfl

lemma SameClient.arrived {c d : Client} (h : SameClient c d) (e : Exchange) :
    SameClient (arrived c e) (arrived d e) := by
  obtain ⟨caps, hch⟩ := h.conn
  refine ⟨⟨caps, ?_⟩, h.resultSets, h.blind⟩
  simp only [Dialogue.arrived, hch, arrivals_caps e caps c.conn.channel.currentCaps]
  rfl

/-- With the assertions compiled out, an exchange is its call. -/
lemma exchange_iff {lexical : LexicalConvert} {hashes : Hashes} {c c' : Client} {e : Exchange}
    {o : Outcome} : exchange true lexical c e = some (o, c') ↔
      perform hashes lexical (arrived c e) (.session e.call) = some (.session o, c') := by
  rw [exchange, Client.perform, Bool.true_or, if_pos rfl, perform]
  constructor
  · intro h
    rw [h]
    rfl
  · intro h
    obtain ⟨⟨o', c1⟩, hp, heq⟩ := Option.map_eq_some_iff.mp h
    cases heq
    exact hp

lemma mixedExchange_given (hashes : Hashes) (lexical : LexicalConvert) :
    Gives SameClient MadeExchange.exchange (mixedExchange hashes lexical) (exchange true lexical) :=
  fun _ _ _ _ _ h hm =>
    have ⟨d', hd, hs⟩ := makes_given hashes lexical (h.arrived _) hm
    ⟨d', exchange_iff.mpr hd, hs⟩

lemma mixedExchange_allowed (hashes : Hashes) (lexical : LexicalConvert) :
    Allows SameClient MadeExchange.exchange (mixedExchange hashes lexical) (exchange true lexical) :=
  fun _ _ m _ _ h hd =>
    @makes_allowed hashes lexical _ _ m.made _ _ (h.arrived m.exchange) (exchange_iff.mp hd)

/-- The client at the beginning of a session. -/
def sessionClient (conn : Conn) : Client := ⟨conn, fun _ => none⟩

lemma mixedExchange_specified (hashes : Hashes) {lexical : LexicalConvert}
    (hc : ConvertsIntegers lexical) {conn : Conn} (hs : Sends conn.channel)
    (hp : conn.channel.pending = []) {makings : List MadeExchange}
    (he : ∀ m ∈ makings, m.exchange.Conforming lexical conn.channel.currentCaps)
    {outcomes : List Outcome} {l : Ledger}
    (hr : (specified conn.channel.currentCaps).run (.start conn.channel.stream.sent)
      (makings.map MadeExchange.exchange) = some (outcomes, l)) :
    (∃ c, (mixedExchange hashes lexical).Runs (sessionClient conn) makings outcomes c) ∧
    ∀ outcomes' c, (mixedExchange hashes lexical).Runs (sessionClient conn) makings outcomes' c →
      outcomes' = outcomes ∧
        ∃ d, SameClient c d ∧ InStep lexical conn.channel.currentCaps l d := by
  have hsame : SameClient (sessionClient conn) (sessionClient conn) := ⟨same_refl _, rfl, nofun⟩
  have hE : ∀ e ∈ makings.map MadeExchange.exchange,
      e.Conforming lexical conn.channel.currentCaps ∧ (true = true ∨ e.call.ParamsFit) := by
    intro e hm
    obtain ⟨m, hmem, rfl⟩ := List.mem_map.mp hm
    exact ⟨he m hmem, Or.inl rfl⟩
  obtain ⟨d, hrun, hin⟩ := (exchange_refines true hc _).run
    (@inStep_start lexical (sessionClient conn) hs hp) hE hr
  constructor
  · obtain ⟨c, hc, -⟩ := (mixedExchange_allowed hashes lexical).run hsame hrun
    exact ⟨c, hc⟩
  · intro outcomes' c hc
    obtain ⟨d', hrun', hsc⟩ := (mixedExchange_given hashes lexical).run hsame hc
    cases hrun.symm.trans hrun'
    exact ⟨rfl, d, hsc, hin⟩

/-- A client that is the same as one in step has sent what is specified, and what it leaves unread
is. -/
lemma inStep_sameClient {lexical : LexicalConvert} {caps : Capabilities} {l : Ledger}
    {c d : Client} (h : InStep lexical caps l d) (hsame : SameClient c d) :
    c.conn.channel.stream.sent = l.received ∧ Delivers c.conn.channel l.messages [] := by
  obtain ⟨caps', hch⟩ := hsame.conn.symm
  rw [hch]
  exact ⟨h.linked.sent, h.delivers⟩

/-- **A session goes as is specified whichever way each call is made**, with a conforming server
and every resultset read to its end: it goes on to its end, and all it can return, send and
leave unread is what is specified. -/
theorem mixed_session_asSpecified (hashes : Hashes) {lexical : LexicalConvert}
    (hc : ConvertsIntegers lexical) {conn : Conn} (hs : Sends conn.channel)
    (hp : conn.channel.pending = []) {makings : List MadeExchange}
    (he : ∀ m ∈ makings, m.exchange.Conforming lexical conn.channel.currentCaps)
    {outcomes : List Outcome} {l : Ledger}
    (hr : (specified conn.channel.currentCaps).run (.start conn.channel.stream.sent)
      (makings.map MadeExchange.exchange) = some (outcomes, l)) :
    (∃ c, (mixedExchange hashes lexical).Runs (sessionClient conn) makings outcomes c) ∧
    ∀ outcomes' c, (mixedExchange hashes lexical).Runs (sessionClient conn) makings outcomes' c →
      outcomes' = outcomes ∧ c.conn.channel.stream.sent = l.received ∧
        Delivers c.conn.channel l.messages [] ∧ ∀ o ∈ outcomes, ¬ Misaligned o.err := by
  obtain ⟨hex, hall⟩ := mixedExchange_specified hashes hc hs hp he hr
  refine ⟨hex, fun outcomes' c hruns => ?_⟩
  obtain ⟨rfl, d, hsc, hin⟩ := hall outcomes' c hruns
  obtain ⟨hsent, hleft⟩ := inStep_sameClient hin hsc
  exact ⟨rfl, hsent, hleft, run_answers specified_aligned hr⟩

/-- The short session, with its execution and the first fetch of each resultset made
asynchronously. -/
def mixedShortSession : List MadeExchange :=
  [.sync ⟨.query 0 [0x41], shortAnswer (encodeTextFields textCells)⟩, .fetch 0 .all true,
    ⟨⟨.execute 0 ⟨7, 0, 1, 0⟩ [.int64 5], shortAnswer (encodeBinaryRow [0] binaryCells)⟩, true,
      fun _ => rfl⟩,
    .fetch 0 .one true, .fetch 0 .one false, .sync ⟨.close ⟨7, 0, 1, 0⟩, ()⟩]

theorem mixed_session_asSpecified_short :
    (∃ c, (mixedExchange zeroHashes decimalIntegers).Runs (sessionClient freshClient.conn)
      mixedShortSession shortOutcomes c) ∧
    ∀ outcomes' c, (mixedExchange zeroHashes decimalIntegers).Runs (sessionClient freshClient.conn)
        mixedShortSession outcomes' c →
      outcomes' = shortOutcomes ∧ c.conn.channel.stream.sent = shortLedger.received ∧
        Delivers c.conn.channel shortLedger.messages [] ∧ ∀ o ∈ shortOutcomes, ¬ Misaligned o.err :=
  mixed_session_asSpecified zeroHashes decimalIntegers_converts ⟨rfl, rfl⟩ rfl
    (fun m hm => shortSession_conforming m.exchange (List.mem_map_of_mem hm)) rfl

end MysqlAsio.Lives
