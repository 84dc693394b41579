import MysqlAsio.Calls
import MysqlAsio.Reconnect

/-!
Nothing that is done on a connection depends on the capabilities of its channel: they are set
by the handshake, and passed to what ignores them.
-/

namespace MysqlAsio.IgnoredCaps

open MysqlAsio.Errors MysqlAsio.Serialization MysqlAsio.CommonMessages MysqlAsio.Auth
open MysqlAsio.Values MysqlAsio.PreparedStatementMessages MysqlAsio.BinaryDeserialization
open MysqlAsio.TextDeserialization MysqlAsio.Streams MysqlAsio.Channels MysqlAsio.Framing
open MysqlAsio.ReadRow MysqlAsio.Resultset MysqlAsio.Operations MysqlAsio.ExecuteGeneric
open MysqlAsio.Handshake MysqlAsio.Connection MysqlAsio.Reconnect MysqlAsio.Lib.Programs

/-! ### Operations -/

/-- The operation does the same whichever capabilities there are. -/
abbrev Blind {α : Type} (m : Operation α) : Prop := Lockstep SameButCaps m SameButCaps SameButCaps

section Blind

variable {α β : Type}

lemma blind_pure (a : α) : Blind (pure a : Operation α) := lockstep_pure a

lemma blind_throw (err : ErrorCode) : Blind (throw err : Operation α) :=
  lockstep_of_blind fun _ _ => rfl

lemma blind_attempt (result : Except ErrorCode α) : Blind (attempt result) :=
  lockstep_of_blind fun _ _ => rfl

lemma blind_report (f : ErrorInfo → ErrorCode × ErrorInfo) : Blind (report f) :=
  lockstep_of_blind fun _ _ => rfl

lemma blind_resetSequenceNumber : Blind (modifyChannel Channel.resetSequenceNumber) :=
  lockstep_of_blind fun _ _ => rfl

lemma blind_get {f : Conn → Operation α} (h : ∀ c k,
    f ⟨withShared c.channel.sharedBuffer k c.channel, c.info⟩ = f c) (hf : ∀ c, Blind (f c)) :
    Blind ((get : Operation Conn) >>= f) := by
  rintro c _ ⟨k, rfl⟩
  rw [get_then, get_then, h]
  exact hf c _ _ ⟨k, rfl⟩

lemma read_sharedBuffer (ch : Channel) : ch.read.2.2.sharedBuffer = ch.sharedBuffer := by
  obtain ⟨seq, n, rest, -, h⟩ := read_moved ch
  rw [h]
  rfl

lemma write_sharedBuffer (ch : Channel) (m : Bytes) :
    (ch.write m).2.sharedBuffer = ch.sharedBuffer := by
  obtain ⟨seq, results, data, h⟩ := (write_cases ch m).1
  rw [h]

lemma blind_read : Blind Operations.read := by
  refine lockstep_of_blind fun k c => ?_
  simp only [Operations.read, read_withShared, read_sharedBuffer]

lemma blind_write (m : Bytes) : Blind (Operations.write m) := by
  refine lockstep_of_blind fun k c => ?_
  simp only [Operations.write, onChannel, write_withShared, write_sharedBuffer]

lemma blind_readShared : Blind readShared :=
  readShared_lockstep.weaken (fun _ _ => SameButCaps.alike) (fun _ _ h => h) (fun _ _ h => h)

end Blind

/-! ### Commands -/

lemma processResponse_blind (buffer : Bytes) : Blind (processResponse buffer) := by
  refine blind_get (fun c k => ?_) fun c => ?_
  · cases buffer <;> rfl
  · cases buffer with
    | nil => exact blind_throw _
    | cons b s =>
      simp only [deserializeMessageType_cons]
      split_ifs
      · exact (blind_attempt _).then fun _ => blind_pure _
      · exact (blind_report _).then fun _ => blind_pure _
      · refine (blind_attempt _).then fun numFields => ?_
        split_ifs
        · exact blind_throw _
        · exact blind_pure _

lemma processFieldDefinition_blind (buffer : Bytes) : Blind (processFieldDefinition buffer) :=
  blind_get (fun _ _ => rfl) fun _ => (blind_attempt _).then fun _ => blind_pure _

lemma readFieldDefinitions_blind (count : ℕ) : Blind (readFieldDefinitions count) := by
  induction count with
  | zero => exact blind_pure _
  | succ count ih =>
    exact blind_read.then fun buffer => (processFieldDefinition_blind buffer).then fun _ =>
      ih.then fun _ => blind_pure _

lemma executeGeneric_blind {α : Type} [Serializable α] {request : α}
    (hm : ∀ caps caps', serializeMessage request caps [] = serializeMessage request caps' [])
    (deserializer : DeserializeRowFn) : Blind (executeGeneric deserializer request) := by
  refine blind_get (fun c k => ?_) fun c => ?_
  · exact congrArg (fun m : Bytes => do
      modifyChannel Channel.resetSequenceNumber
      Operations.write m
      receiveResultset deserializer) (hm k c.channel.currentCaps)
  · refine blind_resetSequenceNumber.then fun _ => (blind_write _).then fun _ => ?_
    exact blind_read.then fun buffer => (processResponse_blind buffer).then fun _ =>
      (readFieldDefinitions_blind _).then fun _ => blind_pure _

lemma composed_blind {α β : Type} [Serializable α] {input : α} {next : Operation β}
    (hm : ∀ caps caps' buffer, serializeMessage input caps buffer = serializeMessage input caps' buffer)
    (hn : Blind next) :
    Blind (do
      serializeShared input (← get).channel.currentCaps
      modifyChannel Channel.resetSequenceNumber
      next : Operation β) := by
  refine blind_get (fun c k => ?_) fun c => ?_
  · have hs : serializeShared input k = serializeShared input c.channel.currentCaps := by
      simp only [serializeShared, hm k c.channel.currentCaps]
    exact congrArg (fun m : Operation Unit => do
      m
      modifyChannel Channel.resetSequenceNumber
      next) hs
  · exact (serializeShared_lockstep _ _).then fun _ => blind_resetSequenceNumber.then fun _ => hn

lemma processPrepareResponse_blind : Blind processPrepareResponse := by
  refine blind_get (fun c k => ?_) fun c => ?_
  · obtain ⟨⟨stream, sslActive, sequenceNumber, buffer, caps⟩, info⟩ := c
    cases buffer <;> rfl
  · cases hb : c.channel.sharedBuffer with
    | nil =>
      simp only [hb]
      exact blind_throw _
    | cons b s =>
      simp only [hb, deserializeMessageType_cons]
      split_ifs
      · exact (blind_report _).then fun _ => blind_pure _
      · exact blind_throw _
      · exact blind_attempt _

lemma skipMessages_blind (count : ℕ) : Blind (skipMessages count) := by
  induction count with
  | zero => exact blind_pure _
  | succ count ih => exact blind_readShared.then fun _ => ih

lemma prepareStatement_blind (statement : Bytes) : Blind (prepareStatement statement) := by
  refine composed_blind (fun _ _ _ => rfl) (writeShared_lockstep.then fun _ => ?_)
  exact blind_readShared.then fun _ => processPrepareResponse_blind.then fun _ =>
    (skipMessages_blind _).then fun _ => blind_pure _

lemma closeStatement_blind (statementId : UInt32) : Blind (closeStatement statementId) :=
  composed_blind (fun _ _ _ => rfl) writeShared_lockstep

lemma quitConnection_blind : Blind quitConnection :=
  composed_blind (fun _ _ _ => rfl) writeShared_lockstep

/-! ### Connecting and closing -/

lemma sameButCaps_dropChannel {c d : Conn} (h : SameButCaps c d) :
    SameButCaps (dropChannel c) (dropChannel d) := by
  obtain ⟨k, rfl⟩ := h
  exact ⟨k, rfl⟩

lemma closeConnection_blind : Blind closeConnection := by
  rintro c _ ⟨k, rfl⟩
  have hq := quitConnection_blind c _ ⟨k, rfl⟩
  set d : Conn := ⟨withShared c.channel.sharedBuffer k c.channel, c.info⟩ with hd
  have ho : d.channel.stream.isOpen = c.channel.stream.isOpen := rfl
  unfold closeConnection
  rw [ho]
  split_ifs
  · generalize quitConnection c = p at hq ⊢
    generalize quitConnection d = q at hq ⊢
    cases hq with
    | @ok _ s _ hst =>
      obtain ⟨k', rfl⟩ := hst
      cases hf : s.channel.close.1.failed with
      | true =>
        have hs := outcome_failed hf
        simp only [hs]
        have ht : outcome (withShared s.channel.sharedBuffer k' s.channel).close.1 = _ := hs
        simp only [ht]
        exact .error _ ⟨k', rfl⟩
      | false =>
        have hs := outcome_ok hf
        simp only [hs]
        have ht : outcome (withShared s.channel.sharedBuffer k' s.channel).close.1 = _ := hs
        simp only [ht]
        exact .ok _ ⟨k', rfl⟩
    | error e hst => exact .error e (sameButCaps_dropChannel hst)
  · exact .ok () ⟨k, rfl⟩

lemma physicalConnect_blind (session : Session) : Blind (physicalConnect session) :=
  lockstep_of_blind fun _ _ => rfl

lemma handshake_blind (hashes : Hashes) (params : ConnectionParams) :
    Blind (handshake hashes params) :=
  (handshake_lockstep params).weaken (fun _ _ => SameButCaps.alike) (fun _ _ h => h)
    (fun _ _ h => h)

lemma connectChannel_blind (hashes : Hashes) (params : ConnectionParams) (session : Session) :
    Blind (connectChannel hashes params session) := by
  intro c d h
  have hp := physicalConnect_blind session c d h
  unfold connectChannel
  generalize physicalConnect session c = p at hp ⊢
  generalize physicalConnect session d = q at hp ⊢
  cases hp with
  | error e hst =>
    obtain ⟨k, rfl⟩ := hst
    exact .error e ⟨k, rfl⟩
  | ok _ hst =>
    have hh := handshake_blind hashes params _ _ hst
    simp only []
    generalize handshake hashes params _ = p at hh ⊢
    generalize handshake hashes params _ = q at hh ⊢
    cases hh with
    | ok _ hst => exact .ok () hst
    | error e hst => exact .error e (sameButCaps_dropChannel hst)

/-! ### Fetching -/

/-- A deserializer that ignores the capabilities. -/
def BlindDeserializer (deserializer : DeserializeRowFn) : Prop :=
  ∀ message caps caps' fields, deserializer ⟨message, caps⟩ fields = deserializer ⟨message, caps'⟩ fields

lemma deserializeTextRow_blind (lexical : LexicalConvert) :
    BlindDeserializer (deserializeTextRow lexical) := fun _ _ _ _ => rfl

lemma deserializeBinaryRow_blind : BlindDeserializer deserializeBinaryRow := fun _ _ _ _ => rfl

section Fetch

variable {rs : ResultSet}

lemma readRow_caps (h : BlindDeserializer rs.deserializer) (ch : Channel) (caps : Capabilities)
    (info : ErrorInfo) :
    readRow rs.deserializer { ch with currentCaps := caps } rs.fields rs.okPacket info =
      let r := readRow rs.deserializer ch rs.fields rs.okPacket info
      (r.1, r.2.1, r.2.2.1, { r.2.2.2 with currentCaps := caps }) := by
  have hr : ({ ch with currentCaps := caps } : Channel).read =
      (ch.read.1, ch.read.2.1, { ch.read.2.2 with currentCaps := caps }) := by
    refine (read_withShared ch.sharedBuffer caps ch).trans ?_
    rw [withShared, ← read_sharedBuffer ch]
  have hp (message : Bytes) (k : Capabilities) :
      processReadMessage rs.deserializer caps rs.fields message rs.okPacket info =
        processReadMessage rs.deserializer k rs.fields message rs.okPacket info := by
    cases message with
    | nil => rfl
    | cons b s =>
      simp only [processReadMessage, deserializeMessageType_cons]
      rw [h (b :: s) caps k]
      rfl
  simp only [readRow, hr]
  split_ifs
  · rfl
  · rw [hp ch.read.1 ch.read.2.2.currentCaps]

lemma fetchLoop_caps (h : BlindDeserializer rs.deserializer) (count : ℕ) (ch : Channel)
    (caps : Capabilities) (info : ErrorInfo) :
    rs.fetchLoop count { ch with currentCaps := caps } info =
      let r := rs.fetchLoop count ch info
      (r.1, r.2.1, { r.2.2 with currentCaps := caps }) := by
  induction count generalizing rs ch info with
  | zero => rfl
  | succ count ih =>
    rw [ResultSet.fetchLoop, ResultSet.fetchLoop, readRow_caps h]
    rcases readRow rs.deserializer ch rs.fields rs.okPacket info with ⟨result, err, info', ch'⟩
    cases result with
    | row values =>
      have hi := @ih (rs.received (.row values)) h ch' info'
      simp only [] at hi ⊢
      rw [hi]
    | eof okPacket => rfl
    | error => rfl

lemma fetchLoop_deserializer (count : ℕ) (rs : ResultSet) (ch : Channel) (info : ErrorInfo) :
    (rs.fetchLoop count ch info).2.1.deserializer = rs.deserializer := by
  induction count generalizing rs ch info with
  | zero => rfl
  | succ count ih =>
    rw [ResultSet.fetchLoop]
    rcases readRow rs.deserializer ch rs.fields rs.okPacket info with ⟨result, err, info', ch'⟩
    cases result with
    | row values => exact ih (rs.received (.row values)) ch' info'
    | eof okPacket => rfl
    | error => rfl

lemma fetch_caps (h : BlindDeserializer rs.deserializer) (ch : Channel) (caps : Capabilities)
    (call : FetchCall) :
    rs.fetch { ch with currentCaps := caps } call =
      let r := rs.fetch ch call
      (r.1, r.2.1, { r.2.2 with currentCaps := caps }) := by
  rw [fetch_eq, fetch_eq, ResultSet.fetchMany, ResultSet.fetchMany]
  split_ifs
  · rfl
  · exact fetchLoop_caps h _ _ _ _

lemma fetch_deserializer (rs : ResultSet) (ch : Channel) (call : FetchCall) :
    (rs.fetch ch call).2.1.deserializer = rs.deserializer := by
  rw [fetch_eq, ResultSet.fetchMany]
  split_ifs
  · rfl
  · exact fetchLoop_deserializer _ _ _ _

end Fetch

end MysqlAsio.IgnoredCaps
