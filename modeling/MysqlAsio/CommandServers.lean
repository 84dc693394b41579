import MysqlAsio.Lives
import MysqlAsio.Receiving

/-!
The commands of a session as a server reads them from the bytes it receives.

A server knows what it has answered, and so how many parameters each of its statements has; all
else it learns from the bytes.
-/

namespace MysqlAsio.CommandServers

open MysqlAsio.Errors MysqlAsio.Serialization MysqlAsio.CommonMessages MysqlAsio.Auth
open MysqlAsio.Values MysqlAsio.PreparedStatementMessages MysqlAsio.TextDeserialization
open MysqlAsio.StatementExecution MysqlAsio.Channels MysqlAsio.Framing MysqlAsio.Resultset
open MysqlAsio.Operations MysqlAsio.ExecuteGeneric MysqlAsio.Connection MysqlAsio.Receiving
open MysqlAsio.Server MysqlAsio.Calls MysqlAsio.Dialogue MysqlAsio.Sessions MysqlAsio.Lives
open MysqlAsio.RowEncodings MysqlAsio.Lib.Decoding MysqlAsio.Lib.Machines MysqlAsio.Lib.Programs

/-! ### Messages -/

/-- A message as a server receives it, in frames numbered from `seq` on, as many as `fuel`. -/
def readMessage : ℕ → UInt8 → Deserializer Bytes
  | 0, _ => throw .incompleteMessage
  | fuel + 1, seq => do
    let header ← deserializePacketHeader
    if header.sequenceNumber ≠ seq then throw .sequenceNumberMismatch
    else
      let payload ← deserializeStringFixed header.packetSize.toNat
      if payload.length < maxPacketSize then pure payload
      else
        let left ← readMessage fuel (seq + 1)
        pure (payload ++ left)

lemma frame_reads {seq : UInt8} {payload m w : Bytes} (hl : payload.length ≤ maxPacketSize)
    {fuel : ℕ} (h : Reads (if payload.length < maxPacketSize then pure payload
      else do
        let left ← readMessage fuel (seq + 1)
        pure (payload ++ left) : Deserializer Bytes) w m) :
    Reads (readMessage (fuel + 1) seq) (frame seq payload ++ w) m := by
  have hsize : (UInt32.ofNat payload.length).toNat = payload.length :=
    Channel.toNat_ofNat_payload (hl.trans_lt maxPacketSize_lt)
  have hs : (PacketHeader.mk (.ofNat payload.length) seq).packetSize.toNat < 2 ^ 24 := by
    rw [hsize]
    exact hl.trans_lt maxPacketSize_lt
  rw [frame, List.append_assoc, readMessage]
  refine (packetHeader_reads hs).bind ?_
  rw [if_neg (by simp), hsize]
  exact (takeN_reads (.incompleteMessage : Errc) payload).bind h

theorem frames_read (m : Bytes) {fuel : ℕ} (h : frameCount m ≤ fuel) (seq : UInt8) :
    Reads (readMessage fuel seq) (frames seq m) m := by
  induction m using frames_induction generalizing fuel seq with
  | short m hl =>
    rw [frameCount_short hl] at h
    obtain ⟨fuel, rfl⟩ : ∃ n, fuel = n + 1 := ⟨fuel - 1, by omega⟩
    have hr := @frame_reads seq m m [] hl.le fuel (by
      rw [if_pos hl]
      exact reads_pure m)
    rwa [List.append_nil, ← frames_short hl] at hr
  | full payload m hfull ih =>
    rw [frameCount_append hfull] at h
    obtain ⟨fuel, rfl⟩ : ∃ n, fuel = n + 1 := ⟨fuel - 1, by omega⟩
    rw [frames_append hfull]
    refine frame_reads hfull.le ?_
    rw [if_neg (by omega)]
    exact (ih (by omega) (seq + 1)).bind_pure (reads_pure _)

/-! ### Commands -/

inductive Command
  | query (queryString : Bytes)
  | prepare (statement : Bytes)
  | execute (statementId : UInt32) (params : List Value)
  | close (statementId : UInt32)
  deriving DecidableEq, Repr

/-- The statements a server has prepared, with the number of parameters of each. -/
abbrev Statements := UInt32 → Option ℕ

/-- What a decoder makes of a whole message. -/
def whole {α : Type} (d : Deserializer α) (s : Bytes) : Option α :=
  match d s with
  | .ok (a, []) => some a
  | _ => none

lemma whole_of_reads {α : Type} {d : Deserializer α} {s : Bytes} {a : α} (h : Reads d s a) :
    whole d s = some a := by
  rw [whole, h.exact]

/-- The statement an execution is of. -/
def executed : Deserializer UInt32 := do
  expect 0x17
  deserializeInt4

/-- A command is told by its first byte, and an execution is read by the number of parameters of
its statement. -/
def parseCommand (statements : Statements) (message : Bytes) : Option Command := do
  let header ← message.head?
  let body := message.drop 1
  if header = 0x03 then some (.query body)
  else if header = 0x16 then some (.prepare body)
  else if header = 0x19 then (whole deserializeInt4 body).map .close
  else do
    let (statementId, _) ← (executed message).toOption
    let numParams ← statements statementId
    (whole (parseExecution numParams) message).map fun r => .execute r.1 r.2

/-- The statements after a command that was answered so. -/
def after (statements : Statements) : Command → Option ComStmtPrepareOkPacket → Statements
  | .prepare _, some response =>
    Function.update statements response.statementId (some response.numParams.toNat)
  | .close statementId, _ => Function.update statements statementId none
  | _, _ => statements

/-- The commands a server reads from all it has received. Of each it knows how it has answered, if
that was with a statement. -/
def commands : Statements → List (Option ComStmtPrepareOkPacket) → Bytes → Option (List Command)
  | _, [], s => if s = [] then some [] else none
  | statements, answer :: answers, s => do
    let (message, s) ← (readMessage s.length 0 s).toOption
    let command ← parseCommand statements message
    let rest ← commands (after statements command answer) answers s
    some (command :: rest)

/-! ### Messages of commands -/

/-- The message of a command. -/
def Command.message (caps : Capabilities) : Command → Bytes
  | .query queryString => Serializable.serialize caps (ComQueryPacket.mk queryString)
  | .prepare statement => Serializable.serialize caps (ComStmtPreparePacket.mk statement)
  | .execute statementId params =>
    Serializable.serialize caps (makeStmtExecutePacket statementId params)
  | .close statementId => Serializable.serialize caps (ComStmtClosePacket.mk statementId)

/-- A statement is executed while the server has it, with as many parameters as it has, and with
values in their ranges. -/
def Known (statements : Statements) : Command → Prop
  | .execute statementId params =>
    statements statementId = some params.length ∧ ∀ v ∈ params, v.InRange
  | _ => True

lemma executed_reads (statementId : UInt32) :
    Reads executed (serializeInt1 0x17 ++ serializeInt4 statementId) statementId :=
  (expect_reads _).bind (int4_reads _)

lemma parseCommand_message {statements : Statements} {command : Command}
    (h : Known statements command) (caps : Capabilities) :
    parseCommand statements (command.message caps) = some command := by
  cases command with
  | query queryString => rfl
  | prepare statement => rfl
  | close statementId =>
    have hw := whole_of_reads (int4_reads statementId)
    have hm : (Command.close statementId).message caps = 0x19 :: serializeInt4 statementId := by
      simp only [Command.message, Serializable.serialize, serializeInt1_eq, List.singleton_append]
    simp only [parseCommand, hm, List.head?_cons, List.drop_succ_cons, List.drop_zero, hw]
    rfl
  | execute statementId params =>
    obtain ⟨hn, hr⟩ := h
    have hw := whole_of_reads (execution_reads statementId caps hr)
    obtain ⟨rest, hm⟩ : ∃ rest, (Command.execute statementId params).message caps =
        (serializeInt1 0x17 ++ serializeInt4 statementId) ++ rest := by
      simp only [Command.message, Serializable.serialize, makeStmtExecutePacket, List.append_assoc]
      exact ⟨_, rfl⟩
    have he : executed ((Command.execute statementId params).message caps) =
        .ok (statementId, rest) := by rw [hm, executed_reads]
    have hhead : ((Command.execute statementId params).message caps).head? = some 0x17 := by
      rw [hm, serializeInt1_eq]
      rfl
    rw [Command.message] at he hhead
    simp only [parseCommand, Command.message, hhead, he, Except.toOption, Option.bind_eq_bind,
      Option.bind_some, hn, hw, Option.map_some]
    rfl

/-! ### Streams of commands -/

/-- The commands of a session, each with the statement it was answered with, if any. -/
abbrev Exchanged := List (Command × Option ComStmtPrepareOkPacket)

/-- A statement is executed while the server has it. -/
def AllKnown : Statements → Exchanged → Prop
  | _, [] => True
  | statements, (command, answer) :: rest =>
    Known statements command ∧ AllKnown (after statements command answer) rest

/-- What is sent for commands: the frame of each, numbered from 0. -/
def sentFor (caps : Capabilities) (exchanged : Exchanged) : Bytes :=
  exchanged.flatMap fun e => frame 0 (e.1.message caps)

/-- **A server reads the commands that were sent**, one after the other and nothing else. -/
theorem commands_sentFor (caps : Capabilities) {statements : Statements} {exchanged : Exchanged}
    (hs : ∀ e ∈ exchanged, (e.1.message caps).length < maxPacketSize)
    (hk : AllKnown statements exchanged) :
    commands statements (exchanged.map Prod.snd) (sentFor caps exchanged) =
      some (exchanged.map Prod.fst) := by
  induction exchanged generalizing statements with
  | nil => rfl
  | cons e exchanged ih =>
    obtain ⟨command, answer⟩ := e
    obtain ⟨hknown, hrest⟩ := hk
    have hl := hs (command, answer) (by simp)
    have hcons : sentFor caps ((command, answer) :: exchanged) =
        frame 0 (command.message caps) ++ sentFor caps exchanged := List.flatMap_cons
    have hfuel : frameCount (command.message caps) ≤
        (sentFor caps ((command, answer) :: exchanged)).length := by
      rw [hcons, frameCount_short hl, List.length_append, frame_length]
      omega
    have hread := frames_read (command.message caps) hfuel 0 (sentFor caps exchanged)
    rw [frames_short hl, ← hcons] at hread
    have hrest := ih (fun e he => hs e (by simp [he])) hrest
    simp only [List.map_cons, commands, hread, Except.toOption, Option.bind_eq_bind,
      Option.bind_some, parseCommand_message hknown, hrest]

/-! ### Calls -/

/-- What a call asks a server for. A statement that is not given its parameters is not executed. -/
def asks : Calls.Call → Option Command
  | .query _ queryString => some (.query queryString)
  | .prepare statement => some (.prepare statement)
  | .execute _ statement params =>
    if params.length = statement.numParams.toNat then
      some (.execute statement.statementId params)
    else none
  | .close statement => some (.close statement.statementId)
  | .fetch _ _ => none

/-- The statement a call has returned. -/
def statementOf : LifeOutcome → Option ComStmtPrepareOkPacket
  | .session (.statement response) => some response
  | _ => none

/-- What the calls of a session have asked for, and which statements they have returned. -/
def exchanges : List Calls.Call → List LifeOutcome → Exchanged
  | call :: calls, o :: os =>
    ((asks call).map fun command => (command, statementOf o)).toList ++ exchanges calls os
  | _, _ => []

lemma command_eq_message (caps : Capabilities) (call : Calls.Call) :
    command caps call = (asks call).map (Command.message caps) := by
  cases call with
  | execute into statement params =>
    simp only [command, asks]
    split_ifs <;> rfl
  | _ => rfl

lemma command_caps (caps caps' : Capabilities) (call : Calls.Call) :
    command caps call = command caps' call := by cases call <;> rfl

/-! ### Sending -/

/-- Nothing is done to the channel but reads. -/
def Receives (c c' : Conn) : Prop := Kept c.channel c'.channel

lemma receives_closedUnderReads : ClosedUnderReads Receives where
  trans _ _ _ h h' := Kept.trans h h'
  moved _ _ h := kept_of_moved h
  sharedBuffer c b := (kept_refl c.channel).withBuffer b
  info c _ := kept_refl c.channel

section Sends

variable {caps : Capabilities} {sent : Bytes} {c c' : Client}

/-- The channel of the client sends all it is given, and has sent these bytes. -/
abbrev HasSent (caps : Capabilities) (sent : Bytes) (c : Client) : Prop :=
  Linked caps sent c.conn.channel

lemma obtained_conn (c : Client) (into : ℕ) (r : Except ErrorCode ResultSet × Conn) :
    (c.obtained into r).2.conn = r.2 := by
  obtain ⟨_ | _, conn⟩ := r <;> rfl

lemma preparedOutcome_conn (c : Client) (r : Except ErrorCode ComStmtPrepareOkPacket × Conn) :
    (preparedOutcome c r).2.conn = r.2 := by
  obtain ⟨_ | _, conn⟩ := r <;> rfl

/-- A call sends its command, and nothing else, whatever is received. -/
lemma performed_sends {lexical : LexicalConvert} (h : HasSent caps sent c) {call : Calls.Call}
    (hm : ∀ m ∈ command caps call, m.length < maxPacketSize) {o : Outcome}
    (hp : c.performed lexical call = some (o, c')) :
    HasSent caps (sent ++ (command caps call).elim [] (frame 0)) c' := by
  cases call with
  | query into queryString =>
    obtain ⟨rfl, rfl⟩ := Prod.ext_iff.mp (Option.some.inj hp)
    have hq := query_asked h lexical rfl (hm _ rfl)
    rw [HasSent, obtained_conn, hq]
    exact (linked_asked h _).kept (receives_closedUnderReads.receiveResultset _ _)
  | execute into statement params =>
    obtain ⟨rfl, rfl⟩ := Prod.ext_iff.mp (Option.some.inj hp)
    rw [HasSent, obtained_conn]
    by_cases hn : params.length = statement.numParams.toNat
    · simp only [command, if_pos hn] at hm ⊢
      have he := execute_asked h hn rfl (hm _ rfl)
      rw [he]
      exact (linked_asked h _).kept (receives_closedUnderReads.receiveResultset _ _)
    · -- refused by the client, before anything is sent
      simp only [command, if_neg hn, Option.elim_none, List.append_nil]
      rw [execute_refused c.conn hn]
      exact h
  | prepare statement =>
    have ha := @prepare_asked _ _ _ h statement _ rfl (hm _ rfl)
    rw [performed_prepare, ha] at hp
    obtain ⟨rfl, rfl⟩ := Prod.ext_iff.mp (Option.some.inj hp)
    rw [HasSent, preparedOutcome_conn]
    exact ((linked_asked h _).withBuffer _).kept (receives_closedUnderReads.receiveStatement _)
  | close statement =>
    have ha := @close_asked _ _ _ h statement _ rfl (hm _ rfl)
    rw [performed_close, ha] at hp
    cases hp
    exact (linked_asked h _).withBuffer _
  | fetch source call =>
    obtain ⟨rs, hrs, hf⟩ := Option.map_eq_some_iff.mp hp
    cases hf
    simp only [command, Option.elim_none, List.append_nil]
    exact h.kept (kept_of_moved (fetch_moved rs c.conn.channel call))

lemma calls_send {hashes : Hashes} {lexical : LexicalConvert} {calls : List Calls.Call}
    {outcomes : List LifeOutcome} (h : HasSent caps sent c)
    (hm : ∀ call ∈ calls, ∀ m ∈ command caps call, m.length < maxPacketSize)
    (hr : (perform hashes lexical).run c (calls.map .session) = some (outcomes, c')) :
    HasSent caps (sent ++ sentFor caps (exchanges calls outcomes)) c' := by
  induction calls generalizing sent c outcomes with
  | nil =>
    cases hr
    simpa [exchanges, sentFor] using h
  | cons call calls ih =>
    obtain ⟨o, c1, os, hp, hr, rfl⟩ := of_run_cons hr
    obtain ⟨⟨o', c2⟩, hc, ho⟩ := Option.map_eq_some_iff.mp hp
    cases ho
    have h1 := performed_sends h (hm call (by simp)) hc
    have h2 := ih h1 (fun call hmem => hm call (by simp [hmem])) hr
    have hsent : sent ++ sentFor caps (exchanges (call :: calls) (.session o' :: os)) =
        sent ++ (command caps call).elim [] (frame 0) ++ sentFor caps (exchanges calls os) := by
      rw [exchanges, command_eq_message]
      cases asks call <;> simp [sentFor]
    rw [hsent]
    exact h2

end Sends

/-! ### Sessions -/

lemma exchanges_commands {calls : List Calls.Call} {outcomes : List LifeOutcome}
    (h : calls.length = outcomes.length) :
    (exchanges calls outcomes).map Prod.fst = calls.filterMap asks := by
  induction calls generalizing outcomes with
  | nil => rfl
  | cons call calls ih =>
    cases outcomes with
    | nil => cases h
    | cons o os =>
      have ih := ih (Nat.succ.inj h)
      rw [exchanges, List.map_append, ih, List.filterMap_cons]
      cases asks call <;> rfl

lemma mem_exchanges {caps : Capabilities} {calls : List Calls.Call} {outcomes : List LifeOutcome}
    {e : Command × Option ComStmtPrepareOkPacket} (h : e ∈ exchanges calls outcomes) :
    ∃ call ∈ calls, e.1.message caps ∈ command caps call := by
  induction calls generalizing outcomes with
  | nil => exact absurd h List.not_mem_nil
  | cons call calls ih =>
    cases outcomes with
    | nil => exact absurd h List.not_mem_nil
    | cons o os =>
      rcases List.mem_append.mp h with h | h
      · refine ⟨call, by simp, ?_⟩
        rw [command_eq_message]
        cases ha : asks call with
        | none => simp [ha] at h
        | some command =>
          obtain rfl : e = (command, statementOf o) := by simpa [ha] using h
          rfl
      · obtain ⟨call', hmem, hc⟩ := ih h
        exact ⟨call', by simp [hmem], hc⟩

section Session

variable {hashes : Hashes} {lexical : LexicalConvert}

/-- **A server reads what the calls of a session ask for**, in their order and nothing else,
whatever it has answered, whichever way each call is made, and however its answers are taken: in
a session where no write fails, every statement is executed while the server has it, with values
in their ranges, and no command needs a second frame. -/
theorem commands_received {before makings : List Made} {outcomes outcomes' : List LifeOutcome}
    {c c' : Client} (hb : (Makes hashes lexical).Runs newClient before outcomes c)
    (hs : Sends c.conn.channel) {calls : List Calls.Call}
    (hc : makings.map Made.call = calls.map LifeCall.session)
    (hm : ∀ call ∈ calls, ∀ m ∈ command .none call, m.length < maxPacketSize)
    (hr : (Makes hashes lexical).Runs c makings outcomes' c') {statements : Statements}
    (hk : AllKnown statements (exchanges calls outcomes')) :
    ∃ w, c'.conn.channel.stream.sent = c.conn.channel.stream.sent ++ w ∧
      commands statements ((exchanges calls outcomes').map Prod.snd) w =
        some (calls.filterMap asks) := by
  obtain ⟨d, -, hsame⟩ := (makes_given hashes lexical).run sameClient_newClient hb
  obtain ⟨d', hd, hsame'⟩ := (makes_given hashes lexical).run (hsame.trans hsame.symm) hr
  rw [hc] at hd
  have hm' : ∀ call ∈ calls, ∀ m ∈ command c.conn.channel.currentCaps call,
      m.length < maxPacketSize := by
    intro call hmem m hcall
    rw [command_caps _ .none] at hcall
    exact hm call hmem m hcall
  have hsent := calls_send ⟨hs, rfl, rfl⟩ hm' hd
  obtain ⟨caps, hch⟩ := hsame'.conn
  refine ⟨sentFor c.conn.channel.currentCaps (exchanges calls outcomes'), ?_, ?_⟩
  · rw [← hsent.sent, hch]
  · have hlen := run_length hd
    rw [List.length_map] at hlen
    rw [commands_sentFor _ _ hk, exchanges_commands hlen]
    intro e he
    obtain ⟨call, hmem, hcall⟩ := mem_exchanges he
    exact hm' call hmem _ hcall

end Session

/-! ### A statement -/

/-- A statement with a parameter. -/
def oneParam : ComStmtPrepareOkPacket := ⟨1, 0, 1, 0⟩

/-- It is prepared, and the server answers. -/
def preparing : Exchange := ⟨.prepare [0x41], .ok oneParam [encodeColumnDefinition textColumn]⟩

def preparedClient : Client := quietClient (preparing.arrivals .none)

/-- It is executed with a date, and the server does not answer. -/
def dateCalls : List Calls.Call := [.prepare [0x41], .execute 0 oneParam [.date 1]]

def dateMade : List Made :=
  [.sync (.session (.prepare [0x41])), .sync (.session (.execute 0 oneParam [.date 1]))]

lemma preparing_conforming : preparing.Conforming decimalIntegers .none := by
  refine ⟨rfl, ?_, by decide⟩
  intro m hm
  rcases List.mem_cons.mp hm with rfl | hm
  · decide
  · rw [List.mem_singleton.mp hm]
    decide

lemma dateMade_runs : ∃ o c', (Makes zeroHashes decimalIntegers).Runs preparedClient dateMade
    [.session (.statement oneParam), .session o] c' ∧ statementOf (.session o) = none := by
  have hspec : (specified .none).run (.start []) [preparing] =
      some ([.statement oneParam], ⟨frame 0 [0x16, 0x41], fun _ => none, none⟩) := rfl
  obtain ⟨d, hrun, -⟩ := (exchange_refines true decimalIntegers_converts .none).run
    (@inStep_start _ (quietClient []) ⟨rfl, rfl⟩ rfl)
    (fun e he => ⟨List.mem_singleton.mp he ▸ preparing_conforming, Or.inl rfl⟩) hspec
  obtain ⟨o1, c1, os, h1, -, ho⟩ := of_run_cons hrun
  cases ho
  have hprepare : perform zeroHashes decimalIntegers preparedClient (.session (.prepare [0x41])) =
      some (.session (.statement oneParam), c1) := exchange_iff.mp h1
  refine ⟨_, _, .cons hprepare (.cons rfl (.nil _)), ?_⟩
  rcases execute oneParam [.date 1] c1.conn with ⟨_ | _, _⟩ <;> rfl

theorem commands_received_date : ∃ (w : Bytes) (c' : Client), c'.conn.channel.stream.sent =
      preparedClient.conn.channel.stream.sent ++ w ∧
    commands (fun _ => none) [some oneParam, none] w =
      some [.prepare [0x41], .execute 1 [.date 1]] := by
  obtain ⟨o, c', hr, ho⟩ := dateMade_runs
  have hb : (Makes zeroHashes decimalIntegers).Runs newClient
      [.sync (.physicalConnect (quietSession (preparing.arrivals .none)))]
      [.returned (.ok ())] preparedClient := .cons rfl (.nil _)
  have hx : exchanges dateCalls [.session (.statement oneParam), .session o] =
      [(.prepare [0x41], some oneParam), (.execute 1 [.date 1], none)] := by
    rw [← ho]
    rfl
  have hk : AllKnown (fun _ => none)
      (exchanges dateCalls [.session (.statement oneParam), .session o]) := by
    rw [hx]
    exact ⟨trivial, ⟨rfl, by decide⟩, trivial⟩
  obtain ⟨w, hw, hcommands⟩ := commands_received hb ⟨rfl, rfl⟩
    (rfl : dateMade.map Made.call = dateCalls.map .session) (by decide) hr hk
  rw [hx] at hcommands
  exact ⟨w, c', hw, hcommands⟩

end MysqlAsio.CommandServers
