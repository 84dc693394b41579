import Mathlib.Data.Prod.Lex
import MysqlAsio.HandshakeProcessor
import MysqlAsio.Operations

/-!
The handshake: greeting, TLS, and authentication.

The operation is a machine that stops where it reads and writes; between two stops the
processor works. What the server sends decides how often the authentication goes round.
-/

namespace MysqlAsio.Handshake

open MysqlAsio.Errors MysqlAsio.Serialization MysqlAsio.Auth MysqlAsio.Channels
open MysqlAsio.Framing MysqlAsio.Operations MysqlAsio.HandshakeMessages MysqlAsio.Lib.Programs

/-! ### The machine -/

/-- What the operation does next. -/
inductive HandshakePoint
  | greeting
  | sslRequest
  | sslHandshake
  | response
  | authMessage
  | authResponse
  | finished
  deriving DecidableEq, Repr

structure HandshakeOp where
  point : HandshakePoint
  processor : HandshakeProcessor
  authOutcome : AuthResult
  deriving DecidableEq, Repr

def HandshakeOp.start (params : ConnectionParams) : HandshakeOp :=
  ⟨.greeting, .new params, .invalid⟩

/-- `processor.process_handshake` of the shared buffer. -/
def processHandshake (hashes : Hashes) (p : HandshakeProcessor) : Operation HandshakeProcessor :=
  fun c =>
    let (err, p, info) := p.processHandshake hashes c.channel.sharedBuffer c.info
    ((outcome err).map fun _ => p, { c with info })

/-- `processor.process_handshake_server_response` of the shared buffer. -/
def processHandshakeServerResponse (hashes : Hashes) (p : HandshakeProcessor)
    (authOutcome : AuthResult) : Operation (HandshakeProcessor × AuthResult) := fun c =>
  let answer := p.processHandshakeServerResponse hashes authOutcome c.channel.sharedBuffer c.info
  ((outcome answer.err).map fun _ => (answer.processor, answer.outcome),
    { channel := { c.channel with sharedBuffer := answer.buffer }, info := answer.info })

/-- Where the loop of the authentication goes on. -/
def nextPoint : AuthResult → HandshakePoint
  | .complete => .finished
  | .sendMoreData => .authResponse
  | .waitForOk | .invalid => .authMessage

def HandshakeOp.step (hashes : Hashes) (h : HandshakeOp) : Operation HandshakeOp :=
  match h.point with
  | .greeting => do
    readShared
    let processor ← processHandshake hashes h.processor
    pure { h with processor, point := if processor.useSsl then .sslRequest else .response }
  | .sslRequest => do
    serializeShared h.processor.sslRequest h.processor.negotiatedCaps
    writeShared
    pure { h with point := .sslHandshake }
  | .sslHandshake => do
    onChannel Channel.sslHandshake
    pure { h with point := .response }
  | .response => do
    serializeShared h.processor.handshakeResponse h.processor.negotiatedCaps
    writeShared
    pure { h with point := .authMessage, authOutcome := .invalid }
  | .authMessage => do
    readShared
    let (processor, authOutcome) ← processHandshakeServerResponse hashes h.processor h.authOutcome
    pure { point := nextPoint authOutcome, processor, authOutcome }
  | .authResponse => do
    writeShared
    pure { h with point := .authMessage }
  | .finished => pure h

/-! ### What a step does -/

/-- The steps that succeed. -/
inductive Transition (hashes : Hashes) : HandshakeOp → Conn → HandshakeOp → Conn → Prop
  | greeting {p p' : HandshakeProcessor} {o : AuthResult} {c : Conn} {m : Bytes} {ch : Channel}
      {err : ErrorCode} {info : ErrorInfo} (hr : c.channel.read = (m, .success, ch))
      (hp : p.processHandshake hashes m c.info = (err, p', info)) (he : err.failed = false) :
      Transition hashes ⟨.greeting, p, o⟩ c
        ⟨if p'.useSsl then .sslRequest else .response, p', o⟩ ⟨{ ch with sharedBuffer := m }, info⟩
  | sslRequest {p : HandshakeProcessor} {o : AuthResult} {c : Conn} {m : Bytes} {ch : Channel}
      (hm : m = serializeMessage p.sslRequest p.negotiatedCaps c.channel.sharedBuffer)
      (hw : ({ c.channel with sharedBuffer := m } : Channel).write m = (.success, ch)) :
      Transition hashes ⟨.sslRequest, p, o⟩ c ⟨.sslHandshake, p, o⟩ { c with channel := ch }
  | sslHandshake {p : HandshakeProcessor} {o : AuthResult} {c : Conn} {ch : Channel}
      {err : ErrorCode} (hs : c.channel.sslHandshake = (err, ch)) (he : err.failed = false) :
      Transition hashes ⟨.sslHandshake, p, o⟩ c ⟨.response, p, o⟩ { c with channel := ch }
  | response {p : HandshakeProcessor} {o : AuthResult} {c : Conn} {m : Bytes} {ch : Channel}
      (hm : m = serializeMessage p.handshakeResponse p.negotiatedCaps c.channel.sharedBuffer)
      (hw : ({ c.channel with sharedBuffer := m } : Channel).write m = (.success, ch)) :
      Transition hashes ⟨.response, p, o⟩ c ⟨.authMessage, p, .invalid⟩ { c with channel := ch }
  | authMessage {p : HandshakeProcessor} {o : AuthResult} {c : Conn} {m : Bytes} {ch : Channel}
      {answer : HandshakeProcessor.Answer} (hr : c.channel.read = (m, .success, ch))
      (hp : p.processHandshakeServerResponse hashes o m c.info = answer)
      (he : answer.err.failed = false) :
      Transition hashes ⟨.authMessage, p, o⟩ c
        ⟨nextPoint answer.outcome, answer.processor, answer.outcome⟩
        ⟨{ ch with sharedBuffer := answer.buffer }, answer.info⟩
  | authResponse {p : HandshakeProcessor} {o : AuthResult} {c : Conn} {ch : Channel}
      (hw : c.channel.write c.channel.sharedBuffer = (.success, ch)) :
      Transition hashes ⟨.authResponse, p, o⟩ c ⟨.authMessage, p, o⟩ { c with channel := ch }

variable {hashes : Hashes}

lemma of_serialize_write {α : Type} [Serializable α] {x : α} {caps : Capabilities}
    {next h' : HandshakeOp} {c c' : Conn}
    (h : (do serializeShared x caps; writeShared; pure next : Operation HandshakeOp) c =
      (.ok h', c')) :
    ∃ m ch, m = serializeMessage x caps c.channel.sharedBuffer ∧
      ({ c.channel with sharedBuffer := m } : Channel).write m = (.success, ch) ∧
      h' = next ∧ c' = { c with channel := ch } := by
  obtain ⟨_, c1, h1, h⟩ := of_then_ok h
  cases h1
  obtain ⟨_, c2, h2, h⟩ := of_then_ok h
  obtain ⟨ch, hw, rfl⟩ := of_writeShared_ok h2
  cases h
  exact ⟨_, ch, rfl, hw, rfl, rfl⟩

lemma serialize_write {α : Type} [Serializable α] {x : α} {caps : Capabilities}
    {next : HandshakeOp} {c : Conn} {ch : Channel}
    (hw : Channel.write
      { c.channel with sharedBuffer := serializeMessage x caps c.channel.sharedBuffer }
      (serializeMessage x caps c.channel.sharedBuffer) = (.success, ch)) :
    (do serializeShared x caps; writeShared; pure next : Operation HandshakeOp) c =
      (.ok next, { c with channel := ch }) := by
  rw [serializeShared, then_ok (modifyChannel_apply _), then_ok (writeShared_ok hw)]
  rfl

lemma step_greeting {p p' : HandshakeProcessor} {o : AuthResult} {c : Conn} {m : Bytes}
    {ch : Channel} {err : ErrorCode} {info : ErrorInfo} (hr : c.channel.read = (m, .success, ch))
    (hp : p.processHandshake hashes m c.info = (err, p', info)) :
    HandshakeOp.step hashes ⟨.greeting, p, o⟩ c =
      ((outcome err).map fun _ => ⟨if p'.useSsl then .sslRequest else .response, p', o⟩,
        ⟨{ ch with sharedBuffer := m }, info⟩) := by
  have h2 : processHandshake hashes p ⟨{ ch with sharedBuffer := m }, c.info⟩ =
      ((outcome err).map fun _ => p', ⟨{ ch with sharedBuffer := m }, info⟩) := by
    simp only [processHandshake, hp]
  rw [HandshakeOp.step]
  simp only []
  rw [then_ok (readShared_ok hr)]
  cases he : err.failed with
  | true =>
    rw [outcome_failed he] at h2 ⊢
    exact then_error h2
  | false =>
    rw [outcome_ok he] at h2 ⊢
    exact then_ok h2

lemma step_authMessage {p : HandshakeProcessor} {o : AuthResult} {c : Conn} {m : Bytes}
    {ch : Channel} {answer : HandshakeProcessor.Answer} (hr : c.channel.read = (m, .success, ch))
    (hp : p.processHandshakeServerResponse hashes o m c.info = answer) :
    HandshakeOp.step hashes ⟨.authMessage, p, o⟩ c =
      ((outcome answer.err).map fun _ =>
        ⟨nextPoint answer.outcome, answer.processor, answer.outcome⟩,
        ⟨{ ch with sharedBuffer := answer.buffer }, answer.info⟩) := by
  have h2 : processHandshakeServerResponse hashes p o ⟨{ ch with sharedBuffer := m }, c.info⟩ =
      ((outcome answer.err).map fun _ => (answer.processor, answer.outcome),
        ⟨{ ch with sharedBuffer := answer.buffer }, answer.info⟩) := by
    simp only [processHandshakeServerResponse, hp]
  rw [HandshakeOp.step]
  simp only []
  rw [then_ok (readShared_ok hr)]
  cases he : answer.err.failed with
  | true =>
    rw [outcome_failed he] at h2 ⊢
    exact then_error h2
  | false =>
    rw [outcome_ok he] at h2 ⊢
    exact then_ok h2

theorem step_transition {h h' : HandshakeOp} {c c' : Conn} (hne : h.point ≠ .finished)
    (hs : h.step hashes c = (.ok h', c')) : Transition hashes h c h' c' := by
  obtain ⟨point, p, o⟩ := h
  cases point with
  | greeting =>
    obtain ⟨_, c1, h1, hs⟩ := of_then_ok hs
    obtain ⟨m, ch, hr, rfl⟩ := of_readShared_ok h1
    obtain ⟨p', c2, h2, hs⟩ := of_then_ok hs
    cases hs
    rcases hp : p.processHandshake hashes m c.info with ⟨err, p1, info⟩
    obtain ⟨he, rfl, rfl⟩ := of_map_outcome (by simpa only [processHandshake, hp] using h2)
    exact .greeting hr hp he
  | sslRequest =>
    obtain ⟨m, ch, hm, hw, rfl, rfl⟩ := of_serialize_write hs
    exact .sslRequest hm hw
  | sslHandshake =>
    obtain ⟨_, c1, h1, hs⟩ := of_then_ok hs
    cases hs
    rcases hp : c.channel.sslHandshake with ⟨err, ch⟩
    simp only [onChannel, hp] at h1
    obtain ⟨he, rfl⟩ := of_outcome_ok h1
    exact .sslHandshake hp he
  | response =>
    obtain ⟨m, ch, hm, hw, rfl, rfl⟩ := of_serialize_write hs
    exact .response hm hw
  | authMessage =>
    obtain ⟨_, c1, h1, hs⟩ := of_then_ok hs
    obtain ⟨m, ch, hr, rfl⟩ := of_readShared_ok h1
    obtain ⟨⟨p', o'⟩, c2, h2, hs⟩ := of_then_ok hs
    cases hs
    rcases hp : p.processHandshakeServerResponse hashes o m c.info with ⟨err, p1, o1, buffer, info⟩
    obtain ⟨he, heq, rfl⟩ :=
      of_map_outcome (by simpa only [processHandshakeServerResponse, hp] using h2)
    cases heq
    exact .authMessage hr hp he
  | authResponse =>
    obtain ⟨_, c1, h1, hs⟩ := of_then_ok hs
    obtain ⟨ch, hw, rfl⟩ := of_writeShared_ok h1
    cases hs
    exact .authResponse hw
  | finished => exact absurd rfl hne

lemma Transition.point_ne {h h' : HandshakeOp} {c c' : Conn} (ht : Transition hashes h c h' c') :
    h.point ≠ .finished := by
  cases ht <;> simp

theorem Transition.step {h h' : HandshakeOp} {c c' : Conn} (ht : Transition hashes h c h' c') :
    h.step hashes c = (.ok h', c') := by
  cases ht with
  | greeting hr hp he =>
    rw [step_greeting hr hp, outcome_ok he]
    rfl
  | sslRequest hm hw =>
    subst hm
    exact serialize_write hw
  | @sslHandshake p o c ch err hs he =>
    have h1 : onChannel Channel.sslHandshake c = (.ok (), { c with channel := ch }) := by
      simp only [onChannel, hs, outcome_ok he]
    exact then_ok h1
  | response hm hw =>
    subst hm
    exact serialize_write hw
  | authMessage hr hp he =>
    rw [step_authMessage hr hp, outcome_ok he]
    rfl
  | authResponse hw => exact then_ok (writeShared_ok hw)

/-! ### The run -/

def HandshakePoint.rank : HandshakePoint → ℕ
  | .greeting => 5
  | .sslRequest => 4
  | .sslHandshake => 3
  | .response => 2
  | .authMessage | .authResponse => 1
  | .finished => 0

/-- How far a handshake is from its end: every turn of the authentication takes a message. -/
def HandshakeOp.distance (h : HandshakeOp) (c : Conn) : ℕ ×ₗ ℕ :=
  toLex (h.point.rank,
    2 * c.channel.pending.length + if h.point = .authResponse then 1 else 0)

lemma nextPoint_cases (o : AuthResult) :
    nextPoint o = .finished ∨ nextPoint o = .authMessage ∨ nextPoint o = .authResponse := by
  cases o <;> simp [nextPoint]

/-- No step leads back to the greeting, and one leads to an answer only for more data. -/
lemma Transition.point {h h' : HandshakeOp} {c c' : Conn} (ht : Transition hashes h c h' c') :
    h'.point ≠ .greeting ∧ (h'.point = .authResponse → h'.authOutcome = .sendMoreData) := by
  cases ht with
  | @greeting p p' o c m ch err info hr hp he => cases hs : p'.useSsl <;> simp
  | @authMessage p o c m ch answer hr hp he => cases ho : answer.outcome <;> simp [nextPoint]
  | sslRequest | sslHandshake | response | authResponse => simp

lemma Transition.distance_lt {h h' : HandshakeOp} {c c' : Conn}
    (ht : Transition hashes h c h' c') : h'.distance c' < h.distance c := by
  rw [HandshakeOp.distance, HandshakeOp.distance, Prod.Lex.toLex_lt_toLex]
  cases ht with
  | @greeting p p' o c m ch err info hr hp he =>
    left
    cases p'.useSsl <;> simp [HandshakePoint.rank]
  | sslRequest hm hw => exact Or.inl (by simp [HandshakePoint.rank])
  | sslHandshake hs he => exact Or.inl (by simp [HandshakePoint.rank])
  | response hm hw => exact Or.inl (by simp [HandshakePoint.rank])
  | @authMessage p o c m ch answer hr hp he =>
    have hlt := read_pending_lt hr
    rcases nextPoint_cases answer.outcome with hn | hn | hn <;> rw [hn]
    · exact Or.inl (by simp [HandshakePoint.rank])
    · refine Or.inr ⟨rfl, ?_⟩
      change 2 * ch.pending.length + 0 < 2 * c.channel.pending.length + 0
      omega
    · refine Or.inr ⟨rfl, ?_⟩
      change 2 * ch.pending.length + 1 < 2 * c.channel.pending.length + 0
      omega
  | @authResponse p o c ch hw =>
    refine Or.inr ⟨rfl, ?_⟩
    change 2 * ch.pending.length + 0 < 2 * c.channel.pending.length + 1
    rw [write_pending hw]
    omega

/-- Step until the handshake is finished. -/
def HandshakeOp.run (hashes : Hashes) (h : HandshakeOp) (c : Conn) :
    Except ErrorCode HandshakeOp × Conn :=
  if _hne : h.point = .finished then (.ok h, c)
  else
    match _hs : h.step hashes c with
    | (.error err, c') => (.error err, c')
    | (.ok h', c') => HandshakeOp.run hashes h' c'
termination_by h.distance c
decreasing_by exact (step_transition _hne _hs).distance_lt

lemma run_finished {h : HandshakeOp} (hf : h.point = .finished) (c : Conn) :
    h.run hashes c = (.ok h, c) := by
  rw [HandshakeOp.run, dif_pos hf]

lemma run_step {h h' : HandshakeOp} {c c' : Conn} (hne : h.point ≠ .finished)
    (hs : h.step hashes c = (.ok h', c')) : h.run hashes c = h'.run hashes c' := by
  rw [HandshakeOp.run, dif_neg hne]
  split
  · next h1 => rw [hs] at h1; cases h1
  · next h1 => rw [hs] at h1; cases h1; rfl

lemma run_error {h : HandshakeOp} {c c' : Conn} {err : ErrorCode} (hne : h.point ≠ .finished)
    (hs : h.step hashes c = (.error err, c')) : h.run hashes c = (.error err, c') := by
  rw [HandshakeOp.run, dif_neg hne]
  split
  · next h1 => rw [hs] at h1; cases h1; rfl
  · next h1 => rw [hs] at h1; cases h1

/-- Where steps that succeed lead to. -/
inductive Runs (hashes : Hashes) (h : HandshakeOp) (c : Conn) : HandshakeOp → Conn → Prop
  | start : Runs hashes h c h c
  | step {h1 h2 : HandshakeOp} {c1 c2 : Conn} (hr : Runs hashes h c h1 c1)
      (ht : Transition hashes h1 c1 h2 c2) : Runs hashes h c h2 c2

lemma Runs.head {h h1 h2 : HandshakeOp} {c c1 c2 : Conn} (ht : Transition hashes h c h1 c1)
    (hr : Runs hashes h1 c1 h2 c2) : Runs hashes h c h2 c2 := by
  induction hr with
  | start => exact .step .start ht
  | step _ ht' ih => exact .step ih ht'

lemma Runs.run {h h' : HandshakeOp} {c c' : Conn} (hr : Runs hashes h c h' c') :
    h.run hashes c = h'.run hashes c' := by
  induction hr with
  | start => rfl
  | step hr ht ih => rw [ih, run_step ht.point_ne ht.step]

lemma Transition.deterministic {h h1 h2 : HandshakeOp} {c c1 c2 : Conn}
    (h1' : Transition hashes h c h1 c1) (h2' : Transition hashes h c h2 c2) :
    h1 = h2 ∧ c1 = c2 := by
  have heq := h1'.step.symm.trans h2'.step
  cases heq
  exact ⟨rfl, rfl⟩

lemma Runs.cases_head {h h' : HandshakeOp} {c c' : Conn} (hr : Runs hashes h c h' c') :
    (h = h' ∧ c = c') ∨ ∃ h1 c1, Transition hashes h c h1 c1 ∧ Runs hashes h1 c1 h' c' := by
  induction hr with
  | start => exact Or.inl ⟨rfl, rfl⟩
  | step _ ht ih =>
    rcases ih with ⟨rfl, rfl⟩ | ⟨h1, c1, ht', hr'⟩
    · exact Or.inr ⟨_, _, ht, .start⟩
    · exact Or.inr ⟨h1, c1, ht', hr'.step ht⟩

/-- Of two states a run reaches, one is reached from the other. -/
lemma Runs.linear {h h1 h2 : HandshakeOp} {c c1 c2 : Conn} (hr1 : Runs hashes h c h1 c1)
    (hr2 : Runs hashes h c h2 c2) : Runs hashes h1 c1 h2 c2 ∨ Runs hashes h2 c2 h1 c1 := by
  induction hr1 with
  | start => exact Or.inl hr2
  | step _ ht ih =>
    rcases ih with hr | hr
    · rcases hr.cases_head with ⟨rfl, rfl⟩ | ⟨h', c', ht', hr'⟩
      · exact Or.inr (.step .start ht)
      · obtain ⟨rfl, rfl⟩ := ht.deterministic ht'
        exact Or.inl hr'
    · exact Or.inr (hr.step ht)

lemma Runs.last_unique {h h1 h2 : HandshakeOp} {c c1 c2 : Conn} (hr1 : Runs hashes h c h1 c1)
    (hr2 : Runs hashes h c h2 c2) (hs1 : ∀ h' c', ¬ Transition hashes h1 c1 h' c')
    (hs2 : ∀ h' c', ¬ Transition hashes h2 c2 h' c') : h1 = h2 ∧ c1 = c2 := by
  rcases hr1.linear hr2 with hr | hr
  · rcases hr.cases_head with h | ⟨h', c', ht, -⟩
    · exact h
    · exact absurd ht (hs1 h' c')
  · rcases hr.cases_head with h | ⟨h', c', ht, -⟩
    · exact ⟨h.1.symm, h.2.symm⟩
    · exact absurd ht (hs2 h' c')

/-- A run goes through its steps, and ends in one that finishes or one that fails. -/
theorem run_cases (h : HandshakeOp) (c : Conn) :
    ∃ h' c', Runs hashes h c h' c' ∧
      ((h'.point = .finished ∧ h.run hashes c = (.ok h', c')) ∨
        h'.point ≠ .finished ∧ ∃ err c'', h'.step hashes c' = (.error err, c'') ∧
          h.run hashes c = (.error err, c'')) := by
  induction hd : h.distance c using WellFoundedLT.induction generalizing h c with
  | _ d ih =>
    subst hd
    by_cases hf : h.point = .finished
    · exact ⟨h, c, .start, Or.inl ⟨hf, run_finished hf c⟩⟩
    · rcases hs : h.step hashes c with ⟨err | h1, c1⟩
      · exact ⟨h, c, .start, Or.inr ⟨hf, err, c1, hs, run_error hf hs⟩⟩
      · have ht := step_transition hf hs
        obtain ⟨h', c', hr, hend⟩ := ih _ ht.distance_lt h1 c1 rfl
        rw [run_step hf hs]
        exact ⟨h', c', hr.head ht, hend⟩

def handshake (hashes : Hashes) (params : ConnectionParams) : Operation Unit := do
  let h ← (HandshakeOp.start params).run hashes
  modifyChannel fun ch => { ch with currentCaps := h.processor.negotiatedCaps }

lemma handshake_read_error {params : ConnectionParams} {c : Conn} {m : Bytes} {ch : Channel}
    {err : ErrorCode} (he : err.failed = true) (hr : c.channel.read = (m, err, ch)) :
    handshake hashes params c =
      (.error err, { c with channel := { ch with sharedBuffer := m } }) := by
  have hs : (HandshakeOp.start params).step hashes c = _ := then_error (readShared_error he hr)
  exact then_error (run_error (fun h => nomatch h) hs)

lemma handshake_greeting_error {params : ConnectionParams} {p : HandshakeProcessor} {c : Conn}
    {m : Bytes} {ch : Channel} {err : ErrorCode} {info : ErrorInfo}
    (hr : c.channel.read = (m, .success, ch))
    (hp : (HandshakeProcessor.new params).processHandshake hashes m c.info = (err, p, info))
    (he : err.failed = true) :
    handshake hashes params c = (.error err, ⟨{ ch with sharedBuffer := m }, info⟩) := by
  have hs : (HandshakeOp.start params).step hashes c = _ := step_greeting hr hp
  rw [outcome_failed he] at hs
  exact then_error (run_error (fun h => nomatch h) hs)

end MysqlAsio.Handshake
