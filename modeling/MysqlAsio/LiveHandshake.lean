import Mathlib.Logic.Relation
import MysqlAsio.Handshake

/-!
The handshake as one of two parties: the client, and a server that answers what it hears.

What the two come to is what the handshake comes to where all that the server sent is going to
arrive.
-/

namespace MysqlAsio.LiveHandshake

open MysqlAsio.Errors MysqlAsio.Serialization MysqlAsio.Auth MysqlAsio.Streams
open MysqlAsio.Channels MysqlAsio.Framing MysqlAsio.Operations MysqlAsio.Handshake
open MysqlAsio.Lib.Programs Relation

/-! ### Two parties -/

/-- What a server answers to a message. -/
abbrev Responder (σ : Type) := σ → Bytes → List Bytes × σ

/-- The message that is written at a step. -/
def said (h : HandshakeOp) (c : Conn) : Option Bytes :=
  match h.point with
  | .sslRequest => some (serializeMessage h.processor.sslRequest h.processor.negotiatedCaps
      c.channel.sharedBuffer)
  | .response => some (serializeMessage h.processor.handshakeResponse h.processor.negotiatedCaps
      c.channel.sharedBuffer)
  | .authResponse => some c.channel.sharedBuffer
  | .greeting | .sslHandshake | .authMessage | .finished => none

/-- The client, the server, and all that the server has sent in each layer. -/
structure System (σ : Type) where
  op : HandshakeOp
  conn : Conn
  server : σ
  plain : List Arrival
  tls : List Arrival

/-- The frames of some messages, numbered from the next number of a channel on, if the layer is
the one it uses. -/
def answerIn (ch : Channel) (layer : Layer) (ms : List Bytes) : List Arrival :=
  if ch.layer = layer then (messageFrames ch.sequenceNumber ms).map .byte else []

namespace System

variable {σ : Type}

/-- The server sends messages, in the layer in use. -/
def hear (sys : System σ) (ms : List Bytes) : System σ :=
  let ch := sys.conn.channel
  { sys with
    conn.channel.stream.plain := ch.stream.plain ++ answerIn ch .plain ms
    conn.channel.stream.tls := ch.stream.tls ++ answerIn ch .tls ms
    plain := sys.plain ++ answerIn ch .plain ms
    tls := sys.tls ++ answerIn ch .tls ms }

/-- The session in which all that arrives is what was sent, and then this. -/
def sessionThen (sys : System σ) (plain tls : List Arrival) : Session :=
  ⟨none, sys.plain ++ plain, [], [], [.ok (sys.tls ++ tls)], .success, 0⟩

def session (sys : System σ) : Session := ⟨none, sys.plain, [], [], [.ok sys.tls], .success, 0⟩

/-- The server has sent its greeting. -/
def start (params : ConnectionParams) (greeting : Bytes) (server : σ) : System σ :=
  let sent := (frames 0 greeting).map .byte
  ⟨.start params, .fresh ⟨none, sent, [], [], [.ok []], .success, 0⟩, server, sent, []⟩

/-- A step of the client, and the answer of the server to what it writes. -/
inductive Step (hashes : Hashes) (server : Responder σ) : System σ → System σ → Prop
  | silent {sys : System σ} {h : HandshakeOp} {c : Conn} (hs : said sys.op sys.conn = none)
      (ht : Transition hashes sys.op sys.conn h c) :
      Step hashes server sys { sys with op := h, conn := c }
  | answered {sys : System σ} {h : HandshakeOp} {c : Conn} {m : Bytes}
      (hs : said sys.op sys.conn = some m) (ht : Transition hashes sys.op sys.conn h c) :
      Step hashes server sys
        (hear { sys with op := h, conn := c, server := (server sys.server m).2 }
          (server sys.server m).1)

/-- What a handshake has come to where it does not go on. -/
inductive Ended (hashes : Hashes) (sys : System σ) : Except ErrorCode Unit → Prop
  | finished (h : sys.op.point = .finished) : Ended hashes sys (.ok ())
  | failed {err : ErrorCode} {c : Conn} (hp : sys.op.point ≠ .finished)
      (h : sys.op.step hashes sys.conn = (.error err, c)) : Ended hashes sys (.error err)

/-- From their start, the two have come to where they do not go on. -/
def Converse (hashes : Hashes) (server : Responder σ) (start sys : System σ)
    (r : Except ErrorCode Unit) : Prop :=
  ReflTransGen (Step hashes server) start sys ∧ Ended hashes sys r

/-! ### One conversation -/

variable {hashes : Hashes} {server : Responder σ}

lemma step_unique : Relator.RightUnique (Step hashes server) := by
  rintro sys s1 s2 (⟨hs, ht⟩ | ⟨hs, ht⟩) (⟨hs', ht'⟩ | ⟨hs', ht'⟩)
  · obtain ⟨rfl, rfl⟩ := ht.deterministic ht'
    rfl
  · cases hs.symm.trans hs'
  · cases hs.symm.trans hs'
  · cases hs.symm.trans hs'
    obtain ⟨rfl, rfl⟩ := ht.deterministic ht'
    rfl

lemma Step.transition {sys sys' : System σ} (h : Step hashes server sys sys') :
    ∃ h' c', Transition hashes sys.op sys.conn h' c' := by
  cases h with
  | silent _ ht => exact ⟨_, _, ht⟩
  | answered _ ht => exact ⟨_, _, ht⟩

lemma Ended.no_step {sys sys' : System σ} {r : Except ErrorCode Unit} (h : Ended hashes sys r) :
    ¬ Step hashes server sys sys' := by
  intro hs
  obtain ⟨h', c', ht⟩ := hs.transition
  cases h with
  | finished hf => exact ht.point_ne hf
  | failed _ he => cases he.symm.trans ht.step

lemma Ended.unique {sys : System σ} {r r' : Except ErrorCode Unit} (h : Ended hashes sys r)
    (h' : Ended hashes sys r') : r = r' := by
  cases h with
  | finished hf =>
    cases h' with
    | finished => rfl
    | failed hp _ => exact absurd hf hp
  | failed hp he =>
    cases h' with
    | finished hf => exact absurd hf hp
    | failed _ he' =>
      rw [he] at he'
      cases he'
      rfl

/-- Two parties come to one end. -/
lemma Converse.unique {start sys sys' : System σ} {r r' : Except ErrorCode Unit}
    (h : Converse hashes server start sys r) (h' : Converse hashes server start sys' r') :
    sys = sys' ∧ r = r' := by
  have hsys : sys = sys' := by
    rcases ReflTransGen.total_of_right_unique step_unique h.1 h'.1 with ht | ht
    · rcases ReflTransGen.cases_head ht with heq | ⟨s, hs, -⟩
      · exact heq
      · exact absurd hs h.2.no_step
    · rcases ReflTransGen.cases_head ht with heq | ⟨s, hs, -⟩
      · exact heq.symm
      · exact absurd hs h'.2.no_step
  subst hsys
  exact ⟨rfl, h.2.unique h'.2⟩

end System

/-! ### What is still to arrive -/

/-- The same stream where more is going to arrive, in each layer. -/
def Stream.followed (tlsActive : Bool) (plain tls : List Arrival) (s : Stream) : Stream :=
  { s with
    plain := s.plain ++ plain
    tls := if tlsActive then s.tls ++ tls else s.tls
    tlsOutcomes := s.tlsOutcomes.map (Except.map (· ++ tls)) }

def followedChannel (plain tls : List Arrival) (ch : Channel) : Channel :=
  { ch with stream := Stream.followed ch.sslActive plain tls ch.stream }

def followed (plain tls : List Arrival) (c : Conn) : Conn :=
  { c with channel := followedChannel plain tls c.channel }

section Followed

variable (plain tls : List Arrival) {ch ch' : Channel} {c c' : Conn} {m : Bytes}

lemma sends_followed (h : Sends ch) : Sends (followedChannel plain tls ch) :=
  ⟨h.isOpen, h.writeResults⟩

lemma read_followed (h : ch.read = (m, .success, ch')) :
    (followedChannel plain tls ch).read = (m, .success, followedChannel plain tls ch') := by
  rcases read_cases ch with ⟨m', rest, hp, hr⟩ | ⟨m', err, ch1, he, -, hr⟩
  · cases h.symm.trans hr
    obtain ⟨stream, sslActive, seq, b, caps⟩ := ch
    cases sslActive with
    | false =>
      have hp' : (followedChannel plain tls ⟨stream, false, seq, b, caps⟩).pending =
          (frames seq m).map .byte ++ (rest ++ plain) := by
        rw [← List.append_assoc, ← hp]
        rfl
      exact read_frames hp'
    | true =>
      have hp' : (followedChannel plain tls ⟨stream, true, seq, b, caps⟩).pending =
          (frames seq m).map .byte ++ (rest ++ tls) := by
        rw [← List.append_assoc, ← hp]
        rfl
      exact read_frames hp'
  · cases hr.symm.trans h
    cases he

lemma write_followed (hs : Sends ch) (h : ch.write m = (.success, ch')) :
    (followedChannel plain tls ch).write m = (.success, followedChannel plain tls ch') := by
  rw [write_written hs] at h
  rw [write_written (sends_followed plain tls hs)]
  cases h
  rfl

lemma sslHandshake_followed {err : ErrorCode} (he : err.failed = false)
    (h : ch.sslHandshake = (err, ch')) :
    (followedChannel plain tls ch).sslHandshake = (err, followedChannel plain tls ch') := by
  obtain ⟨s, sslActive, seq, b, caps⟩ := ch
  obtain ⟨isOpen, p, t, results, outcomes, closeResult, buffered, log, reads⟩ := s
  cases isOpen with
  | false =>
    cases h
    cases he
  | true =>
    rcases outcomes with _ | ⟨e | l, outcomes⟩
    · cases h
      cases he
    · cases h
      cases e.2.symm.trans he
    · cases h
      rfl

/-- A step does not depend on what arrives behind what it reads. -/
lemma transition_followed {hashes : Hashes} {h h' : HandshakeOp} (hs : Sends c.channel)
    (ht : Transition hashes h c h' c') :
    Transition hashes h (followed plain tls c) h' (followed plain tls c') := by
  cases ht with
  | greeting hr hp he =>
    exact .greeting (c := followed plain tls c) (read_followed plain tls hr) hp he
  | @sslRequest p o c m ch hm hw =>
    have hs' : Sends { c.channel with sharedBuffer := m } := ⟨hs.isOpen, hs.writeResults⟩
    exact .sslRequest hm (write_followed plain tls hs' hw)
  | sslHandshake ht he => exact .sslHandshake (sslHandshake_followed plain tls he ht) he
  | @response p o c m ch hm hw =>
    have hs' : Sends { c.channel with sharedBuffer := m } := ⟨hs.isOpen, hs.writeResults⟩
    exact .response hm (write_followed plain tls hs' hw)
  | authMessage hr hp he =>
    exact .authMessage (c := followed plain tls c) (read_followed plain tls hr) hp he
  | authResponse hw => exact .authResponse (write_followed plain tls hs hw)

lemma followed_nil (c : Conn) : followed [] [] c = c := by
  obtain ⟨⟨s, sslActive, seq, b, caps⟩, info⟩ := c
  have ho : s.tlsOutcomes.map (Except.map (· ++ [])) = s.tlsOutcomes := by
    refine List.map_id'' (fun o => ?_) _
    cases o with
    | error e => rfl
    | ok l => exact congrArg Except.ok (List.append_nil l)
  have hs : Stream.followed sslActive [] [] s = s := by
    rw [Stream.followed, ho, List.append_nil, List.append_nil, ite_self]
  simp only [followed, followedChannel, hs]

end Followed

/-! ### The same session -/

/-- The stream sends what it is given, and one TLS handshake can be made. -/
structure Tracked (c : Conn) : Prop where
  sends : Sends c.channel
  tlsOutcomes : c.channel.stream.tlsOutcomes = if c.channel.sslActive then [] else [.ok []]

lemma Tracked.transition {hashes : Hashes} {h h' : HandshakeOp} {c c' : Conn} (hc : Tracked c)
    (ht : Transition hashes h c h' c') : Tracked c' := by
  obtain ⟨hs, ho⟩ := hc
  have hread {ch : Channel} {m b : Bytes} (hr : c.channel.read = (m, .success, ch)) :
      Tracked ⟨{ ch with sharedBuffer := b }, c.info⟩ := by
    obtain ⟨seq, n, rest, -, hm⟩ := read_moved c.channel
    rw [hr] at hm
    obtain rfl : ch = c.channel.moveTo seq n rest := hm
    refine ⟨⟨?_, ?_⟩, ?_⟩
    · exact (Stream.advance_isOpen ..).trans hs.isOpen
    · exact (Stream.advance_writeResults ..).trans hs.writeResults
    · refine Eq.trans ?_ ho
      simp only [Channel.moveTo, Stream.advance]
      cases c.channel.layer <;> rfl
  have hwrite {ch : Channel} {m b : Bytes}
      (hw : ({ c.channel with sharedBuffer := b } : Channel).write m = (.success, ch)) :
      Tracked { c with channel := ch } := by
    have hs' : Sends { c.channel with sharedBuffer := b } := ⟨hs.isOpen, hs.writeResults⟩
    rw [write_written hs'] at hw
    cases hw
    exact ⟨⟨hs.isOpen, hs.writeResults⟩, ho⟩
  cases ht with
  | greeting hr hp he => exact ⟨(hread hr).sends, (hread hr).tlsOutcomes⟩
  | sslRequest hm hw => exact hwrite hw
  | @sslHandshake p o c ch err ht he =>
    obtain ⟨⟨s, sslActive, seq, b, caps⟩, info⟩ := c
    obtain ⟨isOpen, p, t, results, outcomes, closeResult, buffered, log, reads⟩ := s
    obtain rfl : isOpen = true := hs.isOpen
    cases sslActive with
    | true =>
      -- only one TLS handshake is provided for
      obtain rfl : outcomes = [] := ho
      cases ht
      cases he
    | false =>
      obtain rfl : outcomes = [.ok []] := ho
      cases ht
      exact ⟨⟨rfl, hs.writeResults⟩, rfl⟩
  | response hm hw => exact hwrite hw
  | authMessage hr hp he => exact ⟨(hread hr).sends, (hread hr).tlsOutcomes⟩
  | @authResponse p o c ch hw => exact hwrite (b := c.channel.sharedBuffer) hw

section Adequacy

variable {σ : Type} {hashes : Hashes} {server : Responder σ} {params : ConnectionParams}

namespace System

lemma hear_tracked {sys : System σ} (h : Tracked sys.conn) (ms : List Bytes) :
    Tracked (sys.hear ms).conn := ⟨⟨h.sends.isOpen, h.sends.writeResults⟩, h.tlsOutcomes⟩

lemma hear_followed {sys : System σ} (h : Tracked sys.conn) (ms : List Bytes)
    (plain tls : List Arrival) : ∃ plain' tls',
      (sys.hear ms).sessionThen plain tls = sys.sessionThen plain' tls' ∧
      followed plain tls (sys.hear ms).conn = followed plain' tls' sys.conn := by
  let ch := sys.conn.channel
  refine ⟨answerIn ch .plain ms ++ plain, answerIn ch .tls ms ++ tls, ?_, ?_⟩
  · rw [sessionThen, sessionThen, ← List.append_assoc, ← List.append_assoc]
    rfl
  · obtain ⟨op, ⟨⟨s, sslActive, seq, b, caps⟩, info⟩, state, p, t⟩ := sys
    cases sslActive with
    -- the messages are in the layer in use, and the other one is as it was
    | false =>
      have hnil : answerIn ch .tls ms = [] := rfl
      rw [hnil, List.nil_append, followed, followed, followedChannel, followedChannel,
        Stream.followed, Stream.followed, ← List.append_assoc]
      simp only [hear, Bool.false_eq_true, if_false]
      have hnil' : s.tls ++ answerIn ⟨s, false, seq, b, caps⟩ .tls ms = s.tls := List.append_nil _
      rw [hnil']
    | true =>
      have ho : s.tlsOutcomes = [] := h.tlsOutcomes
      rw [followed, followed, followedChannel, followedChannel, Stream.followed, Stream.followed,
        ← List.append_assoc, ← List.append_assoc]
      simp only [hear, ho, if_true, List.map_nil]
      rfl

/-- The client does what it does where all that the server sends is still to arrive. -/
lemma runs_followed {greeting : Bytes} {state : σ} {sys : System σ}
    (h : ReflTransGen (Step hashes server) (start params greeting state) sys) :
    Tracked sys.conn ∧ ∀ plain tls, Runs hashes (.start params)
      (.fresh (sys.sessionThen plain tls)) sys.op (followed plain tls sys.conn) := by
  induction h with
  | refl => exact ⟨⟨⟨rfl, rfl⟩, rfl⟩, fun plain tls => .start⟩
  | @tail sys _ _ hs ih =>
    obtain ⟨htracked, hruns⟩ := ih
    cases hs with
    | silent _ ht =>
      exact ⟨htracked.transition ht, fun plain tls =>
        (hruns plain tls).step (transition_followed plain tls htracked.sends ht)⟩
    | @answered h c m _ ht =>
      have htracked' := htracked.transition ht
      refine ⟨hear_tracked htracked' _, fun plain tls => ?_⟩
      obtain ⟨plain', tls', hsession, hconn⟩ := @hear_followed _
        { sys with op := h, conn := c, server := (server sys.server m).2 } htracked'
        (server sys.server m).1 plain tls
      rw [hsession, hconn]
      exact (hruns plain' tls').step (transition_followed plain' tls' htracked.sends ht)

lemma runs_session {greeting : Bytes} {state : σ} {sys : System σ}
    (h : ReflTransGen (Step hashes server) (start params greeting state) sys) :
    Runs hashes (.start params) (.fresh sys.session) sys.op sys.conn := by
  have hr := (runs_followed h).2 [] []
  have hsession : sys.sessionThen [] [] = sys.session := by
    rw [sessionThen, session, List.append_nil, List.append_nil]
  rwa [hsession, followed_nil] at hr

/-- The client at the end of a handshake that succeeds. -/
def connected (sys : System σ) : Conn :=
  { sys.conn with channel.currentCaps := sys.op.processor.negotiatedCaps }

lemma Converse.connected {greeting : Bytes} {state : σ} {sys : System σ}
    (h : Converse hashes server (start params greeting state) sys (.ok ())) :
    handshake hashes params (.fresh sys.session) = (.ok (), sys.connected) := by
  cases h.2 with
  | finished hf =>
    have hrun := (runs_session h.1).run.trans (run_finished hf sys.conn)
    rw [Handshake.handshake, then_ok hrun]
    rfl

/-- The client comes to the same where all that was sent arrives whenever it arrives. -/
theorem Converse.handshake {greeting : Bytes} {state : σ} {sys : System σ}
    {r : Except ErrorCode Unit} (h : Converse hashes server (start params greeting state) sys r) :
    (handshake hashes params (.fresh sys.session)).1 = r := by
  have hr := runs_session h.1
  cases h.2 with
  | finished => rw [h.connected]
  | failed hp he =>
    have hrun := hr.run.trans (run_error hp he)
    rw [Handshake.handshake, then_error hrun]

end System

end Adequacy

/-! ### Where the two have come to -/

/-- The client, the server, what is going to be read, the shared buffer, and whether TLS is in
use. -/
structure System.At {σ : Type} (sys : System σ) (op : HandshakeOp) (state : σ) (ms : List Bytes)
    (buffer : Bytes) (tls : Bool) : Prop where
  op : sys.op = op
  server : sys.server = state
  tracked : Tracked sys.conn
  delivers : Delivers sys.conn.channel ms []
  sharedBuffer : sys.conn.channel.sharedBuffer = buffer
  sslActive : sys.conn.channel.sslActive = tls

section At

variable {σ : Type} (hashes : Hashes) (server : Responder σ) {sys : System σ} {state : σ}
variable {p : HandshakeProcessor} {o : AuthResult} {m buffer : Bytes} {ms : List Bytes} {tls : Bool}

namespace System

lemma at_start (params : ConnectionParams) (greeting : Bytes) (state : σ) :
    (start params greeting state).At (.start params) state [greeting] [] false := by
  refine ⟨rfl, rfl, ⟨⟨rfl, rfl⟩, rfl⟩, ?_, rfl, rfl⟩
  rw [Delivers, List.append_nil, messageFrames, messageFrames, List.append_nil]
  rfl

lemma At.read {op : HandshakeOp} (h : sys.At op state (m :: ms) buffer tls) :
    ∃ ch, sys.conn.channel.read = (m, .success, ch) ∧ ch.sslActive = tls ∧
      ∀ b, Delivers { ch with sharedBuffer := b } ms [] := by
  refine ⟨_, h.delivers.read, h.sslActive, fun b => ?_⟩
  exact (delivers_afterMessage _ _ _ _).withBuffer b

lemma At.greeting (h : sys.At ⟨.greeting, p, o⟩ state [m] buffer tls) {p' : HandshakeProcessor}
    {info : ErrorInfo} (hp : p.processHandshake hashes m sys.conn.info = (.success, p', info)) :
    ∃ sys', Step hashes server sys sys' ∧
      sys'.At ⟨if p'.useSsl then .sslRequest else .response, p', o⟩ state [] m tls := by
  obtain ⟨ch, hr, hssl, hd⟩ := h.read
  have ht := Transition.greeting (o := o) hr hp rfl
  have hs : said sys.op sys.conn = none := by rw [h.op]; rfl
  rw [← h.op] at ht
  exact ⟨_, .silent hs ht, rfl, h.server, h.tracked.transition ht, hd m, rfl, hssl⟩

lemma At.sslHandshake (h : sys.At ⟨.sslHandshake, p, o⟩ state [] buffer false) :
    ∃ sys', Step hashes server sys sys' ∧ sys'.At ⟨.response, p, o⟩ state [] buffer true := by
  have hs : said sys.op sys.conn = none := by rw [h.op]; rfl
  obtain ⟨op, ⟨⟨s, sslActive, seq, b, caps⟩, info⟩, state', plain, tls'⟩ := sys
  obtain ⟨isOpen, p', t, results, outcomes, closeResult, buffered, log, reads⟩ := s
  obtain ⟨rfl, hserver, htracked, hd, hb, rfl⟩ := h
  obtain rfl : isOpen = true := htracked.sends.isOpen
  obtain rfl : outcomes = [.ok []] := htracked.tlsOutcomes
  have ht := @Transition.sslHandshake hashes p o
    ⟨⟨⟨true, p', t, results, [.ok []], closeResult, buffered, log, reads⟩, false, seq, b, caps⟩, info⟩
    _ _ rfl rfl
  exact ⟨_, .silent hs ht, rfl, hserver, htracked.transition ht, rfl, hb, rfl⟩

lemma At.answered {op op' : HandshakeOp} (h : sys.At op state [] buffer tls)
    (hs : said op sys.conn = some m) {b : Bytes}
    (ht : ∀ ch, Channel.write { sys.conn.channel with sharedBuffer := b } m = (.success, ch) →
      Transition hashes op sys.conn op' { sys.conn with channel := ch }) :
    ∃ sys', Step hashes server sys sys' ∧
      sys'.At op' (server state m).2 (server state m).1 b tls := by
  obtain ⟨rfl, rfl, htracked, hd, hb, hssl⟩ := h
  have hsends : Sends { sys.conn.channel with sharedBuffer := b } :=
    ⟨htracked.sends.isOpen, htracked.sends.writeResults⟩
  have ht' := ht _ (write_written hsends m)
  refine ⟨_, .answered hs ht', rfl, rfl, hear_tracked (htracked.transition ht') _, ?_, rfl, hssl⟩
  have hp : sys.conn.channel.pending = [] := delivers_nil.mp hd
  obtain ⟨op, ⟨⟨s, sslActive, seq, b', caps⟩, info⟩, state', plain, tls'⟩ := sys
  rw [Delivers, List.append_nil]
  cases sslActive with
  | false =>
    have hplain : s.plain = [] := hp
    change s.plain ++ _ = _
    rw [hplain]
    rfl
  | true =>
    have htls : s.tls = [] := hp
    change s.tls ++ _ = _
    rw [htls]
    rfl

lemma At.sslRequest (h : sys.At ⟨.sslRequest, p, o⟩ state [] buffer tls) :
    let m := serializeMessage p.sslRequest p.negotiatedCaps buffer
    ∃ sys', Step hashes server sys sys' ∧
      sys'.At ⟨.sslHandshake, p, o⟩ (server state m).2 (server state m).1 m tls := by
  obtain rfl := h.sharedBuffer
  exact h.answered hashes server rfl fun ch hw => .sslRequest rfl hw

lemma At.response (h : sys.At ⟨.response, p, o⟩ state [] buffer tls) :
    let m := serializeMessage p.handshakeResponse p.negotiatedCaps buffer
    ∃ sys', Step hashes server sys sys' ∧
      sys'.At ⟨.authMessage, p, .invalid⟩ (server state m).2 (server state m).1 m tls := by
  obtain rfl := h.sharedBuffer
  exact h.answered hashes server rfl fun ch hw => .response rfl hw

lemma At.authResponse (h : sys.At ⟨.authResponse, p, o⟩ state [] buffer tls) :
    ∃ sys', Step hashes server sys sys' ∧
      sys'.At ⟨.authMessage, p, o⟩ (server state buffer).2 (server state buffer).1 buffer tls := by
  obtain rfl := h.sharedBuffer
  exact h.answered hashes server rfl fun ch hw => .authResponse hw

lemma At.authMessage (h : sys.At ⟨.authMessage, p, o⟩ state (m :: ms) buffer tls)
    {answer : HandshakeProcessor.Answer}
    (ha : p.processHandshakeServerResponse hashes o m sys.conn.info = answer)
    (he : answer.err.failed = false) :
    ∃ sys', Step hashes server sys sys' ∧
      sys'.At ⟨nextPoint answer.outcome, answer.processor, answer.outcome⟩ state ms
        answer.buffer tls := by
  obtain ⟨ch, hr, hssl, hd⟩ := h.read
  have ht := Transition.authMessage hr ha he
  have hs : said sys.op sys.conn = none := by rw [h.op]; rfl
  rw [← h.op] at ht
  exact ⟨_, .silent hs ht, rfl, h.server, h.tracked.transition ht, hd _, rfl, hssl⟩

lemma At.refused (h : sys.At ⟨.authMessage, p, o⟩ state (m :: ms) buffer tls)
    {answer : HandshakeProcessor.Answer}
    (ha : p.processHandshakeServerResponse hashes o m sys.conn.info = answer)
    (he : answer.err.failed = true) : Ended hashes sys (.error answer.err) := by
  obtain ⟨ch, hr, -, -⟩ := h.read
  have hs := step_authMessage hr ha
  rw [outcome_failed he] at hs
  rw [← h.op] at hs
  exact .failed (by rw [h.op]; exact fun hp => nomatch hp) hs

end System

end At

end MysqlAsio.LiveHandshake
