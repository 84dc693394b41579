import MysqlAsio.AuthServers
import MysqlAsio.CommandServers
import MysqlAsio.Lives

/-!
From the first byte to the last row: a user who is authenticated is served.

The server of a handshake and the conforming server of a session are one.
-/

namespace MysqlAsio.ConnectedSessions

open MysqlAsio.Errors MysqlAsio.Serialization MysqlAsio.Auth MysqlAsio.TextDeserialization
open MysqlAsio.Streams MysqlAsio.Channels MysqlAsio.Framing MysqlAsio.Operations MysqlAsio.Handshake
open MysqlAsio.Connection MysqlAsio.LiveHandshake MysqlAsio.LiveHandshake.System
open MysqlAsio.AuthServers MysqlAsio.AuthServers.AuthServer MysqlAsio.Calls MysqlAsio.Dialogue
open MysqlAsio.RowEncodings MysqlAsio.Sessions MysqlAsio.Lives MysqlAsio.CommandServers
open MysqlAsio.Lib.Machines

/-! ### The capabilities do not matter -/

lemma specified_caps (caps caps' : Capabilities) : specified caps = specified caps' := by
  funext l e
  obtain ⟨call, answer⟩ := e
  simp only [specified, command_caps caps caps']

lemma conforming_caps {lexical : LexicalConvert} {caps : Capabilities} {e : Exchange}
    (h : e.Conforming lexical caps) (caps' : Capabilities) : e.Conforming lexical caps' where
  answer := h.answer
  messages := h.messages
  command m hm := h.command m (by rwa [command_caps caps caps'])

/-! ### After the handshake -/

/-- All sessions with a conforming server, whichever way each call is made, go as is specified. -/
def GoAsSpecified (hashes : Hashes) (lexical : LexicalConvert) (c : Client) : Prop :=
  ∀ (makings : List MadeExchange) (outcomes : List Outcome) (l : Ledger),
    (∀ m ∈ makings, m.exchange.Conforming lexical .none) →
    (specified .none).run (.start c.conn.channel.stream.sent)
      (makings.map MadeExchange.exchange) = some (outcomes, l) →
    (∃ c', (mixedExchange hashes lexical).Runs c makings outcomes c') ∧
    ∀ outcomes' c', (mixedExchange hashes lexical).Runs c makings outcomes' c' →
      outcomes' = outcomes ∧ c'.conn.channel.stream.sent = l.received ∧
        Delivers c'.conn.channel l.messages []

section Connected

variable {hashes : Hashes} {lexical : LexicalConvert} {srv : AuthServer} {params : ConnectionParams}

lemma goAsSpecified (hlex : ConvertsIntegers lexical) {conn : Conn} (hs : Sends conn.channel)
    (hp : conn.channel.pending = []) : GoAsSpecified hashes lexical (sessionClient conn) := by
  intro makings outcomes l he hr
  rw [specified_caps .none conn.channel.currentCaps] at hr
  obtain ⟨hex, hall⟩ := mixedExchange_specified hashes hlex hs hp
    (fun m hm => conforming_caps (he m hm) _) hr
  refine ⟨hex, fun outcomes' c hc => ?_⟩
  obtain ⟨heq, d, hsame, hin⟩ := hall outcomes' c hc
  exact ⟨heq, inStep_sameClient hin hsame⟩

/-- A handshake that succeeds is that of a call that connects. -/
lemma connect_connected {σ : Type} {server : Responder σ} {greeting : Bytes} {state : σ}
    {sys : System σ} (h : Converse hashes server (start params greeting state) sys (.ok ())) :
    connect hashes params sys.session constructed = (.ok (), sys.connected) := by
  have hp : physicalConnect sys.session constructed = (.ok (), .fresh sys.session) := rfl
  change connectChannel hashes params sys.session constructed = _
  simp only [connectChannel, hp, h.connected]

lemma connected_goAsSpecified (hlex : ConvertsIntegers lexical) {sys : System ServerState}
    (h : Converse hashes (srv.respond hashes) (.start params srv.greeting.message .greeted) sys
      (.ok ())) (hp : sys.conn.channel.pending = []) {made : Made}
    (hm : made.call = .connect params sys.session) :
    (∃ c, Makes hashes lexical newClient made (.returned (.ok ())) c) ∧
    ∀ o c, Makes hashes lexical newClient made o c →
      o = .returned (.ok ()) ∧ GoAsSpecified hashes lexical c := by
  have hsends : Sends sys.conn.channel := (runs_followed h.1).1.sends
  have hconnect : perform hashes lexical newClient made.call =
      some (.returned (.ok ()), sessionClient sys.connected) := by
    rw [hm, perform]
    change some (returned newClient (connect hashes params sys.session constructed)) = _
    rw [connect_connected h]
    rfl
  constructor
  · obtain ⟨c, hc, -⟩ := makes_allowed hashes lexical sameClient_newClient hconnect
    exact ⟨c, hc⟩
  · intro o c hc
    obtain ⟨d, hd, hsame⟩ := makes_given hashes lexical sameClient_newClient hc
    cases hconnect.symm.trans hd
    refine ⟨rfl, ?_⟩
    obtain ⟨conn, resultSets⟩ := c
    obtain rfl : resultSets = fun _ => none := hsame.resultSets.symm
    obtain ⟨caps, hch⟩ := hsame.conn.symm
    apply goAsSpecified hlex
    · rw [hch]
      exact ⟨hsends.isOpen, hsends.writeResults⟩
    · rw [hch]
      exact hp

/-- **A user with the password is served.** Where the handshake does not need the password itself
without TLS, it comes to its end and succeeds; a call that connects then succeeds, whichever way it
is made, and behind it every session with a conforming server goes as is specified. -/
theorem password_served (hlex : ConvertsIntegers lexical) (h : srv.Suits params) {account : Account}
    (ha : srv.accounts params.username = some account)
    (hk : Keeps hashes account params.password)
    (hn : ¬ (NeedsFullAuth srv params account ∧ srv.usesSsl params = false)) :
    (∃ sys, Converse hashes (srv.respond hashes) (.start params srv.greeting.message .greeted) sys
      (.ok ())) ∧
    ∀ sys r, Converse hashes (srv.respond hashes) (.start params srv.greeting.message .greeted)
        sys r →
      r = .ok () ∧ sys.server = .authenticated ∧
      ∀ made : Made, made.call = .connect params sys.session →
        (∃ c, Makes hashes lexical newClient made (.returned (.ok ())) c) ∧
        ∀ o c, Makes hashes lexical newClient made o c →
          o = .returned (.ok ()) ∧ GoAsSpecified hashes lexical c := by
  have hcomes : ComesTo hashes srv (.start params srv.greeting.message .greeted)
      (srv.decision hashes params) := comesTo_start h
  rw [decision_of_keeps ha hk, if_neg hn] at hcomes
  obtain ⟨sys, hc, hserver, hpending⟩ := hcomes
  refine ⟨⟨sys, hc⟩, fun sys' r hc' => ?_⟩
  obtain ⟨rfl, rfl⟩ := hc.unique hc'
  exact ⟨rfl, hserver.mpr rfl, fun made hm => connected_goAsSpecified hlex hc (hpending rfl) hm⟩

end Connected

/-- The password is sent behind a switch of the plugin. -/
theorem password_served_switching :
    (∃ sys, Converse zeroHashes (switchingServer.respond zeroHashes)
      (.start secretParams switchingServer.greeting.message .greeted) sys (.ok ())) ∧
    ∀ sys r, Converse zeroHashes (switchingServer.respond zeroHashes)
        (.start secretParams switchingServer.greeting.message .greeted) sys r →
      r = .ok () ∧ sys.server = .authenticated ∧
      ∀ made : Made, made.call = .connect secretParams sys.session →
        (∃ c, Makes zeroHashes decimalIntegers newClient made (.returned (.ok ())) c) ∧
        ∀ o c, Makes zeroHashes decimalIntegers newClient made o c →
          o = .returned (.ok ()) ∧ GoAsSpecified zeroHashes decimalIntegers c :=
  password_served decimalIntegers_converts switchingServer_suits rfl rfl fun hn => nomatch hn.2

end MysqlAsio.ConnectedSessions
