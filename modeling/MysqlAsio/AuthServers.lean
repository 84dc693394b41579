import MysqlAsio.Challenges
import MysqlAsio.Greetings
import MysqlAsio.LiveHandshake
import MysqlAsio.Scrambles
import MysqlAsio.Server

/-!
A server that authenticates its users, and what a handshake with it comes to.

It knows only a digest of a digest of each password.
-/

namespace MysqlAsio.AuthServers

open MysqlAsio.Errors MysqlAsio.Serialization MysqlAsio.CommonMessages MysqlAsio.Auth
open MysqlAsio.HandshakeMessages MysqlAsio.Operations MysqlAsio.Handshake MysqlAsio.Challenges
open MysqlAsio.Handshake.HandshakeProcessor MysqlAsio.Greetings MysqlAsio.Scrambles
open MysqlAsio.Framing MysqlAsio.Server MysqlAsio.LiveHandshake MysqlAsio.LiveHandshake.System
open MysqlAsio.WireTypes MysqlAsio.Lib.Decoding Relation

/-! ### The server -/

instance (hashes : Hashes) (stored challenge response : Bytes) :
    Decidable (NativeAccepts hashes stored challenge response) :=
  inferInstanceAs (Decidable (_ = _))

instance (hashes : Hashes) (stored challenge response : Bytes) :
    Decidable (CachingSha2Accepts hashes stored challenge response) :=
  inferInstanceAs (Decidable (_ = _))

/-- What a server keeps of a user: a digest of a digest of the password, unless that is blank. -/
structure Account where
  plugin : AuthenticationPlugin
  stored : Option Bytes
  deriving DecidableEq

structure AuthServer where
  greeting : Greeting
  /-- The challenge for a plugin that is not the one of the greeting. -/
  challenge : Bytes
  accounts : Bytes → Option Account
  /-- Whether a user may be authenticated by a digest of the password only. -/
  cached : Bytes → Bool
  accepted : OkPacket
  denied : ErrPacket

inductive ServerState
  | greeted
  | switched (username : Bytes) (account : Account)
  | fullAuth (account : Account)
  | authenticated
  | denied
  deriving DecidableEq

def greetingChallenge (g : Greeting) : Bytes := g.authPluginDataPart1 ++ g.authPluginDataPart2

namespace AuthServer

variable (hashes : Hashes) (srv : AuthServer)

def allow : List Bytes × ServerState := ([okMessage srv.accepted false], .authenticated)

def deny : List Bytes × ServerState := ([errMessage srv.denied], .denied)

def switchMessage (plugin : AuthenticationPlugin) : Bytes :=
  authSwitchRequestHeader :: (serializeStringNull plugin.name ++ (srv.challenge ++ [0]))

def fastAuthMessage : Bytes := authMoreDataHeader :: fastAuthCompleteChallenge

def fullAuthMessage : Bytes := authMoreDataHeader :: CachingSha2Password.performFullAuth

/-- What is answered to a response to a challenge. -/
def check (username : Bytes) (account : Account) (challenge response : Bytes) :
    List Bytes × ServerState :=
  match account.stored with
  | none => if response = [] then srv.allow else srv.deny
  | some stored =>
    if response = [] then srv.deny
    else
      match account.plugin with
      | .mysqlNativePassword =>
        if NativeAccepts hashes stored challenge response then srv.allow else srv.deny
      | .cachingSha2Password =>
        if srv.cached username ∧ CachingSha2Accepts hashes stored challenge response then
          (fastAuthMessage :: srv.allow.1, .authenticated)
        else ([fullAuthMessage], .fullAuth account)

/-- A message of 32 bytes asks for TLS; a response is longer. -/
def respond : Responder ServerState
  | .greeted, m =>
    if m.length = 32 then ([], .greeted)
    else
      match parseHandshakeResponse41 m with
      | .error _ => srv.deny
      | .ok (response, _) =>
        match srv.accounts response.username with
        | none => srv.deny
        | some account =>
          if response.clientPluginName = some account.plugin.name then
            srv.check hashes response.username account (greetingChallenge srv.greeting)
              response.authResponse
          else ([srv.switchMessage account.plugin], .switched response.username account)
  | .switched username account, m => srv.check hashes username account srv.challenge m
  | .fullAuth account, m =>
    if account.stored = some (cachingSha2Stored hashes m.dropLast) then srv.allow else srv.deny
  | .authenticated, _ => ([], .authenticated)
  | .denied, _ => ([], .denied)

/-! ### What it comes to -/

def deniedResult : Except ErrorCode Unit := .error (makeErrorCode (.server srv.denied.errorCode))

/-- The digest of a digest that a plugin keeps of a password. -/
def storedOf (plugin : AuthenticationPlugin) (password : Bytes) : Bytes :=
  match plugin with
  | .mysqlNativePassword => nativeStored hashes password
  | .cachingSha2Password => cachingSha2Stored hashes password

/-- The digests of a password come out as if it were the one of which this is kept. -/
def Coincides (plugin : AuthenticationPlugin) (stored password challenge : Bytes) : Prop :=
  match plugin with
  | .mysqlNativePassword =>
    let digest (b : Bytes) : Bytes := (hashes.sha1 b).toList
    digest (xorBytes (xorBytes (digest password) (digest (challenge ++ digest (digest password))))
      (digest (challenge ++ stored))) = stored
  | .cachingSha2Password =>
    let digest (b : Bytes) : Bytes := (hashes.sha256 b).toList
    digest (xorBytes (xorBytes (digest (digest (digest password) ++ challenge)) (digest password))
      (digest (stored ++ challenge))) = stored

instance : ∀ (plugin : AuthenticationPlugin) (stored password challenge : Bytes),
    Decidable (Coincides hashes plugin stored password challenge)
  | .mysqlNativePassword, _, _, _ => inferInstanceAs (Decidable (_ = _))
  | .cachingSha2Password, _, _, _ => inferInstanceAs (Decidable (_ = _))

/-- A password is the one of which this is kept, unless its digests coincide. -/
def Passes (plugin : AuthenticationPlugin) (stored password challenge : Bytes) : Prop :=
  stored = storedOf hashes plugin password ∨ Coincides hashes plugin stored password challenge

instance (plugin : AuthenticationPlugin) (stored password challenge : Bytes) :
    Decidable (Passes hashes plugin stored password challenge) :=
  inferInstanceAs (Decidable (_ ∨ _))

/-- What a password comes to, for an account. -/
def verdict (username : Bytes) (account : Account) (password challenge : Bytes) (useSsl : Bool) :
    Except ErrorCode Unit :=
  match account.stored with
  | none => if password = [] then .ok () else srv.deniedResult
  | some stored =>
    if password = [] then srv.deniedResult
    else
      match account.plugin with
      | .mysqlNativePassword =>
        if Passes hashes account.plugin stored password challenge then .ok () else srv.deniedResult
      | .cachingSha2Password =>
        if srv.cached username ∧ Passes hashes account.plugin stored password challenge then .ok ()
        else if !useSsl then .error (makeErrorCode .authPluginRequiresSsl)
        else if stored = storedOf hashes account.plugin password then .ok ()
        else srv.deniedResult

/-- Whether the client uses TLS with this server. -/
def usesSsl (params : ConnectionParams) : Bool :=
  params.ssl = .require ∨
    params.ssl = .enable ∧ srv.greeting.capabilities.has Capabilities.clientSsl = true

/-- The challenge an account is asked. -/
def challengeFor (account : Account) : Bytes :=
  if srv.greeting.authPluginName = account.plugin.name then greetingChallenge srv.greeting
  else srv.challenge

/-- What a handshake comes to. -/
def decision (params : ConnectionParams) : Except ErrorCode Unit :=
  match srv.accounts params.username with
  | none => srv.deniedResult
  | some account => srv.verdict hashes params.username account params.password
      (srv.challengeFor account) (srv.usesSsl params)

/-- The parameters can be sent, and the server is one the client supports. -/
structure Suits (params : ConnectionParams) : Prop where
  username : NoNul params.username
  database : NoNul params.database
  capabilities : srv.greeting.capabilities.hasAll (requiredCaps params) = true
  plugin : ∃ plugin : AuthenticationPlugin, srv.greeting.authPluginName = plugin.name
  greetingChallenge : (greetingChallenge srv.greeting).length = 20
  challenge : srv.challenge.length = 20
  denied : WellFormedErr srv.denied

end AuthServer

open AuthServer

/-! ### What the client answers -/

/-- The digest that answers a challenge. -/
def scramble (hashes : Hashes) (plugin : AuthenticationPlugin) (password challenge : Bytes) :
    Bytes :=
  match plugin with
  | .mysqlNativePassword => MysqlNativePassword.computeAuthString hashes password challenge
  | .cachingSha2Password => CachingSha2Password.computeAuthString hashes password challenge

/-- The answer to a challenge of 20 bytes. -/
def answered (hashes : Hashes) (plugin : AuthenticationPlugin) (password challenge : Bytes) :
    AuthResponse :=
  if password = [] then .blank else .scrambled (scramble hashes plugin password challenge)

section Client

variable {hashes : Hashes} {plugin : AuthenticationPlugin} {password challenge : Bytes}

lemma calculate_answered (auth : AuthCalculator) (hlen : challenge.length = 20) (useSsl : Bool) :
    auth.calculate hashes plugin.name password challenge useSsl =
      (.success, ⟨some plugin, answered hashes plugin password challenge⟩) := by
  by_cases hp : password = []
  · -- a blank password is answered before the plugin is asked
    rw [AuthCalculator.calculate, findPlugin_name, answered, if_pos hp]
    simp only [hp, if_true]
  · rw [calculate_computes hp, answered, if_neg hp]
    cases plugin with
    | mysqlNativePassword =>
      have hlen' : ¬ challenge.length ≠ MysqlNativePassword.challengeLength := not_not.mpr hlen
      simp only [AuthenticationPlugin.calculator, MysqlNativePassword.computeResponse,
        if_neg hlen']
      rfl
    | cachingSha2Password =>
      have hlen' : ¬ challenge.length ≠ CachingSha2Password.challengeLength := not_not.mpr hlen
      -- the request for the password itself is no challenge: it has one byte
      have hfull : challenge ≠ CachingSha2Password.performFullAuth := by
        rintro rfl
        cases hlen
      simp only [AuthenticationPlugin.calculator, CachingSha2Password.computeResponse,
        if_neg hfull, if_neg hlen']
      rfl

lemma answered_eq_nil : (answered hashes plugin password challenge).bytes = [] ↔
    password = [] := by
  rw [answered]
  split_ifs with hp
  · exact iff_of_true rfl hp
  · refine iff_of_false (fun h => ?_) hp
    have hl : (scramble hashes plugin password challenge).length = 0 := congrArg List.length h
    cases plugin with
    | mysqlNativePassword => cases (native_length hashes password challenge).symm.trans hl
    | cachingSha2Password => cases (cachingSha2_length hashes password challenge).symm.trans hl

/-- What the client computes passes the checks of the server exactly where its password does. -/
lemma nativeAccepts_iff {stored : Bytes} :
    NativeAccepts hashes stored challenge (scramble hashes .mysqlNativePassword password challenge) ↔
      Passes hashes .mysqlNativePassword stored password challenge := by
  refine ⟨Or.inr, ?_⟩
  rintro (rfl | h)
  · exact native_accepts ..
  · exact h

lemma cachingSha2Accepts_iff {stored : Bytes} :
    CachingSha2Accepts hashes stored challenge
        (scramble hashes .cachingSha2Password password challenge) ↔
      Passes hashes .cachingSha2Password stored password challenge := by
  refine ⟨Or.inr, ?_⟩
  rintro (rfl | h)
  · exact cachingSha2_accepts ..
  · exact h

lemma answered_bytes (hp : password ≠ []) :
    (answered hashes plugin password challenge).bytes =
      scramble hashes plugin password challenge := by
  rw [answered, if_neg hp]
  rfl

end Client

/-! ### What becomes of the messages of the server -/

section Messages

variable {hashes : Hashes} {srv : AuthServer} {p : HandshakeProcessor} {o : AuthResult}
variable {info : ErrorInfo}

lemma answer_allow : p.processHandshakeServerResponse hashes o (okMessage srv.accepted false) info =
    ⟨.success, p, .complete, okMessage srv.accepted false, info⟩ := rfl

lemma answer_deny (h : WellFormedErr srv.denied) :
    p.processHandshakeServerResponse hashes o (errMessage srv.denied) info =
      ⟨makeErrorCode (.server srv.denied.errorCode), p, o, errMessage srv.denied,
        ⟨srv.denied.errorMessage⟩⟩ := by
  have hp := processErrorPacket_encode h.sqlStateMarker h.sqlState p.negotiatedCaps info
  rw [HandshakeProcessor.processHandshakeServerResponse, errMessage, deserializeMessageType_cons]
  simp only [hp]
  rfl

lemma answer_fastAuth : p.processHandshakeServerResponse hashes o fastAuthMessage info =
    ⟨.success, p, .waitForOk, fastAuthMessage, info⟩ := rfl

lemma answer_switch (plugin : AuthenticationPlugin) (hlen : srv.challenge.length = 20) :
    p.processHandshakeServerResponse hashes o (srv.switchMessage plugin) info =
      let response := answered hashes plugin p.params.password srv.challenge
      ⟨.success, { p with auth := ⟨some plugin, response⟩ }, .sendMoreData, response.bytes, info⟩ := by
  have hname : NoNul plugin.name := by cases plugin <;> decide
  have hd := authSwitch_decodes hname srv.challenge p.negotiatedCaps
  have ha : p.processHandshakeServerResponse hashes o (srv.switchMessage plugin) info =
      p.answerChallenge hashes plugin.name srv.challenge o (srv.switchMessage plugin) info :=
    (Challenged.authSwitch hd).answer
  rw [ha, answerChallenge, calculate, calculate_answered _ hlen]
  simp only [success_failed, Bool.false_eq_true, if_false, serializeMessage_eq]
  rfl

/-- For a full authentication the password itself is sent, but not without TLS. -/
lemma answer_fullAuth (hp : p.auth.plugin = some .cachingSha2Password)
    (hpassword : p.params.password ≠ []) :
    let answer := p.processHandshakeServerResponse hashes o fullAuthMessage info
    if p.useSsl then
      ∃ auth, answer = ⟨.success, { p with auth }, .sendMoreData, p.params.password ++ [0], info⟩
    else answer.err = makeErrorCode .authPluginRequiresSsl := by
  have hd : deserializeMessage deserializeAuthMoreDataPacket
      ⟨CachingSha2Password.performFullAuth, p.negotiatedCaps⟩ =
      .ok ⟨CachingSha2Password.performFullAuth⟩ := rfl
  have hname : p.auth.pluginName = AuthenticationPlugin.cachingSha2Password.name := by
    rw [AuthCalculator.pluginName, hp]
  have ha : p.processHandshakeServerResponse hashes o fullAuthMessage info =
      p.answerChallenge hashes p.auth.pluginName CachingSha2Password.performFullAuth o
        fullAuthMessage info := (Challenged.authMoreData hd (by decide)).answer
  simp only [ha, answerChallenge, calculate, hname, calculate_computes hpassword,
    AuthenticationPlugin.calculator, CachingSha2Password.computeResponse, if_true]
  cases p.useSsl with
  | true =>
    simp only [Bool.not_true, Bool.false_eq_true, if_false, success_failed, serializeMessage_eq,
      if_true]
    exact ⟨_, rfl⟩
  | false => rfl

end Messages

/-! ### The two -/

/-- The server has accepted the client exactly where the handshake succeeds, and has then sent no
more than what was read. -/
def ComesTo (hashes : Hashes) (srv : AuthServer) (sys : System ServerState)
    (r : Except ErrorCode Unit) : Prop :=
  ∃ sys', Converse hashes (srv.respond hashes) sys sys' r ∧
    (sys'.server = .authenticated ↔ r = .ok ()) ∧
    (r = .ok () → sys'.conn.channel.pending = [])

section ComesTo

variable {hashes : Hashes} {srv : AuthServer} {sys : System ServerState}
variable {p : HandshakeProcessor} {o : AuthResult} {buffer : Bytes} {tls : Bool}

lemma ComesTo.step {sys' : System ServerState} {r : Except ErrorCode Unit}
    (hs : Step hashes (srv.respond hashes) sys sys') (h : ComesTo hashes srv sys' r) :
    ComesTo hashes srv sys r := by
  obtain ⟨sys2, ⟨hr, he⟩, hend⟩ := h
  exact ⟨sys2, ⟨.head hs hr, he⟩, hend⟩

lemma comesTo_allow
    (h : sys.At ⟨.authMessage, p, o⟩ .authenticated srv.allow.1 buffer tls) :
    ComesTo hashes srv sys (.ok ()) := by
  obtain ⟨sys', hs, hat⟩ := h.authMessage hashes (srv.respond hashes) answer_allow rfl
  refine .step hs ⟨sys', ⟨.refl, .finished ?_⟩, iff_of_true hat.server rfl,
    fun _ => delivers_nil.mp hat.delivers⟩
  rw [hat.op]
  rfl

lemma comesTo_deny (hw : WellFormedErr srv.denied)
    (h : sys.At ⟨.authMessage, p, o⟩ .denied srv.deny.1 buffer tls) :
    ComesTo hashes srv sys srv.deniedResult := by
  have hf : (makeErrorCode (.server srv.denied.errorCode)).failed = true := by
    rw [makeErrorCode_server_failed]
    exact hw.errorCode
  have he := h.refused hashes (answer_deny hw) hf
  refine ⟨sys, ⟨.refl, he⟩, iff_of_false ?_ nofun, nofun⟩
  rw [h.server]
  nofun

lemma comesTo_fullAuth (hw : WellFormedErr srv.denied) {account : Account} {stored : Bytes}
    (hst : account.stored = some stored) (hplugin : p.auth.plugin = some .cachingSha2Password)
    (hpassword : p.params.password ≠ [])
    (h : sys.At ⟨.authMessage, p, o⟩ (.fullAuth account) [fullAuthMessage] buffer tls) :
    ComesTo hashes srv sys
      (if !p.useSsl then .error (makeErrorCode .authPluginRequiresSsl)
      else if stored = cachingSha2Stored hashes p.params.password then .ok ()
      else srv.deniedResult) := by
  have ha := @answer_fullAuth hashes p o sys.conn.info hplugin hpassword
  cases hs : p.useSsl with
  | false =>
    -- the client refuses, and the server waits for what does not come
    rw [hs] at ha
    have herr : _ = makeErrorCode .authPluginRequiresSsl := ha
    have he := h.refused hashes rfl (by rw [herr]; rfl)
    rw [herr] at he
    refine ⟨sys, ⟨.refl, he⟩, iff_of_false ?_ nofun, nofun⟩
    rw [h.server]
    nofun
  | true =>
    -- the password is sent with a NUL behind it, which the server drops
    rw [hs] at ha
    obtain ⟨auth, ha⟩ := ha
    obtain ⟨sys1, hs1, h1⟩ := h.authMessage hashes (srv.respond hashes) ha rfl
    obtain ⟨sys2, hs2, h2⟩ := h1.authResponse hashes (srv.respond hashes)
    refine .step hs1 (.step hs2 ?_)
    have hr : srv.respond hashes (.fullAuth account) (p.params.password ++ [0]) =
        if stored = cachingSha2Stored hashes p.params.password then srv.allow else srv.deny := by
      simp only [respond, List.dropLast_concat, hst, Option.some.injEq]
    simp only [hr] at h2
    simp only [Bool.not_true, Bool.false_eq_true, if_false]
    split_ifs at h2 ⊢ with hd
    · exact comesTo_allow h2
    · exact comesTo_deny hw h2

/-- What the two come to when the answer to a challenge has been checked. -/
lemma comesTo_checked (hw : WellFormedErr srv.denied) {username : Bytes} {account : Account}
    {challenge : Bytes} (hplugin : p.auth.plugin = some account.plugin)
    {response : Bytes}
    (hr : response = (answered hashes account.plugin p.params.password challenge).bytes)
    (h : sys.At ⟨.authMessage, p, o⟩ (srv.check hashes username account challenge response).2
      (srv.check hashes username account challenge response).1 buffer tls) :
    ComesTo hashes srv sys
      (srv.verdict hashes username account p.params.password challenge p.useSsl) := by
  subst hr
  obtain ⟨plugin, stored⟩ := account
  simp only [check, verdict, answered_eq_nil] at h ⊢
  cases stored with
  | none =>
    -- only a blank answer is accepted
    simp only at h ⊢
    split_ifs at h ⊢
    · exact comesTo_allow h
    · exact comesTo_deny hw h
  | some stored =>
    by_cases hp : p.params.password = []
    · -- a blank answer is denied without a check
      simp only [hp, if_true] at h ⊢
      exact comesTo_deny hw h
    · simp only [if_neg hp, answered_bytes hp] at h ⊢
      cases plugin with
      | mysqlNativePassword =>
        simp only [nativeAccepts_iff] at h ⊢
        split_ifs at h ⊢
        · exact comesTo_allow h
        · exact comesTo_deny hw h
      | cachingSha2Password =>
        simp only [cachingSha2Accepts_iff] at h ⊢
        by_cases hc : srv.cached username = true ∧
            Passes hashes .cachingSha2Password stored p.params.password challenge
        · -- the fast authentication: its success is announced before the OK
          rw [if_pos hc] at h ⊢
          obtain ⟨sys1, hs1, h1⟩ := h.authMessage hashes (srv.respond hashes) answer_fastAuth rfl
          exact .step hs1 (comesTo_allow h1)
        · -- not in the cache, or not as it is there: the password itself decides
          rw [if_neg hc] at h ⊢
          exact comesTo_fullAuth hw rfl hplugin hp h

lemma comesTo_switched (hw : WellFormedErr srv.denied) (hlen : srv.challenge.length = 20)
    {username : Bytes} {account : Account}
    (h : sys.At ⟨.authMessage, p, o⟩ (.switched username account)
      [srv.switchMessage account.plugin] buffer tls) :
    ComesTo hashes srv sys
      (srv.verdict hashes username account p.params.password srv.challenge p.useSsl) := by
  obtain ⟨sys1, hs1, h1⟩ := h.authMessage hashes (srv.respond hashes)
    (answer_switch account.plugin hlen) rfl
  obtain ⟨sys2, hs2, h2⟩ := h1.authResponse hashes (srv.respond hashes)
  let response := answered hashes account.plugin p.params.password srv.challenge
  exact .step hs1 (.step hs2 (comesTo_checked
    (p := { p with auth := ⟨some account.plugin, response⟩ }) hw rfl rfl h2))

lemma handshakeResponse_length (p : HandshakeProcessor) (buffer : Bytes) :
    32 < (serializeMessage p.handshakeResponse p.negotiatedCaps buffer).length := by
  rw [serializeMessage_eq]
  simp only [Serializable.serialize, List.length_append, serializeInt4_length,
    serializeInt1_length, List.length_replicate, serializeStringNull, List.length_singleton]
  omega

lemma sslRequest_length (p : HandshakeProcessor) (buffer : Bytes) :
    (serializeMessage p.sslRequest p.negotiatedCaps buffer).length = 32 := by
  rw [serializeMessage_eq]
  simp only [Serializable.serialize, List.length_append, serializeInt4_length,
    serializeInt1_length, List.length_replicate]

end ComesTo

/-! ### From the greeting on -/

section Decided

variable {hashes : Hashes} {srv : AuthServer} {params : ConnectionParams}
variable {sys : System ServerState}

/-- What the client is with a server that it supports. -/
def greetedProcessor (hashes : Hashes) (srv : AuthServer) (params : ConnectionParams)
    (plugin : AuthenticationPlugin) : HandshakeProcessor :=
  ⟨params, srv.greeting.capabilities.and (offeredCaps params),
    ⟨some plugin, answered hashes plugin params.password (greetingChallenge srv.greeting)⟩⟩

lemma greetedProcessor_negotiated (h : srv.Suits params) (plugin : AuthenticationPlugin) :
    Negotiated params srv.greeting.packet (greetedProcessor hashes srv params plugin) :=
  ⟨h.capabilities, rfl, rfl⟩

lemma greetedProcessor_useSsl (h : srv.Suits params) (plugin : AuthenticationPlugin) :
    (greetedProcessor hashes srv params plugin).useSsl = srv.usesSsl params := by
  rw [Bool.eq_iff_iff, (greetedProcessor_negotiated h plugin).useSsl_iff, usesSsl,
    decide_eq_true_iff]
  rfl

lemma processHandshake_greeting (h : srv.Suits params) {plugin : AuthenticationPlugin}
    (hplugin : srv.greeting.authPluginName = plugin.name) (info : ErrorInfo) :
    (HandshakeProcessor.new params).processHandshake hashes srv.greeting.message info =
      (.success, greetedProcessor hashes srv params plugin, info) := by
  have hmandatory : srv.greeting.capabilities.has Capabilities.clientPluginAuth = true := by
    refine has_of_hasAll h.capabilities ?_ (by decide)
    unfold requiredCaps conditionalCapability
    generalize decide (params.database ≠ []) = withDb
    generalize decide (params.ssl = .require) = requireSsl
    revert withDb requireSsl
    decide
  have hd : deserializeHandshake srv.greeting.message info =
      (.success, srv.greeting.packet, info) := by
    rw [Greeting.message, deserializeHandshake_version10,
      deserializeMessage_ok (srv.greeting.packet_delimits hmandatory).reads.exact]
  have hcaps : srv.greeting.packet.capabilities.hasAll (requiredCaps params) = true :=
    h.capabilities
  have hc : (HandshakeProcessor.new params).processCapabilities srv.greeting.packet =
      (.success, ⟨params, srv.greeting.capabilities.and (offeredCaps params), .new⟩) := by
    rw [processCapabilities]
    simp only [new, hcaps, Bool.not_true, Bool.false_eq_true, if_false]
    rfl
  have hname : srv.greeting.packet.authPluginName = plugin.name := hplugin
  have hdata : srv.greeting.packet.authPluginData = greetingChallenge srv.greeting := rfl
  rw [HandshakeProcessor.processHandshake, hd]
  simp only [hc, success_failed, Bool.false_eq_true, if_false, calculate, hname, hdata,
    calculate_answered _ h.greetingChallenge]
  rfl

/-- The server reads in a response what the client has. -/
lemma respond_response (h : srv.Suits params) (plugin : AuthenticationPlugin) (buffer : Bytes) :
    let p := greetedProcessor hashes srv params plugin
    srv.respond hashes .greeted (serializeMessage p.handshakeResponse p.negotiatedCaps buffer) =
      match srv.accounts params.username with
      | none => srv.deny
      | some account =>
        if plugin = account.plugin then
          srv.check hashes params.username account (greetingChallenge srv.greeting)
            p.auth.response.bytes
        else ([srv.switchMessage account.plugin], .switched params.username account) := by
  intro p
  have hn := @greetedProcessor_negotiated hashes srv params h plugin
  have hname : NoNul plugin.name := by cases plugin <;> decide
  have hr : p.auth.response.bytes.length < 2 ^ 64 := by
    change (answered hashes plugin params.password _).bytes.length < _
    rw [answered]
    split_ifs
    · exact Nat.two_pow_pos 64
    · cases plugin with
      | mysqlNativePassword =>
        exact (native_length hashes params.password _).trans_lt (by decide)
      | cachingSha2Password =>
        exact (cachingSha2_length hashes params.password _).trans_lt (by decide)
  have hreads := @handshakeResponse_reads p h.username h.database hname hr hn.mandatory
  have hinj (a : AuthenticationPlugin) : p.auth.pluginName = a.name ↔ plugin = a := by
    refine ⟨fun he => ?_, fun he => by rw [← he]; rfl⟩
    have hf := findPlugin_name plugin
    rw [show plugin.name = a.name from he, findPlugin_name] at hf
    exact (Option.some.inj hf).symm
  rw [respond, if_neg (Nat.ne_of_gt (handshakeResponse_length p buffer)), serializeMessage_eq,
    hreads.exact]
  simp only [Option.some.injEq, hinj]
  rfl

lemma comesTo_response (h : srv.Suits params) {plugin : AuthenticationPlugin}
    (hplugin : srv.greeting.authPluginName = plugin.name) {o : AuthResult} {buffer : Bytes}
    {tls : Bool}
    (hat : sys.At ⟨.response, greetedProcessor hashes srv params plugin, o⟩ .greeted [] buffer tls) :
    ComesTo hashes srv sys (srv.decision hashes params) := by
  obtain ⟨sys1, hs1, h1⟩ := hat.response hashes (srv.respond hashes)
  refine .step hs1 ?_
  rw [respond_response h] at h1
  rw [decision]
  cases ha : srv.accounts params.username with
  | none =>
    simp only [ha] at h1
    exact comesTo_deny h.denied h1
  | some account =>
    have hinj : srv.greeting.authPluginName = account.plugin.name ↔ plugin = account.plugin := by
      refine ⟨fun he => ?_, fun he => by rw [hplugin, he]⟩
      have hf := findPlugin_name plugin
      rw [← hplugin, he, findPlugin_name] at hf
      exact (Option.some.inj hf).symm
    simp only [ha] at h1 ⊢
    rw [challengeFor, ← @greetedProcessor_useSsl hashes srv params h plugin]
    by_cases hp : plugin = account.plugin
    · -- the response already answers the challenge of the greeting
      rw [if_pos (hinj.mpr hp)]
      simp only [if_pos hp] at h1
      subst hp
      exact comesTo_checked (p := greetedProcessor hashes srv params account.plugin) h.denied rfl rfl
        h1
    · -- the account has the other plugin, and its own challenge
      rw [if_neg (mt hinj.mp hp)]
      simp only [if_neg hp] at h1
      exact comesTo_switched h.denied h.challenge h1

lemma comesTo_start (h : srv.Suits params) :
    ComesTo hashes srv (.start params srv.greeting.message .greeted)
      (srv.decision hashes params) := by
  obtain ⟨plugin, hplugin⟩ := h.plugin
  obtain ⟨sys1, hs1, h1⟩ := (at_start params srv.greeting.message ServerState.greeted).greeting
    hashes (srv.respond hashes) (processHandshake_greeting h hplugin _)
  refine .step hs1 ?_
  cases hs : (greetedProcessor hashes srv params plugin).useSsl with
  | false =>
    rw [hs] at h1
    exact comesTo_response h hplugin h1
  | true =>
    -- the request for TLS is not answered in the protocol: the server waits on
    rw [hs] at h1
    obtain ⟨sys2, hs2, h2⟩ := h1.sslRequest hashes (srv.respond hashes)
    rw [respond, if_pos (sslRequest_length _ _)] at h2
    obtain ⟨sys3, hs3, h3⟩ := h2.sslHandshake hashes (srv.respond hashes)
    exact .step hs2 (.step hs3 (comesTo_response h hplugin h3))

variable (hashes srv params)

/-- What the two come to, and what the handshake comes to where all that the server sent arrives. -/
structure ComesOnlyTo (r : Except ErrorCode Unit) : Prop where
  ends : ∃ sys, Converse hashes (srv.respond hashes)
    (.start params srv.greeting.message .greeted) sys r
  only : ∀ sys r', Converse hashes (srv.respond hashes)
    (.start params srv.greeting.message .greeted) sys r' →
    r' = r ∧ (handshake hashes params (.fresh sys.session)).1 = r ∧
      (sys.server = .authenticated ↔ r = .ok ())

variable {hashes srv params}

lemma ComesTo.only {r : Except ErrorCode Unit}
    (h : ComesTo hashes srv (.start params srv.greeting.message .greeted) r) :
    ComesOnlyTo hashes srv params r := by
  obtain ⟨sys, hc, hiff, -⟩ := h
  refine ⟨⟨sys, hc⟩, fun sys' r' hc' => ?_⟩
  obtain ⟨rfl, rfl⟩ := hc.unique hc'
  exact ⟨rfl, hc.handshake, hiff⟩

/-- **A handshake with a server that authenticates its users is decided by what that keeps**: the
two always come to an end, and only to this one, whatever the digests are; the client succeeds
exactly where the server has accepted it, and the code does what the two come to. -/
theorem handshake_decided (h : srv.Suits params) :
    ComesOnlyTo hashes srv params (srv.decision hashes params) := (comesTo_start h).only

/-- A digest of a digest of the password is kept, or none of a blank one. -/
def Keeps (hashes : Hashes) (account : Account) (password : Bytes) : Prop :=
  account.stored = if password = [] then none else some (storedOf hashes account.plugin password)

/-- Whether the password itself has to be sent. -/
def NeedsFullAuth (srv : AuthServer) (params : ConnectionParams) (account : Account) : Prop :=
  account.plugin = .cachingSha2Password ∧ params.password ≠ [] ∧
    srv.cached params.username = false

instance (account : Account) : Decidable (NeedsFullAuth srv params account) :=
  inferInstanceAs (Decidable (_ ∧ _ ∧ _))

/-- What the password of an account comes to. -/
lemma decision_of_keeps {account : Account} (ha : srv.accounts params.username = some account)
    (hk : Keeps hashes account params.password) :
    srv.decision hashes params =
      if NeedsFullAuth srv params account ∧ srv.usesSsl params = false then
        .error (makeErrorCode .authPluginRequiresSsl)
      else .ok () := by
  rw [decision, ha]
  simp only [verdict]
  rw [hk]
  by_cases hp : params.password = []
  · have hn : ¬ (NeedsFullAuth srv params account ∧ srv.usesSsl params = false) :=
      fun h => h.1.2.1 hp
    rw [if_pos hp, if_neg hn]
    exact if_pos hp
  · rw [if_neg hp]
    simp only [if_neg hp]
    generalize srv.challengeFor account = challenge
    have hpasses : Passes hashes account.plugin (storedOf hashes account.plugin params.password)
        params.password challenge := Or.inl rfl
    rcases hplugin : account.plugin with _ | _
    · have hn : ¬ (NeedsFullAuth srv params account ∧ srv.usesSsl params = false) := fun h =>
        nomatch hplugin.symm.trans h.1.1
      rw [if_neg hn]
      exact if_pos (Or.inl rfl)
    · have hfull : NeedsFullAuth srv params account ↔ srv.cached params.username = false :=
        ⟨fun h => h.2.2, fun h => ⟨hplugin, hp, h⟩⟩
      rw [hplugin] at hpasses
      simp only [hpasses, and_true, if_true, hfull]
      cases srv.cached params.username <;> cases srv.usesSsl params <;> rfl

/-- **The password of the account is accepted**, whatever the digests and the challenges are, by
either plugin and behind a switch; only where the password itself has to be sent, and TLS is not in
use, does the client refuse. -/
theorem password_accepted (h : srv.Suits params) {account : Account}
    (ha : srv.accounts params.username = some account)
    (hk : Keeps hashes account params.password) :
    ComesOnlyTo hashes srv params
      (if NeedsFullAuth srv params account ∧ srv.usesSsl params = false then
        .error (makeErrorCode .authPluginRequiresSsl)
      else .ok ()) := by
  rw [← decision_of_keeps ha hk]
  exact (comesTo_start h).only

end Decided

/-! ### Users with TLS -/

/-- A server with every capability. Its user has another plugin than the greeting names. -/
def switchingServer : AuthServer where
  greeting := ⟨ascii "8.0", 1, List.replicate 8 7, 0, 0xffffffff, 255, 2, 21, List.replicate 10 0,
    List.replicate 12 9, ascii "mysql_native_password", by decide, by decide, rfl, rfl, rfl⟩
  challenge := List.replicate 20 5
  accounts username := if username = ascii "me" then
    some ⟨.cachingSha2Password, some (List.replicate 32 0)⟩ else none
  cached _ := false
  accepted := ⟨0, 0, 2, 0, []⟩
  denied := ⟨1045, [0x23], List.replicate 5 0x30, ascii "Access denied"⟩

def secretParams : ConnectionParams := ⟨ascii "me", ascii "secret", [], ⟨0⟩, .enable⟩

lemma switchingServer_suits : switchingServer.Suits secretParams where
  username := by decide
  database := by decide
  capabilities := by decide
  plugin := ⟨.mysqlNativePassword, rfl⟩
  greetingChallenge := rfl
  challenge := rfl
  denied := ⟨rfl, rfl, by decide⟩

/-- The password is sent behind the switch. -/
theorem password_accepted_switching :
    ComesOnlyTo zeroHashes switchingServer secretParams (.ok ()) :=
  password_accepted switchingServer_suits rfl rfl

/-- Digests by the sums of the bytes. -/
def sumHashes : Hashes :=
  ⟨fun b => .replicate 20 (b.foldr UInt8.add 0), fun b => .replicate 32 (b.foldr UInt8.add 0)⟩

/-- Its user has the plugin that the greeting names. -/
def nativeServer : AuthServer :=
  { switchingServer with
    accounts := fun username => if username = ascii "me" then
      some ⟨.mysqlNativePassword, some (nativeStored sumHashes (ascii "secret"))⟩ else none }

def otherParams : ConnectionParams := { secretParams with password := ascii "other" }

/-- The password is accepted, and another one is not. -/
theorem handshake_decided_sums :
    ComesOnlyTo sumHashes nativeServer secretParams (.ok ()) ∧
      ComesOnlyTo sumHashes nativeServer otherParams nativeServer.deniedResult := by
  have hsecret : nativeServer.decision sumHashes secretParams = .ok () := rfl
  have hother : nativeServer.decision sumHashes otherParams = nativeServer.deniedResult := rfl
  rw [← hsecret, ← hother]
  have hs := switchingServer_suits
  exact ⟨handshake_decided ⟨hs.username, hs.database, hs.capabilities, hs.plugin,
      hs.greetingChallenge, hs.challenge, hs.denied⟩,
    handshake_decided ⟨hs.username, hs.database, hs.capabilities, hs.plugin, hs.greetingChallenge,
      hs.challenge, hs.denied⟩⟩

end MysqlAsio.AuthServers
