import Mathlib
import SaltyRtc.Protocol.Inversion

/-!
# What a client is configured with

`InitiatorSignaling::new` and `ResponderSignaling::new` (`src/protocol/mod.rs`) store our
permanent key pair, the server's permanent key if the user gave one, and the auth provider: an
auth token, or the peer's trusted key. No code writes the key pair or the server's key again, and
the auth provider is written once, to `None`, where the token is used up: in `handle_token` at the
initiator, in `send_token_and_key` at the responder.

`Config.Follows k k'` says that `k'` is `k`, or `k` with its token used up. Every call of
`handle_message` that returns `Ok` moves the configuration along it (`ConfigRole.handleMessage`),
and so does every run. The argument is made once for both roles from what a `ConfigRole` records
of a role's own code.
-/

namespace SaltyRtc

open Std.Do Signaling Handlers

set_option mvcgen.warning false

/-- What `new` stores and `handle_message` never writes, but to use up an auth token: our
permanent key pair, the server's permanent key, and the auth provider. -/
structure Config where
  permanentKeypair : KeyPair
  serverPermanentKey : Option PublicKey
  authProvider : Option AuthProvider

/-- The configuration held in the common data. -/
def Common.config (c : Common) : Config :=
  ⟨c.permanentKeypair, c.server.permanentKey, c.authProvider⟩

namespace Config

/-- The configuration `k'` is `k`, or `k` with its auth token used up. -/
def Follows (k k' : Config) : Prop :=
  k' = k ∨ ∃ t, k.authProvider = some (.token t) ∧ k' = { k with authProvider := none }

namespace Follows

variable {k k' k'' : Config}

@[refl, simp] lemma refl (k : Config) : Follows k k := .inl rfl

lemma trans (h : Follows k k') (h' : Follows k' k'') : Follows k k'' := by
  rcases h with rfl | ⟨t, ht, rfl⟩
  · exact h'
  · -- nothing follows a used-up token but itself
    rcases h' with rfl | ⟨t', ht', -⟩
    · exact .inr ⟨t, ht, rfl⟩
    · cases ht'

lemma permanentKeypair_eq (h : Follows k k') : k'.permanentKeypair = k.permanentKeypair := by
  rcases h with rfl | ⟨t, -, rfl⟩ <;> rfl

lemma serverPermanentKey_eq (h : Follows k k') : k'.serverPermanentKey = k.serverPermanentKey := by
  rcases h with rfl | ⟨t, -, rfl⟩ <;> rfl

/-- A configuration without an auth token is kept. -/
lemma eq_of_not_token (h : Follows k k') (hk : ∀ t, k.authProvider ≠ some (.token t)) :
    k' = k := by
  rcases h with h | ⟨t, ht, -⟩
  · exact h
  · exact absurd ht (hk t)

end Follows

end Config

/-! ## For any role -/

/-- One call of `handle_message` that returned `Ok`. -/
def Handlers.Returns {σ : Type} [Handlers σ] (env : Env) (s s' : σ) : Prop :=
  ∃ bbox actions, handleMessage env bbox s = .ok actions s'

/-- A run of calls without a handshake error is a run of calls that returned. -/
lemma Handlers.returns_of_reachable {σ : Type} [Handlers σ] {env : Env} {s₀ s : σ}
    (hs : Reach.Reachable (OkStep env) (· = s₀) s) : Relation.ReflTransGen (Returns env) s₀ s := by
  induction hs with
  | init h =>
    subst h
    exact .refl
  | step bbox _ hstep ih =>
    obtain ⟨actions, h, -⟩ := hstep
    exact ih.tail ⟨bbox, actions, h⟩

/-- What a role's own code does to the configuration: its nonce checks and its write-back of a
peer's CSN and cookie keep it, and each of its handlers keeps it or uses up the auth token. -/
structure ConfigRole (σ : Type) [Handlers σ] (env : Env) : Prop where
  destination : ∀ nonce (s : σ),
    (common (validateNonceDestination nonce s).state).config = (common s).config
  setPeer : ∀ (s : σ) addr csnPair cookiePair,
    (common (setPeerWithAddress s addr csnPair cookiePair)).config = (common s).config
  serverAuthImpl : ∀ msg (s : σ) actions s', handleServerAuthImpl env msg s = .ok actions s' →
    (common s).config.Follows (common s').config
  newInitiator : ∀ (s : σ) actions s', handleNewInitiator env s = .ok actions s' →
    (common s).config.Follows (common s').config
  newResponder : ∀ msg (s : σ) actions s', handleNewResponder env msg s = .ok actions s' →
    (common s).config.Follows (common s').config
  disconnected : ∀ msg (s : σ) actions s', handleDisconnected msg s = .ok actions s' →
    (common s).config.Follows (common s').config
  peer : ∀ obox (s : σ) actions s', handlePeerMessage env obox s = .ok actions s' →
    (common s).config.Follows (common s').config

namespace ConfigRole

variable {σ : Type} [Handlers σ] {env : Env}

/-- `handle_server_message`: `server-hello` and the end of `server-auth` write only the server's
session key, its handshake state, our CSN towards it and the signaling state. -/
lemma handleServerMessage (C : ConfigRole σ env) {obox : OpenBox Message}
    {nonceClone : Option Nonce} {s s' : σ} {actions : List HandleAction}
    (h : handleServerMessage env obox nonceClone s = .ok actions s') :
    (common s).config.Follows (common s').config := by
  rcases handleServerMessage_eq_ok env h with ⟨msg, -, -, hhello⟩ |
    ⟨msg, -, -, hauth⟩ | ⟨-, ⟨-, hinit⟩ | ⟨msg, -, hresp⟩ | ⟨msg, -, hdisc⟩⟩
  · obtain ⟨-, ours, rfl⟩ := EStateM.of_triple (handleServerHello_spec env msg s) rfl hhello
    simp only [common_setCommon]
    rfl
  · obtain ⟨-, s₁, himpl, -, rfl⟩ :=
      EStateM.of_triple (handleServerAuth_spec env msg nonceClone s) rfl hauth
    simp only [common_setCommon]
    exact C.serverAuthImpl msg s actions s₁ himpl
  · exact C.newInitiator s actions s' hinit
  · exact C.newResponder msg s actions s' hresp
  · exact C.disconnected msg s actions s' hdisc

/-- Every call of `handle_message` that returns `Ok` keeps the configuration or uses up the auth
token. -/
theorem handleMessage (C : ConfigRole σ env) (R : RoleInv σ env) {bbox : ByteBox} {s s' : σ}
    {actions : List HandleAction} (h : Handlers.handleMessage env bbox s = .ok actions s') :
    (common s).config.Follows (common s').config := by
  obtain ⟨s₁, hcheck, hrest⟩ := EStateM.of_triple (handleMessage_spec env bbox s) rfl h
  -- the nonce check keeps the configuration, whether it passes or drops the message
  have hview : (common s₁).config = (common s).config :=
    RoleInv.validateNonce_view (fun s => (common s).config) R C.destination C.setPeer hcheck
  rw [← hview]
  rcases hrest with rfl | ⟨-, obox, -, hserver⟩ | hpeer
  · exact .refl _
  · exact C.handleServerMessage hserver
  · rcases EStateM.of_triple (handleHandshakePeerMessage_spec env bbox s₁) rfl hpeer with
      ⟨-, ours, rfl⟩ | ⟨obox, -, -, ⟨-, -, hserver⟩ | hhandle⟩
    · -- a `key` message the initiator cannot open only advances our CSN towards the server
      simp only [setServerOurs, common_setCommon]
      rfl
    · exact C.handleServerMessage hserver
    · exact C.peer obox s₁ actions s' hhandle

/-- Over any run, the configuration moves along `Follows`. -/
lemma reflTransGen (C : ConfigRole σ env) (R : RoleInv σ env) {s t : σ}
    (h : Relation.ReflTransGen (Returns env) s t) : (common s).config.Follows (common t).config := by
  induction h with
  | refl => exact .refl _
  | tail _ hstep ih =>
    obtain ⟨bbox, actions, hcall⟩ := hstep
    exact ih.trans (C.handleMessage R hcall)

end ConfigRole

/-! ## The initiator -/

namespace InitiatorSignaling

variable (env : Env)

/-- `new` stores the configuration it is given: the responder's trusted key if there is one, the
auth token otherwise. -/
lemma new_config {permanentKeypair : KeyPair} {tasks : Tasks}
    {responderTrustedPubkey serverPublicPermanentKey : Option PublicKey}
    {pingInterval : Option UInt64} {token : AuthToken} {s : InitiatorSignaling}
    (h : new env permanentKeypair tasks responderTrustedPubkey serverPublicPermanentKey pingInterval
      token = some s) :
    s.common.config = ⟨permanentKeypair, serverPublicPermanentKey,
      some (responderTrustedPubkey.elim (.token token) .trustedKey)⟩ := by
  simp only [new, Option.map_eq_some_iff] at h
  obtain ⟨_, -, rfl⟩ := h
  cases responderTrustedPubkey <;> rfl

/-- Dropping a responder keeps the configuration. -/
theorem dropOldestInactiveResponder_config_spec (k : Config) :
    ⦃fun s => ⌜s.common.config = k⌝⦄ dropOldestInactiveResponder env
    ⦃⇓? _ s => ⌜s.common.config = k⌝⦄ := by
  mvcgen [dropOldestInactiveResponder]
  rename_i s hk _ _ _ _ _ _ hdrop
  -- the `drop-responder` message only advances our CSN towards the server
  obtain ⟨ours, rfl⟩ := hdrop
  exact hk

/-- Registering a responder reads the auth provider, to give a trusted key to the new context,
and keeps the configuration. -/
theorem processNewResponder_config_spec (address : Address) (k : Config) :
    ⦃fun s => ⌜s.common.config = k⌝⦄ processNewResponder env address
    ⦃⇓? _ s => ⌜s.common.config = k⌝⦄ := by
  have hdrop := dropOldestInactiveResponder_config_spec env k
  mvcgen [processNewResponder, hdrop]

theorem handleServerAuthImpl_config_spec (msg : ServerAuth) (k : Config) :
    ⦃fun s => ⌜s.common.config = k⌝⦄ handleServerAuthImpl env msg
    ⦃⇓? _ s => ⌜s.common.config = k⌝⦄ := by
  have hloop := fun responders => EStateM.filterMapM_inv (fun s => s.common.config = k)
    (processNewResponder env) responders fun addr _ => processNewResponder_config_spec env addr k
  mvcgen [handleServerAuthImpl, liftResult, hloop]

theorem handleNewResponder_config_spec (msg : NewResponder) (k : Config) :
    ⦃fun s => ⌜s.common.config = k⌝⦄ handleNewResponder env msg
    ⦃⇓? _ s => ⌜s.common.config = k⌝⦄ := by
  have hnew := processNewResponder_config_spec env msg.id k
  mvcgen [handleNewResponder, hnew]

/-- `handle_auth` keeps the configuration, whether it finds a shared task or not. -/
theorem handleAuth_config_spec (msg : Auth) (src : Address) (k : Config) :
    ⦃fun s => ⌜s.common.config = k⌝⦄ handleAuth env msg src
    ⦃⇓? _ s => ⌜s.common.config = k⌝⦄ := by
  mvcgen [handleAuth, liftAddress, liftResult, encodeCloseMessage_some_spec]
  all_goals subst_vars
  -- every path but the last writes only the tasks, the chosen task and the responders
  all_goals try rfl
  obtain ⟨-, rfl⟩ := Common.setSignalingState_eq_ok.mp ‹Common.setSignalingState _ _ = .ok _›
  -- the drops of the other responders advance our CSN towards the server only
  obtain ⟨ours, rfl⟩ := ‹∃ ours, _ = setServerOurs _ ours›
  rfl

variable {env}

/-- `handle_token` uses up the auth token: it needs one and leaves none. -/
lemma handleToken_config {msg : Token} {src : Address} {s s' : InitiatorSignaling}
    {actions : List HandleAction} (h : handleToken msg src s = .ok actions s') :
    ∃ t, s.common.authProvider = some (.token t) ∧
      s'.common.config = { s.common.config with authProvider := none } := by
  simp only [handleToken, updateResponder, EStateM.bind_apply, EStateM.get_apply] at h
  cases hr : s.responders.lookup src with
  | none => simp [hr, responderNotFound] at h
  | some r =>
    simp only [hr] at h
    split_ifs at h with hpk
    · simp at h
    · -- the auth provider is read after the context is updated, from the same common data
      rcases ha : s.common.authProvider with _ | (t | k) <;>
        simp only [ha, EStateM.bind_apply, EStateM.modify_apply, EStateM.get_apply,
          EStateM.throw_apply, reduceCtorEq] at h
      simp only [EStateM.set_apply, EStateM.pure_apply, EStateM.Result.ok.injEq] at h
      obtain ⟨-, rfl⟩ := h
      exact ⟨t, rfl, rfl⟩

variable (env)

/-- The initiator's code keeps the configuration, except `handle_token`, which uses up the
token. -/
lemma configRole : ConfigRole InitiatorSignaling env where
  destination nonce s := by
    show (validateNonceDestination nonce s).state.common.config = s.common.config
    rcases (validateNonceDestination_cases nonce s).2 with hsame | ⟨-, -, hassigned⟩
    · rw [hsame]
    · rw [hassigned]
      rfl
  setPeer s addr csnPair cookiePair := by
    show (setPeerWithAddress s addr csnPair cookiePair).common.config = s.common.config
    unfold setPeerWithAddress
    split
    · rfl
    · rfl
    · split_ifs
      · rfl
      · split <;> rfl
  serverAuthImpl msg s actions s' h :=
    .inl (EStateM.of_triple (handleServerAuthImpl_config_spec env msg _) rfl h)
  newInitiator s actions s' h := (EStateM.of_triple handleNewInitiator_spec trivial h).elim
  newResponder msg s actions s' h :=
    .inl (EStateM.of_triple (handleNewResponder_config_spec env msg _) rfl h)
  disconnected msg s actions s' h := by
    rw [EStateM.of_triple (handleDisconnected_spec msg s) rfl h]
  peer obox s actions s' h := by
    obtain ⟨r, -, ⟨msg, -, -, htoken⟩ | ⟨msg, -, -, hkey⟩ | ⟨msg, -, -, hauth⟩⟩ :=
      handlePeerMessage_eq_ok env h
    · obtain ⟨t, ht, hconfig⟩ := handleToken_config htoken
      exact .inr ⟨t, ht, hconfig⟩
    · obtain ⟨r', csnPair, -, -, -, rfl⟩ := EStateM.of_triple (handleKey_spec env msg _ s) rfl hkey
      exact .refl _
    · exact .inl (EStateM.of_triple (handleAuth_config_spec env msg _ _) rfl hauth)

end InitiatorSignaling

/-! ## The responder -/

namespace ResponderSignaling

variable {env : Env}

/-- `new` stores the configuration it is given: the auth token if there is one, the initiator's
key as trusted otherwise. -/
lemma new_config {permanentKeypair : KeyPair} {initiatorPubkey : PublicKey}
    {authToken : Option AuthToken} {serverPublicPermanentKey : Option PublicKey} {tasks : Tasks}
    {pingInterval : Option UInt64} {s : ResponderSignaling}
    (h : new env permanentKeypair initiatorPubkey authToken serverPublicPermanentKey tasks
      pingInterval = some s) :
    s.common.config = ⟨permanentKeypair, serverPublicPermanentKey,
      some (authToken.elim (.trustedKey initiatorPubkey) .token)⟩ := by
  simp only [new, Option.bind_eq_bind, Option.bind_eq_some_iff, Option.pure_def,
    Option.some.injEq] at h
  obtain ⟨_, -, _, -, rfl⟩ := h
  cases authToken <;> rfl

/-- The next nonce towards the initiator comes from our identity to the initiator's address, and
only our CSN towards the initiator advances. -/
lemma nextInitiatorNonce_eq_ok {s s' : ResponderSignaling} {n : Nonce}
    (h : nextInitiatorNonce s = .ok n s') :
    n.destination.isInitiator ∧ ∃ ours,
      s' = { s with initiator := { s.initiator with csnPair := { s.initiator.csnPair with ours } } } := by
  simp only [nextInitiatorNonce, EStateM.bind_apply, EStateM.get_apply, liftAddress, liftResult,
    InitiatorContext.toPeer, Identity.toAddress] at h
  rcases hsrc : s.common.identity.toAddress with _ | src <;>
    simp only [hsrc, EStateM.throw_apply, EStateM.pure_apply, reduceCtorEq] at h
  rcases hinc : s.initiator.csnPair.ours.increment with _ | ⟨csn, ours⟩ <;>
    simp only [hinc, EStateM.throw_apply, EStateM.set_apply, EStateM.pure_apply, reduceCtorEq] at h
  simp only [EStateM.Result.ok.injEq] at h
  obtain ⟨rfl, rfl⟩ := h
  exact ⟨rfl, ours, rfl⟩

/-- `send_token` seals `token`, with our permanent public key, under the auth token, in a nonce to
the initiator. -/
lemma sendToken_eq_ok {t : AuthToken} {s s' : ResponderSignaling} {a : HandleAction}
    (h : sendToken env t s = .ok a s') :
    ∃ n, n.destination.isInitiator ∧ a = .reply (OpenBox.encryptToken env.sodium env.msgpack
      ⟨.token ⟨s.common.permanentKeypair.publicKey⟩, n⟩ t) ∧ s'.common = s.common := by
  simp only [sendToken, EStateM.bind_eq_ok, EStateM.get_apply, EStateM.pure_apply,
    EStateM.Result.ok.injEq] at h
  obtain ⟨_, _, ⟨rfl, rfl⟩, n, s₁, hn, rfl, rfl⟩ := h
  obtain ⟨hdest, ours, rfl⟩ := nextInitiatorNonce_eq_ok hn
  exact ⟨n, hdest, rfl, rfl⟩

/-- `send_key` seals `key` with our permanent key pair. -/
lemma sendKey_eq_ok {s s' : ResponderSignaling} {a : HandleAction}
    (h : sendKey env s = .ok a s') :
    ∃ ob, a = .reply (OpenBox.encrypt env.sodium env.msgpack ob s.common.permanentKeypair
      s.initiator.permanentKey) ∧ s'.common = s.common := by
  simp only [sendKey, EStateM.bind_eq_ok, EStateM.get_apply, EStateM.pure_apply,
    EStateM.Result.ok.injEq] at h
  obtain ⟨_, _, ⟨rfl, rfl⟩, n, s₁, hn, rfl, rfl⟩ := h
  obtain ⟨-, ours, rfl⟩ := nextInitiatorNonce_eq_ok hn
  exact ⟨_, rfl, rfl⟩

/-- `send_token_and_key` sends `token`, sealed with the auth token, and uses the token up, when
the auth provider is a token; with a trusted key it sends `key` only and keeps the configuration.
The `key` is sealed with our permanent key pair. -/
lemma sendTokenAndKey_eq_ok {s s' : ResponderSignaling} {actions : List HandleAction}
    (h : sendTokenAndKey env s = .ok actions s') :
    ∃ ob kp k, ((∃ t n, n.destination.isInitiator ∧ s.common.authProvider = some (.token t) ∧
        s'.common.config = { s.common.config with authProvider := none } ∧
        actions = [.reply (OpenBox.encryptToken env.sodium env.msgpack
          ⟨.token ⟨s.common.permanentKeypair.publicKey⟩, n⟩ t),
          .reply (OpenBox.encrypt env.sodium env.msgpack ob kp k)]) ∨
      (∃ key, s.common.authProvider = some (.trustedKey key) ∧
        s'.common.config = s.common.config ∧
        actions = [.reply (OpenBox.encrypt env.sodium env.msgpack ob kp k)])) := by
  simp only [sendTokenAndKey, EStateM.bind_eq_ok, EStateM.get_apply, EStateM.Result.ok.injEq] at h
  obtain ⟨_, _, ⟨rfl, rfl⟩, h⟩ := h
  rcases ha : s.common.authProvider with _ | (t | key) <;>
    simp only [ha, EStateM.bind_eq_ok, EStateM.set_apply, EStateM.pure_apply, EStateM.throw_apply,
      EStateM.Result.ok.injEq, reduceCtorEq, false_and, exists_false] at h
  · -- a token: it is used up, then `token` and `key` go out
    obtain ⟨_, _, ⟨-, rfl⟩, tok, s₁, htok, _, _, ⟨rfl, rfl⟩, key, s₂, hkey, rfl, rfl⟩ := h
    obtain ⟨n, hdest, rfl, hc₁⟩ := sendToken_eq_ok htok
    obtain ⟨ob, rfl, hc₂⟩ := sendKey_eq_ok hkey
    refine ⟨_, _, _, .inl ⟨t, n, hdest, rfl, ?_, rfl⟩⟩
    rw [hc₂, hc₁]
    rfl
  · -- a trusted key: `key` only
    obtain ⟨_, _, ⟨rfl, rfl⟩, k, s₁, hkey, rfl, rfl⟩ := h
    obtain ⟨ob, rfl, hc⟩ := sendKey_eq_ok hkey
    exact ⟨_, _, _, .inr ⟨key, rfl, by rw [hc], rfl⟩⟩

lemma sendTokenAndKey_follows {s s' : ResponderSignaling} {actions : List HandleAction}
    (h : sendTokenAndKey env s = .ok actions s') :
    s.common.config.Follows s'.common.config := by
  obtain ⟨-, -, -, ⟨t, n, -, ht, hconfig, -⟩ | ⟨key, -, hconfig, -⟩⟩ := sendTokenAndKey_eq_ok h
  · exact .inr ⟨t, ht, hconfig⟩
  · exact .inl hconfig

/-- `handle_server_auth_impl` opens the peer handshake with `send_token_and_key` when the
initiator is connected, and changes nothing otherwise. -/
lemma handleServerAuthImpl_eq_ok_sent {msg : ServerAuth} {s s' : ResponderSignaling}
    {actions : List HandleAction} (h : handleServerAuthImpl env msg s = .ok actions s') :
    (s' = s ∧ actions = [.event (.serverHandshakeDone false)]) ∨
      ∃ sent s₁, sendTokenAndKey env s = .ok sent s₁ ∧
        s' = { s₁ with initiator := { s₁.initiator with handshakeState := .keySent } } ∧
        actions = sent ++ [.event (.serverHandshakeDone true)] := by
  unfold handleServerAuthImpl at h
  split_ifs at h
  · simp at h
  · rcases hc : msg.initiatorConnected with _ | _ | _
    · simp [hc] at h
    · simp only [hc, EStateM.pure_apply, EStateM.Result.ok.injEq] at h
      obtain ⟨rfl, rfl⟩ := h
      exact .inl ⟨rfl, rfl⟩
    · simp only [hc, EStateM.bind_apply] at h
      cases hsend : sendTokenAndKey env s with
      | error e s₁ => simp [hsend] at h
      | ok sent s₁ =>
        simp only [hsend, EStateM.modify_apply, EStateM.pure_apply, EStateM.Result.ok.injEq] at h
        obtain ⟨rfl, rfl⟩ := h
        exact .inr ⟨sent, s₁, rfl, rfl, rfl⟩

/-- `handle_new_initiator` replaces the initiator's context, then runs `send_token_and_key`. -/
lemma handleNewInitiator_eq_ok_sent {s s' : ResponderSignaling} {actions : List HandleAction}
    (h : handleNewInitiator env s = .ok actions s') :
    ∃ c s₁, sendTokenAndKey env { s with initiator := c, drawn := s.drawn + 1 } = .ok actions s₁ ∧
      s' = { s₁ with initiator := { s₁.initiator with handshakeState := .keySent } } := by
  simp only [handleNewInitiator, EStateM.bind_apply, EStateM.get_apply] at h
  cases hnew : InitiatorContext.new (env.draw s.drawn) s.initiator.permanentKey with
  | none => simp [hnew] at h
  | some c =>
    simp only [hnew, EStateM.set_apply, EStateM.bind_apply] at h
    cases hsend : sendTokenAndKey env { s with initiator := c, drawn := s.drawn + 1 } with
    | error e s₁ => simp [hsend] at h
    | ok sent s₁ =>
      simp only [hsend, EStateM.modify_apply, EStateM.pure_apply, EStateM.Result.ok.injEq] at h
      obtain ⟨rfl, rfl⟩ := h
      exact ⟨c, s₁, hsend, rfl⟩

variable (env)

/-- The responder's code keeps the configuration, except `send_token_and_key`, which uses up the
token. -/
lemma configRole : ConfigRole ResponderSignaling env where
  destination nonce s := by
    show (validateNonceDestination nonce s).state.common.config = s.common.config
    rcases (validateNonceDestination_cases nonce s).2 with hsame | ⟨-, -, -, hassigned⟩
    · rw [hsame]
    · rw [hassigned]
      rfl
  setPeer s addr csnPair cookiePair := by
    show (setPeerWithAddress s addr csnPair cookiePair).common.config = s.common.config
    unfold setPeerWithAddress
    split <;> rfl
  serverAuthImpl _ s _ _ h := by
    rcases handleServerAuthImpl_eq_ok_sent h with ⟨rfl, -⟩ | ⟨sent, s₁, hsend, rfl, -⟩
    · exact .refl _
    · -- the context of the initiator moves to `KeySent`, which keeps the common data
      have hfollows := sendTokenAndKey_follows hsend
      exact hfollows
  newInitiator s _ _ h := by
    obtain ⟨c, s₁, hsend, rfl⟩ := handleNewInitiator_eq_ok_sent h
    -- the new context leaves the common data as it was
    have hfollows := sendTokenAndKey_follows hsend
    exact hfollows
  newResponder _ _ _ _ h := (EStateM.of_triple handleNewResponder_spec trivial h).elim
  disconnected msg s actions s' h := by
    rw [EStateM.of_triple (handleDisconnected_spec msg s) rfl h]
  peer obox s actions s' h := by
    rcases handlePeerMessage_eq_ok env h with ⟨msg, -, -, hkey⟩ | ⟨msg, -, -, hauth⟩
    · obtain ⟨-, -, -, -, -, -, hcommon, -⟩ :=
        EStateM.of_triple (handleKey_auth_spec env msg obox.nonce s) rfl hkey
      exact .inl (congrArg Common.config hcommon)
    · obtain ⟨chosen, -, rfl⟩ := EStateM.of_triple (handleAuth_spec env msg s) rfl hauth
      exact .refl _

end ResponderSignaling

end SaltyRtc
