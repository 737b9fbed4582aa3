import Mathlib
import SaltyRtc.Protocol.Config

/-!
# Pinning the server's key

`handle_message` (`src/protocol/mod.rs`) keeps a copy of the nonce of a message from the server
when the message is a `server-auth`, and `handle_server_auth` opens the `signed_keys` of that
message with it when the client knows the server's permanent key. The server handshake becomes
`Done`, and the client enters the peer handshake, in `handle_server_auth` only.

The argument is made once for any role: the nonce check leaves what the server handshake reads
(`serverView`), the server's other messages and the peer's messages keep the server handshake
state and the signaling state, and `server-auth` is handled with the nonce it came with. Each
role only shows that its destination check and its write-back of a peer's CSN and cookie keep
the view.
-/

namespace SaltyRtc

open Std.Do Signaling Handlers

set_option mvcgen.warning false

/-! ## The path of a `server-auth` message -/

namespace Signaling

variable {σ : Type} [Signaling σ] (env : Env)

/-- What the server handshake reads from the common data: the signaling state, the server
handshake state, the server's session and permanent keys, and our permanent key pair. -/
def serverView (s : σ) :
    SignalingState × ServerHandshakeState × Option PublicKey × Option PublicKey × KeyPair :=
  ((common s).signalingState, (common s).server.handshakeState, (common s).server.sessionKey,
    (common s).server.permanentKey, (common s).permanentKeypair)

/-- Decrypting a message of the server reads only the view. -/
lemma decodeServerMessage_of_serverView {s₁ s : σ} (h : serverView s₁ = serverView s)
    (bbox : ByteBox) : decodeServerMessage env s₁ bbox = decodeServerMessage env s bbox := by
  simp only [serverView, Prod.mk.injEq] at h
  obtain ⟨hsig, hhs, hsk, -, hkp⟩ := h
  simp only [decodeServerMessage, hsig, hhs, hsk, hkp]

lemma serverView_setServerOurs (s : σ) (ours : CombinedSequence) :
    serverView (setServerOurs s ours) = serverView s := by
  simp [serverView, setServerOurs]

/-- A call from `s` to `s'` completes the server handshake, or moves the client into the peer
handshake. -/
def EntersPeerHandshake (s s' : σ) : Prop :=
  (common s).server.handshakeState ≠ .done ∧ (common s').server.handshakeState = .done ∨
    (common s).signalingState ≠ .peerHandshake ∧ (common s').signalingState = .peerHandshake

/-- A call that keeps the server handshake state and the signaling state enters nothing. -/
lemma not_entersPeerHandshake {s s' : σ}
    (hhs : (common s').server.handshakeState = (common s).server.handshakeState)
    (hsig : (common s').signalingState = (common s).signalingState) :
    ¬ EntersPeerHandshake s s' := by
  rintro (⟨hne, hdone⟩ | ⟨hne, hpeer⟩)
  · exact hne (hhs ▸ hdone)
  · exact hne (hsig ▸ hpeer)

/-- The call handled, in the server handshake state `ClientInfoSent`, a `server-auth` of the
server whose signed keys, opened with our permanent key pair, `K` and the nonce the message came
with, are the server's session key followed by our permanent public key. -/
def PinnedServerAuth (s : σ) (bbox : ByteBox) (K : PublicKey) : Prop :=
  bbox.nonce.source.isServer ∧ (common s).server.handshakeState = .clientInfoSent ∧
    ∃ msg sk keys, (decodeServerMessage env s bbox).map OpenBox.message = .ok (.serverAuth msg) ∧
      msg.signedKeys = some sk ∧
      sk.decrypt env.sodium (common s).permanentKeypair K bbox.nonce = .ok keys ∧
      (common s).server.sessionKey = some keys.serverPublicSessionKey ∧
      keys.clientPublicPermanentKey = (common s).permanentKeypair.publicKey

end Signaling

namespace Handlers

variable {σ : Type} [Handlers σ] (env : Env)

/-- A `server-auth` handled while the server's permanent key is known came with a nonce, and
its signed keys, opened with our permanent key pair, that key and the nonce, are the server's
session key and our permanent public key. -/
theorem handleServerAuth_pinned_spec (msg : ServerAuth) (nonceClone : Option Nonce) (s₀ : σ)
    {K : PublicKey} (hK : (common s₀).server.permanentKey = some K) :
    ⦃fun s => ⌜s = s₀⌝⦄ (handleServerAuth env msg nonceClone : SignalingM σ (List HandleAction))
    ⦃⇓? _ _ => ⌜∃ nonce sk keys, nonceClone = some nonce ∧ msg.signedKeys = some sk ∧
      sk.decrypt env.sodium (common s₀).permanentKeypair K nonce = .ok keys ∧
      (common s₀).server.sessionKey = some keys.serverPublicSessionKey ∧
      keys.clientPublicPermanentKey = (common s₀).permanentKeypair.publicKey⌝⦄ := by
  have himpl := EStateM.triple_run (handleServerAuthImpl env msg : SignalingM σ (List HandleAction))
  mvcgen [handleServerAuth, modifyCommon, liftResult, liftFault, himpl]
  -- with the server's permanent key: the signed keys opened under it, with the message's nonce
  · rename_i hpk _ _ _ hsk _ hdecrypt _ hsession _ hsame hclient _ _ _ _ _ _
    -- `subst_vars` also puts the nonce the message came with in place of `nonceClone`
    subst_vars
    obtain rfl := Option.some.inj (hpk.symm.trans hK)
    exact ⟨_, _, _, rfl, hsk, hdecrypt, by rw [hsession, not_ne_iff.mp hsame],
      not_ne_iff.mp hclient⟩
  -- without it, against `hK`
  · rename_i hnone _ _ _ _ _ _
    subst_vars
    cases hnone.symm.trans hK

end Handlers

/-! ## Only `server-auth` enters the peer handshake, for any role -/

namespace RoleInv

variable {σ : Type} [Handlers σ] {env : Env}

/-- A message of the server that a role handles after the server handshake keeps the server
handshake state and the signaling state. -/
lemma handleServerMessage_done (R : RoleInv σ env) {obox : OpenBox Message}
    {nonceClone : Option Nonce} {s s' : σ} {actions : List HandleAction} (hs : R.I s)
    (hdone : (common s).server.handshakeState = .done)
    (h : handleServerMessage env obox nonceClone s = .ok actions s') :
    (common s').stage = (common s).stage := by
  rcases handleServerMessage_eq_ok env h with ⟨-, hnew, -⟩ | ⟨-, hinfo, -⟩ |
    ⟨-, ⟨-, hinit⟩ | ⟨msg, -, hresp⟩ | ⟨msg, -, hdisc⟩⟩
  · simp [hdone] at hnew
  · simp [hdone] at hinfo
  · exact (R.newInitiator s actions s' hs hinit).2
  · exact (R.newResponder msg s actions s' hs hresp).2
  · exact (R.disconnected msg s actions s' hs hdisc).2

/-- A call of `handle_message` that completes the server handshake or enters the peer handshake
handled a `server-auth` of the server, with the nonce it came with, after a nonce check that left
the view. Every other path keeps the server handshake state and the signaling state: a dropped
or a task message, `server-hello` (which moves only to `ClientInfoSent`), the server's messages
after the handshake, and the peer's messages, which come in the peer handshake only. -/
theorem handleMessage_serverAuth_of_enters (R : RoleInv σ env)
    (hdest : ∀ nonce (s : σ), serverView (validateNonceDestination nonce s).state = serverView s)
    (hset : ∀ (s : σ) addr csnPair cookiePair,
      serverView (setPeerWithAddress s addr csnPair cookiePair) = serverView s)
    {bbox : ByteBox} {s s' : σ} {actions : List HandleAction} (hs : R.I s)
    (h : handleMessage env bbox s = .ok actions s') (henter : EntersPeerHandshake s s') :
    ∃ s₁ msg, serverView s₁ = serverView s ∧ bbox.nonce.source.isServer ∧
      (common s).server.handshakeState = .clientInfoSent ∧
      (decodeServerMessage env s bbox).map OpenBox.message = .ok (.serverAuth msg) ∧
      handleServerAuth env msg (some bbox.nonce) s₁ = .ok actions s' := by
  obtain ⟨s₁, hcheck, hrest⟩ := EStateM.of_triple (handleMessage_spec env bbox s) rfl h
  have hview : serverView s₁ = serverView s := validateNonce_view serverView R hdest hset hcheck
  have hs₁ : R.I s₁ := (R.leads_validateNonce hs hcheck).1
  have hsig : (common s₁).signalingState = (common s).signalingState := congrArg Prod.fst hview
  have hhs : (common s₁).server.handshakeState = (common s).server.handshakeState :=
    congrArg (fun v => v.2.1) hview
  -- a client in the peer handshake has done the server handshake, and stays in it or moves on
  have hpeer_state : (common s₁).signalingState = .peerHandshake → False := fun hph => by
    have hdone := (R.stage s₁ hs₁).peer (by simp [Common.stage, hph])
    rcases henter with ⟨hne, -⟩ | ⟨hne, -⟩
    · exact hne (hhs ▸ hdone.1)
    · exact hne (hsig ▸ hph)
  rcases hrest with rfl | ⟨hsrc, obox, hdecode, hserver⟩ | hpeer
  · exact absurd henter (not_entersPeerHandshake hhs hsig)
  · rcases handleServerMessage_eq_ok env hserver with ⟨msg, -, -, hhello⟩ |
      ⟨msg, hinfo, hmsg, hauth⟩ | ⟨hdone, -⟩
    · -- `server-hello` moves the server handshake to `ClientInfoSent` only
      obtain ⟨-, ours, rfl⟩ := EStateM.of_triple (handleServerHello_spec env msg s₁) rfl hhello
      refine absurd henter (fun hen => ?_)
      rcases hen with ⟨-, hdone⟩ | ⟨hne, hph⟩
      · simp at hdone
      · exact hne (by simpa [hsig] using hph)
    · -- `server-auth`, handled with the nonce of its box
      have hauth' : handleServerAuth env msg (some bbox.nonce) s₁ = .ok actions s' := by
        simpa [hmsg, Message.getType] using hauth
      refine ⟨s₁, msg, hview, hsrc, hhs ▸ hinfo, ?_, hauth'⟩
      rw [← decodeServerMessage_of_serverView env hview, hdecode]
      exact congrArg Except.ok hmsg
    · have hstage := R.handleServerMessage_done hs₁ hdone hserver
      refine absurd henter (not_entersPeerHandshake ?_ ?_)
      · rw [← hhs, ← Common.stage_serverHandshakeState, hstage, Common.stage_serverHandshakeState]
      · rw [← hsig, ← Common.stage_signalingState, hstage, Common.stage_signalingState]
  · rcases EStateM.of_triple (handleHandshakePeerMessage_spec env bbox s₁) rfl hpeer with
      ⟨-, ours, rfl⟩ | ⟨obox, -, hph, -⟩
    · -- a `key` message the initiator cannot open only advances our CSN towards the server
      have hours := (serverView_setServerOurs s₁ ours).trans hview
      exact absurd henter (not_entersPeerHandshake (congrArg (fun v => v.2.1) hours)
        (congrArg Prod.fst hours))
    · exact (hpeer_state hph).elim

end RoleInv

/-! ## The two roles -/

namespace InitiatorSignaling

lemma serverView_validateNonceDestination (nonce : Nonce) (s : InitiatorSignaling) :
    serverView (validateNonceDestination nonce s).state = serverView s := by
  rcases (validateNonceDestination_cases nonce s).2 with hsame | ⟨-, -, hassigned⟩
  · rw [hsame]
  · rw [hassigned]
    rfl

lemma serverView_setPeerWithAddress (s : InitiatorSignaling) (addr : Address)
    (csnPair : CombinedSequencePair) (cookiePair : CookiePair) :
    serverView (setPeerWithAddress s addr csnPair cookiePair) = serverView s := by
  unfold setPeerWithAddress
  split
  · rfl
  · rfl
  · split_ifs
    · rfl
    · split <;> rfl

end InitiatorSignaling

namespace ResponderSignaling

lemma serverView_validateNonceDestination (nonce : Nonce) (s : ResponderSignaling) :
    serverView (validateNonceDestination nonce s).state = serverView s := by
  rcases (validateNonceDestination_cases nonce s).2 with hsame | ⟨-, -, -, hassigned⟩
  · rw [hsame]
  · rw [hassigned]
    rfl

lemma serverView_setPeerWithAddress (s : ResponderSignaling) (addr : Address)
    (csnPair : CombinedSequencePair) (cookiePair : CookiePair) :
    serverView (setPeerWithAddress s addr csnPair cookiePair) = serverView s := by
  unfold setPeerWithAddress
  split <;> rfl

end ResponderSignaling

/-- What a role's view lemmas give: the pinning check, stated on the state the call started
in. -/
lemma RoleInv.pinnedServerAuth_of_enters {σ : Type} [Handlers σ] {env : Env} (R : RoleInv σ env)
    (hdest : ∀ nonce (s : σ), serverView (validateNonceDestination nonce s).state = serverView s)
    (hset : ∀ (s : σ) addr csnPair cookiePair,
      serverView (setPeerWithAddress s addr csnPair cookiePair) = serverView s)
    {bbox : ByteBox} {s s' : σ} {actions : List HandleAction} {K : PublicKey} (hs : R.I s)
    (hK : (common s).server.permanentKey = some K)
    (h : handleMessage env bbox s = .ok actions s') (henter : EntersPeerHandshake s s') :
    PinnedServerAuth env s bbox K := by
  obtain ⟨s₁, msg, hview, hsrc, hinfo, hmsg, hauth⟩ :=
    R.handleMessage_serverAuth_of_enters hdest hset hs h henter
  simp only [serverView, Prod.mk.injEq] at hview
  obtain ⟨-, -, hsk, hpk, hkp⟩ := hview
  obtain ⟨nonce, sk, keys, hnonce, hsigned, hdecrypt, hsession, hclient⟩ :=
    EStateM.of_triple (handleServerAuth_pinned_spec env msg (some bbox.nonce) s₁ (hpk.trans hK))
      rfl hauth
  cases hnonce
  rw [hkp] at hdecrypt hclient
  rw [hsk] at hsession
  exact ⟨hsrc, hinfo, msg, sk, keys, hmsg, hsigned, hdecrypt, hsession, hclient⟩

/-- Over a run from a state `s₀` with the invariant, a call that enters the peer handshake checked
the server's key `s₀` holds, with the key pair `s₀` holds: the run keeps both. -/
lemma RoleInv.pinnedServerAuth_of_run {σ : Type} [Handlers σ] {env : Env} (R : RoleInv σ env)
    (C : ConfigRole σ env)
    (hdest : ∀ nonce (s : σ), serverView (validateNonceDestination nonce s).state = serverView s)
    (hset : ∀ (s : σ) addr csnPair cookiePair,
      serverView (setPeerWithAddress s addr csnPair cookiePair) = serverView s)
    {s₀ s s' : σ} {bbox : ByteBox} {actions : List HandleAction} {K : PublicKey} (h0 : R.I s₀)
    (hK : (common s₀).server.permanentKey = some K) (hs : Reach.Reachable (OkStep env) (· = s₀) s)
    (h : handleMessage env bbox s = .ok actions s') (henter : EntersPeerHandshake s s') :
    (common s).permanentKeypair = (common s₀).permanentKeypair ∧ PinnedServerAuth env s bbox K := by
  have hfollows := C.reflTransGen R (returns_of_reachable hs)
  have hI : R.I s := R.inv_of_reachable (fun s₁ (h : s₁ = s₀) => by rw [h]; exact h0) hs
  -- the server's key the run started with is still the one the state holds
  have hKs : (common s).server.permanentKey = some K := hfollows.serverPermanentKey_eq.trans hK
  exact ⟨hfollows.permanentKeypair_eq, R.pinnedServerAuth_of_enters hdest hset hI hKs h henter⟩

theorem server_key_pinning :
    (∀ (env : Env) (permanentKeypair : KeyPair) (tasks : Tasks)
        (responderTrustedPubkey : Option PublicKey) (K : PublicKey) (pingInterval : Option UInt64)
        (token : AuthToken) (s₀ s s' : InitiatorSignaling) (bbox : ByteBox)
        (actions : List HandleAction),
      InitiatorSignaling.new env permanentKeypair tasks responderTrustedPubkey (some K)
        pingInterval token = some s₀ →
      Reach.Reachable (OkStep env) (· = s₀) s → handleMessage env bbox s = .ok actions s' →
      EntersPeerHandshake s s' →
      s.common.permanentKeypair = permanentKeypair ∧ PinnedServerAuth env s bbox K) ∧
    (∀ (env : Env) (permanentKeypair : KeyPair) (initiatorPubkey : PublicKey)
        (authToken : Option AuthToken) (K : PublicKey) (tasks : Tasks)
        (pingInterval : Option UInt64) (s₀ s s' : ResponderSignaling) (bbox : ByteBox)
        (actions : List HandleAction),
      ResponderSignaling.new env permanentKeypair initiatorPubkey authToken (some K) tasks
        pingInterval = some s₀ →
      Reach.Reachable (OkStep env) (· = s₀) s → handleMessage env bbox s = .ok actions s' →
      EntersPeerHandshake s s' →
      s.common.permanentKeypair = permanentKeypair ∧ PinnedServerAuth env s bbox K) := by
  constructor
  · intro env permanentKeypair tasks trusted K pingInterval token s₀ s s' bbox actions hnew hs h
      henter
    have hconfig := InitiatorSignaling.new_config env hnew
    have h0 : s₀.Inv :=
      InitiatorSignaling.reachable_inv env (.init ⟨_, _, _, _, _, _, hnew⟩)
    have hK : s₀.common.server.permanentKey = some K := congrArg Config.serverPermanentKey hconfig
    obtain ⟨hkp, hpinned⟩ := (InitiatorSignaling.roleInv env).pinnedServerAuth_of_run
      (InitiatorSignaling.configRole env) InitiatorSignaling.serverView_validateNonceDestination
      InitiatorSignaling.serverView_setPeerWithAddress h0 hK hs h henter
    exact ⟨hkp.trans (congrArg Config.permanentKeypair hconfig), hpinned⟩
  · intro env permanentKeypair initiatorPubkey authToken K tasks pingInterval s₀ s s' bbox actions
      hnew hs h henter
    have hconfig := ResponderSignaling.new_config hnew
    have h0 : s₀.Inv :=
      ResponderSignaling.reachable_inv env (.init ⟨_, _, _, _, _, _, hnew⟩)
    have hK : s₀.common.server.permanentKey = some K := congrArg Config.serverPermanentKey hconfig
    obtain ⟨hkp, hpinned⟩ := (ResponderSignaling.roleInv env).pinnedServerAuth_of_run
      (ResponderSignaling.configRole env) ResponderSignaling.serverView_validateNonceDestination
      ResponderSignaling.serverView_setPeerWithAddress h0 hK hs h henter
    exact ⟨hkp.trans (congrArg Config.permanentKeypair hconfig), hpinned⟩

end SaltyRtc
