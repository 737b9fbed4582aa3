import Mathlib
import SaltyRtc.Protocol.Effects

/-!
# `handle_message` refines the phases of a client

A call of `handle_message` that returns `Ok` without a `HandshakeError` moves the stage of a
client by finitely many changes of phase (`Stage.Steps`), and keeps the invariant of its role.
The argument is made once, for any role, from what a `RoleInv` records of that role: its
invariant, how the invariant fares when the common data or a peer's CSN and cookie are written,
and what the role's own parts (the destination check and the handlers) do. Each role then only
supplies these facts.
-/

namespace SaltyRtc

open Signaling Handlers

/-- An invariant of a role, with the facts about the role's code that the common argument
needs. -/
structure RoleInv (σ : Type) [Handlers σ] (env : Env) where
  /-- The invariant. -/
  I : σ → Prop
  /-- It includes the invariant of the stage. -/
  stage : ∀ s, I s → Stage.Inv (role σ) (common s).stage
  /-- It survives a write of common data of the same stage. -/
  frame : ∀ s c, I s → c.stage = (common s).stage → I (setCommon s c)
  /-- It survives a change of phase of the server handshake, which stays out of the task
  state. -/
  step : ∀ s c, I s → (common s).signalingState = .serverHandshake →
    Stage.Step (role σ) (common s).stage c.stage → c.signalingState ≠ .task → I (setCommon s c)
  /-- It survives the write-back of a peer's CSN and cookie, which keeps the stage. -/
  setPeer : ∀ s addr csnPair cookiePair, I s →
    I (setPeerWithAddress s addr csnPair cookiePair) ∧
      (common (setPeerWithAddress s addr csnPair cookiePair)).stage = (common s).stage
  /-- The source check only reads. -/
  source : ∀ nonce (s : σ), (validateNonceSource nonce s).state = s
  /-- The destination check never drops a message. -/
  destination_ne_dropMsg : ∀ nonce (s : σ) m s',
    validateNonceDestination nonce s ≠ .error (.err (.dropMsg m)) s'
  /-- The destination check keeps the stage, or assigns our identity. -/
  destination : ∀ nonce (s : σ), I s →
    I (validateNonceDestination nonce s).state ∧ Stage.Steps (role σ) (common s).stage
      (common (validateNonceDestination nonce s).state).stage
  /-- The role's part of `server-auth` keeps the stage. -/
  serverAuthImpl : ∀ msg (s : σ) actions s', I s → handleServerAuthImpl env msg s = .ok actions s' →
    I s' ∧ (common s').stage = (common s).stage
  /-- `new-initiator` keeps the stage. -/
  newInitiator : ∀ (s : σ) actions s', I s → handleNewInitiator env s = .ok actions s' →
    I s' ∧ (common s').stage = (common s).stage
  /-- `new-responder` keeps the stage. -/
  newResponder : ∀ msg (s : σ) actions s', I s → handleNewResponder env msg s = .ok actions s' →
    I s' ∧ (common s').stage = (common s).stage
  /-- `disconnected` keeps the stage. -/
  disconnected : ∀ msg (s : σ) actions s', I s → handleDisconnected msg s = .ok actions s' →
    I s' ∧ (common s').stage = (common s).stage
  /-- A message of the peer handshake, handled in the peer handshake, moves the stage by changes
  of phase. -/
  peer : ∀ obox (s : σ) actions s', I s → (common s).signalingState = .peerHandshake →
    handlePeerMessage env obox s = .ok actions s' → NoHandshakeError actions →
    I s' ∧ Stage.Steps (role σ) (common s).stage (common s').stage

namespace RoleInv

variable {σ : Type} [Handlers σ] {env : Env} (R : RoleInv σ env)

/-- `s'` satisfies the invariant, and its stage follows from that of `s` by changes of phase. -/
def Leads (s s' : σ) : Prop :=
  R.I s' ∧ Stage.Steps (role σ) (common s).stage (common s').stage

variable {R}

lemma Leads.refl {s : σ} (h : R.I s) : R.Leads s s := ⟨h, .refl⟩

lemma Leads.trans {s₁ s₂ s₃ : σ} (h₁ : R.Leads s₁ s₂) (h₂ : R.Leads s₂ s₃) : R.Leads s₁ s₃ :=
  ⟨h₂.1, h₁.2.trans h₂.2⟩

/-- A call that keeps the stage. -/
lemma Leads.of_stage {s s' : σ} (h : R.I s' ∧ (common s').stage = (common s).stage) :
    R.Leads s s' :=
  ⟨h.1, h.2 ▸ .refl⟩

/-- Common data of the same stage. -/
lemma leads_setCommon_frame {s : σ} {c : Common} (hs : R.I s) (hc : c.stage = (common s).stage) :
    R.Leads s (setCommon s c) :=
  .of_stage ⟨R.frame s c hs hc, by rw [common_setCommon, hc]⟩

/-- Common data one change of phase of the server handshake on. -/
lemma leads_setCommon_step {s : σ} {c : Common} (hs : R.I s)
    (hsig : (common s).signalingState = .serverHandshake)
    (hstep : Stage.Step (role σ) (common s).stage c.stage) (htask : c.signalingState ≠ .task) :
    R.Leads s (setCommon s c) :=
  ⟨R.step s c hs hsig hstep htask, by rw [common_setCommon]; exact .single hstep⟩

/-- What the nonce check leaves, after a passed or a dropped check. -/
lemma leads_validateNonce {nonce : Nonce} {s s₁ : σ} (hs : R.I s)
    (h : validateNonce nonce s = .ok () s₁ ∨
      ∃ m, validateNonce nonce s = .error (.err (.dropMsg m)) s₁) :
    R.Leads s s₁ := by
  have hdest : R.Leads s (validateNonceDestination nonce s).state := R.destination nonce s hs
  rcases h with hok | ⟨m, hdrop⟩
  · -- the destination check, then at most two write-backs of the CSN and the cookie
    refine validateNonce_eq_ok_of (R.source nonce) (fun s₂ addr csnPair cookiePair h₂ => ?_) hdest
      hok
    obtain ⟨hI, hstage⟩ := R.setPeer s₂ addr csnPair cookiePair h₂.1
    exact ⟨hI, hstage ▸ h₂.2⟩
  · rw [validateNonce_eq_dropMsg (R.destination_ne_dropMsg nonce s) (R.source nonce) hdrop]
    exact hdest

/-- `server-hello`, in the server handshake state `New`. -/
lemma leads_handleServerHello {msg : ServerHello} {s s' : σ} {actions : List HandleAction}
    (hs : R.I s) (hnew : (common s).server.handshakeState = .new)
    (h : handleServerHello env msg s = .ok actions s') : R.Leads s s' := by
  obtain ⟨hnone, ours, rfl⟩ := EStateM.of_triple (handleServerHello_spec env msg s) rfl h
  have hsig : (common s).signalingState = .serverHandshake :=
    (R.stage s hs).serverHandshake_of_ne_done (by simp [hnew])
  refine leads_setCommon_step hs hsig (Stage.Step.serverHello msg.key hnew hnone) ?_
  simp [hsig]

/-- `server-auth`, in the server handshake state `ClientInfoSent`. -/
lemma leads_handleServerAuth {msg : ServerAuth} {nonceClone : Option Nonce} {s s' : σ}
    {actions : List HandleAction} (hs : R.I s)
    (hinfo : (common s).server.handshakeState = .clientInfoSent)
    (h : handleServerAuth env msg nonceClone s = .ok actions s') : R.Leads s s' := by
  obtain ⟨hid, s₁, himpl, -, rfl⟩ :=
    EStateM.of_triple (handleServerAuth_spec env msg nonceClone s) rfl h
  obtain ⟨hs₁, hstage⟩ := R.serverAuthImpl msg s actions s₁ hs himpl
  -- the role's part keeps the stage: still `ClientInfoSent`, so still `ServerHandshake`
  have hinfo₁ : (common s₁).server.handshakeState = .clientInfoSent := by
    rw [← Common.stage_serverHandshakeState, hstage, Common.stage_serverHandshakeState, hinfo]
  have hid₁ : (common s₁).identity ≠ .unknown := by
    rw [← Common.stage_identity, hstage, Common.stage_identity]
    exact hid
  have hsig₁ : (common s₁).signalingState = .serverHandshake :=
    (R.stage s₁ hs₁).serverHandshake_of_ne_done (by simp [hinfo₁])
  refine (Leads.of_stage ⟨hs₁, hstage⟩).trans
    (leads_setCommon_step hs₁ hsig₁ (Stage.Step.serverAuth hinfo₁ hid₁ hsig₁) ?_)
  simp

/-- Every message of the server. -/
lemma leads_handleServerMessage {obox : OpenBox Message} {nonceClone : Option Nonce} {s s' : σ}
    {actions : List HandleAction} (hs : R.I s)
    (h : handleServerMessage env obox nonceClone s = .ok actions s') : R.Leads s s' := by
  rcases handleServerMessage_eq_ok env h with ⟨msg, hnew, -, hhello⟩ |
    ⟨msg, hinfo, -, hauth⟩ | ⟨-, ⟨-, hinit⟩ | ⟨msg, -, hresp⟩ | ⟨msg, -, hdisc⟩⟩
  · exact leads_handleServerHello hs hnew hhello
  · exact leads_handleServerAuth hs hinfo hauth
  · exact .of_stage (R.newInitiator s actions s' hs hinit)
  · exact .of_stage (R.newResponder msg s actions s' hs hresp)
  · exact .of_stage (R.disconnected msg s actions s' hs hdisc)

/-- Every message of the peer handshake. -/
lemma leads_handleHandshakePeerMessage {bbox : ByteBox} {s s' : σ} {actions : List HandleAction}
    (hs : R.I s) (h : handleHandshakePeerMessage env bbox s = .ok actions s')
    (hno : NoHandshakeError actions) : R.Leads s s' := by
  rcases EStateM.of_triple (handleHandshakePeerMessage_spec env bbox s) rfl h with
    ⟨-, ours, rfl⟩ | ⟨obox, -, hpeer, ⟨-, -, hserver⟩ | hmsg⟩
  · -- `drop-responder` only advances our CSN towards the server
    exact leads_setCommon_frame hs (by simp)
  · exact leads_handleServerMessage hs hserver
  · exact R.peer obox s actions s' hs hpeer hmsg hno

/-- One call of `handle_message` that returns `Ok` without a `HandshakeError`. -/
theorem leads_okStep {s s' : σ} {bbox : ByteBox} (hs : R.I s) (h : OkStep env s bbox s') :
    R.Leads s s' := by
  obtain ⟨actions, hrun, hno⟩ := h
  obtain ⟨s₁, hcheck, hrest⟩ := EStateM.of_triple (handleMessage_spec env bbox s) rfl hrun
  have h₁ : R.Leads s s₁ := leads_validateNonce hs hcheck
  rcases hrest with rfl | ⟨-, obox, -, hserver⟩ | hpeer
  · exact h₁
  · exact h₁.trans (leads_handleServerMessage h₁.1 hserver)
  · exact h₁.trans (leads_handleHandshakePeerMessage h₁.1 hpeer hno)

/-- The invariant holds in every state reached from initial states where it holds. -/
theorem inv_of_reachable {init : σ → Prop} (h0 : ∀ s, init s → R.I s) {s : σ}
    (hs : Reach.Reachable (OkStep env) init s) : R.I s :=
  hs.inv h0 fun _ _ _ _ hi hstep => (leads_okStep hi hstep).1

/-- A run of successful calls from a state with the invariant ends in a state with it, whose
stage follows by changes of phase. -/
theorem leads_of_reachable {s₀ s : σ} (h0 : R.I s₀)
    (hs : Reach.Reachable (OkStep env) (· = s₀) s) : R.Leads s₀ s := by
  induction hs with
  | init h =>
    subst h
    exact .refl h0
  | step _ _ hstep ih => exact ih.trans (leads_okStep ih.1 hstep)

end RoleInv

end SaltyRtc
