import Mathlib
import SaltyRtc.Protocol.Effects

/-!
# What the initiator's handlers do to its state

The effect of each of the initiator's handlers on a successful call. The handlers of the peer
handshake change the context of the responder that sent the message: `token` stores its
permanent key, `key` its session key, and `auth` makes it the chosen responder, drops every other
one and moves to the task state. The handlers of server messages only add and remove responder
contexts, each valid (`ResponderContext.Valid`).
-/

namespace SaltyRtc

open Std.Do

set_option mvcgen.warning false

namespace InitiatorSignaling

open Signaling

variable (env : Env)

/-- Every responder context in the list is valid. -/
def RespondersValid (s : InitiatorSignaling) : Prop :=
  s.responders.Forall fun _ r => r.Valid

/-- The part of the initiator's state its invariant reads, other than the stage: the chosen
responder, and the validity of every responder context. -/
def Frame (st : Stage) (chosen : Option ResponderContext) (s : InitiatorSignaling) : Prop :=
  s.common.stage = st ∧ s.responder = chosen ∧ s.RespondersValid

/-- `setServerOurs` at the initiator. -/
@[simp] lemma setServerOurs_eq (s : InitiatorSignaling) (ours : CombinedSequence) :
    setServerOurs s ours = { s with common := { s.common with
      server := { s.common.server with csnPair := { s.common.server.csnPair with ours } } } } :=
  rfl

/-! ## Writing back a peer's CSN and cookie -/

section SetPeer

variable (s : InitiatorSignaling) (addr : Address) (csnPair : CombinedSequencePair)
  (cookiePair : CookiePair)

@[simp] lemma stage_setPeerWithAddress :
    (setPeerWithAddress s addr csnPair cookiePair).common.stage = s.common.stage := by
  unfold setPeerWithAddress
  split
  · rfl
  · rfl
  · split_ifs
    · rfl
    · split <;> rfl

@[simp] lemma responder_isSome_setPeerWithAddress :
    (setPeerWithAddress s addr csnPair cookiePair).responder.isSome = s.responder.isSome := by
  unfold setPeerWithAddress
  split
  · rfl
  · rfl
  · split_ifs
    · simp
    · split <;> rfl

lemma RespondersValid.setPeerWithAddress {s : InitiatorSignaling} (h : s.RespondersValid) :
    (s.setPeerWithAddress addr csnPair cookiePair).RespondersValid := by
  unfold InitiatorSignaling.setPeerWithAddress
  split
  · exact h
  · exact h
  · split_ifs
    · exact h
    · split
      · -- only the CSN and cookie pairs of the context change
        rename_i r hr
        exact AList.Forall.replace h ((h addr r hr).of_eq rfl rfl rfl)
      · exact h

end SetPeer

/-! ## The peer handshake -/

/-- `handle_token` stores the permanent key of a responder that had none, and uses up the auth
token. -/
theorem handleToken_spec (msg : Token) (src : Address) (s₀ : InitiatorSignaling) :
    ⦃fun s => ⌜s = s₀⌝⦄ handleToken msg src
    ⦃⇓? _ s => ⌜∃ r, s₀.responders.lookup src = some r ∧ r.permanentKey = none ∧
      s = { s₀ with
        common := { s₀.common with authProvider := none }
        responders := s₀.responders.replace src
          { r with permanentKey := some msg.key, handshakeState := .tokenReceived } }⌝⦄ := by
  mvcgen [handleToken, updateResponder]
  -- the one successful path: a context with no permanent key, and an auth token to use up
  subst_vars
  have hr := ‹AList.lookup src _ = some _›
  exact ⟨_, hr, Option.not_isSome_iff_eq_none.mp ‹_›, rfl⟩

/-- `handle_key` stores the session key of a responder that had a permanent key and no session
key, and advances our CSN towards it. -/
theorem handleKey_spec (msg : Key) (src : Address) (s₀ : InitiatorSignaling) :
    ⦃fun s => ⌜s = s₀⌝⦄ handleKey env msg src
    ⦃⇓? _ s => ⌜∃ r csnPair, s₀.responders.lookup src = some r ∧ r.sessionKey = none ∧
      r.permanentKey.isSome ∧
      s = { s₀ with
        responders := s₀.responders.replace src
          { r with sessionKey := some msg.key, handshakeState := .keySent, csnPair } }⌝⦄ := by
  mvcgen [handleKey, updateResponder, liftAddress, liftResult]
  -- the one successful path: a context with the permanent key, different from the session key,
  -- and no session key yet
  subst_vars
  have hr := ‹AList.lookup src _ = some _›
  -- the context is written back three times: the session key, the CSN, the handshake state
  exact ⟨_, _, hr, Option.not_isSome_iff_eq_none.mp ‹_›, Option.isSome_iff_exists.mpr ⟨_, ‹_›⟩,
    by simp +zetaDelta only [AList.replace_replace]; rfl⟩

/-- `handle_auth`, unless it fails the handshake for want of a shared task, makes the sender the
chosen responder, drops every other responder, takes out our tasks, fixes the chosen task and
moves to the task state; it advances our CSNs towards the server and towards the responder. -/
theorem handleAuth_spec (msg : Auth) (src : Address) (s₀ : InitiatorSignaling) :
    ⦃fun s => ⌜s = s₀⌝⦄ handleAuth env msg src
    ⦃⇓? actions s => ⌜NoHandshakeError actions → ∃ r chosen ours csnPair,
      s₀.responders.lookup src = some r ∧
      (s₀.common.signalingState = .peerHandshake ∨ s₀.common.signalingState = .task) ∧
      s = { s₀ with
        common := { s₀.common with
          server := { s₀.common.server with csnPair := { s₀.common.server.csnPair with ours } },
          tasks := none, task := some chosen, taskSupportedTypes := some chosen.supportedTypes,
          signalingState := .task }
        responders := ∅
        responder := some { r with handshakeState := .authSent, csnPair } }⌝⦄ := by
  mvcgen [handleAuth, liftAddress, liftResult, encodeCloseMessage_some_spec]
  all_goals simp only [NoHandshakeError, HandleAction.isHandshakeError, setServerOurs] at *
  -- the two ways to end without a shared task report a handshake error
  · simp
  · simp
  · -- the path that chooses a task: the drops advanced our CSN towards the server
    subst_vars
    intro _
    obtain ⟨hmay, rfl⟩ := Common.setSignalingState_eq_ok.mp ‹Common.setSignalingState _ _ = .ok _›
    obtain ⟨ours, rfl⟩ := ‹∃ ours, _ = _›
    have hr := ‹AList.lookup src _ = some _›
    exact ⟨_, _, ours, _, hr, by simpa +zetaDelta using hmay.symm, rfl⟩

/-- What a successful `handle_auth` agrees on: the task chosen from our list and the
responder's proposal, with the responder's data for it, and the `auth` reply that names it,
sealed with the responder's session key. -/
theorem handleAuth_task_spec (msg : Auth) (src : Address) (s₀ : InitiatorSignaling) :
    ⦃fun s => ⌜s = s₀⌝⦄ handleAuth env msg src
    ⦃⇓? actions s => ⌜NoHandshakeError actions → ∃ r ts proposed t d cookie key,
      s₀.responders.lookup src = some r ∧ s₀.common.tasks = some ts ∧ msg.tasks = some proposed ∧
      ts.chooseSharedTask proposed = some t ∧ msg.data.lookup t.name = some d ∧
      s.common.task = some { t with initData := some d } ∧
      r.cookiePair.theirs = some cookie ∧ r.sessionKey = some key ∧
      ∃ drops n, actions = drops ++ [.reply (OpenBox.encrypt env.sodium env.msgpack
        ⟨.auth ⟨cookie, none, some t.name, (∅ : AuthData).insert t.name t.data⟩, n⟩ r.keypair key),
        .handshakeDone]⌝⦄ := by
  mvcgen [handleAuth, liftAddress, liftResult, encodeCloseMessage_some_spec]
  all_goals simp only [NoHandshakeError, HandleAction.isHandshakeError] at *
  -- the two ways to end without a shared task report a handshake error
  · simp
  · simp
  · -- the path that chooses a task: every other fact is a hypothesis of the path
    subst_vars
    intro _
    obtain ⟨-, rfl⟩ := Common.setSignalingState_eq_ok.mp ‹Common.setSignalingState _ _ = .ok _›
    obtain rfl := Except.ok.inj ‹InitiatorAuthBuilder.build _ _ _ = .ok _›
    have hr := ‹AList.lookup src _ = some _›
    exact ⟨_, _, _, _, _, _, _, hr, ‹_›, ‹_›, ‹_›, ‹_›, rfl, ‹_›, ‹_›, _, _, rfl⟩

/-! ## Server messages -/

/-- Dropping the oldest inactive responder removes one context and advances our CSN towards
the server. -/
theorem dropOldestInactiveResponder_spec (st : Stage) (chosen : Option ResponderContext) :
    ⦃fun s => ⌜Frame st chosen s⌝⦄ dropOldestInactiveResponder env
    ⦃⇓? _ s => ⌜Frame st chosen s⌝⦄ := by
  mvcgen [dropOldestInactiveResponder]
  rename_i s hframe _ _ _ _ _ _ hdrop
  obtain ⟨ours, rfl⟩ := hdrop
  obtain ⟨hstage, hchosen, hvalid⟩ := hframe
  exact ⟨hstage, hchosen, hvalid.erase _⟩

/-- A new responder gets a fresh context, or, if its key is trusted, one that knows its
permanent key; above 252 responders the oldest inactive one is dropped. -/
theorem processNewResponder_spec (address : Address) (st : Stage)
    (chosen : Option ResponderContext) :
    ⦃fun s => ⌜Frame st chosen s⌝⦄ processNewResponder env address
    ⦃⇓? _ s => ⌜Frame st chosen s⌝⦄ := by
  have hdrop := dropOldestInactiveResponder_spec env st chosen
  mvcgen [processNewResponder, hdrop]
  -- the same four goals, with and without a trusted key, and with and without a drop
  all_goals
    obtain ⟨hstage, hchosen, hvalid⟩ := ‹Frame st chosen _›
    obtain ⟨hs, hp, hk⟩ := ResponderContext.new_eq_some ‹ResponderContext.new _ address _ = some _›
    refine ⟨hstage, hchosen, (hvalid.erase address).insert ?_⟩
  · exact .of_tokenReceived rfl rfl hk
  · exact .of_tokenReceived rfl rfl hk
  · exact .of_new hs hp hk
  · exact .of_new hs hp hk

/-- `handle_server_auth_impl` registers the responders the server reports. -/
theorem handleServerAuthImpl_spec (msg : ServerAuth) (st : Stage)
    (chosen : Option ResponderContext) :
    ⦃fun s => ⌜Frame st chosen s⌝⦄ handleServerAuthImpl env msg
    ⦃⇓? _ s => ⌜Frame st chosen s⌝⦄ := by
  have hloop := fun responders => EStateM.filterMapM_inv (Frame st chosen)
    (processNewResponder env) responders fun a _ => processNewResponder_spec env a st chosen
  mvcgen [handleServerAuthImpl, liftResult, hloop]

/-- `handle_new_responder` registers one responder. -/
theorem handleNewResponder_spec (msg : NewResponder) (st : Stage)
    (chosen : Option ResponderContext) :
    ⦃fun s => ⌜Frame st chosen s⌝⦄ handleNewResponder env msg
    ⦃⇓? _ s => ⌜Frame st chosen s⌝⦄ := by
  have hnew := processNewResponder_spec env msg.id st chosen
  mvcgen [handleNewResponder, hnew]

/-- `handle_disconnected` changes nothing. -/
theorem handleDisconnected_spec (msg : Disconnected) (s₀ : InitiatorSignaling) :
    ⦃fun s => ⌜s = s₀⌝⦄ handleDisconnected msg ⦃⇓? _ s => ⌜s = s₀⌝⦄ := by
  mvcgen [handleDisconnected]

/-- The initiator never accepts `new-initiator`. -/
theorem handleNewInitiator_spec :
    ⦃fun _ => ⌜True⌝⦄ handleNewInitiator ⦃⇓? _ _ => ⌜False⌝⦄ := by
  mvcgen [handleNewInitiator]

/-! ## Dispatch of the peer handshake -/

/-- `handle_peer_message` hands `token`, `key` and `auth` of a responder to their handlers. -/
theorem handlePeerMessage_spec (obox : OpenBox Message) (s₀ : InitiatorSignaling) :
    ⦃fun s => ⌜s = s₀⌝⦄ handlePeerMessage env obox
    ⦃⇓? actions s => ⌜(∃ msg, obox.message = .token msg ∧
        handleToken msg obox.nonce.source s₀ = .ok actions s) ∨
      (∃ msg, obox.message = .key msg ∧ handleKey env msg obox.nonce.source s₀ = .ok actions s) ∨
      (∃ msg, obox.message = .auth msg ∧
        handleAuth env msg obox.nonce.source s₀ = .ok actions s)⌝⦄ := by
  have htoken := fun msg => EStateM.triple_run (handleToken msg obox.nonce.source)
  have hkey := fun msg => EStateM.triple_run (handleKey env msg obox.nonce.source)
  have hauth := fun msg => EStateM.triple_run (handleAuth env msg obox.nonce.source)
  mvcgen [handlePeerMessage, htoken, hkey, hauth]
  all_goals subst_vars
  -- one goal per message type, each in the responder's state that expects it
  · exact fun h => .inl ⟨_, ‹_›, h⟩
  · exact fun h => .inr (.inl ⟨_, ‹_›, h⟩)
  · exact fun h => .inr (.inr ⟨_, ‹_›, h⟩)

end InitiatorSignaling

end SaltyRtc
