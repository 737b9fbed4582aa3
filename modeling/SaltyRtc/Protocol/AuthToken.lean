import Mathlib
import SaltyRtc.Lib.AtMostOne
import SaltyRtc.Protocol.Config
import SaltyRtc.Protocol.Actions

/-!
# The auth token is used once

A client configured with an auth token holds it as its auth provider. The initiator uses it up in
`handle_token`, the responder when it sends `token` (`send_token_and_key`, from
`handle_server_auth_impl` or `handle_new_initiator`): both set the auth provider to `None`, and
no code sets it again (`Config.Follows`). So over any run the token is used by one call at most.

At the initiator the token opens the messages of a responder in `New` only while it is held: after
the call that uses it, no such message is opened again. At the responder every reply is sealed in
a public-key box or goes to the server, except the `token` message of `send_token_and_key`: as long
as secret boxes and public-key boxes never coincide (`Sodium.SealsApart`), a call sends one token
message at most, in the call that uses up the token, and a run sends one at most.
-/

namespace SaltyRtc

open Std.Do Signaling Handlers

set_option mvcgen.warning false

/-- The call from `s` to `s'` used up the auth token. -/
def UsesToken {σ : Type} [Signaling σ] (s s' : σ) : Prop :=
  ∃ t, (common s).authProvider = some (.token t) ∧ (common s').authProvider = none

/-! ## For any role -/

namespace ConfigRole

variable {σ : Type} [Handlers σ] {env : Env}

/-- A client whose auth provider is no token keeps it over any run. -/
lemma authProvider_of_not_token (C : ConfigRole σ env) (R : RoleInv σ env) {s t : σ}
    (hk : ∀ tok, (common s).authProvider ≠ some (.token tok))
    (h : Relation.ReflTransGen (Returns env) s t) :
    (common t).authProvider = (common s).authProvider :=
  congrArg Config.authProvider ((C.reflTransGen R h).eq_of_not_token hk)

/-- The token is used once at most: after a call that uses it, no later call of the run uses it
again. -/
theorem usesToken_once (C : ConfigRole σ env) (R : RoleInv σ env) {s₁ s₂ s₃ s₄ : σ}
    (huse : UsesToken s₁ s₂) (hrun : Relation.ReflTransGen (Returns env) s₂ s₃)
    (huse' : UsesToken s₃ s₄) : False := by
  obtain ⟨-, -, hnone⟩ := huse
  obtain ⟨t, htoken, -⟩ := huse'
  -- the provider stays `None` over the run, so no token is left to use
  have hkept := C.authProvider_of_not_token R (by simp [hnone]) hrun
  rw [hkept, hnone] at htoken
  cases htoken

end ConfigRole

/-! ## The initiator -/

namespace InitiatorSignaling

variable (env : Env)

lemma handleToken_usesToken {msg : Token} {src : Address} {s s' : InitiatorSignaling}
    {actions : List HandleAction} (h : handleToken msg src s = .ok actions s') : UsesToken s s' := by
  obtain ⟨t, ht, hconfig⟩ := handleToken_config h
  exact ⟨t, ht, congrArg Config.authProvider hconfig⟩

/-- A message of a responder in `New` is opened with the auth token, which the initiator must
still hold. -/
lemma decodePeerMessage_new {s : InitiatorSignaling} {bbox : ByteBox} {obox : OpenBox Message}
    {r : ResponderContext} (hr : s.responders.lookup bbox.nonce.source = some r)
    (hnew : r.handshakeState = .new) (h : decodePeerMessage env s bbox = .ok obox) :
    ∃ t, s.common.authProvider = some (.token t) ∧
      OpenBox.decryptToken env.sodium env.msgpack bbox t = .ok obox := by
  unfold decodePeerMessage at h
  split_ifs at h
  simp only [hr, hnew] at h
  rcases ha : s.common.authProvider with _ | (t | k) <;> simp only [ha, reduceCtorEq] at h
  exact ⟨t, rfl, h⟩

/-- Without a token the initiator opens no message of a responder in `New`. -/
lemma decodePeerMessage_new_ne_ok {s : InitiatorSignaling} {bbox : ByteBox}
    {obox : OpenBox Message} {r : ResponderContext}
    (hk : ∀ t, s.common.authProvider ≠ some (.token t))
    (hr : s.responders.lookup bbox.nonce.source = some r) (hnew : r.handshakeState = .new) :
    decodePeerMessage env s bbox ≠ .ok obox := fun h => by
  obtain ⟨t, ht, -⟩ := decodePeerMessage_new env hr hnew h
  exact hk t ht

/-- Over a run from a state without a token, no message of a responder in `New` is opened. -/
lemma decodePeerMessage_new_ne_ok_of_run {s t : InitiatorSignaling}
    (hk : ∀ tok, s.common.authProvider ≠ some (.token tok))
    (hrun : Relation.ReflTransGen (Returns env) s t) {bbox : ByteBox} {obox : OpenBox Message}
    {r : ResponderContext} (hr : t.responders.lookup bbox.nonce.source = some r)
    (hnew : r.handshakeState = .new) : decodePeerMessage env t bbox ≠ .ok obox := by
  have hkept := (configRole env).authProvider_of_not_token (roleInv env) hk hrun
  refine decodePeerMessage_new_ne_ok env (fun tok htok => hk tok ?_) hr hnew
  exact hkept.symm.trans htok

end InitiatorSignaling

/-! ## Token messages -/

/-- A `token` message to the initiator, sealed with an auth token as `send_token` seals it. -/
def HandleAction.IsToken (na : Sodium) (mp : Msgpack) (a : HandleAction) : Prop :=
  ∃ t k n, n.destination.isInitiator ∧ a = .reply (OpenBox.encryptToken na mp ⟨.token k, n⟩ t)

/-- An action that is no token message whatever the keys: a reply sealed in a public-key box or
sent to the server, or no reply at all. -/
def HandleAction.Plain (na : Sodium) (mp : Msgpack) : HandleAction → Prop
  | .reply bbox =>
    (∃ ob kp k, bbox = OpenBox.encrypt na mp ob kp k) ∨ bbox.nonce.destination.isServer
  | _ => True

/-- Secret boxes and public-key boxes never coincide. -/
def Sodium.SealsApart (na : Sodium) : Prop :=
  ∀ m n k m' n' pk sk, na.secretboxSeal m n k ≠ na.boxSeal m' n' pk sk

/-- The concrete primitives tag the two kinds of box apart. -/
lemma Toy.sodium_sealsApart : Toy.sodium.SealsApart := by
  intro m n k m' n' pk sk h
  simp [Toy.sodium] at h

namespace HandleAction

variable {na : Sodium} {mp : Msgpack}

@[simp] lemma plain_event (e : Event) : (event e).Plain na mp := trivial
@[simp] lemma plain_handshakeDone : handshakeDone.Plain na mp := trivial
@[simp] lemma plain_taskMessage (m : TaskMessage) : (taskMessage m).Plain na mp := trivial

lemma plain_encrypt (ob : OpenBox Message) (kp : KeyPair) (k : PublicKey) :
    (reply (OpenBox.encrypt na mp ob kp k)).Plain na mp := .inl ⟨ob, kp, k, rfl⟩

/-- A plain action is no token message. -/
lemma not_isToken_of_plain (hsep : na.SealsApart) {a : HandleAction} (h : a.Plain na mp) :
    ¬ a.IsToken na mp := by
  rintro ⟨t, k, n, hdest, rfl⟩
  rcases h with ⟨ob, kp, k', heq⟩ | hserver
  · -- a secret box is no public-key box
    exact hsep _ _ _ _ _ _ _ (congrArg ByteBox.bytes heq)
  · -- the token goes to the initiator, not to the server
    simp only [OpenBox.encryptToken, Address.isServer, Address.isInitiator, beq_iff_eq]
      at hserver hdest
    rw [hserver] at hdest
    cases hdest

end HandleAction

section TokenShape

variable (na : Sodium) (mp : Msgpack) {σ : Type} [Signaling σ]

/-- What a call from `s` to `s'` sends: plain actions, or, in a call that uses up the token, plain
actions around one token message. -/
def TokenShape (s s' : σ) (actions : List HandleAction) : Prop :=
  (∀ a ∈ actions, a.Plain na mp) ∨
    UsesToken s s' ∧ ∃ pre x post, actions = pre ++ x :: post ∧ x.IsToken na mp ∧
      ∀ a ∈ pre ++ post, a.Plain na mp

variable {na mp} {s s' s₀ s₀' : σ} {actions : List HandleAction}

/-- A shape between two states carries over to states with the same auth providers. -/
lemma TokenShape.of_authProvider (h : TokenShape na mp s s' actions)
    (h₀ : (common s).authProvider = (common s₀).authProvider)
    (h₀' : (common s').authProvider = (common s₀').authProvider) :
    TokenShape na mp s₀ s₀' actions := by
  rcases h with hplain | ⟨⟨t, ht, hnone⟩, hrest⟩
  · exact .inl hplain
  · exact .inr ⟨⟨t, h₀ ▸ ht, h₀' ▸ hnone⟩, hrest⟩

/-- Plain actions after a shape. -/
lemma TokenShape.append_plain (h : TokenShape na mp s s' actions) {more : List HandleAction}
    (hmore : ∀ a ∈ more, a.Plain na mp) : TokenShape na mp s s' (actions ++ more) := by
  rcases h with hplain | ⟨huse, pre, x, post, rfl, hx, hrest⟩
  · refine .inl fun a ha => ?_
    rcases List.mem_append.mp ha with ha | ha
    · exact hplain a ha
    · exact hmore a ha
  · refine .inr ⟨huse, pre, x, post ++ more, by simp, hx, fun a ha => ?_⟩
    rcases List.mem_append.mp ha with ha | ha
    · exact hrest a (List.mem_append_left _ ha)
    · rcases List.mem_append.mp ha with ha | ha
      · exact hrest a (List.mem_append_right _ ha)
      · exact hmore a ha

/-- A call of some shape sends a token message only in a call that uses up the token, and one at
most. -/
theorem TokenShape.atMostOne (hsep : na.SealsApart) (h : TokenShape na mp s s' actions) :
    (∀ a ∈ actions, a.IsToken na mp → UsesToken s s') ∧
      actions.AtMostOne (HandleAction.IsToken na mp) := by
  rcases h with hplain | ⟨huse, pre, x, post, rfl, -, hrest⟩
  · have hnot : ∀ a ∈ actions, ¬ a.IsToken na mp := fun a ha =>
      HandleAction.not_isToken_of_plain hsep (hplain a ha)
    exact ⟨fun a ha htok => absurd htok (hnot a ha), .of_forall_not hnot⟩
  · exact ⟨fun _ _ _ => huse, .of_single x fun a ha =>
      HandleAction.not_isToken_of_plain hsep (hrest a ha)⟩

/-- A call that sends no token message, from a state without a token. -/
lemma TokenShape.plain_of_not_token (h : TokenShape na mp s s' actions)
    (hk : ∀ t, (common s).authProvider ≠ some (.token t)) : ∀ a ∈ actions, a.Plain na mp := by
  rcases h with hplain | ⟨⟨t, ht, -⟩, -⟩
  · exact hplain
  · exact absurd ht (hk t)

end TokenShape

/-! ## The shared handlers send plain replies -/

namespace Signaling

variable {σ : Type} [Signaling σ] (env : Env)

/-- The next nonce towards the server is addressed to the server. -/
theorem nextServerNonce_destination_spec :
    ⦃fun _ => ⌜True⌝⦄ (nextServerNonce : SignalingM σ Nonce)
    ⦃⇓? n _ => ⌜n.destination.isServer⌝⦄ := by
  mvcgen [nextServerNonce, modifyCommon, liftAddress, liftResult, -nextServerNonce_spec]
  -- `Identity::Server` has the address `0x00`
  obtain rfl : (⟨0x00⟩ : Address) = _ := Option.some.inj ‹Identity.server.toAddress = some _›
  rfl

/-- `handle_server_hello` sends `client-hello` to the server, unsealed (responder only), and
`client-auth`, sealed. -/
theorem handleServerHello_plain_spec (msg : ServerHello) :
    ⦃fun _ => ⌜True⌝⦄ (handleServerHello env msg : SignalingM σ (List HandleAction))
    ⦃⇓? actions _ => ⌜∀ a ∈ actions, a.Plain env.sodium env.msgpack⌝⦄ := by
  mvcgen [handleServerHello, modifyCommon, nextServerNonce_destination_spec, -nextServerNonce_spec]
  · -- the responder's `client-hello`, unsealed to the server, then `client-auth`
    intro a ha
    simp only [List.singleton_append, List.mem_cons, List.not_mem_nil, or_false] at ha
    rcases ha with rfl | rfl
    · exact .inr ‹_›
    · exact HandleAction.plain_encrypt _ _ _
  · -- the initiator's `client-auth`
    intro a ha
    simp only [List.nil_append, List.mem_singleton] at ha
    subst ha
    exact HandleAction.plain_encrypt _ _ _

end Signaling

/-! ## The responder -/

namespace ResponderSignaling

variable {env : Env}

/-- `send_token_and_key`: `token` then `key` when it uses up the token, `key` alone with a trusted
key. -/
lemma sendTokenAndKey_tokenShape {s s' : ResponderSignaling} {actions : List HandleAction}
    (h : sendTokenAndKey env s = .ok actions s') :
    TokenShape env.sodium env.msgpack s s' actions := by
  obtain ⟨ob, kp, k, ⟨t, n, hdest, ht, hconfig, rfl⟩ | ⟨key, -, -, rfl⟩⟩ := sendTokenAndKey_eq_ok h
  · refine .inr ⟨⟨t, ht, congrArg Config.authProvider hconfig⟩, [], _, _, rfl,
      ⟨t, _, n, hdest, rfl⟩, ?_⟩
    simp only [List.nil_append, List.mem_singleton, forall_eq]
    exact HandleAction.plain_encrypt _ _ _
  · refine .inl ?_
    simp only [List.mem_singleton, forall_eq]
    exact HandleAction.plain_encrypt _ _ _

lemma handleServerAuthImpl_tokenShape {msg : ServerAuth} {s s' : ResponderSignaling}
    {actions : List HandleAction} (h : handleServerAuthImpl env msg s = .ok actions s') :
    TokenShape env.sodium env.msgpack s s' actions := by
  rcases handleServerAuthImpl_eq_ok_sent h with ⟨rfl, rfl⟩ | ⟨sent, s₁, hsend, rfl, rfl⟩
  · exact .inl (by simp)
  · -- the context of the initiator moves to `KeySent`, which keeps the auth provider
    exact ((sendTokenAndKey_tokenShape hsend).of_authProvider rfl rfl).append_plain (by simp)

lemma handleNewInitiator_tokenShape {s s' : ResponderSignaling} {actions : List HandleAction}
    (h : handleNewInitiator env s = .ok actions s') :
    TokenShape env.sodium env.msgpack s s' actions := by
  obtain ⟨c, s₁, hsend, rfl⟩ := handleNewInitiator_eq_ok_sent h
  -- the new context leaves the common data as it was
  exact (sendTokenAndKey_tokenShape hsend).of_authProvider rfl rfl

/-- `handle_disconnected` reports its event. -/
theorem handleDisconnected_plain_spec (msg : Disconnected) :
    ⦃fun _ => ⌜True⌝⦄ handleDisconnected msg
    ⦃⇓? actions _ => ⌜∀ a ∈ actions, a.Plain env.sodium env.msgpack⌝⦄ := by
  mvcgen [handleDisconnected]
  simp

/-- Every message of the server. -/
lemma handleServerMessage_tokenShape {obox : OpenBox Message} {nonceClone : Option Nonce}
    {s s' : ResponderSignaling} {actions : List HandleAction}
    (h : handleServerMessage env obox nonceClone s = .ok actions s') :
    TokenShape env.sodium env.msgpack s s' actions := by
  rcases handleServerMessage_eq_ok env h with ⟨msg, -, -, hhello⟩ |
    ⟨msg, -, -, hauth⟩ | ⟨-, ⟨-, hinit⟩ | ⟨msg, -, hresp⟩ | ⟨msg, -, hdisc⟩⟩
  · exact .inl (EStateM.of_triple (handleServerHello_plain_spec env msg) trivial hhello)
  · -- the end of `server-auth` writes the server's handshake state and the signaling state
    obtain ⟨-, s₁, himpl, -, rfl⟩ :=
      EStateM.of_triple (handleServerAuth_spec env msg nonceClone s) rfl hauth
    exact (handleServerAuthImpl_tokenShape himpl).of_authProvider rfl rfl
  · exact handleNewInitiator_tokenShape hinit
  · exact (EStateM.of_triple handleNewResponder_spec trivial hresp).elim
  · exact .inl (EStateM.of_triple (handleDisconnected_plain_spec msg) trivial hdisc)

/-- A message of the initiator: `key` is answered by our sealed `auth`, `auth` by
`HandshakeDone`. -/
lemma handlePeerMessage_tokenShape {obox : OpenBox Message} {s s' : ResponderSignaling}
    {actions : List HandleAction} (h : handlePeerMessage env obox s = .ok actions s') :
    TokenShape env.sodium env.msgpack s s' actions := by
  refine .inl ?_
  rcases handlePeerMessage_eq_ok env h with ⟨msg, -, -, hkey⟩ | ⟨msg, -, -, hauth⟩
  · obtain ⟨-, -, -, -, -, rfl, -⟩ :=
      EStateM.of_triple (handleKey_auth_spec env msg obox.nonce s) rfl hkey
    simp only [List.mem_singleton, forall_eq]
    exact HandleAction.plain_encrypt _ _ _
  · rw [EStateM.of_triple (handleAuth_done_spec env msg) trivial hauth]
    simp

/-- Opening a message fails with a decryption or a decoding error only. -/
lemma openBox_decrypt_ne_initiatorCouldNotDecrypt (bb : ByteBox) (kp : KeyPair) (k : PublicKey) :
    OpenBox.decrypt env.sodium env.msgpack bb kp k ≠ .error .initiatorCouldNotDecrypt := by
  unfold OpenBox.decrypt
  split
  · simp
  · split <;> simp

/-- The responder never reports an undecryptable `key`: that error is the initiator's. -/
lemma decodePeerMessage_ne_initiatorCouldNotDecrypt (s : ResponderSignaling) (bbox : ByteBox) :
    decodePeerMessage env s bbox ≠ .error .initiatorCouldNotDecrypt := by
  unfold decodePeerMessage
  split_ifs
  · simp
  · split
    · exact openBox_decrypt_ne_initiatorCouldNotDecrypt _ _ _
    · split
      · simp
      · exact openBox_decrypt_ne_initiatorCouldNotDecrypt _ _ _
    · simp

/-- A message outside the task state that passed the nonce check. -/
lemma handleHandshakePeerMessage_tokenShape {bbox : ByteBox} {s s' : ResponderSignaling}
    {actions : List HandleAction} (h : handleHandshakePeerMessage env bbox s = .ok actions s') :
    TokenShape env.sodium env.msgpack s s' actions := by
  rcases EStateM.of_triple (handleHandshakePeerMessage_spec env bbox s) rfl h with
    ⟨hdecode, -⟩ | ⟨obox, -, -, ⟨-, -, hserver⟩ | hpeer⟩
  · exact absurd hdecode (decodePeerMessage_ne_initiatorCouldNotDecrypt s bbox)
  · exact handleServerMessage_tokenShape hserver
  · exact handlePeerMessage_tokenShape hpeer

variable (env)

/-- Every call of `handle_message` that returns `Ok` sends plain actions, or, when it uses up the
token, plain actions around one token message. -/
theorem handleMessage_tokenShape {bbox : ByteBox} {s s' : ResponderSignaling}
    {actions : List HandleAction} (h : handleMessage env bbox s = .ok actions s') :
    TokenShape env.sodium env.msgpack s s' actions := by
  obtain ⟨s₁, hcheck, hrest⟩ := EStateM.of_triple (handleMessage_actions_spec env bbox s) rfl h
  -- the nonce check keeps the configuration, whether it passes or drops the message
  have hview : s₁.common.config = s.common.config :=
    RoleInv.validateNonce_view (fun s : ResponderSignaling => s.common.config) (roleInv env)
      (configRole env).destination (configRole env).setPeer hcheck
  have hauth : s₁.common.authProvider = s.common.authProvider := congrArg Config.authProvider hview
  rcases hrest with ⟨rfl, -⟩ | ⟨obox, nonceClone, hserver⟩ | ⟨-, hpeer⟩ | ⟨-, -, hmsg⟩
  · exact .inl (by simp)
  · exact (handleServerMessage_tokenShape hserver).of_authProvider hauth rfl
  · exact (handleHandshakePeerMessage_tokenShape hpeer).of_authProvider hauth rfl
  · rcases hmsg with rfl | ⟨m, rfl⟩
    · exact .inl (by simp)
    · exact .inl (by simp)

/-- A run from a state without a token sends no token message. -/
theorem handleAll_plain {bboxes : List ByteBox} {s s' : ResponderSignaling}
    {actionss : List (List HandleAction)}
    (hk : ∀ t, s.common.authProvider ≠ some (.token t))
    (h : handleAll env bboxes s = .ok actionss s') :
    ∀ a ∈ actionss.flatten, a.Plain env.sodium env.msgpack := by
  induction bboxes generalizing s actionss with
  | nil =>
    simp only [handleAll, EStateM.Result.ok.injEq] at h
    obtain ⟨rfl, -⟩ := h
    simp
  | cons bbox rest ih =>
    obtain ⟨actions, s₁, more, hcall, hrest, rfl⟩ := handleAll_cons_eq_ok env |>.mp h
    -- the call keeps the auth provider, which is no token
    have hkept : s₁.common.authProvider = s.common.authProvider :=
      (configRole env).authProvider_of_not_token (roleInv env) hk
        (.single ⟨bbox, actions, hcall⟩)
    have hk₁ : ∀ t, s₁.common.authProvider ≠ some (.token t) := hkept ▸ hk
    have hplain := (handleMessage_tokenShape env hcall).plain_of_not_token hk
    intro a ha
    rcases List.mem_append.mp (List.flatten_cons ▸ ha) with ha | ha
    · exact hplain a ha
    · exact ih hk₁ hrest a ha

/-- A run sends one token message at most. -/
theorem handleAll_atMostOne {bboxes : List ByteBox} {s s' : ResponderSignaling}
    {actionss : List (List HandleAction)} (hsep : env.sodium.SealsApart)
    (h : handleAll env bboxes s = .ok actionss s') :
    actionss.flatten.AtMostOne (HandleAction.IsToken env.sodium env.msgpack) := by
  induction bboxes generalizing s actionss with
  | nil =>
    simp only [handleAll, EStateM.Result.ok.injEq] at h
    obtain ⟨rfl, -⟩ := h
    exact .of_forall_not (by simp)
  | cons bbox rest ih =>
    obtain ⟨actions, s₁, more, hcall, hrest, rfl⟩ := handleAll_cons_eq_ok env |>.mp h
    have hshape := handleMessage_tokenShape env hcall
    rw [List.flatten_cons]
    refine (hshape.atMostOne hsep).2.append (ih hrest) ?_
    rcases hshape with hplain | ⟨⟨t, -, hnone⟩, -⟩
    · exact .inl fun a ha => HandleAction.not_isToken_of_plain hsep (hplain a ha)
    · -- the token is used up in this call: the rest of the run sends none
      refine .inr fun b hb => HandleAction.not_isToken_of_plain hsep ?_
      exact handleAll_plain env (fun t ht => by cases hnone.symm.trans ht) hrest b hb

end ResponderSignaling

end SaltyRtc
