import SaltyRtc.Protocol.Runs

/-!
# Validating nonces

What the four checks of `validate_nonce` (`src/protocol/mod.rs`) do to a client's state. The CSN
and cookie checks are the trait's shared methods: they look the peer up by the source address and
write the received CSN or cookie back into its context; a failed check leaves the state as it
was. The destination check is each role's own and may assign the client's identity; the source
check only reads.

A message whose nonce is dropped (`ValidationError::DropMsg`) ends `handle_message` with no
action; the only trace it leaves is the identity the destination check may have assigned before
the drop.
-/

namespace SaltyRtc

namespace Signaling

variable {σ : Type} [Signaling σ]

/-- Whether a nonce's CSN may follow the last one stored for its peer: the first one needs
overflow number 0, every later one must be larger. -/
def CsnFollows : Option CombinedSequenceSnapshot → CombinedSequenceSnapshot → Prop
  | none, csn => csn.overflow = 0
  | some previous, csn => previous < csn

instance (previous : Option CombinedSequenceSnapshot) (csn : CombinedSequenceSnapshot) :
    Decidable (CsnFollows previous csn) :=
  match previous with
  | none => inferInstanceAs (Decidable (csn.overflow = 0))
  | some previous => inferInstanceAs (Decidable (previous < csn))

/-- Looking up the peer of a nonce only reads the state. -/
lemma peerOf_apply (nonce : Nonce) (s : σ) :
    peerOf nonce s = match getPeerWithAddressMut s nonce.source with
      | .error m => .error (.panic m) s
      | .ok none => .error (.err (missingPeer (σ := σ) nonce)) s
      | .ok (some peer) => .ok peer s := by
  simp only [peerOf, EStateM.bind_apply, EStateM.get_apply]
  rcases getPeerWithAddressMut s nonce.source with m | _ | p <;> rfl

/-- `validate_nonce_csn` accepts exactly the CSNs that follow the stored one, and stores them. -/
lemma validateNonceCsn_eq_ok {nonce : Nonce} {s s' : σ} :
    validateNonceCsn nonce s = .ok () s' ↔
      ∃ peer, getPeerWithAddressMut s nonce.source = .ok (some peer) ∧
        CsnFollows peer.csnPair.theirs nonce.csn ∧
        s' = setPeerWithAddress s nonce.source { peer.csnPair with theirs := some nonce.csn }
          peer.cookiePair := by
  simp only [validateNonceCsn, EStateM.bind_apply, peerOf_apply]
  rcases h : getPeerWithAddressMut s nonce.source with m | _ | peer
  · simp
  · simp
  · rcases hp : peer.csnPair.theirs with _ | previous
    · by_cases h0 : nonce.csn.overflow = 0 <;> simp [h0, hp, CsnFollows, eq_comm]
    · -- the stored CSN is compared with `<` and `==` of `impl Ord`
      rcases CombinedSequenceSnapshot.lt_trichotomy nonce.csn previous with hlt | rfl | hgt
      · simp [hlt, hp, CsnFollows, CombinedSequenceSnapshot.lt_asymm hlt]
      · simp [hp, CsnFollows]
      · have hne : nonce.csn ≠ previous := fun e => by subst e; simp at hgt
        simp [hp, CsnFollows, hgt, hne, CombinedSequenceSnapshot.lt_asymm hgt, eq_comm]

/-- A failed CSN check changes nothing; it drops the message only when the peer is unknown. -/
lemma validateNonceCsn_eq_error {nonce : Nonce} {s s' : σ} {e : Fault ValidationError}
    (herr : validateNonceCsn nonce s = .error e s') : s' = s ∧
      (∀ m, e = .err (.dropMsg m) → getPeerWithAddressMut s nonce.source = .ok none) := by
  simp only [validateNonceCsn, EStateM.bind_apply, peerOf_apply] at herr
  rcases h : getPeerWithAddressMut s nonce.source with m | _ | peer <;> simp only [h] at herr
  · cases herr
    simp
  · cases herr
    simp [missingPeer]
  · rcases hp : peer.csnPair.theirs with _ | previous
    · by_cases h0 : nonce.csn.overflow = 0
      · simp [hp, h0] at herr
      · simp [hp, h0] at herr
        obtain ⟨rfl, rfl⟩ := herr
        simp
    · rcases CombinedSequenceSnapshot.lt_trichotomy nonce.csn previous with hlt | rfl | hgt
      · simp [hp, hlt] at herr
        obtain ⟨rfl, rfl⟩ := herr
        simp
      · simp [hp] at herr
        obtain ⟨rfl, rfl⟩ := herr
        simp
      · have hne : nonce.csn ≠ previous := fun e => by subst e; simp at hgt
        simp [hp, hne, CombinedSequenceSnapshot.lt_asymm hgt] at herr

/-- `validate_nonce_cookie` accepts a first cookie that differs from ours, and stores it, or the
cookie stored before. -/
lemma validateNonceCookie_eq_ok {nonce : Nonce} {s s' : σ} :
    validateNonceCookie nonce s = .ok () s' ↔
      ∃ peer, getPeerWithAddressMut s nonce.source = .ok (some peer) ∧
        ((peer.cookiePair.theirs = none ∧ nonce.cookie ≠ peer.cookiePair.ours ∧
          s' = setPeerWithAddress s nonce.source peer.csnPair
            { peer.cookiePair with theirs := some nonce.cookie }) ∨
         (peer.cookiePair.theirs = some nonce.cookie ∧ s' = s)) := by
  simp only [validateNonceCookie, EStateM.bind_apply, peerOf_apply]
  rcases h : getPeerWithAddressMut s nonce.source with m | _ | peer
  · simp
  · simp
  · rcases hp : peer.cookiePair.theirs with _ | cookie
    · by_cases hc : nonce.cookie = peer.cookiePair.ours <;> simp [hc, hp, eq_comm]
    · by_cases hc : nonce.cookie = cookie
      · simp [hc, hp, eq_comm]
      · have hc' : cookie ≠ nonce.cookie := Ne.symm hc
        simp [hc, hc', hp]

/-- A failed cookie check changes nothing; it drops the message only when the peer is
unknown. -/
lemma validateNonceCookie_eq_error {nonce : Nonce} {s s' : σ} {e : Fault ValidationError}
    (herr : validateNonceCookie nonce s = .error e s') : s' = s ∧
      (∀ m, e = .err (.dropMsg m) → getPeerWithAddressMut s nonce.source = .ok none) := by
  simp only [validateNonceCookie, EStateM.bind_apply, peerOf_apply] at herr
  rcases h : getPeerWithAddressMut s nonce.source with m | _ | peer <;> simp only [h] at herr
  · cases herr
    simp
  · cases herr
    simp [missingPeer]
  · rcases hp : peer.cookiePair.theirs with _ | cookie
    · by_cases hc : nonce.cookie = peer.cookiePair.ours
      · simp [hp, hc] at herr
        obtain ⟨rfl, rfl⟩ := herr
        simp
      · simp [hp, hc] at herr
    · by_cases hc : nonce.cookie = cookie
      · simp [hp, hc] at herr
      · simp [hp, hc] at herr
        obtain ⟨rfl, rfl⟩ := herr
        simp

end Signaling

namespace InitiatorSignaling

/-- The initiator's destination check never drops a message, and changes nothing but, possibly,
the identity of a client without one, to `initiator`. -/
lemma validateNonceDestination_cases (nonce : Nonce) (s : InitiatorSignaling) :
    (∀ m s', validateNonceDestination nonce s ≠ .error (.err (.dropMsg m)) s') ∧
    ((validateNonceDestination nonce s).state = s ∨
      s.common.identity = .unknown ∧ s.common.server.handshakeState ≠ .new ∧
        (validateNonceDestination nonce s).state =
          { s with common := { s.common with identity := .initiator } }) := by
  simp only [validateNonceDestination, EStateM.bind_apply, EStateM.get_apply]
  split_ifs with hc hi
  · obtain ⟨hu, -, hnew⟩ := hc
    simp only [EStateM.set_apply, EStateM.get_apply, ClientIdentity.toAddress, liftAddress,
      EStateM.pure_apply, EStateM.bind_apply]
    split_ifs <;> simp [hu, hnew]
  · simp
  · cases ha : s.common.identity.toAddress with
    | none => simp [liftAddress, ha]
    | some ours =>
      simp only [liftAddress, ha, EStateM.pure_apply, EStateM.bind_apply, EStateM.get_apply]
      split_ifs <;> simp

/-- The initiator's source check only reads the state. -/
lemma validateNonceSource_state (nonce : Nonce) (s : InitiatorSignaling) :
    (validateNonceSource nonce s).state = s := by
  simp only [validateNonceSource, EStateM.bind_apply, EStateM.get_apply]
  split_ifs <;> rfl

end InitiatorSignaling

namespace ResponderSignaling

/-- The responder's destination check never drops a message, and changes nothing but, possibly,
the identity of a client without one, to the responder address the nonce is sent to. -/
lemma validateNonceDestination_cases (nonce : Nonce) (s : ResponderSignaling) :
    (∀ m s', validateNonceDestination nonce s ≠ .error (.err (.dropMsg m)) s') ∧
    ((validateNonceDestination nonce s).state = s ∨
      s.common.identity = .unknown ∧ s.common.server.handshakeState ≠ .new ∧
        nonce.destination.isResponder ∧ (validateNonceDestination nonce s).state =
          { s with common := { s.common with identity := .responder nonce.destination.val } }) := by
  simp only [validateNonceDestination, EStateM.bind_apply, EStateM.get_apply]
  split_ifs with hc hi
  · obtain ⟨hu, -, hnew⟩ := hc
    simp only [EStateM.set_apply, EStateM.get_apply, EStateM.bind_apply]
    cases ha : (ClientIdentity.responder nonce.destination.val).toAddress with
    | none => simp [liftAddress, hu, hi, hnew]
    | some ours =>
      simp only [liftAddress, EStateM.pure_apply]
      split_ifs <;> simp [hu, hi, hnew]
  · simp
  · cases ha : s.common.identity.toAddress with
    | none => simp [liftAddress, ha]
    | some ours =>
      simp only [liftAddress, ha, EStateM.pure_apply, EStateM.bind_apply, EStateM.get_apply]
      split_ifs <;> simp

/-- The responder's source check only reads the state. -/
lemma validateNonceSource_state (nonce : Nonce) (s : ResponderSignaling) :
    (validateNonceSource nonce s).state = s := by
  simp only [validateNonceSource, EStateM.bind_apply, EStateM.get_apply]
  split_ifs <;> rfl

end ResponderSignaling

namespace Handlers

variable {σ : Type} [Handlers σ]

open Signaling

/-- A dropped nonce leaves the state the destination check produced: the source check only
reads, a failed CSN check changes nothing, and after a passed CSN check the peer is still
known, so the cookie check cannot drop. -/
lemma validateNonce_eq_dropMsg {nonce : Nonce} {s s' : σ} {m : String}
    (hdest : ∀ m s', validateNonceDestination nonce s ≠ .error (.err (.dropMsg m)) s')
    (hsource : ∀ s₁ : σ, (validateNonceSource nonce s₁).state = s₁)
    (h : validateNonce nonce s = .error (.err (.dropMsg m)) s') :
    s' = (validateNonceDestination nonce s).state := by
  simp only [validateNonce, EStateM.bind_apply] at h
  cases hd : validateNonceDestination nonce s with
  | error e s₁ =>
    simp only [hd, EStateM.Result.error.injEq] at h
    obtain ⟨rfl, rfl⟩ := h
    exact absurd hd (hdest m _)
  | ok u s₁ =>
    simp only [hd] at h
    have hs₁ := hsource s₁
    cases hs : validateNonceSource nonce s₁ with
    | error e s₂ =>
      simp only [hs, EStateM.Result.error.injEq, EStateM.Result.state_error] at h hs₁
      obtain ⟨-, rfl⟩ := h
      simpa using hs₁
    | ok u s₂ =>
      simp only [hs] at h hs₁
      subst hs₁
      cases hc : validateNonceCsn nonce s₂ with
      | error e s₃ =>
        simp only [hc, EStateM.Result.error.injEq] at h
        obtain ⟨-, rfl⟩ := h
        simpa using (validateNonceCsn_eq_error hc).1
      | ok u s₃ =>
        simp only [hc] at h
        obtain ⟨peer, hpeer, -, rfl⟩ := validateNonceCsn_eq_ok.mp hc
        have hfound := getPeerWithAddressMut_setPeerWithAddress _ _ _
          { peer.csnPair with theirs := some nonce.csn } peer.cookiePair hpeer
        have hmissing := (validateNonceCookie_eq_error h).2 m rfl
        rw [hfound] at hmissing
        cases hmissing

/-- A passed nonce check is a passed destination check, then a passed CSN check and a passed
cookie check, in the states they leave; the source check only reads. -/
lemma validateNonce_eq_ok {nonce : Nonce} {s s' : σ}
    (hsource : ∀ s₁ : σ, (validateNonceSource nonce s₁).state = s₁)
    (h : validateNonce nonce s = .ok () s') :
    ∃ s₁ s₂, validateNonceDestination nonce s = .ok () s₁ ∧ validateNonceCsn nonce s₁ = .ok () s₂ ∧
      validateNonceCookie nonce s₂ = .ok () s' := by
  simp only [validateNonce, EStateM.bind_apply] at h
  cases hd : validateNonceDestination nonce s with
  | error e s₁ => simp [hd] at h
  | ok u s₁ =>
    simp only [hd] at h
    have hs₁ := hsource s₁
    cases hs : validateNonceSource nonce s₁ with
    | error e s₂ => simp [hs] at h
    | ok u s₂ =>
      simp only [hs, EStateM.Result.state_ok] at h hs₁
      subst hs₁
      cases hc : validateNonceCsn nonce s₂ with
      | error e s₃ => simp [hc] at h
      | ok u s₃ =>
        simp only [hc] at h
        exact ⟨s₂, s₃, rfl, hc, h⟩

/-- A passed nonce check writes back, after the destination check, at most the CSN and the
cookie of the peer: what survives such writes survives the check. -/
lemma validateNonce_eq_ok_of {P : σ → Prop} {nonce : Nonce} {s s' : σ}
    (hsource : ∀ s₁ : σ, (validateNonceSource nonce s₁).state = s₁)
    (hP : ∀ s₁ addr csnPair cookiePair, P s₁ → P (setPeerWithAddress s₁ addr csnPair cookiePair))
    (hdest : P (validateNonceDestination nonce s).state)
    (h : validateNonce nonce s = .ok () s') : P s' := by
  obtain ⟨s₁, s₂, hd, hc, hk⟩ := validateNonce_eq_ok hsource h
  rw [hd, EStateM.Result.state_ok] at hdest
  obtain ⟨peer, -, -, rfl⟩ := validateNonceCsn_eq_ok.mp hc
  -- the cookie check stores a first cookie, or finds the stored one
  obtain ⟨peer', -, ⟨-, -, rfl⟩ | ⟨-, rfl⟩⟩ := validateNonceCookie_eq_ok.mp hk
  · exact hP _ _ _ _ (hP _ _ _ _ hdest)
  · exact hP _ _ _ _ hdest

/-- `checkNonce` goes on after a passed check and stops after a dropped one, in the state the
check left. -/
lemma checkNonce_eq_ok {nonce : Nonce} {s s' : σ} {valid : Bool}
    (h : checkNonce nonce s = .ok valid s') :
    validateNonce nonce s = .ok () s' ∧ valid = true ∨
      (∃ m, validateNonce nonce s = .error (.err (.dropMsg m)) s') ∧ valid = false := by
  unfold checkNonce at h
  rcases hv : validateNonce nonce s with ⟨⟩ | ⟨(e | m), s₁⟩
  · simp only [hv, EStateM.Result.ok.injEq] at h
    obtain ⟨rfl, rfl⟩ := h
    exact .inl ⟨rfl, rfl⟩
  · cases e <;> simp only [hv, reduceCtorEq, EStateM.Result.ok.injEq] at h
    obtain ⟨rfl, rfl⟩ := h
    exact .inr ⟨⟨_, rfl⟩, rfl⟩
  · simp [hv] at h

variable (env : Env)

/-- A dropped nonce ends `handle_message` with no action. -/
lemma handleMessage_of_validateNonce_eq_dropMsg {bbox : ByteBox} {s s' : σ} {m : String}
    (h : validateNonce bbox.nonce s = .error (.err (.dropMsg m)) s') :
    handleMessage env bbox s = .ok [] s' := by
  have hcheck : checkNonce bbox.nonce s = .ok false s' := by
    simp only [checkNonce, h]
  simp only [handleMessage, EStateM.bind_apply, hcheck]
  rfl

/-- After a passed nonce check, a message from the server goes to `handle_server_message`, with
the nonce kept for a `server-auth` message. -/
lemma handleMessage_of_validateNonce_server {bbox : ByteBox} {s s₁ : σ}
    {obox : OpenBox Message} (hvalid : validateNonce bbox.nonce s = .ok () s₁)
    (hsrc : bbox.nonce.source.isServer = true)
    (hdecode : decodeServerMessage env s₁ bbox = .ok obox) :
    handleMessage env bbox s = handleServerMessage env obox
      (if obox.message.getType = "server-auth" then some bbox.nonce else none) s₁ := by
  have hcheck : checkNonce bbox.nonce s = .ok true s₁ := by
    simp only [checkNonce, hvalid]
  simp [handleMessage, hcheck, hsrc, liftResult, hdecode]

/-- After a passed nonce check, a message from a peer outside the task state goes to
`handle_handshake_peer_message`. -/
lemma handleMessage_of_validateNonce_peer {bbox : ByteBox} {s s₁ : σ}
    (hvalid : validateNonce bbox.nonce s = .ok () s₁) (hsrc : bbox.nonce.source.isServer = false)
    (hnt : (common s₁).signalingState ≠ .task) :
    handleMessage env bbox s = handleHandshakePeerMessage env bbox s₁ := by
  have hcheck : checkNonce bbox.nonce s = .ok true s₁ := by
    simp only [checkNonce, hvalid]
  simp [handleMessage, hcheck, hsrc]
  -- both handshake states hand the message to the handshake handler
  cases hsig : (common s₁).signalingState with
  | serverHandshake => rfl
  | peerHandshake => rfl
  | task => exact absurd hsig hnt

end Handlers

/-! ## The CSN rule -/

/-- The CSN check asks only for a larger CSN, not for the next one: after CSN 5 from a peer,
CSN 7 is accepted and stored. -/
theorem validateNonceCsn_skips_ahead {σ : Type} [Signaling σ] {s : σ} {nonce : Nonce}
    {peer : Peer} (hpeer : Signaling.getPeerWithAddressMut s nonce.source = .ok (some peer))
    (hlast : peer.csnPair.theirs = some ⟨0, 5⟩) (hcsn : nonce.csn = ⟨0, 7⟩) :
    Signaling.validateNonceCsn nonce s = .ok ()
      (Signaling.setPeerWithAddress s nonce.source { peer.csnPair with theirs := some ⟨0, 7⟩ }
        peer.cookiePair) := by
  rw [Signaling.validateNonceCsn_eq_ok]
  refine ⟨peer, hpeer, ?_, by rw [hcsn]⟩
  rw [hlast, hcsn]
  decide

/-- The responder of the concrete run, after `server-hello` with CSN 5, accepts CSN 7 from the
server. -/
theorem validateNonceCsn_skips_ahead_after_hello :
    let s := (handleAll (Toy.responderEnv fun _ => 1) [Toy.helloBox]
      (Toy.responder false fun _ => 1)).state
    Signaling.getPeerWithAddressMut s ⟨0⟩ = .ok (some s.common.server.toPeer) ∧
      s.common.server.toPeer.csnPair.theirs = some ⟨0, 5⟩ ∧ (Toy.serverNonce 0 7).csn = ⟨0, 7⟩ ∧
      Signaling.validateNonceCsn (Toy.serverNonce 0 7) s = .ok ()
        (Signaling.setPeerWithAddress s ⟨0⟩
          { s.common.server.toPeer.csnPair with theirs := some ⟨0, 7⟩ }
          s.common.server.toPeer.cookiePair) := by
  intro s
  have hpeer : Signaling.getPeerWithAddressMut s ⟨0⟩ = .ok (some s.common.server.toPeer) := by
    decide +kernel
  have hlast : s.common.server.toPeer.csnPair.theirs = some ⟨0, 5⟩ := by decide +kernel
  exact ⟨hpeer, hlast, rfl, validateNonceCsn_skips_ahead hpeer hlast rfl⟩

/-! ## Dropped messages -/

/-- A dropped message has no effect beyond the identity the destination check assigned before
the drop: `handle_message` returns no action, and the state is unchanged or only has the role's
identity, where there was none. -/
theorem handleMessage_dropped (env : Env) :
    (∀ (s s' : InitiatorSignaling) (bbox : ByteBox) (m : String),
      Handlers.validateNonce bbox.nonce s = .error (.err (.dropMsg m)) s' →
      Handlers.handleMessage env bbox s = .ok [] s' ∧
        (s' = s ∨ s.common.identity = .unknown ∧
          s' = { s with common := { s.common with identity := .initiator } })) ∧
    (∀ (s s' : ResponderSignaling) (bbox : ByteBox) (m : String),
      Handlers.validateNonce bbox.nonce s = .error (.err (.dropMsg m)) s' →
      Handlers.handleMessage env bbox s = .ok [] s' ∧
        (s' = s ∨ s.common.identity = .unknown ∧ bbox.nonce.destination.isResponder ∧
          s' = { s with common := { s.common with
            identity := .responder bbox.nonce.destination.val } })) := by
  constructor
  · intro s s' bbox m h
    refine ⟨Handlers.handleMessage_of_validateNonce_eq_dropMsg env h, ?_⟩
    have hstate := Handlers.validateNonce_eq_dropMsg
      (InitiatorSignaling.validateNonceDestination_cases bbox.nonce s).1
      (InitiatorSignaling.validateNonceSource_state bbox.nonce) h
    rcases (InitiatorSignaling.validateNonceDestination_cases bbox.nonce s).2 with
      hsame | ⟨hunknown, -, hassigned⟩
    · exact .inl (hstate.trans hsame)
    · exact .inr ⟨hunknown, hstate.trans hassigned⟩
  · intro s s' bbox m h
    refine ⟨Handlers.handleMessage_of_validateNonce_eq_dropMsg env h, ?_⟩
    have hstate := Handlers.validateNonce_eq_dropMsg
      (ResponderSignaling.validateNonceDestination_cases bbox.nonce s).1
      (ResponderSignaling.validateNonceSource_state bbox.nonce) h
    rcases (ResponderSignaling.validateNonceDestination_cases bbox.nonce s).2 with
      hsame | ⟨hunknown, -, hresponder, hassigned⟩
    · exact .inl (hstate.trans hsame)
    · exact .inr ⟨hunknown, hresponder, hstate.trans hassigned⟩

/-- A message from `0x01` to `0x01`, after `server-hello`, is dropped by the initiator's source
check, but the destination check has already made `0x01` its identity. -/
theorem handleMessage_dropped_assigns_identity :
    ∃ (s s' : InitiatorSignaling) (bbox : ByteBox) (m : String),
      InitiatorSignaling.Reachable Toy.initiatorEnv s ∧
      Handlers.validateNonce bbox.nonce s = .error (.err (.dropMsg m)) s' ∧
      Handlers.handleMessage Toy.initiatorEnv bbox s = .ok [] s' ∧
      s'.common.identity ≠ s.common.identity := by
  let s := (handleAll Toy.initiatorEnv [Toy.helloBox] (Toy.initiator false)).state
  let bbox : ByteBox := ⟨[], ⟨Toy.cookie 77, ⟨1⟩, ⟨1⟩, ⟨0, 1⟩⟩⟩
  have hreach : InitiatorSignaling.Reachable Toy.initiatorEnv s :=
    reachable_handleAll _ _ (.init (Toy.initiator_initial false)) (by decide +kernel)
  have hdrop : Handlers.validateNonce bbox.nonce s =
      .error (.err (.dropMsg "Bad source: 0x01 (our identity is initiator)"))
        (Handlers.validateNonce bbox.nonce s).state :=
    EStateM.Result.eq_error_of_error? (by decide +kernel)
  refine ⟨s, _, bbox, _, hreach, hdrop,
    Handlers.handleMessage_of_validateNonce_eq_dropMsg _ hdrop, ?_⟩
  decide +kernel

end SaltyRtc
