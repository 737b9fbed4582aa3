import Mathlib
import SaltyRtc.Protocol.Pinning

/-!
# The cookie rule

Every message of a peer carries the peer's cookie in its nonce. `validate_nonce_cookie`
(`src/protocol/mod.rs`) checks it against the cookie pair of the peer's context: the first cookie
must differ from ours, and is stored; every later one must be the stored one. `CookiePair.check`
is that rule for one peer. No other code writes a cookie pair. A handler keeps the pair of a
context, replaces the context by a fresh one with no stored cookie, or drops it
(`CookiePair.Handled`), and which of these it may do depends on what it handles: only the
server's `new-initiator`, `new-responder` and `server-auth` create contexts afresh, at the
addresses they name (`Message.CreatesContext`), and contexts are dropped only by the initiator's
path cleaning after `new-responder` and `server-auth`, and when it enters the task state.

A context is found by its address, as `get_peer_with_address_mut` finds it (`cookiePairAt`); at the
initiator this reads the list of responders before the task state and the chosen responder in it.
`CookieRole` collects what a role's code does to the pairs. From it, every call of
`handle_message` applies the rule to the context of the sender and then what its handler may do
(`CookieRole.okStep`), so that over any run a stored cookie stays until a call creates its context
afresh or drops it (`CookieRole.stored_of_reach`).
-/

namespace SaltyRtc

namespace CookiePair

/-- The cookie rule for the messages of one peer: the first cookie must differ from ours, and is
stored; every later one must be the stored one. The pair after an accepted cookie, `none` for a
rejected one. -/
def check (p : CookiePair) (c : Cookie) : Option CookiePair :=
  match p.theirs with
  | none => if c = p.ours then none else some { p with theirs := some c }
  | some stored => if c = stored then some p else none

section Check

variable {p p' : CookiePair} {c d : Cookie}

lemma check_of_theirs_eq_none (h : p.theirs = none) :
    p.check c = if c = p.ours then none else some { p with theirs := some c } := by
  simp [check, h]

lemma check_of_theirs_eq_some (h : p.theirs = some d) : p.check c = if c = d then some p else none := by
  simp [check, h]

/-- A stored cookie is never replaced. -/
lemma eq_of_check_of_theirs_eq_some (h : p.theirs = some d) (hc : p.check c = some p') : p' = p := by
  rw [check_of_theirs_eq_some h] at hc
  split_ifs at hc
  exact (Option.some.inj hc).symm

end Check

/-- No cookie is stored: the context is gone, or has accepted no message yet. -/
def Fresh (p : Option CookiePair) : Prop :=
  ∀ cp, p = some cp → cp.theirs = none

/-- What a handler does to the pair of a context: keeps it; replaces the context by a fresh one,
with no stored cookie, where it may (`creates`); or drops the context, where it may (`drops`). -/
def Handled (creates drops : Prop) (p p' : Option CookiePair) : Prop :=
  p' = p ∨ creates ∧ Fresh p' ∨ drops ∧ p' = none

/-- What the nonce check of a message from `source` with cookie `c` does to the pair of the
context at `a`: the rule, at the sender's context; nothing elsewhere. -/
def Checked (source : Address) (c : Cookie) (a : Address) (p p' : Option CookiePair) : Prop :=
  p' = p ∨ a = source ∧ ∃ cp cp', p = some cp ∧ cp.check c = some cp' ∧ p' = some cp'

/-- What one call does to the pair of the context at `a`: the nonce check, then the handler. -/
def Step (source : Address) (c : Cookie) (creates drops : Prop) (a : Address)
    (p p' : Option CookiePair) : Prop :=
  ∃ p₁, Checked source c a p p₁ ∧ Handled creates drops p₁ p'

section Handled

variable {p p₁ p' : Option CookiePair} {creates drops creates' drops' : Prop} {source a : Address}
  {c d : Cookie}

lemma Handled.refl (p : Option CookiePair) : Handled creates drops p p := .inl rfl

lemma Handled.created (hc : creates) (hf : Fresh p') : Handled creates drops p p' :=
  .inr (.inl ⟨hc, hf⟩)

lemma Handled.dropped (hd : drops) : Handled creates drops p none := .inr (.inr ⟨hd, rfl⟩)

/-- Two handlers of one call, each allowed the same. -/
lemma Handled.trans (h : Handled creates drops p p₁) (h' : Handled creates drops p₁ p') :
    Handled creates drops p p' := by
  rcases h' with rfl | ⟨hc, hf⟩ | ⟨hd, rfl⟩
  · exact h
  · exact .created hc hf
  · exact .dropped hd

lemma Handled.mono (hc : creates → creates') (hd : drops → drops') (h : Handled creates drops p p') :
    Handled creates' drops' p p' := by
  rcases h with rfl | ⟨hcr, hf⟩ | ⟨hdr, rfl⟩
  · exact .refl _
  · exact .created (hc hcr) hf
  · exact .dropped (hd hdr)

/-- The rule keeps a pair with a stored cookie as it is. -/
lemma Checked.stored {cp : CookiePair} (h : Checked source c a p p₁) (hp : p = some cp)
    (hd : cp.theirs = some d) : p₁ = p := by
  rcases h with rfl | ⟨-, cp₁, cp', hp₁, hcheck, rfl⟩
  · rfl
  · obtain rfl : cp₁ = cp := Option.some.inj (hp₁.symm.trans hp)
    rw [eq_of_check_of_theirs_eq_some hd hcheck, hp]

/-- A stored cookie survives a call, unless the call's handler creates the context afresh or
drops it. -/
lemma Step.stored {cp : CookiePair} (h : Step source c creates drops a p p') (hp : p = some cp)
    (hd : cp.theirs = some d) : Handled creates drops p p' := by
  obtain ⟨p₁, hcheck, hhandled⟩ := h
  rwa [hcheck.stored hp hd] at hhandled

end Handled

end CookiePair

open CookiePair

/-! ## What the server's messages may do to the contexts -/

/-- The contexts a message of the server creates afresh: `new-initiator` the initiator's,
`new-responder` the new responder's, `server-auth` those of the responders it lists. -/
def Message.CreatesContext : Message → Address → Prop
  | .newInitiator, a => a.isInitiator
  | .newResponder msg, a => a = msg.id
  | .serverAuth msg, a => a ∈ msg.responders.getD []
  | _, _ => False

/-- The messages of the server after which the initiator cleans its path, dropping its oldest
inactive responder when it has too many: `new-responder` and `server-auth`. -/
def Message.RegistersResponders : Message → Prop
  | .newResponder _ | .serverAuth _ => True
  | _ => False

/-! ## The pair of the context at an address -/

namespace Signaling

variable {σ : Type} [Signaling σ]

/-- The cookie pair of the context `get_peer_with_address_mut` finds at an address; `none` where it
finds none, or panics. -/
def cookiePairAt (s : σ) (addr : Address) : Option CookiePair :=
  match getPeerWithAddressMut s addr with
  | .ok peer => peer.map Peer.cookiePair
  | .error _ => none

variable {s s' s'' : σ} {nonce : Nonce} {addr : Address} {peer : Peer}

lemma cookiePairAt_of_getPeerWithAddressMut (h : getPeerWithAddressMut s addr = .ok (some peer)) :
    cookiePairAt s addr = some peer.cookiePair := by
  simp [cookiePairAt, h]

/-- The pairs written back at an address are found there afterwards. -/
lemma cookiePairAt_setPeerWithAddress (h : getPeerWithAddressMut s addr = .ok (some peer))
    (csnPair : CombinedSequencePair) (cookiePair : CookiePair) :
    cookiePairAt (setPeerWithAddress s addr csnPair cookiePair) addr = some cookiePair :=
  cookiePairAt_of_getPeerWithAddressMut (getPeerWithAddressMut_setPeerWithAddress s addr peer csnPair cookiePair h)

/-- What a handler of the server's message `m` may do to the pairs from `s` to `s'`. -/
def CookiesHandled (m : Message) (s s' : σ) : Prop :=
  ∀ a, Handled (m.CreatesContext a) m.RegistersResponders (cookiePairAt s a) (cookiePairAt s' a)

lemma CookiesHandled.of_eq {m : Message} (h : ∀ a, cookiePairAt s' a = cookiePairAt s a) :
    CookiesHandled m s s' :=
  fun a => .inl (h a)

lemma CookiesHandled.trans_eq {m : Message} (h : CookiesHandled m s s')
    (h' : ∀ a, cookiePairAt s'' a = cookiePairAt s' a) : CookiesHandled m s s'' :=
  fun a => h' a ▸ h a

variable (env : Env)

/-- The call on `bbox` from `s` handles `m`, a message of the server: the box comes from the
server and opens, in `s`, to `m`. -/
def HandlesServerMessage (s : σ) (bbox : ByteBox) (m : Message) : Prop :=
  bbox.nonce.source.isServer ∧ (decodeServerMessage env s bbox).map OpenBox.message = .ok m

/-- The call creates the context at `a` afresh: it handles a message of the server that creates
it. -/
def CreatesContextAt (s : σ) (bbox : ByteBox) (a : Address) : Prop :=
  ∃ m, HandlesServerMessage env s bbox m ∧ m.CreatesContext a

/-- The call from `s` to `s'` may drop contexts: it handles a message of the server after which
the initiator cleans its path, or it enters the task state. -/
def DropsContexts (s : σ) (bbox : ByteBox) (s' : σ) : Prop :=
  (∃ m, HandlesServerMessage env s bbox m ∧ m.RegistersResponders) ∨
    (common s).signalingState ≠ .task ∧ (common s').signalingState = .task

variable {env}

/-- `validate_nonce_cookie` is the rule on the pair of the sender's context: a passed check leaves
there the pair the rule gives, having changed nothing or written back the pairs of that
context. -/
lemma validateNonceCookie_check (h : validateNonceCookie nonce s = .ok () s') :
    ∃ cp cp', cookiePairAt s nonce.source = some cp ∧ cp.check nonce.cookie = some cp' ∧
      cookiePairAt s' nonce.source = some cp' ∧
      (s' = s ∨ ∃ csnPair, s' = setPeerWithAddress s nonce.source csnPair cp') := by
  obtain ⟨peer, hpeer, ⟨hnone, hne, rfl⟩ | ⟨hsome, rfl⟩⟩ := validateNonceCookie_eq_ok.mp h
  · refine ⟨peer.cookiePair, _, cookiePairAt_of_getPeerWithAddressMut hpeer, ?_,
      cookiePairAt_setPeerWithAddress hpeer _ _, .inr ⟨_, rfl⟩⟩
    rw [check_of_theirs_eq_none hnone, if_neg hne]
  · refine ⟨peer.cookiePair, peer.cookiePair, cookiePairAt_of_getPeerWithAddressMut hpeer, ?_,
      cookiePairAt_of_getPeerWithAddressMut hpeer, .inl rfl⟩
    rw [check_of_theirs_eq_some hsome, if_pos rfl]

/-- `validateNonceCookie_check` where the sender's context is the one found. -/
lemma validateNonceCookie_check_of_peer (hpeer : getPeerWithAddressMut s nonce.source = .ok (some peer))
    (h : validateNonceCookie nonce s = .ok () s') :
    ∃ cp', peer.cookiePair.check nonce.cookie = some cp' ∧ cookiePairAt s' nonce.source = some cp' := by
  obtain ⟨cp, cp', hcp, hcheck, hcp', -⟩ := validateNonceCookie_check h
  rw [cookiePairAt_of_getPeerWithAddressMut hpeer, Option.some.injEq] at hcp
  subst hcp
  exact ⟨cp', hcheck, hcp'⟩

/-- Where the sender's context is found, `validate_nonce_cookie` passes exactly when the rule
accepts the cookie. -/
lemma validateNonceCookie_isOk_iff (hpeer : getPeerWithAddressMut s nonce.source = .ok (some peer)) :
    (∃ s', validateNonceCookie nonce s = .ok () s') ↔ (peer.cookiePair.check nonce.cookie).isSome := by
  constructor
  · rintro ⟨s', h⟩
    obtain ⟨cp', hcheck, -⟩ := validateNonceCookie_check_of_peer hpeer h
    rw [hcheck]
    rfl
  · intro hok
    rcases htheirs : peer.cookiePair.theirs with _ | d
    · rw [check_of_theirs_eq_none htheirs] at hok
      have hne : nonce.cookie ≠ peer.cookiePair.ours := fun he => by simp [he] at hok
      exact ⟨_, validateNonceCookie_eq_ok.mpr ⟨peer, hpeer, .inl ⟨htheirs, hne, rfl⟩⟩⟩
    · rw [check_of_theirs_eq_some htheirs] at hok
      have he : nonce.cookie = d := by
        by_contra hne
        simp [hne] at hok
      exact ⟨s, validateNonceCookie_eq_ok.mpr ⟨peer, hpeer, .inr ⟨he ▸ htheirs, rfl⟩⟩⟩

/-- Before the first message of the peer, a cookie is accepted exactly when it differs from our
cookie for that peer, and it is then stored. -/
lemma validateNonceCookie_first (hpeer : getPeerWithAddressMut s nonce.source = .ok (some peer))
    (hnone : peer.cookiePair.theirs = none) :
    ((∃ s', validateNonceCookie nonce s = .ok () s') ↔ nonce.cookie ≠ peer.cookiePair.ours) ∧
      ∀ s', validateNonceCookie nonce s = .ok () s' →
        cookiePairAt s' nonce.source = some { peer.cookiePair with theirs := some nonce.cookie } := by
  refine ⟨?_, fun s' h => ?_⟩
  · rw [validateNonceCookie_isOk_iff hpeer, check_of_theirs_eq_none hnone]
    by_cases hc : nonce.cookie = peer.cookiePair.ours <;> simp [hc]
  · obtain ⟨cp', hcheck, hcp'⟩ := validateNonceCookie_check_of_peer hpeer h
    rw [check_of_theirs_eq_none hnone] at hcheck
    split_ifs at hcheck
    rw [hcp', ← hcheck]

/-- Once a cookie is stored, a cookie is accepted exactly when it is the stored one, and the check
then changes nothing. -/
lemma validateNonceCookie_later {d : Cookie}
    (hpeer : getPeerWithAddressMut s nonce.source = .ok (some peer))
    (hd : peer.cookiePair.theirs = some d) :
    ((∃ s', validateNonceCookie nonce s = .ok () s') ↔ nonce.cookie = d) ∧
      ∀ s', validateNonceCookie nonce s = .ok () s' → s' = s := by
  refine ⟨?_, fun s' h => ?_⟩
  · rw [validateNonceCookie_isOk_iff hpeer, check_of_theirs_eq_some hd]
    by_cases hc : nonce.cookie = d <;> simp [hc]
  · obtain ⟨peer', hpeer', ⟨hnone, -, -⟩ | ⟨-, rfl⟩⟩ := validateNonceCookie_eq_ok.mp h
    · -- the context found is the one with the stored cookie
      rw [hpeer, Except.ok.injEq, Option.some.injEq] at hpeer'
      subst hpeer'
      rw [hd] at hnone
      cases hnone
    · rfl

end Signaling

/-! ## What a role's code does to the pairs -/

open Signaling Handlers

/-- What a role's code does to the cookie pairs of its contexts, under an invariant `J` of its
own that the code keeps. The destination check, and a write of common data that keeps the
server's pair and whether we are in the task state, change no pair; the write-back of a peer's
pairs changes no other context; the role's handler of each message of the server does what that
message allows (`CookiesHandled`), `disconnected` changing no pair; its handlers of the peer
handshake keep every pair, or drop contexts as they enter the task state. Besides, the nonce
check keeps what decrypting the server's messages reads, and a peer's box opens under the nonce
it came with. -/
structure CookieRole (σ : Type) [Handlers σ] (env : Env) where
  /-- The invariant. -/
  J : σ → Prop
  destination : ∀ nonce (s : σ), J s → J (validateNonceDestination nonce s).state ∧
    ∀ a, cookiePairAt (validateNonceDestination nonce s).state a = cookiePairAt s a
  setPeer : ∀ (s : σ) addr csnPair cookiePair, J s →
    J (setPeerWithAddress s addr csnPair cookiePair) ∧
      ∀ a, a ≠ addr → cookiePairAt (setPeerWithAddress s addr csnPair cookiePair) a = cookiePairAt s a
  setCommon : ∀ (s : σ) (c : Common), J s → c.server.cookiePair = (common s).server.cookiePair →
    (c.signalingState = .task ↔ (common s).signalingState = .task) →
    J (setCommon s c) ∧ ∀ a, cookiePairAt (setCommon s c) a = cookiePairAt s a
  serverView_destination : ∀ nonce (s : σ),
    serverView (validateNonceDestination nonce s).state = serverView s
  serverView_setPeer : ∀ (s : σ) addr csnPair cookiePair,
    serverView (setPeerWithAddress s addr csnPair cookiePair) = serverView s
  decodePeerMessage_nonce : ∀ (s : σ) bbox obox, decodePeerMessage env s bbox = .ok obox →
    obox.nonce = bbox.nonce
  serverAuthImpl : ∀ msg (s : σ) actions s', J s → handleServerAuthImpl env msg s = .ok actions s' →
    J s' ∧ CookiesHandled (.serverAuth msg) s s'
  newInitiator : ∀ (s : σ) actions s', J s → handleNewInitiator env s = .ok actions s' →
    J s' ∧ CookiesHandled .newInitiator s s'
  newResponder : ∀ msg (s : σ) actions s', J s → handleNewResponder env msg s = .ok actions s' →
    J s' ∧ CookiesHandled (.newResponder msg) s s'
  disconnected : ∀ msg (s : σ) actions s', J s → handleDisconnected msg s = .ok actions s' →
    J s' ∧ ∀ a, cookiePairAt s' a = cookiePairAt s a
  peer : ∀ bbox obox (s : σ) actions s', J s → (common s).signalingState = .peerHandshake →
    decodePeerMessage env s bbox = .ok obox → handlePeerMessage env obox s = .ok actions s' →
    NoHandshakeError actions →
      J s' ∧ ∀ a, Handled False ((common s').signalingState = .task) (cookiePairAt s a)
        (cookiePairAt s' a)

namespace CookieRole

variable {σ : Type} [Handlers σ] {env : Env} (C : CookieRole σ env) {s s' : σ}
  {actions : List HandleAction}

/-- A write of common data that keeps the server's pair and the signaling state keeps every
pair. -/
lemma setCommon_handled {c : Common} {creates : Address → Prop} {drops : Prop} (hJ : C.J s)
    (hserver : c.server.cookiePair = (common s).server.cookiePair)
    (hstate : c.signalingState = (common s).signalingState) :
    C.J (Signaling.setCommon s c) ∧
      ∀ a, Handled (creates a) drops (cookiePairAt s a) (cookiePairAt (Signaling.setCommon s c) a) :=
  (C.setCommon s c hJ hserver (by rw [hstate])).imp_right fun heq a => .inl (heq a)

/-- A passed nonce check applies the rule to the sender's context and changes no other pair. -/
lemma validateNonce_ok {nonce : Nonce} (hsource : ∀ s₁ : σ, (validateNonceSource nonce s₁).state = s₁)
    (hJ : C.J s) (h : validateNonce nonce s = .ok () s') :
    C.J s' ∧ ∀ a, Checked nonce.source nonce.cookie a (cookiePairAt s a) (cookiePairAt s' a) := by
  obtain ⟨s₁, s₂, hdest, hcsn, hcookie⟩ := validateNonce_eq_ok hsource h
  obtain ⟨hJ₁, hview₁⟩ := C.destination nonce s hJ
  rw [hdest, EStateM.Result.state_ok] at hJ₁ hview₁
  -- the CSN check writes back the pair it found at the sender's address
  obtain ⟨peer, hpeer, -, hs₂⟩ := validateNonceCsn_eq_ok.mp hcsn
  obtain ⟨hJ₂, hother₂⟩ := C.setPeer s₁ nonce.source { peer.csnPair with theirs := some nonce.csn }
    peer.cookiePair hJ₁
  rw [← hs₂] at hJ₂ hother₂
  have hview₂ : ∀ a, cookiePairAt s₂ a = cookiePairAt s₁ a := by
    intro a
    by_cases ha : a = nonce.source
    · subst ha
      rw [hs₂, cookiePairAt_setPeerWithAddress hpeer, cookiePairAt_of_getPeerWithAddressMut hpeer]
    · exact hother₂ a ha
  -- the cookie check applies the rule there
  obtain ⟨cp, cp', hcp, hcheck, hcp', hs'⟩ := validateNonceCookie_check hcookie
  -- it changes nothing, or writes back the pairs of the sender's context
  obtain ⟨hJ', hother⟩ : C.J s' ∧ ∀ a, a ≠ nonce.source → cookiePairAt s' a = cookiePairAt s₂ a := by
    rcases hs' with rfl | ⟨csnPair, rfl⟩
    · exact ⟨hJ₂, fun _ _ => rfl⟩
    · exact C.setPeer _ _ _ _ hJ₂
  refine ⟨hJ', fun a => ?_⟩
  by_cases ha : a = nonce.source
  · subst ha
    rw [hview₂, hview₁] at hcp
    exact .inr ⟨rfl, cp, cp', hcp, hcheck, hcp'⟩
  · rw [hother a ha, hview₂, hview₁]
    exact .inl rfl

/-- `handle_server_message` does to the pairs what the message it hands on allows. -/
lemma handleServerMessage_handled {obox : OpenBox Message} {nonceClone : Option Nonce} (hJ : C.J s)
    (h : handleServerMessage env obox nonceClone s = .ok actions s') :
    C.J s' ∧ CookiesHandled obox.message s s' := by
  rcases handleServerMessage_eq_ok env h with ⟨msg, -, hm, hhello⟩ |
    ⟨msg, -, hm, hauth⟩ | ⟨-, ⟨hm, hinit⟩ | ⟨msg, hm, hresp⟩ | ⟨msg, hm, hdisc⟩⟩ <;> rw [hm]
  · -- `server-hello` writes the server's context, not its pair
    obtain ⟨-, ours, rfl⟩ := EStateM.of_triple (handleServerHello_spec env msg s) rfl hhello
    exact C.setCommon_handled hJ rfl rfl
  · obtain ⟨-, s₁, himpl, hsig, rfl⟩ :=
      EStateM.of_triple (handleServerAuth_spec env msg nonceClone s) rfl hauth
    obtain ⟨hJ₁, hhandled₁⟩ := C.serverAuthImpl msg s actions s₁ hJ himpl
    -- the server handshake ends out of the task state, as it ran
    have htask : (SignalingState.peerHandshake = .task ↔ (common s₁).signalingState = .task) := by
      rcases hsig with h | h <;> simp [h]
    obtain ⟨hJ', heq⟩ := C.setCommon s₁ { common s₁ with
      server := { (common s₁).server with handshakeState := .done },
      signalingState := .peerHandshake } hJ₁ rfl htask
    exact ⟨hJ', hhandled₁.trans_eq heq⟩
  · exact C.newInitiator s actions s' hJ hinit
  · exact C.newResponder msg s actions s' hJ hresp
  · obtain ⟨hJ', heq⟩ := C.disconnected msg s actions s' hJ hdisc
    exact ⟨hJ', .of_eq heq⟩

/-- `handle_handshake_peer_message` keeps every pair, or drops contexts as it moves the client
from the peer handshake into the task state. -/
lemma handleHandshakePeerMessage_handled {bbox : ByteBox} (hJ : C.J s)
    (h : handleHandshakePeerMessage env bbox s = .ok actions s') (hno : NoHandshakeError actions) :
    C.J s' ∧ ∀ a, Handled False ((common s).signalingState ≠ .task ∧ (common s').signalingState = .task)
      (cookiePairAt s a) (cookiePairAt s' a) := by
  rcases EStateM.of_triple (handleHandshakePeerMessage_spec env bbox s) rfl h with
    ⟨-, ours, rfl⟩ | ⟨obox, hdecode, hsig, ⟨hsrc, hobox, -⟩ | hpeer⟩
  · -- `drop-responder` only advances our CSN towards the server
    exact C.setCommon_handled hJ rfl rfl
  · -- a peer's box opens under its own nonce, which is not the server's
    rw [C.decodePeerMessage_nonce s bbox obox hdecode, hsrc] at hobox
    cases hobox
  · obtain ⟨hJ', hpairs⟩ := C.peer bbox obox s actions s' hJ hsig hdecode hpeer hno
    refine ⟨hJ', fun a => (hpairs a).mono id fun htask => ⟨?_, htask⟩⟩
    rw [hsig]
    exact nofun

/-- Every call of `handle_message` that returns `Ok` without a `HandshakeError` applies the rule
to the context of the sender, and then keeps every pair, creates afresh the contexts the message
of the server it handles creates, and drops contexts only where that message cleans the
initiator's path or where it enters the task state. -/
theorem okStep (R : RoleInv σ env) {bbox : ByteBox} (hJ : C.J s) (h : OkStep env s bbox s') :
    C.J s' ∧ ∀ a, Step bbox.nonce.source bbox.nonce.cookie (CreatesContextAt env s bbox a)
      (DropsContexts env s bbox s') a (cookiePairAt s a) (cookiePairAt s' a) := by
  obtain ⟨actions, hrun, hno⟩ := h
  obtain ⟨s₁, hcheck, hrest⟩ := EStateM.of_triple (handleMessage_spec env bbox s) rfl hrun
  -- the nonce check, passed or dropped, keeps what decrypting a message of the server reads
  have hview : serverView s₁ = serverView s :=
    R.validateNonce_view serverView C.serverView_destination C.serverView_setPeer hcheck
  have hstep₁ : C.J s₁ ∧
      ∀ a, Checked bbox.nonce.source bbox.nonce.cookie a (cookiePairAt s a) (cookiePairAt s₁ a) := by
    rcases hcheck with hok | ⟨m, hdrop⟩
    · exact C.validateNonce_ok (R.source bbox.nonce) hJ hok
    · rw [validateNonce_eq_dropMsg (R.destination_ne_dropMsg bbox.nonce s) (R.source bbox.nonce) hdrop]
      obtain ⟨hJ₁, hview₁⟩ := C.destination bbox.nonce s hJ
      exact ⟨hJ₁, fun a => .inl (hview₁ a)⟩
  obtain ⟨hJ₁, hcheck₁⟩ := hstep₁
  -- then the handler, with what the call allows it
  have hhandled : C.J s' ∧ ∀ a, Handled (CreatesContextAt env s bbox a)
      (DropsContexts env s bbox s') (cookiePairAt s₁ a) (cookiePairAt s' a) := by
    rcases hrest with rfl | ⟨hsrc, obox, hdecode, hserver⟩ | hpeer
    · exact ⟨hJ₁, fun _ => .refl _⟩
    · -- the message the box opens to, in `s` as in `s₁`
      have hhandles : HandlesServerMessage env s bbox obox.message := by
        refine ⟨hsrc, ?_⟩
        rw [← decodeServerMessage_of_serverView env hview, hdecode]
        rfl
      obtain ⟨hJ', hpairs⟩ := C.handleServerMessage_handled hJ₁ hserver
      exact ⟨hJ', fun a => (hpairs a).mono (fun hc => ⟨_, hhandles, hc⟩)
        fun hr => .inl ⟨_, hhandles, hr⟩⟩
    · obtain ⟨hJ', hpairs⟩ := C.handleHandshakePeerMessage_handled hJ₁ hpeer hno
      -- the signaling state the peer's handler starts from is the one the call started from
      have hsig : (common s₁).signalingState = (common s).signalingState := congrArg Prod.fst hview
      exact ⟨hJ', fun a => (hpairs a).mono False.elim fun htask => .inr (hsig ▸ htask)⟩
  exact ⟨hhandled.1, fun a => ⟨_, hcheck₁ a, hhandled.2 a⟩⟩

/-- The invariant holds in every state reached from initial states where it holds. -/
theorem J_of_reachable (R : RoleInv σ env) {init : σ → Prop} (h0 : ∀ s, init s → C.J s)
    (hs : Reach.Reachable (OkStep env) init s) : C.J s :=
  hs.inv h0 fun _ _ _ _ hJ hstep => (C.okStep R hJ hstep).1

/-- Over any run, a stored cookie stays until the first call that changes it, which creates its
context afresh or drops it. -/
theorem stored_of_reach (R : RoleInv σ env) {t : σ} {a : Address} {cp : CookiePair} {d : Cookie}
    (hJ : C.J s) (hrun : Reach.Reachable (OkStep env) (· = s) t)
    (hcp : cookiePairAt s a = some cp) (hd : cp.theirs = some d) :
    cookiePairAt t a = some cp ∨ ∃ u bbox u', Reach.Reachable (OkStep env) (· = s) u ∧
      cookiePairAt u a = some cp ∧ OkStep env u bbox u' ∧
      (CreatesContextAt env u bbox a ∧ Fresh (cookiePairAt u' a) ∨
        DropsContexts env u bbox u' ∧ cookiePairAt u' a = none) ∧
      Reach.Reachable (OkStep env) (· = u') t := by
  induction hrun with
  | init h =>
    subst h
    exact .inl hcp
  | step bbox hreach hstep ih =>
    rcases ih with hsame | ⟨u, bbox', u', hsu, hu, hstep', hchange, hut⟩
    · have hJu := C.J_of_reachable R (fun s₀ (h : s₀ = s) => h ▸ hJ) hreach
      -- the last call keeps the stored cookie, or is the first to change it
      rcases ((C.okStep R hJu hstep).2 a).stored hsame hd with hsame' | hcreated | hdropped
      · exact .inl (hsame'.trans hsame)
      · exact .inr ⟨_, bbox, _, hreach, hsame, hstep, .inl hcreated, .init rfl⟩
      · exact .inr ⟨_, bbox, _, hreach, hsame, hstep, .inr hdropped, .init rfl⟩
    · exact .inr ⟨u, bbox', u', hsu, hu, hstep', hchange, .step bbox hut hstep⟩

end CookieRole

end SaltyRtc
