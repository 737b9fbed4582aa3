import Mathlib
import SaltyRtc.Lib.Triple
import SaltyRtc.Protocol.Codec
import SaltyRtc.Protocol.Invariants
import SaltyRtc.TaskLoop

/-!
# The task channel

Once both clients are in the task state, the transformer of one sends each task message to the
other, whose reader hands the bytes to `handle_message`. Every message the task may send arrives
as the message the receiving task gets: a task's map with the same entries, the same application
data, a close code with the same number.

The argument follows the message. The sender seals the bytes of a value (or, for a close, of a
`close` message) with its session key pair for the peer's session key, under a nonce of its
cookie, its address, the peer's address and its next CSN (`SendsTo`). A `Channel` between the two
clients, as a finished handshake leaves it, makes the receiver's nonce checks pass and its
session keys open the box. The codec then gives back a map value, and the branches of
`handle_task_peer_message` turn each of the three shapes of map into the message that was sent.

Two assumptions stand for code outside the repository: that `rust_sodium`'s boxes open with the
matching genuine keys (`Sodium.Ideal`), and that `rmp_serde` decodes, as a value, what the transformer
encodes (`Msgpack.ReadsBack`): the map for a task's map or an application message, and serde's
internally tagged map for the `close` message. What the receiving role contributes (its nonce
checks and where it keeps its chosen peer) is recorded once in `TaskRole`, and proved for both
roles.
-/

namespace SaltyRtc

open Std.Do

set_option mvcgen.warning false

/-! ## Assumptions on the libraries -/

/-- The map `to_vec_named` writes for a `close` message: serde's internally tagged form, with the
tag first. -/
def Close.toValue (c : Close) : Value :=
  .map [(.ofString "type", .ofString "close"), (.ofString "reason", .integer c.reason.toNat)]

namespace TaskMessage

open Signaling

/-- The bytes the transformer seals for a task message. -/
def payload (mp : Msgpack) : TaskMessage → List UInt8
  | .value map => mp.encodeValue (valueMessage map)
  | .application data => mp.encodeValue (applicationMessage data)
  | .close code => mp.encodeMessage (.close (Close.fromCloseCode code))

/-- The value a task message travels as. -/
def wireValue : TaskMessage → Value
  | .value map => valueMessage map
  | .application data => applicationMessage data
  | .close code => (Close.fromCloseCode code).toValue

/-- The messages of a task that reach the other task: a map whose type is a string the receiving
task supports, other than `application` and `close`; any application message; any close. -/
def Deliverable (supported : Option (List String)) : TaskMessage → Prop
  | .value map => ∃ t ts, map.lookup "type" = some (.ofString t) ∧ t ≠ "application" ∧
      t ≠ "close" ∧ supported = some ts ∧ t ∈ ts
  | .application _ => True
  | .close _ => True

/-- What the receiving task gets for a message sent as `m`: a map with the same entries (the
order of a `HashMap` is not part of its equality), the same application data, a close code with
the same number. -/
def Received : TaskMessage → TaskMessage → Prop
  | .value map, .value map' => ∀ k, map'.lookup k = map.lookup k
  | .application data, .application data' => data' = data
  | .close code, .close code' => code'.asNumber = code.asNumber
  | _, _ => False

end TaskMessage

/-- The codec decodes, as a value, the bytes the transformer sends for a task message. -/
def Msgpack.ReadsBack (mp : Msgpack) (msg : TaskMessage) : Prop :=
  mp.decodeValue (msg.payload mp) = .ok msg.wireValue

/-- The serde form of a `close` message is the map the task channel writes for it. -/
lemma Message.serialize_close (ks : KeySerde) (c : Close) :
    (Message.close c).serialize ks = c.toValue := rfl

/-- The codec of the repository over `rmp_serde` reads back a task message where `rmp_serde` reads
back the value it travels as; so every task message, where `rmp_serde` reads back every value it
writes. -/
lemma Msgpack.ofRmp_readsBack {rmp : Rmp} (msg : TaskMessage)
    (hrmp : rmp.decode (rmp.encode msg.wireValue) = .ok msg.wireValue) :
    (Msgpack.ofRmp rmp).ReadsBack msg := by
  cases msg with
  | value map => exact hrmp
  | application data => exact hrmp
  | close code =>
    -- `to_msgpack` writes the serde form of the `close` message
    show rmp.decode (rmp.encode ((Message.close _).serialize rmp.keys)) = _
    rw [Message.serialize_close]
    exact hrmp

/-! ## The sender -/

namespace Signaling

variable {σ : Type} [Signaling σ] (env : Env)

/-- What a client sends its chosen peer: `payload`, sealed with its session key pair for the
peer's session key, under the nonce of its cookie, its address, the peer's address and its next
CSN towards the peer, which it stores. -/
def SendsTo (s : σ) (payload : List UInt8) (bbox : ByteBox) (s' : σ) : Prop :=
  ∃ p src dst csn ours kp key, getPeer s = some p ∧
    (common s).identity.toAddress = some src ∧ p.identity.toAddress = some dst ∧
    p.csnPair.ours.increment = .ok (csn, ours) ∧ p.keypair = some kp ∧ p.sessionKey = some key ∧
    bbox = ⟨kp.encrypt env.sodium payload ⟨p.cookiePair.ours, src, dst, csn⟩ key,
      ⟨p.cookiePair.ours, src, dst, csn⟩⟩ ∧
    s' = setPeerCsnPair s { p.csnPair with ours }

/-- `encode_task_message` sends the encoded value to the chosen peer. -/
theorem encodeTaskMessage_spec (value : Value) (s₀ : σ) :
    ⦃fun s => ⌜s = s₀⌝⦄ (encodeTaskMessage env value : SignalingM σ ByteBox)
    ⦃⇓? bbox s => ⌜SendsTo env s₀ (env.msgpack.encodeValue value) bbox s⌝⦄ := by
  mvcgen [encodeTaskMessage, liftAddress, liftResult]
  -- the one successful path: a chosen peer with addresses, a next CSN, a key pair and its
  -- session key
  rename_i hpeer _ hsrc _ hdst next hcsn _ _ hkp _ hkey
  subst_vars
  exact ⟨_, _, _, next.1, next.2, _, _, hpeer, hsrc, hdst, hcsn, hkp, hkey, rfl, rfl⟩

/-- `encode_close_message` in the task state sends the encoded `close` message to the chosen
peer. -/
theorem encodeCloseMessage_none_spec (reason : CloseCode) (s₀ : σ) :
    ⦃fun s => ⌜s = s₀⌝⦄ (encodeCloseMessage env reason none : SignalingM σ ByteBox)
    ⦃⇓? bbox s => ⌜SendsTo env s₀ (env.msgpack.encodeMessage (.close (Close.fromCloseCode reason)))
      bbox s⌝⦄ := by
  mvcgen [encodeCloseMessage, liftAddress, liftResult]
  -- the one successful path, as for a task message
  rename_i hpeer _ hsrc _ hdst next hcsn _ _ _ _ _ hkp _ hkey
  subst_vars
  exact ⟨_, _, _, next.1, next.2, _, _, hpeer, hsrc, hdst, hcsn, hkp, hkey, rfl, rfl⟩

/-- The transformer sends the payload of a task message in the first WebSocket message it
forwards. -/
theorem transform_spec (msg : TaskMessage) (s₀ : σ) :
    ⦃fun s => ⌜s = s₀⌝⦄ (transform env msg : SignalingM σ (List OwnedMessage × Bool))
    ⦃⇓? r s => ⌜∃ bbox rest, r.1 = .binary bbox.intoBytes :: rest ∧
      SendsTo env s₀ (msg.payload env.msgpack) bbox s⌝⦄ := by
  cases msg with
  | value map =>
    have h := encodeTaskMessage_spec env (valueMessage map) s₀
    mvcgen [transform, encryptTaskMessage, h]
    rename_i hsend
    exact ⟨_, _, rfl, hsend⟩
  | application data =>
    have h := encodeTaskMessage_spec env (applicationMessage data) s₀
    mvcgen [transform, encryptTaskMessage, h]
    rename_i hsend
    exact ⟨_, _, rfl, hsend⟩
  | close reason =>
    have h := encodeCloseMessage_none_spec env reason s₀
    mvcgen [transform, encryptCloseMessage, h]
    -- the `close` frame follows the message
    rename_i hsend
    exact ⟨_, _, rfl, hsend⟩

/-- In the task state, the transformer sends every task message to a chosen peer with addresses
and session keys, unless the counter towards it has reached its last value. -/
lemma transform_ok (msg : TaskMessage) {s : σ} {p : Peer} {src dst : Address} {kp : KeyPair}
    {key : PublicKey} (htask : (common s).signalingState = .task) (hp : getPeer s = some p)
    (hsrc : (common s).identity.toAddress = some src) (hdst : p.identity.toAddress = some dst)
    (hkp : p.keypair = some kp) (hkey : p.sessionKey = some key)
    (hbound : p.csnPair.ours.combinedSequenceNumber.toNat + 1 < 2 ^ 48) :
    ∃ out s', transform env msg s = .ok out s' := by
  obtain ⟨csn, ours, hinc⟩ := CombinedSequence.increment_isOk hbound
  cases msg <;> simp [transform, encryptTaskMessage, encryptCloseMessage, encodeTaskMessage,
    encodeCloseMessage, htask, hp, hsrc, hdst, hinc, hkp, hkey, liftAddress, liftResult]

end Signaling

/-! ## The receiver -/

/-- The map of a task message whose keys are all strings: its entries, inserted one after the
other. -/
lemma taskMessageMap_ofString (l : List (Σ _ : String, Value)) (acc : ValueMap) :
    taskMessageMap (l.map fun e => (Value.ofString e.1, e.2)) acc =
      .ok (l.foldl (fun (m : ValueMap) e => m.insert e.1 e.2) acc) := by
  induction l generalizing acc with
  | nil => rfl
  | cons e l ih =>
    simp only [List.map_cons, taskMessageMap, Value.asStr_ofString, ih, List.foldl_cons]

namespace Handlers

open Signaling

variable {τ : Type} [Handlers τ] (env : Env)

/-- The map a task's map arrives as: its entries inserted one after the other. -/
def rebuilt (map : ValueMap) : ValueMap :=
  map.entries.foldl (fun (m : ValueMap) e => m.insert e.1 e.2) ∅

/-- The rebuilt map has the entries of the map: the keys of a map are distinct. -/
lemma lookup_rebuilt (map : ValueMap) (k : String) : (rebuilt map).lookup k = map.lookup k := by
  rw [rebuilt, AList.lookup_foldl_insert k map.entries ∅ map.nodupKeys, AList.lookup_empty,
    Option.or_none]
  rfl

/-- The receiver's map of the value a task's map is sent as. -/
lemma taskMessageMap_valueMessage (map : ValueMap) :
    taskMessageMap (map.entries.map fun e => (Value.ofString e.1, e.2)) ∅ = .ok (rebuilt map) :=
  taskMessageMap_ofString map.entries ∅

variable {bbox : ByteBox} {r : τ}

/-- A task's map whose type is a string the task supports, other than `application` and
`close`, is passed on. -/
lemma handleTaskPeerMessage_valueMessage {map : ValueMap} {t : String} {ts : List String}
    (hsrc : bbox.nonce.source.isServer = false)
    (hdecode : decodeTaskMessage env r bbox = .ok ⟨valueMessage map, bbox.nonce⟩)
    (htype : map.lookup "type" = some (.ofString t)) (happ : t ≠ "application")
    (hclose : t ≠ "close") (hts : (common r).taskSupportedTypes = some ts) (hmem : t ∈ ts) :
    handleTaskPeerMessage env bbox r = .ok [.taskMessage (.value (rebuilt map))] r := by
  have htype' : (rebuilt map).lookup "type" = some (.ofString t) := by
    rw [lookup_rebuilt, htype]
  simp [handleTaskPeerMessage, hsrc, hdecode, valueMessage, liftResult,
    taskMessageMap_valueMessage, htype', happ, hclose, hts, hmem]

/-- An application message is recognised by its type, and its data passed on. -/
lemma handleTaskPeerMessage_applicationMessage {data : Value}
    (hsrc : bbox.nonce.source.isServer = false)
    (hdecode : decodeTaskMessage env r bbox = .ok ⟨applicationMessage data, bbox.nonce⟩) :
    handleTaskPeerMessage env bbox r = .ok [.taskMessage (.application data)] r := by
  have hmap : taskMessageMap [(.ofString "type", .ofString "application"), (.ofString "data", data)] ∅ =
      .ok (((∅ : ValueMap).insert "type" (.ofString "application")).insert "data" data) := rfl
  have htype : (((∅ : ValueMap).insert "type" (.ofString "application")).insert "data" data).lookup
      "type" = some (.ofString "application") := by
    rw [AList.lookup_insert_ne (by decide), AList.lookup_insert]
  simp only [handleTaskPeerMessage, hsrc, hdecode, applicationMessage, liftResult, hmap, htype,
    AList.lookup_insert, Value.asStr_ofString, Bool.false_eq_true, if_false, if_true,
    EStateM.bind_apply, EStateM.get_apply, EStateM.pure_apply]

/-- A `close` message is recognised by its type, and a reason that is an integer within the
range of a `u16` passes both checks of its bounds. -/
lemma handleTaskPeerMessage_closeMap {i : Int} (h0 : 0 ≤ i) (hi : i < 65536)
    (hsrc : bbox.nonce.source.isServer = false)
    (hdecode : decodeTaskMessage env r bbox = .ok ⟨.map [(.ofString "type", .ofString "close"),
      (.ofString "reason", .integer i)], bbox.nonce⟩) :
    handleTaskPeerMessage env bbox r =
      .ok [.taskMessage (.close (CloseCode.fromNumber (UInt64.ofNat i.toNat).toUInt16))] r := by
  have hu64 : (Value.integer i).asU64 = some (UInt64.ofNat i.toNat) := by
    simp only [Value.asU64]
    rw [if_pos ⟨h0, by omega⟩]
  have hval : (UInt64.ofNat i.toNat).toNat = i.toNat :=
    UInt64.toNat_ofNat_of_lt (show i.toNat < 2 ^ 64 by omega)
  have hsmall : ¬ (65535 < UInt64.ofNat i.toNat) := by
    rw [UInt64.lt_iff_toNat_lt, hval]
    simp only [UInt64.reduceToNat]
    omega
  simp [handleTaskPeerMessage, hsrc, hdecode, liftResult, taskMessageMap, hu64, hsmall,
    -AList.insert_empty]

/-- The `close` message of a close code arrives as that code's number. -/
lemma handleTaskPeerMessage_closeValue {reason : UInt16}
    (hsrc : bbox.nonce.source.isServer = false)
    (hdecode : decodeTaskMessage env r bbox = .ok ⟨(Close.mk reason).toValue, bbox.nonce⟩) :
    handleTaskPeerMessage env bbox r =
      .ok [.taskMessage (.close (CloseCode.fromNumber reason))] r := by
  have hlt := reason.toNat_lt
  dsimp only [Close.toValue] at hdecode
  rw [handleTaskPeerMessage_closeMap env (Int.natCast_nonneg _) (by omega) hsrc hdecode]
  -- the number read back is the reason sent
  congr
  apply UInt16.toNat_inj.mp
  simp

/-- The branches of `handle_task_peer_message` turn each value the transformer sends into the
message it was sent for. -/
theorem handleTaskPeerMessage_wireValue {msg : TaskMessage}
    (hsrc : bbox.nonce.source.isServer = false)
    (hdecode : decodeTaskMessage env r bbox = .ok ⟨msg.wireValue, bbox.nonce⟩)
    (hdeliv : msg.Deliverable (common r).taskSupportedTypes) :
    ∃ m', handleTaskPeerMessage env bbox r = .ok [.taskMessage m'] r ∧ msg.Received m' := by
  cases msg with
  | value map =>
    obtain ⟨t, ts, htype, happ, hclose, hts, hmem⟩ := hdeliv
    exact ⟨_, handleTaskPeerMessage_valueMessage env hsrc hdecode htype happ hclose hts hmem,
      lookup_rebuilt map⟩
  | application data =>
    exact ⟨_, handleTaskPeerMessage_applicationMessage env hsrc hdecode, rfl⟩
  | close code =>
    exact ⟨_, handleTaskPeerMessage_closeValue env hsrc hdecode, CloseCode.asNumber_fromNumber _⟩

/-- A nonce that passes the role's destination and source checks, from a known peer, with a CSN
above the last one and the cookie stored for the peer, passes `validate_nonce`, which stores the
CSN. -/
lemma validateNonce_of_peer {nonce : Nonce} {r : τ} {peer : Peer} {last : CombinedSequenceSnapshot}
    (hdest : validateNonceDestination nonce r = .ok () r)
    (hsource : validateNonceSource nonce r = .ok () r)
    (hpeer : getPeerWithAddressMut r nonce.source = .ok (some peer))
    (hcsn : peer.csnPair.theirs = some last) (hlt : last < nonce.csn)
    (hcookie : peer.cookiePair.theirs = some nonce.cookie) :
    validateNonce nonce r = .ok () (setPeerWithAddress r nonce.source
      { peer.csnPair with theirs := some nonce.csn } peer.cookiePair) := by
  have hc : validateNonceCsn nonce r = .ok () (setPeerWithAddress r nonce.source
      { peer.csnPair with theirs := some nonce.csn } peer.cookiePair) :=
    validateNonceCsn_eq_ok.mpr ⟨peer, hpeer, by rw [hcsn]; exact hlt, rfl⟩
  -- the cookie check finds the peer again, with the cookie it had
  have hfound := getPeerWithAddressMut_setPeerWithAddress r nonce.source peer
    { peer.csnPair with theirs := some nonce.csn } peer.cookiePair hpeer
  have hk : validateNonceCookie nonce (setPeerWithAddress r nonce.source
      { peer.csnPair with theirs := some nonce.csn } peer.cookiePair) =
      .ok () (setPeerWithAddress r nonce.source
        { peer.csnPair with theirs := some nonce.csn } peer.cookiePair) :=
    validateNonceCookie_eq_ok.mpr ⟨_, hfound, .inr ⟨hcookie, rfl⟩⟩
  simp only [validateNonce, EStateM.bind_apply, hdest, hsource, hc, hk]

/-- After a passed nonce check, a message from a peer to a client in the task state goes to
`handle_task_peer_message`. -/
lemma handleMessage_of_validateNonce_eq_ok {r₁ : τ}
    (hvalid : validateNonce bbox.nonce r = .ok () r₁) (hsrc : bbox.nonce.source.isServer = false)
    (htask : (common r₁).signalingState = .task) :
    handleMessage env bbox r = handleTaskPeerMessage env bbox r₁ := by
  have hcheck : checkNonce bbox.nonce r = .ok true r₁ := by
    simp only [checkNonce, hvalid]
  simp [handleMessage, hcheck, hsrc, htask]

/-- `decode_task_message` opens, with the session keys of the chosen peer, what the peer sealed
for those keys. -/
lemma decodeTaskMessage_encrypt {pub : PrivateKey → PublicKey} (hna : env.sodium.Ideal pub)
    {q : Peer} {kp kp' : KeyPair} {payload : List UInt8} {v : Value} {n : Nonce}
    (hg : kp.Genuine pub) (hg' : kp'.Genuine pub) (hpeer : getPeer r = some q)
    (hkp : q.keypair = some kp') (hkey : q.sessionKey = some kp.publicKey)
    (hdecode : env.msgpack.decodeValue payload = .ok v) :
    decodeTaskMessage env r ⟨kp.encrypt env.sodium payload n kp'.publicKey, n⟩ = .ok ⟨v, n⟩ := by
  simp only [decodeTaskMessage, hpeer, hkey, hkp, OpenBox.decryptValue,
    KeyPair.decrypt_encrypt hna hg hg', hdecode]

end Handlers

/-! ## The channel -/

/-- The records two clients keep of each other once their handshake is done, seen from the
client of identity `src` sending to the client of identity `dst`: `p` is the sender's record of
the receiver, `q` the receiver's record of the sender. Each names the other's address, their
genuine session key pairs cross, the receiver has stored the sender's cookie, and the last CSN it
accepted is not above the sender's counter. -/
structure Link (pub : PrivateKey → PublicKey) (src dst : ClientIdentity) (p q : Peer) : Prop where
  destination : ∃ a, p.identity.toAddress = some a ∧ dst.toAddress = some a
  source : ∃ a, src.toAddress = some a ∧ q.identity.toAddress = some a
  keys : ∃ kp kp', p.keypair = some kp ∧ q.keypair = some kp' ∧ kp.Genuine pub ∧
    kp'.Genuine pub ∧ p.sessionKey = some kp'.publicKey ∧ q.sessionKey = some kp.publicKey
  cookie : q.cookiePair.theirs = some p.cookiePair.ours
  csn : ∃ last, q.csnPair.theirs = some last ∧
    last.combinedSequenceNumber.toNat ≤ p.csnPair.ours.combinedSequenceNumber.toNat

namespace Link

variable {pub : PrivateKey → PublicKey} {src dst : ClientIdentity} {p q : Peer}

/-- The receiver's record of the sender has the sender's address. -/
lemma peer_source (hl : Link pub src dst p q) {a : Address} (h : src.toAddress = some a) :
    q.identity.toAddress = some a := by
  obtain ⟨b, hb, hqb⟩ := hl.source
  rw [h] at hb
  cases hb
  exact hqb

/-- The receiver has the address the sender's record of it names. -/
lemma receiver_destination (hl : Link pub src dst p q) {a : Address}
    (h : p.identity.toAddress = some a) : dst.toAddress = some a := by
  obtain ⟨b, hpb, hb⟩ := hl.destination
  rw [h] at hpb
  cases hpb
  exact hb

/-- A message over the link: the sender steps its counter, the receiver stores the CSN. -/
lemma next (hl : Link pub src dst p q) {csn : CombinedSequenceSnapshot} {ours : CombinedSequence}
    (hinc : p.csnPair.ours.increment = .ok (csn, ours)) :
    Link pub src dst { p with csnPair := { p.csnPair with ours } }
      { q with csnPair := { q.csnPair with theirs := some csn } } := by
  obtain ⟨-, -, rfl⟩ := CombinedSequence.increment_eq_ok.mp hinc
  exact ⟨hl.destination, hl.source, hl.keys, hl.cookie, ⟨_, rfl, le_refl _⟩⟩

end Link

section Channel

open Signaling Handlers

/-- A channel from client `s` to client `r`: the receiver is in the task state, and the two
chosen peers are linked. -/
structure Channel {σ τ : Type} [Signaling σ] [Signaling τ] (pub : PrivateKey → PublicKey) (s : σ)
    (r : τ) : Prop where
  task : (common r).signalingState = .task
  link : ∃ p q, getPeer s = some p ∧ getPeer r = some q ∧
    Link pub (common s).identity (common r).identity p q

/-- What a role contributes to the task channel. As a sender, writing back its CSN towards the
chosen peer changes that peer's CSN pair and nothing else. As a receiver in the task state (and
in a phase its role reaches), its nonce checks pass a nonce from the chosen peer to its own
address, it finds the chosen peer at the peer's address, which is not the server's, and writing
back that peer's pairs there changes nothing else. -/
structure TaskRole (τ : Type) [Handlers τ] : Prop where
  getPeer_setPeerCsnPair : ∀ (s : τ) (p : Peer) (c : CombinedSequencePair),
    getPeer s = some p → getPeer (setPeerCsnPair s c) = some { p with csnPair := c }
  common_setPeerCsnPair : ∀ (s : τ) (c : CombinedSequencePair),
    common (setPeerCsnPair s c) = common s
  destination : ∀ (r : τ) (nonce : Nonce), (common r).identity.toAddress = some nonce.destination →
    Handlers.validateNonceDestination nonce r = .ok () r
  source : ∀ (r : τ) (q : Peer) (nonce : Nonce), Stage.Inv (role τ) (common r).stage →
    (common r).signalingState = .task → getPeer r = some q →
    q.identity.toAddress = some nonce.source → Handlers.validateNonceSource nonce r = .ok () r
  peer : ∀ (r : τ) (q : Peer) (a : Address), (common r).signalingState = .task →
    getPeer r = some q → q.identity.toAddress = some a →
    a.isServer = false ∧ getPeerWithAddressMut r a = .ok (some q)
  setPeer : ∀ (r : τ) (q : Peer) (a : Address) (csnPair : CombinedSequencePair)
    (cookiePair : CookiePair), (common r).signalingState = .task → getPeer r = some q →
    q.identity.toAddress = some a →
    getPeer (setPeerWithAddress r a csnPair cookiePair) = some { q with csnPair, cookiePair } ∧
      common (setPeerWithAddress r a csnPair cookiePair) = common r

variable {σ τ : Type} [Handlers σ] [Handlers τ] (env : Env) {pub : PrivateKey → PublicKey}

/-- Over a link, the receiver's nonce checks pass the nonce of the sender's next message, and
store its CSN. -/
lemma Link.validateNonce (R : TaskRole τ) {r : τ} {id : ClientIdentity} {p q : Peer}
    {src dst : Address} {csn : CombinedSequenceSnapshot} {ours : CombinedSequence}
    (hl : Link pub id (common r).identity p q) (htask : (common r).signalingState = .task)
    (hinv : Stage.Inv (role τ) (common r).stage) (hq : getPeer r = some q)
    (hsrc : id.toAddress = some src) (hdst : p.identity.toAddress = some dst)
    (hinc : p.csnPair.ours.increment = .ok (csn, ours)) :
    Handlers.validateNonce ⟨p.cookiePair.ours, src, dst, csn⟩ r =
      .ok () (setPeerWithAddress r src { q.csnPair with theirs := some csn } q.cookiePair) := by
  have hqsrc := hl.peer_source hsrc
  obtain ⟨last, hlast, hle⟩ := hl.csn
  obtain ⟨-, hours, rfl⟩ := CombinedSequence.increment_eq_ok.mp hinc
  -- the CSN sent is one above the sender's counter, which the last CSN accepted does not pass
  have hlt : last < ours.snapshot := by
    rw [CombinedSequenceSnapshot.lt_iff, CombinedSequence.combinedSequenceNumber_snapshot]
    omega
  exact Handlers.validateNonce_of_peer (R.destination r _ (hl.receiver_destination hdst))
    (R.source r q _ hinv htask hq hqsrc) (R.peer r q _ htask hq hqsrc).2 hlast hlt hl.cookie

/-- Over a channel, the receiver's reader hands what the sender sends to
`handle_task_peer_message`, whose decoding gives back the value sent, in a state with the same
common data in which the channel stays open, and where the receiver's record of the sender has
only stored the CSN of the nonce. -/
lemma Channel.receive (Rs : TaskRole σ) (Rr : TaskRole τ) (hna : env.sodium.Ideal pub)
    {s s' : σ} {r : τ} {payload : List UInt8} {bbox : ByteBox} {v : Value}
    (hch : Channel pub s r) (hinv : Stage.Inv (role τ) (common r).stage)
    (hsend : SendsTo env s payload bbox s') (hdecode : env.msgpack.decodeValue payload = .ok v) :
    ∃ r₁, receiveBinary env bbox.intoBytes r = handleTaskPeerMessage env bbox r₁ ∧
      decodeTaskMessage env r₁ bbox = .ok ⟨v, bbox.nonce⟩ ∧ bbox.nonce.source.isServer = false ∧
      common r₁ = common r ∧ Channel pub s' r₁ ∧
      ∃ q, getPeer r = some q ∧
        getPeer r₁ = some { q with csnPair := { q.csnPair with theirs := some bbox.nonce.csn } } := by
  obtain ⟨p₀, src, dst, csn, ours, kp, key, hp₀, hsrc, hdst, hinc, hkp, hkey, hbbox, rfl⟩ := hsend
  obtain ⟨htask, p, q, hp, hq, hl⟩ := hch
  obtain rfl : p = p₀ := Option.some.inj (hp.symm.trans hp₀)
  obtain ⟨kp₁, kp', hkp₁, hkp', hg, hg', hpkey, hqkey⟩ := hl.keys
  obtain rfl : kp = kp₁ := Option.some.inj (hkp.symm.trans hkp₁)
  obtain rfl : key = kp'.publicKey := Option.some.inj (hkey.symm.trans hpkey)
  have hqsrc := hl.peer_source hsrc
  obtain ⟨hget₁, hcommon₁⟩ := Rr.setPeer r q src { q.csnPair with theirs := some csn }
    q.cookiePair htask hq hqsrc
  have hvalid : validateNonce bbox.nonce r = .ok ()
      (setPeerWithAddress r src { q.csnPair with theirs := some csn } q.cookiePair) := by
    rw [hbbox]
    exact hl.validateNonce Rr htask hinv hq hsrc hdst hinc
  have hserver : bbox.nonce.source.isServer = false := by
    rw [hbbox]
    exact (Rr.peer r q src htask hq hqsrc).1
  have hbytes : bbox.bytes ≠ [] := by
    rw [hbbox]
    exact hna.boxSeal_ne_nil _ _ _ _
  refine ⟨_, ?_, ?_, hserver, hcommon₁, ⟨hcommon₁ ▸ htask, _, _,
      Rs.getPeer_setPeerCsnPair s p _ hp, hget₁, ?_⟩, q, hq, by rw [hbbox]; exact hget₁⟩
  · -- the reader parses the frame back into the box
    simp only [receiveBinary, EStateM.bind_apply, ByteBox.fromSlice_intoBytes hbytes, liftFault,
      EStateM.pure_apply]
    exact handleMessage_of_validateNonce_eq_ok env hvalid hserver (hcommon₁ ▸ htask)
  · rw [hbbox]
    exact decodeTaskMessage_encrypt env hna hg hg' hget₁ hkp' hqkey hdecode
  · rw [Rs.common_setPeerCsnPair, hcommon₁]
    exact hl.next hinc

/-- Every task message the transformer sends over a channel reaches the receiver as the message
sent, and the channel stays open. -/
theorem Channel.transform_receiveBinary (Rs : TaskRole σ) (Rr : TaskRole τ)
    (hna : env.sodium.Ideal pub) {s s' : σ} {r : τ} {msg : TaskMessage}
    {out : List OwnedMessage × Bool} (hch : Channel pub s r) (hinv : Stage.Inv (role τ) (common r).stage)
    (hdeliv : msg.Deliverable (common r).taskSupportedTypes) (hcodec : env.msgpack.ReadsBack msg)
    (hrun : transform env msg s = .ok out s') :
    ∃ bytes rest m' r', out.1 = .binary bytes :: rest ∧
      receiveBinary env bytes r = .ok [.taskMessage m'] r' ∧ msg.Received m' ∧
      common r' = common r ∧ Channel pub s' r' := by
  obtain ⟨bbox, rest, hout, hsend⟩ := EStateM.of_triple (transform_spec env msg s) rfl hrun
  obtain ⟨r₁, hrecv, hdecode, hserver, hcommon, hch', -⟩ :=
    hch.receive env Rs Rr hna hinv hsend hcodec
  obtain ⟨m', hhandle, hreceived⟩ :=
    Handlers.handleTaskPeerMessage_wireValue env hserver hdecode (hcommon ▸ hdeliv)
  exact ⟨_, rest, m', r₁, hout, hrecv.trans hhandle, hreceived, hcommon, hch'⟩

/-- The round trip of a task message from `s` to `r`: the transformer of `s` sends it, and the
reader of `r`, given the bytes of the first WebSocket message forwarded, makes `handle_message`
yield exactly one task message, which is the one sent. -/
def RoundTrip (msg : TaskMessage) (s : σ) (r : τ) : Prop :=
  ∃ out s', transform env msg s = .ok out s' ∧
    ∃ bytes rest m' r', out.1 = .binary bytes :: rest ∧
      receiveBinary env bytes r = .ok [.taskMessage m'] r' ∧ msg.Received m'

/-- Over a channel from a sender in the task state whose counter has not reached its last value,
every task message the receiver can take makes the round trip. -/
theorem Channel.roundTrip (Rs : TaskRole σ) (Rr : TaskRole τ) (hna : env.sodium.Ideal pub)
    {s : σ} {r : τ} {msg : TaskMessage} (hcodec : env.msgpack.ReadsBack msg)
    (htask : (common s).signalingState = .task) (hch : Channel pub s r)
    (hbound : ∀ p, getPeer s = some p → p.csnPair.ours.combinedSequenceNumber.toNat + 1 < 2 ^ 48)
    (hinv : Stage.Inv (role τ) (common r).stage)
    (hdeliv : msg.Deliverable (common r).taskSupportedTypes) :
    RoundTrip env msg s r := by
  obtain ⟨p, q, hp, -, hl⟩ := hch.link
  obtain ⟨src, hsrc, -⟩ := hl.source
  obtain ⟨dst, hdst, -⟩ := hl.destination
  obtain ⟨kp, kp', hkp, -, -, -, hkey, -⟩ := hl.keys
  obtain ⟨out, s', hrun⟩ := transform_ok env msg htask hp hsrc hdst hkp hkey (hbound p hp)
  obtain ⟨bytes, rest, m', r', hout, hrecv, hreceived, -⟩ :=
    hch.transform_receiveBinary env Rs Rr hna hinv hdeliv hcodec hrun
  exact ⟨out, s', hrun, bytes, rest, m', r', hout, hrecv, hreceived⟩

end Channel

/-! ## The two roles on the channel -/

/-- A client whose identity has the address a nonce is sent to is not one whose identity a
nonce could assign: the unknown identity has the unknown address. -/
lemma ClientIdentity.not_assigned_of_toAddress {id : ClientIdentity} {a : Address}
    (h : id.toAddress = some a) : ¬ (id = .unknown ∧ a.isUnknown = false) := by
  rintro ⟨rfl, ha⟩
  simp only [ClientIdentity.toAddress, Option.some.injEq] at h
  simp [← h, Address.isUnknown] at ha

/-- In the task state, the identity fits the role. -/
lemma Stage.Inv.fits_of_task {role : Role} {st : Stage} (hi : Stage.Inv role st)
    (h : st.signalingState = .task) : st.identity.Fits role :=
  (hi.peer (by simp [h])).2.2

/-- An address above `0x01` is a responder's. -/
lemma Identity.ofAddress_of_gt {a : Address} (h : 0x01 < a.val) :
    Identity.ofAddress a = .responder a.val := by
  have h0 : a.val ≠ 0x00 := by
    intro e
    simp [e] at h
  have h1 : a.val ≠ 0x01 := by
    intro e
    simp [e] at h
  simp [Identity.ofAddress, h0, h1]

/-- An address above `0x01` is not the server's. -/
lemma Address.isServer_of_gt {a : Address} (h : 0x01 < a.val) : a.isServer = false := by
  have h0 : a.val ≠ 0x00 := by
    intro e
    simp [e] at h
  simp [Address.isServer, h0]

/-- The address a responder context converts to is its own, above `0x01`. -/
lemma ResponderContext.address_of_toAddress {rc : ResponderContext} {a : Address}
    (h : rc.toPeer.identity.toAddress = some a) : a = rc.address ∧ 0x01 < a.val := by
  refine ⟨ResponderContext.eq_address_of_toAddress h, ?_⟩
  simp only [ResponderContext.toPeer, Identity.toAddress] at h
  split_ifs at h with hgt
  cases h
  exact hgt

namespace InitiatorSignaling

/-- A nonce sent to our address passes the initiator's destination check and changes nothing. -/
lemma validateNonceDestination_of_toAddress {nonce : Nonce} {s : InitiatorSignaling}
    (h : s.common.identity.toAddress = some nonce.destination) :
    validateNonceDestination nonce s = .ok () s := by
  have hskip := ClientIdentity.not_assigned_of_toAddress h
  have hskip' : ¬ (s.common.identity = .unknown ∧ nonce.destination.isUnknown = false ∧
      s.common.server.handshakeState ≠ .new) := fun ⟨hu, hd, _⟩ => hskip ⟨hu, hd⟩
  simp [validateNonceDestination, hskip', h, liftAddress]

/-- The initiator plays its part in the task channel. -/
theorem taskRole : TaskRole InitiatorSignaling where
  getPeer_setPeerCsnPair s p c h := by
    simp only [getPeer_eq, Option.map_eq_some_iff] at h
    obtain ⟨rc, hrc, rfl⟩ := h
    simp [hrc]
    rfl
  common_setPeerCsnPair _ _ := rfl
  destination _ _ h := validateNonceDestination_of_toAddress h
  source r q nonce hinv htask hq hqa := by
    have hid : r.common.identity = .initiator := by
      have hfits := hinv.fits_of_task htask
      simp only [Common.stage_identity] at hfits
      revert hfits
      cases r.common.identity <;> simp [ClientIdentity.Fits]
    simp only [getPeer_eq, Option.map_eq_some_iff] at hq
    obtain ⟨rc, -, rfl⟩ := hq
    simp only [ResponderContext.toPeer, Identity.toAddress] at hqa
    split_ifs at hqa with hgt
    have hsrc : nonce.source = ⟨rc.address.val⟩ := (Option.some.inj hqa).symm
    have h0 : rc.address.val ≠ 0 := by
      intro h
      simp [h] at hgt
    have h1 : rc.address.val ≠ 1 := by
      intro h
      simp [h] at hgt
    simp [validateNonceSource, hsrc, hid, h0, h1]
  peer r q a htask hq hqa := by
    simp only [getPeer_eq, Option.map_eq_some_iff] at hq
    obtain ⟨rc, hrc, rfl⟩ := hq
    obtain ⟨rfl, hgt⟩ := ResponderContext.address_of_toAddress hqa
    simp only [common_eq] at htask
    refine ⟨Address.isServer_of_gt hgt, ?_⟩
    simp [getPeerWithAddressMut, Identity.ofAddress_of_gt hgt, htask, hrc, hqa]
  setPeer r q a csnPair cookiePair htask hq hqa := by
    simp only [getPeer_eq, Option.map_eq_some_iff] at hq
    obtain ⟨rc, hrc, rfl⟩ := hq
    obtain ⟨rfl, hgt⟩ := ResponderContext.address_of_toAddress hqa
    simp only [common_eq] at htask
    -- in the task state only the chosen responder is written back
    have hset : setPeerWithAddress r rc.address csnPair cookiePair =
        { r with responder := some { rc with csnPair, cookiePair } } := by
      simp [setPeerWithAddress, Identity.ofAddress_of_gt hgt, htask, hrc]
    simp only [setPeerWithAddress_eq, hset]
    exact ⟨rfl, rfl⟩

end InitiatorSignaling

namespace ResponderSignaling

/-- A nonce sent to our address passes the responder's destination check and changes nothing. -/
lemma validateNonceDestination_of_toAddress {nonce : Nonce} {s : ResponderSignaling}
    (h : s.common.identity.toAddress = some nonce.destination) :
    validateNonceDestination nonce s = .ok () s := by
  have hskip := ClientIdentity.not_assigned_of_toAddress h
  have hskip' : ¬ (s.common.identity = .unknown ∧ nonce.destination.isUnknown = false ∧
      s.common.server.handshakeState ≠ .new) := fun ⟨hu, hd, _⟩ => hskip ⟨hu, hd⟩
  simp [validateNonceDestination, hskip', h, liftAddress]

/-- The initiator's context converts to the initiator's address. -/
lemma initiator_toAddress {s : ResponderSignaling} {a : Address}
    (h : s.initiator.toPeer.identity.toAddress = some a) : a = ⟨0x01⟩ := by
  simp only [InitiatorContext.toPeer, Identity.toAddress, Option.some.injEq] at h
  exact h.symm

/-- The responder plays its part in the task channel. -/
theorem taskRole : TaskRole ResponderSignaling where
  getPeer_setPeerCsnPair s p c h := by
    simp only [getPeer_eq, Option.some.injEq] at h
    subst h
    rfl
  common_setPeerCsnPair _ _ := rfl
  destination _ _ h := validateNonceDestination_of_toAddress h
  source r q nonce hinv htask hq hqa := by
    have hid : ClientIdentity.isResponder r.common.identity = true := by
      have hfits := hinv.fits_of_task htask
      simp only [Common.stage_identity] at hfits
      revert hfits
      cases r.common.identity <;> simp [ClientIdentity.Fits, ClientIdentity.isResponder]
    simp only [getPeer_eq, Option.some.injEq] at hq
    subst hq
    have hsrc := initiator_toAddress hqa
    simp [validateNonceSource, hsrc, hid]
  peer r q a htask hq hqa := by
    simp only [getPeer_eq, Option.some.injEq] at hq
    subst hq
    obtain rfl := initiator_toAddress hqa
    exact ⟨rfl, rfl⟩
  setPeer r q a csnPair cookiePair htask hq hqa := by
    simp only [getPeer_eq, Option.some.injEq] at hq
    subst hq
    obtain rfl := initiator_toAddress hqa
    exact ⟨rfl, rfl⟩

end ResponderSignaling

/-- Between an initiator and a responder in the task state, each task message either side sends
over a channel, and the other side can take, arrives as the message sent: the same entries of a
task's map, the same application data, a close code with the same number. -/
theorem task_message_round_trip (env : Env) (pub : PrivateKey → PublicKey)
    (hna : env.sodium.Ideal pub) (msg : TaskMessage)
    (hcodec : env.msgpack.ReadsBack msg) :
    (∀ (s : InitiatorSignaling) (r : ResponderSignaling), s.common.signalingState = .task →
      Channel pub s r → (∀ p, Signaling.getPeer s = some p →
        p.csnPair.ours.combinedSequenceNumber.toNat + 1 < 2 ^ 48) →
      Stage.Inv .responder r.common.stage → msg.Deliverable r.common.taskSupportedTypes →
      RoundTrip env msg s r) ∧
    (∀ (s : ResponderSignaling) (r : InitiatorSignaling), s.common.signalingState = .task →
      Channel pub s r → (∀ p, Signaling.getPeer s = some p →
        p.csnPair.ours.combinedSequenceNumber.toNat + 1 < 2 ^ 48) →
      Stage.Inv .initiator r.common.stage → msg.Deliverable r.common.taskSupportedTypes →
      RoundTrip env msg s r) :=
  ⟨fun _ _ htask hch hbound hinv hdeliv => hch.roundTrip env InitiatorSignaling.taskRole
      ResponderSignaling.taskRole hna hcodec htask hbound hinv hdeliv,
    fun _ _ htask hch hbound hinv hdeliv => hch.roundTrip env ResponderSignaling.taskRole
      InitiatorSignaling.taskRole hna hcodec htask hbound hinv hdeliv⟩

namespace Toy

/-- The public key of a concrete private key has the same bytes. -/
def pub (sk : PrivateKey) : PublicKey := ⟨sk.bytes, sk.length_eq⟩

/-- The concrete boxes open what they seal, whatever the keys. -/
lemma sodium_ideal (pub : PrivateKey → PublicKey) : sodium.Ideal pub :=
  ⟨fun _ _ _ _ _ _ => rfl, fun _ _ _ _ => List.cons_ne_nil _ _⟩

/-- The application message of the concrete channel. -/
def ping : TaskMessage := .application (.ofString "ping")

/-- `rmp_serde` for the concrete channel: it writes a value as its index in a table that holds
the application message of the channel, and reads back the values of the table. -/
def rmp : Rmp := ⟨(msgpack [] [ping.wireValue]).encodeValue, (msgpack [] [ping.wireValue]).decodeValue,
  keySerde⟩

/-- The concrete environment of the channel, whose codec is the repository's over that
`rmp_serde`. -/
def channelEnv : Env := { env [] [ping.wireValue] (draws 30 fun _ => 1) with msgpack := .ofRmp rmp }

/-- The common data of a client in the task state, with identity `identity`. -/
def taskCommon (identity : ClientIdentity) (permanent : UInt8) : Common :=
  { signalingState := .task
    permanentKeypair := keyPair permanent
    authProvider := none
    identity
    server := ⟨.done, none, some (publicKey 100), CombinedSequencePair.new 1, ⟨cookie 200, none⟩⟩
    tasks := none
    task := some (task "v1.test")
    taskSupportedTypes := some []
    pingInterval := none }

/-- The initiator after its handshake with the responder at `0x02`: session key pair 11 towards
it, cookie 10, counter at 5, and the responder's session key 21, cookie 20 and last CSN 7. -/
def initiatorInTask : InitiatorSignaling :=
  { common := taskCommon .initiator 1
    responders := ∅
    responder := some ⟨.authSent, 0, ⟨2⟩, some (publicKey 2), some (publicKey 21), keyPair 11,
      ⟨⟨0, 5⟩, some ⟨0, 7⟩⟩, ⟨cookie 10, some (cookie 20)⟩⟩
    responderCounter := 1
    drawn := 2 }

/-- The responder at `0x02` after its handshake with the initiator, the other end of
`initiatorInTask`. -/
def responderInTask : ResponderSignaling :=
  { common := taskCommon (.responder 2) 2
    initiator := ⟨.authReceived, publicKey 1, some (publicKey 11), keyPair 21,
      ⟨⟨0, 7⟩, some ⟨0, 5⟩⟩, ⟨cookie 20, some (cookie 10)⟩⟩
    drawn := 2 }

/-- The phase of both concrete clients is one their roles reach. -/
lemma taskCommon_inv {role : Role} {identity : ClientIdentity} (h : identity.Fits role)
    (permanent : UInt8) : Stage.Inv role (taskCommon identity permanent).stage where
  identity := .inr h
  sessionKey _ := rfl
  peer _ := ⟨rfl, rfl, h⟩
  task _ := ⟨rfl, rfl, rfl⟩

end Toy

/-- The application message makes the round trip between the concrete clients, both ways. -/
theorem task_message_round_trip_toy :
    Toy.channelEnv.sodium.Ideal Toy.pub ∧ Toy.channelEnv.msgpack.ReadsBack Toy.ping ∧
      RoundTrip Toy.channelEnv Toy.ping Toy.initiatorInTask Toy.responderInTask ∧
      RoundTrip Toy.channelEnv Toy.ping Toy.responderInTask Toy.initiatorInTask := by
  have hna : Toy.channelEnv.sodium.Ideal Toy.pub := Toy.sodium_ideal Toy.pub
  have hcodec : Toy.channelEnv.msgpack.ReadsBack Toy.ping := Msgpack.ofRmp_readsBack Toy.ping rfl
  obtain ⟨hir, hri⟩ := task_message_round_trip Toy.channelEnv Toy.pub hna Toy.ping hcodec
  have hch₁ : Channel Toy.pub Toy.initiatorInTask Toy.responderInTask :=
    ⟨rfl, _, _, rfl, rfl, ⟨⟨⟨2⟩, by decide, by decide⟩, ⟨⟨1⟩, rfl, rfl⟩,
      ⟨_, _, rfl, rfl, rfl, rfl, rfl, rfl⟩, rfl, ⟨_, rfl, le_refl _⟩⟩⟩
  have hch₂ : Channel Toy.pub Toy.responderInTask Toy.initiatorInTask :=
    ⟨rfl, _, _, rfl, rfl, ⟨⟨⟨1⟩, rfl, rfl⟩, ⟨⟨2⟩, by decide, by decide⟩,
      ⟨_, _, rfl, rfl, rfl, rfl, rfl, rfl⟩, rfl, ⟨_, rfl, le_refl _⟩⟩⟩
  have hfits₁ : (ClientIdentity.responder 2).Fits .responder := by
    simp [ClientIdentity.Fits]
  have hfits₂ : ClientIdentity.initiator.Fits .initiator := trivial
  refine ⟨hna, hcodec, hir _ _ rfl hch₁ ?_ (Toy.taskCommon_inv hfits₁ 2) trivial,
    hri _ _ rfl hch₂ ?_ (Toy.taskCommon_inv hfits₂ 1) trivial⟩
  · intro p hp
    cases hp
    decide
  · intro p hp
    cases hp
    decide

end SaltyRtc
