import Mathlib
import SaltyRtc.Protocol.Auth
import SaltyRtc.Protocol.Inversion
import SaltyRtc.Protocol.TaskChannel

/-!
# Both clients agree on the task

At the end of the peer handshake the initiator and the responder each store a task in
`common.task`. They store tasks of the same name, the first of the initiator's tasks that the
responder also offers, and each side's task is initialised with the data the other side sent for
that name.

The name travels through the two `auth` messages. The responder's `handle_key` sends every name
of its tasks with a map from names to data (`ResponderAuthBuilder`). The initiator's
`handle_auth` opens it, picks the first of its own tasks among the names (`choose_shared_task`),
takes the responder's data for it, and sends back the chosen name with its own data for it
(`InitiatorAuthBuilder`). The responder's `handle_auth` looks the name up among its tasks and
takes the initiator's data.

The two runs are linked by the two boxes they relay: the responder's `auth` reaches the call that
moves the initiator into the task state, and the initiator's reply reaches the call that moves
the responder there. That each side opens what the other sealed rests on the boxes of
`rust_sodium` (`Sodium.Ideal`), on the codec reading back the `auth` messages the two builders
make (`Msgpack.ReadsMessage`), and on the session keys the two contexts hold belonging together
(`SessionKeys`), which is what the exchange of `key` messages sets up.
-/

namespace SaltyRtc

open Signaling Handlers

/-! ## Calls that move the handshake -/

/-- A call of `handle_message` that returns `Ok` without a `HandshakeError` and moves the client
into the task state. -/
def Handlers.EntersTask {σ : Type} [Handlers σ] (env : Env) (bbox : ByteBox) (s : σ)
    (actions : List HandleAction) (s' : σ) : Prop :=
  handleMessage env bbox s = .ok actions s' ∧ NoHandshakeError actions ∧
    (common s).signalingState ≠ .task ∧ (common s').signalingState = .task

/-- A call of the responder's `handle_message` that returns `Ok` without a `HandshakeError` and
puts the initiator's context in `AuthSent`. -/
def ResponderSignaling.SendsAuth (env : Env) (bbox : ByteBox) (s : ResponderSignaling)
    (actions : List HandleAction) (s' : ResponderSignaling) : Prop :=
  handleMessage env bbox s = .ok actions s' ∧ NoHandshakeError actions ∧
    s.initiator.handshakeState ≠ .authSent ∧ s'.initiator.handshakeState = .authSent

/-! ## Session keys that belong together -/

/-- The initiator's context for a responder, `r`, and the responder's context for the initiator,
`i`: each holds the other's public session key, and both session key pairs are genuine. -/
structure SessionKeys (pub : PrivateKey → PublicKey) (r : ResponderContext) (i : InitiatorContext) :
    Prop where
  responder_genuine : r.keypair.Genuine pub
  initiator_genuine : i.keypair.Genuine pub
  responder_key : r.sessionKey = some i.keypair.publicKey
  initiator_key : i.sessionKey = some r.keypair.publicKey

namespace SessionKeys

variable {na : Sodium} {mp : Msgpack} {pub : PrivateKey → PublicKey} {r : ResponderContext}
  {i : InitiatorContext} {ob : OpenBox Message} {key k : PublicKey}

/-- The initiator opens, with its session keys for the responder, what the responder sealed with
its session keys for the initiator. -/
lemma open_responder_box (hna : na.Ideal pub) (hk : SessionKeys pub r i)
    (hkey : i.sessionKey = some key) (hr : r.sessionKey = some k)
    (hmp : mp.ReadsMessage ob.message) :
    OpenBox.decrypt na mp (ob.encrypt na mp i.keypair key) r.keypair k = .ok ob := by
  obtain rfl : key = r.keypair.publicKey := Option.some.inj (hkey.symm.trans hk.initiator_key)
  obtain rfl : k = i.keypair.publicKey := Option.some.inj (hr.symm.trans hk.responder_key)
  exact OpenBox.decrypt_encrypt hna hk.initiator_genuine hk.responder_genuine hmp

/-- The responder opens, with its session keys for the initiator, what the initiator sealed with
its session keys for the responder. -/
lemma open_initiator_box (hna : na.Ideal pub) (hk : SessionKeys pub r i)
    (hkey : r.sessionKey = some key) (hi : i.sessionKey = some k)
    (hmp : mp.ReadsMessage ob.message) :
    OpenBox.decrypt na mp (ob.encrypt na mp r.keypair key) i.keypair k = .ok ob := by
  obtain rfl : key = i.keypair.publicKey := Option.some.inj (hkey.symm.trans hk.responder_key)
  obtain rfl : k = r.keypair.publicKey := Option.some.inj (hi.symm.trans hk.initiator_key)
  exact OpenBox.decrypt_encrypt hna hk.responder_genuine hk.initiator_genuine hmp

end SessionKeys

/-! ## What each side sends and takes -/

namespace InitiatorSignaling

variable {env : Env}

/-- The call that moves the initiator into the task state opens the sender's box with the
session keys of its context, takes the `auth` in it, stores the first of our tasks that it
proposes with its data for that task, and sends back, sealed with the same keys, an `auth` that
names the task with our data for it. -/
lemma entersTask_auth {bbox : ByteBox} {s s' : InitiatorSignaling} {actions : List HandleAction}
    {c : ResponderContext} (hi : s.Inv) (h : EntersTask env bbox s actions s')
    (hc : s.responders.lookup bbox.nonce.source = some c) :
    ∃ a k ts proposed t d, c.sessionKey = some k ∧
      OpenBox.decrypt env.sodium env.msgpack bbox c.keypair k = .ok ⟨.auth a, bbox.nonce⟩ ∧
      s.common.tasks = some ts ∧ a.tasks = some proposed ∧ ts.chooseSharedTask proposed = some t ∧
      a.data.lookup t.name = some d ∧ s'.common.task = some { t with initData := some d } ∧
      ∃ cookie n drops, actions = drops ++ [.reply (OpenBox.encrypt env.sodium env.msgpack
        ⟨.auth ⟨cookie, none, some t.name, (∅ : AuthData).insert t.name t.data⟩, n⟩ c.keypair k),
        .handshakeDone] := by
  obtain ⟨hrun, hno, hnt, ht⟩ := h
  obtain ⟨s₁, a, r, k, hview, hr, -, hk, hopen, hauth⟩ := entersTask_inv hi hrun hnt ht
  -- the nonce check left the keys of the sender's context and our tasks
  have hkeys : some (r.handshakeState, r.keypair, r.sessionKey) =
      some (c.handshakeState, c.keypair, c.sessionKey) := by
    simpa [handshakeView, hr, hc] using congrFun (congrArg (fun v => v.2.2) hview) bbox.nonce.source
  simp only [Option.some.injEq, Prod.mk.injEq] at hkeys
  obtain ⟨-, hkp, hsk⟩ := hkeys
  have htasks : s₁.common.tasks = s.common.tasks := congrArg (fun v => v.2.1) hview
  obtain ⟨r', ts, proposed, t, d, cookie, key, hr', hts, hproposed, hchoose, hd, htask, -, hkey,
    drops, n, hactions⟩ := EStateM.of_triple (handleAuth_task_spec env a _ s₁) rfl hauth hno
  obtain rfl : r' = r := Option.some.inj (hr'.symm.trans hr)
  obtain rfl : key = k := Option.some.inj (hkey.symm.trans hk)
  refine ⟨a, key, ts, proposed, t, d, hsk ▸ hk, hkp ▸ hopen, htasks ▸ hts, hproposed, hchoose,
    hd, htask, cookie, n, drops, ?_⟩
  rw [hactions, hkp]

end InitiatorSignaling

namespace ResponderSignaling

variable {env : Env}

/-- The call that sends our `auth` sends what `ResponderAuthBuilder` builds from our tasks, sealed
with our session key pair for the session key it stores for the initiator; it is made in the peer
handshake. -/
lemma sendsAuth_auth {bbox : ByteBox} {s s' : ResponderSignaling} {actions : List HandleAction}
    (hi : s.Inv) (h : SendsAuth env bbox s actions s') :
    ∃ ts cookie a n key, s.common.tasks = some ts ∧ ResponderAuthBuilder.build cookie ts = .ok a ∧
      s.common.signalingState = .peerHandshake ∧
      s'.initiator.keypair = s.initiator.keypair ∧ s'.initiator.sessionKey = some key ∧
      actions = [.reply (OpenBox.encrypt env.sodium env.msgpack ⟨.auth a, n⟩ s.initiator.keypair
        key)] := by
  obtain ⟨hrun, -, hbefore, hafter⟩ := h
  obtain ⟨s₁, obox, msg, hview, hsig, -, -, hkey⟩ := sendsAuth_inv hi hrun hbefore hafter
  obtain ⟨ts, a, n, hts, hbuild, hactions, -, hkp, hsk, -⟩ :=
    EStateM.of_triple (handleKey_auth_spec env msg obox.nonce s₁) rfl hkey
  -- the nonce check left our tasks, the signaling state and the initiator's key pair
  simp only [handshakeView, Prod.mk.injEq] at hview
  obtain ⟨hsig', htasks, -, hkp', -⟩ := hview
  exact ⟨ts, obox.nonce.cookie, a, n, msg.key, htasks ▸ hts, hbuild, hsig' ▸ hsig, hkp.trans hkp',
    hsk, hkp' ▸ hactions⟩

/-- The call that moves the responder into the task state opens the initiator's box with its
session keys, takes the `auth` in it, and stores our task of the name it gives, with the data it
sends for that name. -/
lemma entersTask_auth {bbox : ByteBox} {s s' : ResponderSignaling} {actions : List HandleAction}
    (hi : s.Inv) (h : EntersTask env bbox s actions s') :
    ∃ a k ts name t d, s.initiator.sessionKey = some k ∧
      OpenBox.decrypt env.sodium env.msgpack bbox s.initiator.keypair k = .ok ⟨.auth a, bbox.nonce⟩ ∧
      s.common.tasks = some ts ∧ a.task = some name ∧
      ts.tasks.find? (fun t => t.name = name) = some t ∧ a.data.lookup t.name = some d ∧
      s'.common.task = some { t with initData := some d } := by
  obtain ⟨hrun, -, hnt, ht⟩ := h
  obtain ⟨s₁, a, k, hview, hk, hopen, hauth⟩ := entersTask_inv hi hrun hnt ht
  obtain ⟨ts, name, t, d, hts, hname, hfind, hd, htask⟩ :=
    EStateM.of_triple (handleAuth_task_spec env a s₁) rfl hauth
  -- the nonce check left our tasks and the initiator's session keys
  simp only [handshakeView, Prod.mk.injEq] at hview
  obtain ⟨-, htasks, -, hkp, hsk⟩ := hview
  exact ⟨a, k, ts, name, t, d, hsk ▸ hk, hkp ▸ hopen, htasks ▸ hts, hname, hfind, hd, htask⟩

end ResponderSignaling

/-! ## The names and the data -/

/-- The task the initiator picks from the names the responder offers is the first of its tasks
whose name the responder has; the responder's task of that name, and the data each side sent for
it, are what the other side takes. -/
lemma chooseSharedTask_agreement {ours theirs : Tasks} {t t' : Task} {d d' : Option ValueMap}
    (hchoose : ours.chooseSharedTask (theirs.tasks.map Task.name) = some t)
    (hd : (theirs.tasks.find? fun t' => t'.name = t.name).map Task.data = some d)
    (hfind : theirs.tasks.find? (fun t' => t'.name = t.name) = some t')
    (hd' : ((∅ : AuthData).insert t.name t.data).lookup t'.name = some d') :
    ours.tasks.find? (fun t => theirs.tasks.any (·.name == t.name)) = some t ∧
      t'.name = t.name ∧ d = t'.data ∧ d' = t.data := by
  have hname : t'.name = t.name := by simpa using List.find?_some hfind
  refine ⟨?_, hname, ?_, ?_⟩
  · simpa [Tasks.chooseSharedTask, List.any_map, Function.comp_def, eq_comm] using hchoose
  · rw [hfind] at hd
    exact (Option.some.inj hd).symm
  · rw [hname, AList.lookup_insert] at hd'
    exact (Option.some.inj hd').symm

/-! ## Agreement -/

/-- Task agreement: in a run of an initiator `I` that starts with the tasks `TI` and of a
responder `R` that starts with `TR`, let `R` send its `auth` in `bR`, let the call of `I` that
moves it into the task state handle `bR`, from a responder whose context `c` holds session keys
that belong with those of `R` then and when `R` gets `I`'s reply `bI` in the call that moves it
into the task state. Then, in every later state of both runs, the two tasks have the same name,
that of the first of `I`'s tasks that `R` offers, and each is initialised with the data the other
side sent for it. -/
theorem task_agreement {envI envR : Env} {pub : PrivateKey → PublicKey}
    (hna : envI.sodium.Ideal pub) (hsodium : envR.sodium = envI.sodium)
    (hmsgpack : envR.msgpack = envI.msgpack)
    {TI TR : Tasks} {i₀ i₁ i₂ i : InitiatorSignaling} {r₀ r₁ r₁' r₂ r₃ r : ResponderSignaling}
    {bK bR bI : ByteBox} {actsI actsK actsR : List HandleAction} {c : ResponderContext}
    (hI₀ : InitiatorSignaling.Initial envI i₀) (hTI : i₀.common.tasks = some TI)
    (hI₁ : Reach.Reachable (OkStep envI) (· = i₀) i₁) (hIenter : EntersTask envI bR i₁ actsI i₂)
    (hI : Reach.Reachable (OkStep envI) (· = i₂) i)
    (hR₀ : ResponderSignaling.Initial envR r₀) (hTR : r₀.common.tasks = some TR)
    (hR₁ : Reach.Reachable (OkStep envR) (· = r₀) r₁)
    (hRauth : ResponderSignaling.SendsAuth envR bK r₁ actsK r₁')
    (hR₂ : Reach.Reachable (OkStep envR) (· = r₁') r₂) (hRenter : EntersTask envR bI r₂ actsR r₃)
    (hR : Reach.Reachable (OkStep envR) (· = r₃) r)
    (hbR : .reply bR ∈ actsK) (hbI : ∃ pre, actsI = pre ++ [.reply bI, .handshakeDone])
    (hc : i₁.responders.lookup bR.nonce.source = some c)
    (hkeys₁ : SessionKeys pub c r₁'.initiator) (hkeys₂ : SessionKeys pub c r₂.initiator)
    (hcodecR : ∀ cookie a, ResponderAuthBuilder.build cookie TR = .ok a →
      envI.msgpack.ReadsMessage (.auth a))
    (hcodecI : ∀ cookie t a, t ∈ TI.tasks → InitiatorAuthBuilder.build cookie t.name t.data = .ok a →
      envI.msgpack.ReadsMessage (.auth a)) :
    ∃ t t', TI.tasks.find? (fun t => TR.tasks.any (·.name == t.name)) = some t ∧
      TR.tasks.find? (fun t' => t'.name = t.name) = some t' ∧ t'.name = t.name ∧
      i.common.task = some { t with initData := some t'.data } ∧
      r.common.task = some { t' with initData := some t.data } := by
  -- the initiator's run: our tasks up to the call into the task state, the task after it
  have hLI₁ := (InitiatorSignaling.roleInv envI).leads_of_reachable (.initial hI₀) hI₁
  have hLI := (InitiatorSignaling.roleInv envI).leads_of_reachable
    ((InitiatorSignaling.roleInv envI).leads_okStep hLI₁.1
      ⟨actsI, hIenter.1, hIenter.2.1⟩).1 hI
  have hTI₁ : i₁.common.tasks = some TI := (hLI₁.2.tasks_eq hIenter.2.2.1).trans hTI
  have hItask : i.common.task = i₂.common.task := (hLI.2.task_eq hIenter.2.2.2).2
  -- the responder's run, through the call that sends its `auth`
  have hLR₁ := (ResponderSignaling.roleInv envR).leads_of_reachable (.initial hR₀) hR₁
  have hLR₁' := (ResponderSignaling.roleInv envR).leads_okStep hLR₁.1
    ⟨actsK, hRauth.1, hRauth.2.1⟩
  have hLR₂ := hLR₁.trans (hLR₁'.trans
    ((ResponderSignaling.roleInv envR).leads_of_reachable hLR₁'.1 hR₂))
  have hLR := (ResponderSignaling.roleInv envR).leads_of_reachable
    ((ResponderSignaling.roleInv envR).leads_okStep hLR₂.1 ⟨actsR, hRenter.1, hRenter.2.1⟩).1 hR
  have hTR₂ : r₂.common.tasks = some TR := (hLR₂.2.tasks_eq hRenter.2.2.1).trans hTR
  have hRtask : r.common.task = r₃.common.task := (hLR.2.task_eq hRenter.2.2.2).2
  -- the responder's `auth`
  obtain ⟨ts, cookieR, aR, nR, keyR, hts, hbuild, hpeer, hkp₁, hsk₁, hactsK⟩ :=
    ResponderSignaling.sendsAuth_auth hLR₁.1 hRauth
  obtain ⟨-, hnames, hdata⟩ := ResponderAuthBuilder.build_eq_ok hbuild
  have hTR₁ : r₁.common.tasks = some TR := by
    refine (hLR₁.2.tasks_eq ?_).trans hTR
    simp [hpeer]
  obtain rfl : TR = ts := Option.some.inj (hTR₁.symm.trans hts)
  rw [hactsK, List.mem_singleton, HandleAction.reply.injEq] at hbR
  -- the initiator opens it and answers
  obtain ⟨a, k, ts', proposed, t, d, hk, hopen, hts', hproposed, hchoose, hd, hItask₂, cookie, n,
    drops, hactsI⟩ := InitiatorSignaling.entersTask_auth hLI₁.1 hIenter hc
  obtain rfl : TI = ts' := Option.some.inj (hTI₁.symm.trans hts')
  have hopenR : OpenBox.decrypt envI.sodium envI.msgpack bR c.keypair k = .ok ⟨.auth aR, nR⟩ := by
    rw [hbR, hsodium, hmsgpack, ← hkp₁]
    exact hkeys₁.open_responder_box hna hsk₁ hk (hcodecR _ _ hbuild)
  obtain rfl : a = aR := by
    have := hopen.symm.trans hopenR
    simp only [Except.ok.injEq, OpenBox.mk.injEq, Message.auth.injEq] at this
    exact this.1
  obtain rfl : proposed = TR.tasks.map Task.name := Option.some.inj (hproposed.symm.trans hnames)
  -- the initiator's reply is the box the responder gets
  obtain ⟨pre, hpre⟩ := hbI
  have hbI : bI = OpenBox.encrypt envI.sodium envI.msgpack
      ⟨.auth ⟨cookie, none, some t.name, (∅ : AuthData).insert t.name t.data⟩, n⟩ c.keypair k := by
    have := (List.append_inj' (hpre.symm.trans hactsI) rfl).2
    simp only [List.cons.injEq, HandleAction.reply.injEq, and_true] at this
    exact this
  obtain ⟨aI, k₂, ts'', name, t', d', hk₂, hopen₂, hts'', hname, hfind, hd', hRtask₃⟩ :=
    ResponderSignaling.entersTask_auth hLR₂.1 hRenter
  obtain rfl : TR = ts'' := Option.some.inj (hTR₂.symm.trans hts'')
  have hopenI : OpenBox.decrypt envR.sodium envR.msgpack bI r₂.initiator.keypair k₂ =
      .ok ⟨.auth ⟨cookie, none, some t.name, (∅ : AuthData).insert t.name t.data⟩, n⟩ := by
    rw [hbI, hsodium, hmsgpack]
    exact hkeys₂.open_initiator_box hna hk hk₂
      (hcodecI cookie t _ (List.mem_of_find?_eq_some hchoose) rfl)
  obtain rfl : aI = ⟨cookie, none, some t.name, (∅ : AuthData).insert t.name t.data⟩ := by
    have := hopen₂.symm.trans hopenI
    simp only [Except.ok.injEq, OpenBox.mk.injEq, Message.auth.injEq] at this
    exact this.1
  obtain rfl : name = t.name := Option.some.inj hname.symm
  obtain ⟨hfirst, hsame, rfl, rfl⟩ := chooseSharedTask_agreement hchoose ((hdata t.name).symm.trans hd)
    hfind hd'
  exact ⟨t, t', hfirst, hfind, hsame, hItask.trans hItask₂, hRtask.trans hRtask₃⟩

/-! ## A full handshake

The concrete initiator and responder of `Runs` that trust each other's permanent key, with a
codec that also knows the messages of their peer handshake: the server's messages, the
responder's `key`, the initiator's `key`, the responder's `auth`, and the initiator's `auth`,
which moves the responder into the task state. -/

namespace Toy

/-- The data of both `auth` messages: the one task, without data. -/
def authData : AuthData := (∅ : AuthData).insert "v1.test" none

/-- The messages of the full handshake written as their index: the server's, then both session
keys. -/
def handshakeMessages : List Message :=
  messages ++ [.key ⟨publicKey 21⟩, .key ⟨publicKey 11⟩]

/-- The codec of the full handshake. An `auth` is written as a tag, whether it offers tasks (the
responder's) or names one (the initiator's), and the cookie it answers, and is read back with the
one task of the concrete clients; every other message is its index in the table. -/
def handshakeMsgpack : Msgpack where
  encodeMessage m := match m with
    | .auth a => 255 :: (if a.tasks.isSome then 1 else 0) :: a.yourCookie.bytes
    | m => [UInt8.ofNat (handshakeMessages.idxOf m)]
  decodeMessage b := match b with
    | 255 :: offers :: bytes =>
      if h : bytes.length = 16 then
        .ok (.auth (if offers = 1 then ⟨⟨bytes, h⟩, some ["v1.test"], none, authData⟩
          else ⟨⟨bytes, h⟩, none, some "v1.test", authData⟩))
      else .error "invalid auth"
    | b => (msgpack handshakeMessages []).decodeMessage b
  encodeValue := (msgpack handshakeMessages []).encodeValue
  decodeValue := (msgpack handshakeMessages []).decodeValue

/-- The codec reads back the responder's `auth` for the one task, whatever cookie it answers. -/
lemma handshakeMsgpack_responderAuth (yourCookie : Cookie) :
    handshakeMsgpack.ReadsMessage (.auth ⟨yourCookie, some ["v1.test"], none, authData⟩) := by
  simp [Msgpack.ReadsMessage, handshakeMsgpack, yourCookie.length_eq]

/-- The codec reads back the initiator's `auth` for the one task, whatever cookie it answers. -/
lemma handshakeMsgpack_initiatorAuth (yourCookie : Cookie) :
    handshakeMsgpack.ReadsMessage (.auth ⟨yourCookie, none, some "v1.test", authData⟩) := by
  simp [Msgpack.ReadsMessage, handshakeMsgpack, yourCookie.length_eq]

/-- The initiator's environment for the full handshake. -/
def handshakeInitiatorEnv : Env :=
  { env [] [] (draws 10 fun _ => 1) with msgpack := handshakeMsgpack }

/-- The responder's environment for the full handshake. -/
def handshakeResponderEnv : Env :=
  { env [] [] (draws 20 fun _ => 1) with msgpack := handshakeMsgpack }

/-- The initiator, trusting the responder's key. -/
def handshakeInitiator : InitiatorSignaling :=
  (InitiatorSignaling.new handshakeInitiatorEnv (keyPair 1) tasks (some (publicKey 2)) none none
    (authToken 3)).get (by decide +kernel)

/-- The responder, trusting the initiator's key. -/
def handshakeResponder : ResponderSignaling :=
  (ResponderSignaling.new handshakeResponderEnv (keyPair 2) (publicKey 1) none none tasks none).get
    (by decide +kernel)

/-- A box of the full handshake. -/
def handshakeBox (m : Message) (nonce : Nonce) (kp : KeyPair) (k : PublicKey) : ByteBox :=
  OpenBox.encrypt sodium handshakeMsgpack ⟨m, nonce⟩ kp k

/-- The responder's `key`, sealed with the permanent keys. -/
def responderKeyBox : ByteBox :=
  handshakeBox (.key ⟨publicKey 21⟩) ⟨cookie 21, ⟨2⟩, ⟨1⟩, ⟨0, 2⟩⟩ (keyPair 2) (publicKey 1)

/-- The initiator's `key`, sealed with the permanent keys. -/
def initiatorKeyBox : ByteBox :=
  handshakeBox (.key ⟨publicKey 11⟩) ⟨cookie 11, ⟨1⟩, ⟨2⟩, ⟨0, 2⟩⟩ (keyPair 1) (publicKey 2)

/-- The responder's `auth`, sealed with the session keys. -/
def responderAuthReply : ByteBox :=
  handshakeBox (.auth ⟨cookie 11, some ["v1.test"], none, authData⟩) ⟨cookie 21, ⟨2⟩, ⟨1⟩, ⟨0, 3⟩⟩
    (keyPair 21) (publicKey 11)

/-- The initiator's `auth`, sealed with the session keys. -/
def initiatorAuthReply : ByteBox :=
  handshakeBox (.auth ⟨cookie 21, none, some "v1.test", authData⟩) ⟨cookie 11, ⟨1⟩, ⟨2⟩, ⟨0, 3⟩⟩
    (keyPair 11) (publicKey 21)

/-- The initiator once the server handshake is done and the responder's `key` is handled. -/
def initiatorKeySent : InitiatorSignaling :=
  (handleAll handshakeInitiatorEnv [helloBox, initiatorAuthBox, responderKeyBox]
    handshakeInitiator).state

/-- The responder once the server handshake is done and its `key` is sent. -/
def responderKeySent : ResponderSignaling :=
  (handleAll handshakeResponderEnv [helloBox, responderAuthBox] handshakeResponder).state

/-- The responder once its `auth` is sent. -/
def responderAuthSent : ResponderSignaling :=
  (handleMessage handshakeResponderEnv initiatorKeyBox responderKeySent).state

/-- The initiator's context for the responder, in `KeySent`. -/
def responderContext : ResponderContext :=
  ⟨.keySent, 0, ⟨2⟩, some (publicKey 2), some (publicKey 21), keyPair 11, ⟨⟨0, 2⟩, some ⟨0, 2⟩⟩,
    ⟨cookie 11, some (cookie 21)⟩⟩

end Toy

/-- The concrete full handshake: both clients end in the task state with the one task, each
initialised with the data the other sent. -/
theorem task_agreement_toy :
    ∃ t t', Toy.tasks.tasks.find? (fun t => Toy.tasks.tasks.any (·.name == t.name)) = some t ∧
      Toy.tasks.tasks.find? (fun t' => t'.name = t.name) = some t' ∧ t'.name = t.name ∧
      (handleMessage Toy.handshakeInitiatorEnv Toy.responderAuthReply
        Toy.initiatorKeySent).state.common.task = some { t with initData := some t'.data } ∧
      (handleMessage Toy.handshakeResponderEnv Toy.initiatorAuthReply
        Toy.responderAuthSent).state.common.task = some { t' with initData := some t.data } := by
  have hI₀ : InitiatorSignaling.Initial Toy.handshakeInitiatorEnv Toy.handshakeInitiator :=
    ⟨_, _, _, _, _, _, (Option.some_get _).symm⟩
  have hR₀ : ResponderSignaling.Initial Toy.handshakeResponderEnv Toy.handshakeResponder :=
    ⟨_, _, _, _, _, _, (Option.some_get _).symm⟩
  -- the runs up to the responder's `key` at the initiator, and up to our `key` at the responder
  have hI₁ := reachable_handleAll Toy.handshakeInitiatorEnv [Toy.helloBox, Toy.initiatorAuthBox, Toy.responderKeyBox]
    (.init rfl : Reach.Reachable (OkStep Toy.handshakeInitiatorEnv) (· = Toy.handshakeInitiator)
      Toy.handshakeInitiator) (by decide +kernel)
  have hR₁ := reachable_handleAll Toy.handshakeResponderEnv [Toy.helloBox, Toy.responderAuthBox]
    (.init rfl : Reach.Reachable (OkStep Toy.handshakeResponderEnv) (· = Toy.handshakeResponder)
      Toy.handshakeResponder) (by decide +kernel)
  -- the three calls of the peer handshake
  have hRauth : ResponderSignaling.SendsAuth Toy.handshakeResponderEnv Toy.initiatorKeyBox
      Toy.responderKeySent [.reply Toy.responderAuthReply] Toy.responderAuthSent :=
    ⟨EStateM.Result.eq_ok_of_ok? (by decide +kernel), by decide, by decide +kernel,
      by decide +kernel⟩
  have hIenter : EntersTask Toy.handshakeInitiatorEnv Toy.responderAuthReply Toy.initiatorKeySent
      [.reply Toy.initiatorAuthReply, .handshakeDone]
      (handleMessage Toy.handshakeInitiatorEnv Toy.responderAuthReply Toy.initiatorKeySent).state :=
    ⟨EStateM.Result.eq_ok_of_ok? (by decide +kernel), by decide, by decide +kernel,
      by decide +kernel⟩
  have hRenter : EntersTask Toy.handshakeResponderEnv Toy.initiatorAuthReply Toy.responderAuthSent
      [.handshakeDone]
      (handleMessage Toy.handshakeResponderEnv Toy.initiatorAuthReply Toy.responderAuthSent).state :=
    ⟨EStateM.Result.eq_ok_of_ok? (by decide +kernel), by decide, by decide +kernel,
      by decide +kernel⟩
  -- the session keys of the two contexts
  have hc : Toy.initiatorKeySent.responders.lookup Toy.responderAuthReply.nonce.source =
      some Toy.responderContext := by decide +kernel
  have hkp : Toy.responderAuthSent.initiator.keypair = Toy.keyPair 21 := by decide +kernel
  have hkeys : SessionKeys Toy.pub Toy.responderContext Toy.responderAuthSent.initiator :=
    ⟨rfl, hkp ▸ rfl, by rw [hkp]; rfl, by decide +kernel⟩
  -- the codec reads back the `auth` messages the builders make from the one task
  have hdup : ResponderAuthBuilder.hasDuplicates ["v1.test"] = false := by decide +kernel
  have hcodecR : ∀ cookie a, ResponderAuthBuilder.build cookie Toy.tasks = .ok a →
      Toy.handshakeInitiatorEnv.msgpack.ReadsMessage (.auth a) := by
    intro yourCookie a h
    simp only [ResponderAuthBuilder.build, Toy.tasks, Toy.task, List.map, List.isEmpty, hdup,
      List.foldl, Bool.false_eq_true, if_false, Except.ok.injEq] at h
    subst h
    exact Toy.handshakeMsgpack_responderAuth yourCookie
  have hcodecI : ∀ cookie t a, t ∈ Toy.tasks.tasks →
      InitiatorAuthBuilder.build cookie t.name t.data = .ok a →
      Toy.handshakeInitiatorEnv.msgpack.ReadsMessage (.auth a) := by
    intro yourCookie t a ht h
    obtain rfl : t = Toy.task "v1.test" := List.mem_singleton.mp ht
    obtain rfl := Except.ok.inj h
    exact Toy.handshakeMsgpack_initiatorAuth yourCookie
  have hsodium : Toy.handshakeResponderEnv.sodium = Toy.handshakeInitiatorEnv.sodium := rfl
  have hmsgpack : Toy.handshakeResponderEnv.msgpack = Toy.handshakeInitiatorEnv.msgpack := rfl
  exact task_agreement (Toy.sodium_ideal Toy.pub) hsodium hmsgpack hI₀ rfl hI₁ hIenter (.init rfl) hR₀ rfl
    hR₁ hRauth (.init rfl) hRenter (.init rfl) (List.mem_singleton_self _) ⟨[], rfl⟩ hc hkeys
    hkeys hcodecR hcodecI

end SaltyRtc
