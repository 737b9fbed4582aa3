import Mathlib
import SaltyRtc.Protocol.TaskChannel

/-!
# The transformer of the task loop

Port of the `transformer` future of `task_loop` in `src/lib.rs`: it takes the messages the task
puts on the outgoing channel, one at a time, and forwards the WebSocket messages `transform`
makes of each. A `close` ends it after its messages; a message that cannot be encrypted fails it
with the crash "Transformer future error (TODO)"; it ends without an error when the channel does.
The channels and the lock on the client are not modelled: the transformer is a function of the
messages and of the client's state.

Every message the transformer sends is sealed under a nonce with our next CSN towards the peer.
The nonces the transformer puts on the wire carry consecutive CSNs, from the one after the CSN the
client had before, and a run that ends leaves our CSN at the last one sent (`transformer_nonces`).
So it never sends two messages under the same nonce,
whose reuse with one key pair would break the secrecy of the boxes.
-/

namespace SaltyRtc

open Std.Do

set_option mvcgen.warning false

/-- What the transformer leaves: the client's state, the WebSocket messages it forwarded, in
order, and whether it ended or failed. -/
structure TransformerOutcome (σ : Type) where
  state : σ
  sent : List OwnedMessage
  result : Except (Fault SaltyError) Unit

/-- The nonce a binary WebSocket message starts with, as `Nonce::from_bytes` reads its first 24
bytes. -/
def OwnedMessage.nonce? : OwnedMessage → Option Nonce
  | .binary bytes =>
    match Nonce.fromBytes (bytes.take 24) with
    | .ok nonce => some nonce
    | .error _ => none
  | .close _ => none

/-- A framed box starts with its nonce. -/
@[simp] lemma OwnedMessage.nonce?_intoBytes (bbox : ByteBox) :
    (OwnedMessage.binary bbox.intoBytes).nonce? = some bbox.nonce := by
  simp [OwnedMessage.nonce?, ByteBox.take_intoBytes, Nonce.fromBytes_intoBytes]

namespace Signaling

variable {σ : Type} [Signaling σ] (env : Env)

/-- The transformer on the messages the task sends, until a `close` ends it or a message fails
it. -/
def transformer : List TaskMessage → σ → TransformerOutcome σ
  | [], s => ⟨s, [], .ok ()⟩
  | msg :: rest, s =>
    match transform env msg s with
    | .error (.panic m) s' => ⟨s', [], .error (.panic m)⟩
    | .error (.err _) s' => ⟨s', [], .error (.err (.crash "Transformer future error (TODO)"))⟩
    | .ok (out, stop) s' =>
      if stop then ⟨s', out, .ok ()⟩
      else
        let o := transformer rest s'
        ⟨o.state, out ++ o.sent, o.result⟩

/-- A turn that goes on is followed by the rest of the transformer. -/
lemma transformer_cons_of_ok {msg : TaskMessage} {rest : List TaskMessage} {s s' : σ}
    {out : List OwnedMessage} (h : transform env msg s = .ok (out, false) s') :
    transformer env (msg :: rest) s = ⟨(transformer env rest s').state,
      out ++ (transformer env rest s').sent, (transformer env rest s').result⟩ := by
  simp only [transformer, h, Bool.false_eq_true, ↓reduceIte]

/-- A `close` ends the transformer after its messages. -/
lemma transformer_cons_of_stop {msg : TaskMessage} {rest : List TaskMessage} {s s' : σ}
    {out : List OwnedMessage} (h : transform env msg s = .ok (out, true) s') :
    transformer env (msg :: rest) s = ⟨s', out, .ok ()⟩ := by
  simp only [transformer, h, ↓reduceIte]

/-- A failed turn fails the transformer, and sends nothing. -/
lemma transformer_cons_of_error {msg : TaskMessage} {rest : List TaskMessage} {s s' : σ}
    {e : Fault SignalingError} (h : transform env msg s = .error e s') :
    ∃ e', transformer env (msg :: rest) s = ⟨s', [], .error e'⟩ := by
  cases e with
  | panic m => exact ⟨.panic m, by simp only [transformer, h]⟩
  | err e => exact ⟨.err (.crash "Transformer future error (TODO)"), by simp only [transformer, h]⟩

/-- After the box of a task message, the transformer sends at most a close frame, which carries
no nonce. -/
theorem transform_tail_spec (msg : TaskMessage) (s₀ : σ) :
    ⦃fun s => ⌜s = s₀⌝⦄ (transform env msg : SignalingM σ (List OwnedMessage × Bool))
    ⦃⇓? r _ => ⌜∀ m ∈ r.1.tail, m.nonce? = none⌝⦄ := by
  cases msg with
  | value map =>
    have h := encodeTaskMessage_spec env (valueMessage map) s₀
    mvcgen [transform, encryptTaskMessage, h]
    all_goals simp
  | application data =>
    have h := encodeTaskMessage_spec env (applicationMessage data) s₀
    mvcgen [transform, encryptTaskMessage, h]
    all_goals simp
  | close reason =>
    have h := encodeCloseMessage_none_spec env reason s₀
    mvcgen [transform, encryptCloseMessage, h]
    all_goals simp [OwnedMessage.nonce?]

/-- A turn of the transformer puts one nonce on the wire: that of the box it sends. -/
lemma filterMap_nonce?_of_transform {msg : TaskMessage} {s s' : σ} {out : List OwnedMessage}
    {stop : Bool} {bbox : ByteBox} {rest : List OwnedMessage}
    (hrun : transform env msg s = .ok (out, stop) s') (hout : out = .binary bbox.intoBytes :: rest) :
    out.filterMap OwnedMessage.nonce? = [bbox.nonce] := by
  have htail := EStateM.of_triple (transform_tail_spec env msg s) rfl hrun
  subst hout
  simp only [List.tail_cons] at htail
  simp [List.filterMap_eq_nil_iff.mpr htail]

end Signaling

namespace Signaling

variable {σ : Type} [Handlers σ] {env : Env}

/-- What a client sends its chosen peer carries our next CSN, which it stores. -/
lemma SendsTo.csn (R : TaskRole σ) {s s' : σ} {payload : List UInt8} {bbox : ByteBox} {p : Peer}
    (hsend : SendsTo env s payload bbox s') (hp : getPeer s = some p) :
    ∃ ours, getPeer s' = some { p with csnPair := { p.csnPair with ours } } ∧
      bbox.nonce.csn.combinedSequenceNumber.toNat = p.csnPair.ours.combinedSequenceNumber.toNat + 1 ∧
      ours.combinedSequenceNumber.toNat = p.csnPair.ours.combinedSequenceNumber.toNat + 1 := by
  obtain ⟨p₀, src, dst, csn, ours, kp, key, hp₀, -, -, hinc, -, -, rfl, rfl⟩ := hsend
  obtain rfl : p = p₀ := Option.some.inj (hp.symm.trans hp₀)
  obtain ⟨-, hours, rfl⟩ := CombinedSequence.increment_eq_ok.mp hinc
  exact ⟨ours, R.getPeer_setPeerCsnPair s p _ hp, hours, hours⟩

/-- What a run of the transformer sent from our CSN `n` towards the peer: nonces with the `k`
CSNs after `n`, one after the other; and, if the run ended without an error, our CSN at the last
of them. -/
def SentFrom (n : Nat) (o : TransformerOutcome σ) : Prop :=
  ∃ k, (o.sent.filterMap OwnedMessage.nonce?).map (·.csn.combinedSequenceNumber.toNat) =
      List.range' (n + 1) k ∧
    (o.result = .ok () → ∃ p, getPeer o.state = some p ∧
      p.csnPair.ours.combinedSequenceNumber.toNat = n + k)

/-- The transformer from a client whose chosen peer is `p`, over any messages of the task, sends
from our CSN towards `p`. The induction is on the messages; each turn sends one box, under the
CSN it stores. -/
theorem transformer_sentFrom (R : TaskRole σ) (msgs : List TaskMessage) {s : σ} {p : Peer}
    (hp : getPeer s = some p) :
    SentFrom p.csnPair.ours.combinedSequenceNumber.toNat (transformer env msgs s) := by
  induction msgs generalizing s p with
  | nil => exact ⟨0, by simp [transformer], fun _ => ⟨p, hp, rfl⟩⟩
  | cons msg rest ih =>
    cases hrun : transform env msg s with
    | error e s' =>
      obtain ⟨e', he⟩ : ∃ e', transformer env (msg :: rest) s = ⟨s', [], .error e'⟩ :=
        transformer_cons_of_error env hrun
      rw [he]
      exact ⟨0, rfl, fun hr => by cases hr⟩
    | ok r s' =>
      obtain ⟨out, stop⟩ := r
      obtain ⟨bbox, tail, hout, hsend⟩ := EStateM.of_triple (transform_spec env msg s) rfl hrun
      have hturn := filterMap_nonce?_of_transform env hrun hout
      obtain ⟨ours, hp', hcsn, hours⟩ := hsend.csn R hp
      cases stop
      · -- the transformer goes on from the CSN it stored
        obtain ⟨k, hk, hlast⟩ := ih hp'
        rw [transformer_cons_of_ok env hrun]
        refine ⟨k + 1, ?_, fun hr => ?_⟩
        · rw [List.filterMap_append, hturn, List.map_append, hk]
          simp only [List.map_cons, List.map_nil, hcsn, hours, List.range'_succ,
            List.singleton_append]
        · obtain ⟨p'', hp'', hnum⟩ := hlast hr
          refine ⟨p'', hp'', ?_⟩
          simp only [hnum, hours]
          omega
      · rw [transformer_cons_of_stop env hrun]
        refine ⟨1, ?_, fun _ => ⟨_, hp', hours⟩⟩
        rw [hturn]
        simp only [List.map_cons, List.map_nil, hcsn, List.range'_one]

end Signaling

/-- The transformer of either role, over any messages of its task: the nonces it puts on the wire
carry consecutive CSNs, starting right after our CSN towards the chosen peer, so that no two of
them are equal; and when it ends without an error, our CSN is the last one sent. -/
theorem transformer_nonces (env : Env) :
    (∀ (msgs : List TaskMessage) (s : InitiatorSignaling) (p : Peer), Signaling.getPeer s = some p →
      Signaling.SentFrom p.csnPair.ours.combinedSequenceNumber.toNat
        (Signaling.transformer env msgs s)) ∧
    (∀ (msgs : List TaskMessage) (s : ResponderSignaling) (p : Peer), Signaling.getPeer s = some p →
      Signaling.SentFrom p.csnPair.ours.combinedSequenceNumber.toNat
        (Signaling.transformer env msgs s)) :=
  ⟨fun msgs _ _ hp => Signaling.transformer_sentFrom InitiatorSignaling.taskRole msgs hp,
    fun msgs _ _ hp => Signaling.transformer_sentFrom ResponderSignaling.taskRole msgs hp⟩

end SaltyRtc
