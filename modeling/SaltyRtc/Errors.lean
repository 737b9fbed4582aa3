import SaltyRtc.Lib.Outcome

/-!
# Errors

Port of `src/errors.rs`: the internal `SignalingError`, the user-facing `SaltyError` (the payload
of a `HandshakeError` action, and the error of the handshake loop), the conversion of the one into
the other, and the nonce `ValidationError`. Each error's `Display` text is given as in the `#[fail(display = ...)]`
attributes, since several messages of the signaling code embed it.

A call of the signaling code ends in `Fault SignalingError` when it returns `Err` or panics; the
nonce checks end in `Fault ValidationError`.
-/

namespace SaltyRtc

/-- `SignalingError`: internal errors of the signaling. -/
inductive SignalingError where
  | decode (msg : String)
  | invalidNonce (msg : String)
  | crypto (msg : String)
  | csnOverflow
  | invalidStateTransition (msg : String)
  | invalidMessage (msg : String)
  | protocol (msg : String)
  | sendError
  | noSharedTask
  | noPeer
  | taskInitialization (msg : String)
  | initiatorCouldNotDecrypt
  /-- An unexpected error: documented to never happen and to indicate a bug. -/
  | crash (msg : String)
  deriving DecidableEq, Repr

/-- The `Display` text of a `SignalingError`. -/
def SignalingError.display : SignalingError → String
  | .decode m => "Decoding error: " ++ m
  | .invalidNonce m => "Invalid nonce: " ++ m
  | .crypto m => "Crypto error: " ++ m
  | .csnOverflow => "CSN overflow"
  | .invalidStateTransition m => "Invalid state transition: " ++ m
  | .invalidMessage m => "Invalid message: " ++ m
  | .protocol m => "A protocol error occurred: " ++ m
  | .sendError => "Server could not relay message"
  | .noSharedTask => "No shared task found"
  | .noPeer => "Peer has not (yet) been determined"
  | .taskInitialization m => "Task initialization failed: " ++ m
  | .initiatorCouldNotDecrypt => "Initiator could not decrypt key message"
  | .crash m => "An unexpected error occurred: " ++ m ++
      ". This indicates a bug and should be reported!"

/-- `SaltyError`: errors exposed to the user of the library. -/
inductive SaltyError where
  | crypto (msg : String)
  | decode (msg : String)
  | network (msg : String)
  | protocol (msg : String)
  | noSharedTask
  | noPeer
  | task (msg : String)
  | crash (msg : String)
  | timeout
  deriving DecidableEq, Repr

/-- `From<SignalingError> for SaltyError`: how `do_handshake` reports an error of
`handle_message`. -/
def SaltyError.ofSignalingError (e : SignalingError) : SaltyError :=
  match e with
  | .crash msg => .crash ("Signaling error: " ++ msg)
  | .crypto msg => .crypto msg
  | .csnOverflow => .crypto e.display
  | .decode msg => .decode msg
  | .initiatorCouldNotDecrypt => .crypto e.display
  | .invalidMessage _ => .protocol e.display
  | .invalidNonce _ => .protocol e.display
  | .invalidStateTransition _ => .crash e.display
  | .noSharedTask => .noSharedTask
  | .noPeer => .noPeer
  | .protocol msg => .protocol msg
  | .sendError => .network e.display
  | .taskInitialization _ => .task e.display

/-- Only `Crash` and `InvalidStateTransition` become a crash, each with its own prefix. -/
lemma SaltyError.ofSignalingError_eq_crash {e : SignalingError} {t : String}
    (h : SaltyError.ofSignalingError e = .crash t) :
    (∃ m, t = "Signaling error: " ++ m) ∨ ∃ m, t = "Invalid state transition: " ++ m := by
  cases e with
  | crash m => exact .inl ⟨m, (SaltyError.crash.inj h).symm⟩
  | invalidStateTransition m => exact .inr ⟨m, (SaltyError.crash.inj h).symm⟩
  | _ => cases h

/-- A text whose characters do not start with those of `p` is no `p ++ m`. -/
lemma append_ne_of_toList {p t : String} (h : ∀ l, p.toList ++ l ≠ t.toList) (m : String) :
    p ++ m ≠ t := by
  intro heq
  exact h m.toList (by rw [← heq, String.toList_append])

/-- No error of the signaling becomes a crash whose text starts otherwise than those of `Crash`
and `InvalidStateTransition`. -/
lemma SaltyError.ofSignalingError_ne_crash (e : Fault SignalingError) {t : String}
    (hcrash : ∀ l, "Signaling error: ".toList ++ l ≠ t.toList)
    (hstate : ∀ l, "Invalid state transition: ".toList ++ l ≠ t.toList) :
    e.map SaltyError.ofSignalingError ≠ .err (.crash t) := by
  intro h
  cases e with
  | panic => cases h
  | err e =>
    injection h with h
    rcases SaltyError.ofSignalingError_eq_crash h with ⟨m, hm⟩ | ⟨m, hm⟩
    · exact append_ne_of_toList hcrash m hm.symm
    · exact append_ne_of_toList hstate m hm.symm

/-- `ValidationError`: the outcome of a failed nonce check. -/
inductive ValidationError where
  /-- Ignore the message. -/
  | dropMsg (msg : String)
  /-- Validation failed. -/
  | fail (msg : String)
  /-- A critical error occurred. -/
  | crash (msg : String)
  deriving DecidableEq, Repr

/-- A call of the signaling code that returns `Err(SignalingError::Crash(_))`. -/
def Fault.IsCrash : Fault SignalingError → Prop
  | .err (.crash _) => True
  | _ => False

instance : DecidablePred Fault.IsCrash := fun f =>
  match f with
  | .err (.crash _) => isTrue trivial
  | .err (.decode _) | .err (.invalidNonce _) | .err (.crypto _) | .err .csnOverflow
  | .err (.invalidStateTransition _) | .err (.invalidMessage _) | .err (.protocol _)
  | .err .sendError | .err .noSharedTask | .err .noPeer | .err (.taskInitialization _)
  | .err .initiatorCouldNotDecrypt | .panic _ => isFalse id

end SaltyRtc
