import SaltyRtc.Lib.BigEndian
import SaltyRtc.Protocol.Types
import SaltyRtc.Protocol.Csn

/-!
# Cookies and nonces

Port of `src/protocol/cookie.rs` and `src/protocol/nonce.rs`. A nonce is 24 bytes: a 16-byte
cookie, the source and destination addresses, the overflow number (big-endian `u16`) and the
sequence number (big-endian `u32`).

`Nonce.fromBytes` returns a `Fault`: an `err` for a slice of the wrong length, and a `panic`
where one of the indexing or `read_u16`/`read_u32` calls of the source would panic (none can,
after the length check; `fromBytes_ne_panic` says so).
-/

namespace SaltyRtc

/-- A cookie: 16 bytes. -/
structure Cookie where
  bytes : List UInt8
  length_eq : bytes.length = 16
  deriving DecidableEq

/-- `Cookie::random`, from the 16 random bytes drawn for it; `none` where the assertion that the
bytes are not all zero panics. -/
def Cookie.random (c : Cookie) : Option Cookie :=
  if c.bytes.all (· == 0) then none else some c

/-- The message of the assertion in `Cookie::random`. -/
def Cookie.randomPanic : String := "assertion failed: !rand.iter().all(|&x| x == 0)"

/-- Our cookie towards a peer, and the peer's cookie once its first message arrived. -/
structure CookiePair where
  ours : Cookie
  theirs : Option Cookie
  deriving DecidableEq

/-- The SaltyRTC nonce. -/
structure Nonce where
  cookie : Cookie
  source : Address
  destination : Address
  csn : CombinedSequenceSnapshot
  deriving DecidableEq

namespace Nonce

/-- `Nonce::from_bytes`. -/
def fromBytes (bytes : List UInt8) : Except (Fault SignalingError) Nonce :=
  if h : bytes.length ≠ 24 then
    .error (.err (.decode ("Byte slice must be exactly 24 bytes, not " ++ toString bytes.length)))
  else
    match BigEndian.readU16 ((bytes.drop 18).take 2), BigEndian.readU32 ((bytes.drop 20).take 4),
      bytes[16]?, bytes[17]? with
    | some overflow, some sequence, some source, some destination =>
      .ok ⟨⟨bytes.take 16, by simp only [List.length_take]; omega⟩, ⟨source⟩, ⟨destination⟩,
        ⟨overflow, sequence⟩⟩
    | _, _, _, _ => .error (.panic "index out of bounds")

/-- `Nonce::into_bytes`. Writing the 16 cookie bytes into the first 16 bytes cannot fail, so the
`expect` there never fires. -/
def intoBytes (n : Nonce) : List UInt8 :=
  n.cookie.bytes ++ [n.source.val, n.destination.val] ++ BigEndian.writeU16 n.csn.overflow ++
    BigEndian.writeU32 n.csn.sequence

@[simp] lemma length_intoBytes (n : Nonce) : n.intoBytes.length = 24 := by
  simp [intoBytes, n.cookie.length_eq]

/-- Parsing the bytes of a nonce gives the nonce back. -/
lemma fromBytes_intoBytes (n : Nonce) : fromBytes n.intoBytes = .ok n := by
  obtain ⟨⟨cb, hc⟩, src, dst, ⟨o, q⟩⟩ := n
  -- the offsets 16, 18 and 20 of the source are the lengths of the fields before them
  have hlen : (cb ++ [src.val, dst.val] ++ BigEndian.writeU16 o ++ BigEndian.writeU32 q).length
      = 24 := by simp [hc]
  have h16 : (cb ++ [src.val, dst.val] ++ BigEndian.writeU16 o ++ BigEndian.writeU32 q).take 16
      = cb := by simp [hc]
  have h18 : (cb ++ [src.val, dst.val] ++ BigEndian.writeU16 o ++ BigEndian.writeU32 q).drop 18
      = BigEndian.writeU16 o ++ BigEndian.writeU32 q := by
    rw [List.append_assoc, List.drop_left' (by simp [hc])]
  have h20 : (cb ++ [src.val, dst.val] ++ BigEndian.writeU16 o ++ BigEndian.writeU32 q).drop 20
      = BigEndian.writeU32 q := List.drop_left' (by simp [hc])
  have hs : (cb ++ [src.val, dst.val] ++ BigEndian.writeU16 o ++ BigEndian.writeU32 q)[16]?
      = some src.val := by simp [hc]
  have hd : (cb ++ [src.val, dst.val] ++ BigEndian.writeU16 o ++ BigEndian.writeU32 q)[17]?
      = some dst.val := by simp [hc]
  have h2 : (BigEndian.writeU16 o ++ BigEndian.writeU32 q).take 2 = BigEndian.writeU16 o :=
    List.take_left' (by simp)
  have h4 : (BigEndian.writeU32 q).take 4 = BigEndian.writeU32 q :=
    List.take_of_length_le (by simp)
  unfold fromBytes intoBytes
  simp only [hlen, ne_eq, not_true_eq_false, dite_false, h18, h20, h2, h4, hs, hd,
    BigEndian.readU16_writeU16', BigEndian.readU32_writeU32']
  congr

/-- Every 24-byte slice parses, and is the byte form of the nonce it parses to. -/
lemma fromBytes_of_length {bytes : List UInt8} (h : bytes.length = 24) :
    ∃ n, fromBytes bytes = .ok n ∧ n.intoBytes = bytes := by
  -- name the 24 bytes, so that every slice and index of the source computes
  match bytes, h with
  | [b0, b1, b2, b3, b4, b5, b6, b7, b8, b9, b10, b11, b12, b13, b14, b15, s, d,
      o0, o1, q0, q1, q2, q3], _ =>
    have hw16 := BigEndian.writeU16_readU16 o0 o1 []
    have hw32 := BigEndian.writeU32_readU32 q0 q1 q2 q3 []
    cases ho : BigEndian.readU16 [o0, o1] with
    | none => simp [ho] at hw16
    | some o =>
      cases hq : BigEndian.readU32 [q0, q1, q2, q3] with
      | none => simp [hq] at hw32
      | some q =>
        simp only [ho, hq, Option.map_some, Option.some.injEq] at hw16 hw32
        refine ⟨⟨⟨[b0, b1, b2, b3, b4, b5, b6, b7, b8, b9, b10, b11, b12, b13, b14, b15], rfl⟩,
          ⟨s⟩, ⟨d⟩, ⟨o, q⟩⟩, ?_, ?_⟩
        · simp only [fromBytes, List.length_cons, List.length_nil]
          simp only [ne_eq, not_true_eq_false, dite_false, List.drop_succ_cons, List.drop_zero,
            List.take_succ_cons, List.take_zero, ho, hq]
          rfl
        · simp [intoBytes, hw16, hw32]

/-- A slice that is not 24 bytes long is refused with a decoding error. -/
lemma fromBytes_of_length_ne {bytes : List UInt8} (h : bytes.length ≠ 24) :
    fromBytes bytes = .error (.err (.decode
      ("Byte slice must be exactly 24 bytes, not " ++ toString bytes.length))) := by
  simp [fromBytes, h]

/-- `from_bytes` never panics. -/
lemma fromBytes_ne_panic (bytes : List UInt8) (msg : String) :
    fromBytes bytes ≠ .error (.panic msg) := by
  by_cases h : bytes.length = 24
  · obtain ⟨n, hn, -⟩ := fromBytes_of_length h
    rw [hn]
    simp
  · rw [fromBytes_of_length_ne h]
    simp

end Nonce

end SaltyRtc
