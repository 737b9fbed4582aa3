import SaltyRtc.Lib.Checked
import SaltyRtc.Lib.BigEndian
import SaltyRtc.Lib.Outcome
import SaltyRtc.Lib.Reach
import SaltyRtc.Lib.AList
import SaltyRtc.Lib.Triple
import SaltyRtc.Lib.AtMostOne
import SaltyRtc.Errors
import SaltyRtc.Protocol.Types
import SaltyRtc.Protocol.Csn
import SaltyRtc.Protocol.Nonce
import SaltyRtc.Crypto
import SaltyRtc.Value
import SaltyRtc.Tasks
import SaltyRtc.Protocol.Messages
import SaltyRtc.Protocol.Auth
import SaltyRtc.Boxes
import SaltyRtc.Protocol.Context
import SaltyRtc.Protocol.Signaling
import SaltyRtc.Protocol.Handle
import SaltyRtc.Protocol.Initiator
import SaltyRtc.Protocol.Responder
import SaltyRtc.Protocol.Runs
import SaltyRtc.Protocol.Validation
import SaltyRtc.Protocol.PeerHandshake
import SaltyRtc.Protocol.Stage
import SaltyRtc.Protocol.Effects
import SaltyRtc.Protocol.Refinement
import SaltyRtc.Protocol.InitiatorEffects
import SaltyRtc.Protocol.ResponderEffects
import SaltyRtc.Protocol.Invariants
import SaltyRtc.Protocol.Inversion
import SaltyRtc.Protocol.Config
import SaltyRtc.Protocol.Pinning
import SaltyRtc.Protocol.Registration
import SaltyRtc.TaskLoop
import SaltyRtc.Protocol.Codec
import SaltyRtc.Protocol.TaskChannel
import SaltyRtc.Protocol.TaskAgreement
import SaltyRtc.Protocol.AuthCheck
import SaltyRtc.Protocol.AuthToken
import SaltyRtc.Protocol.CookieRule
import SaltyRtc.Protocol.Cookies
import SaltyRtc.Protocol.Actions
import SaltyRtc.Protocol.NoSharedTask
import SaltyRtc.Handshake
import SaltyRtc.Reader
import SaltyRtc.KeyHex
import SaltyRtc.Transformer
import SaltyRtc.Duplex
import SaltyRtc.SessionKeys
import SaltyRtc.Builder
