import DuplexHandshake.Curve25519.X25519
import DuplexHandshake.Diagnostic
import DuplexHandshake.Handshake.Read
import DuplexHandshake.Handshake.Setup
import DuplexHandshake.Handshake.Write
import DuplexHandshake.Proofs.Strobe.Mirror
import DuplexHandshake.Proofs.Strobe.Ratchet
import DuplexHandshake.Proofs.Transcript.Lockstep
import DuplexHandshake.Proofs.Handshake.Attempt
import DuplexHandshake.Proofs.Handshake.LifeCycle
import DuplexHandshake.Proofs.Key.Partners
import DuplexHandshake.Proofs.Handshake.Exchange
import DuplexHandshake.Proofs.Handshake.Convergence
import DuplexHandshake.Proofs.Transcript.History
import DuplexHandshake.Proofs.Handshake.Binding
import DuplexHandshake.Proofs.Handshake.Agreement
import DuplexHandshake.Proofs.Channel.Traffic
import DuplexHandshake.Proofs.Channel.Erasure
import DuplexHandshake.Proofs.Handshake.InPlace
import DuplexHandshake.Proofs.Handshake.Places
import DuplexHandshake.Proofs.Text.Blank
import DuplexHandshake.Proofs.Pattern.Faults
import DuplexHandshake.Proofs.Pattern.Grammar
import DuplexHandshake.Proofs.Pattern.Registration
import DuplexHandshake.Proofs.Handshake.Lengths
import DuplexHandshake.Proofs.Handshake.Slices
import DuplexHandshake.Proofs.Handshake.Events
import DuplexHandshake.Proofs.Handshake.Session
import DuplexHandshake.Proofs.Handshake.Encoding
import DuplexHandshake.Proofs.Handshake.Needs
import DuplexHandshake.Proofs.Handshake.Reach
import DuplexHandshake.Proofs.Handshake.Start
import DuplexHandshake.Proofs.Handshake.Errors
import DuplexHandshake.Proofs.Curve25519.Field
import DuplexHandshake.Proofs.Curve25519.Ladder
import DuplexHandshake.Proofs.Curve25519.LowOrder
import DuplexHandshake.Proofs.Curve25519.X25519
import DuplexHandshake.Proofs.Handshake.LowOrder
import DuplexHandshake.Proofs.Pattern.Histories
import DuplexHandshake.Proofs.Transcript.Failure
import DuplexHandshake.Proofs.Handshake.Freshness
