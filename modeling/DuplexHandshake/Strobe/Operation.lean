/-!
# Operations of a duplex

Every operation is announced to the sponge by a byte of five flags, so that equal data under
different operations leads to different states.
-/

namespace DuplexHandshake.Strobe

/-- What the announcement of an operation says. -/
structure Flags where
  /-- The data comes from the peer. -/
  inbound : Bool := false
  application : Bool := false
  /-- The operation depends on the state of the sponge. -/
  cipher : Bool := false
  /-- The data travels between the two sides. -/
  transport : Bool := false
  metadata : Bool := false
  deriving DecidableEq

namespace Flags

def toByte (f : Flags) : UInt8 :=
  (if f.inbound then 1 else 0) ||| (if f.application then 2 else 0) ||| (if f.cipher then 4 else 0)
    ||| (if f.transport then 8 else 0) ||| (if f.metadata then 16 else 0)

end Flags

/-- The operations of a duplex. -/
inductive Operation where
  | data
  | metadata
  | key
  | ratchet
  | prf
  | sendClear
  | receiveClear
  | sendEncrypted
  | receiveEncrypted
  | sendMac
  | receiveMac
  deriving DecidableEq

namespace Operation

def flags : Operation → Flags
  | data => { application := true }
  | metadata => { application := true, metadata := true }
  | key => { application := true, cipher := true }
  | ratchet => { cipher := true }
  | prf => { inbound := true, application := true, cipher := true }
  | sendClear => { application := true, transport := true }
  | receiveClear => { inbound := true, application := true, transport := true }
  | sendEncrypted => { application := true, cipher := true, transport := true }
  | receiveEncrypted => { inbound := true, application := true, cipher := true, transport := true }
  | sendMac => { cipher := true, transport := true }
  | receiveMac => { inbound := true, cipher := true, transport := true }

end Operation

end DuplexHandshake.Strobe
