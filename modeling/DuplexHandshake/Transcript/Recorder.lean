import DuplexHandshake.Transcript.Basic

/-!
# A transcript that keeps a record

Instead of hashing anything, this transcript writes down what is asked of it. Sealed segments are
the text itself and a tag of fixed bytes; pseudorandom bytes count up from the number of calls so
far. It shows the order of the calls that a handshake makes, and how a handshake fares with a
transcript that refuses tag lengths or insists on one.
-/

namespace DuplexHandshake

/-- One call of a transcript's operations. -/
inductive TranscriptCall where
  | start (label : Bytes)
  | setTagLength (length : Nat)
  | mixData (data : Bytes)
  | sendClear (data : Bytes)
  | receiveClear (data : Bytes)
  | encrypt (text associated : Bytes)
  | decrypt (sealed associated : Bytes)
  | mixKey (secret : Bytes)
  | ratchet (length : Nat)
  | prf (length : Nat)
  deriving DecidableEq

namespace TranscriptCall

def text : TranscriptCall → String
  | start label => "new " ++ Bytes.hex label
  | setTagLength length => "set_tag " ++ toString length
  | mixData data => "ad " ++ Bytes.hex data
  | sendClear data => "send_clr " ++ Bytes.hex data
  | receiveClear data => "recv_clr " ++ Bytes.hex data
  | encrypt text associated => "seal " ++ Bytes.hex text ++ " " ++ Bytes.hex associated
  | decrypt sealed associated => "open " ++ Bytes.hex sealed ++ " " ++ Bytes.hex associated
  | mixKey secret => "key " ++ Bytes.hex secret
  | ratchet length => "ratchet " ++ toString length
  | prf length => "prf " ++ toString length

end TranscriptCall

/-- How a recording transcript treats tag lengths. -/
structure TagPolicy where
  /-- The one length that may be chosen, if only one may. -/
  only : Option Nat := none
  /-- The length in force whatever is chosen, if there is one. -/
  forced : Option Nat := none

/-- A transcript that keeps a record of its calls. -/
structure Recorder (policy : TagPolicy) where
  calls : List TranscriptCall
  chosen : Nat
  deriving DecidableEq

namespace Recorder

variable {policy : TagPolicy}

def note (r : Recorder policy) (call : TranscriptCall) : Recorder policy :=
  { r with calls := r.calls ++ [call] }

def tagLength (r : Recorder policy) : Nat :=
  policy.forced.getD r.chosen

/-- Notes the choice, and follows it if the policy allows. -/
def setTagLength (r : Recorder policy) (length : Nat) :
    Except HandshakeError Unit × Recorder policy :=
  let r := r.note (.setTagLength length)
  -- The call is on record even if the choice is refused.
  if policy.only.getD length = length then (.ok (), { r with chosen := length })
  else (.error .unsupportedTagLength, r)

/-- The byte that tags are made of. -/
def tagByte : UInt8 := 0xAA

/-- Opens a segment that ends in a tag of the length in force. -/
def decrypt (r : Recorder policy) (sealed associated : Bytes) :
    Except HandshakeError Bytes × Recorder policy :=
  let noted := r.note (.decrypt sealed associated)
  if sealed.length < r.tagLength then (.error .authenticationFailure, noted)
  else
    let (text, tag) := sealed.splitAt (sealed.length - r.tagLength)
    (if tag.all (· == tagByte) then .ok text else .error .authenticationFailure, noted)

instance : Transcript (Recorder policy) where
  ratchetLength := 7
  start label := { calls := [.start label], chosen := 0 }
  setTagLength := setTagLength
  tagLength := tagLength
  mixData r data := r.note (.mixData data)
  sendClear r data := r.note (.sendClear data)
  receiveClear r data := r.note (.receiveClear data)
  encrypt r text associated :=
    (text ++ List.replicate r.tagLength tagByte, r.note (.encrypt text associated))
  decrypt := decrypt
  mixKey r secret := r.note (.mixKey secret)
  ratchet r length := r.note (.ratchet length)
  prf r length :=
    ((List.range length).map fun i => (r.calls.length + i).toUInt8, r.note (.prf length))

end Recorder

end DuplexHandshake
