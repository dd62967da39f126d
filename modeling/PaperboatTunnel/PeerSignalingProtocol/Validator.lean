import PaperboatTunnel.Lib.GoNet
import PaperboatTunnel.PeerSignaling.Service

/-!
# `Validator` — the messages that one endpoint may send

A validator follows the messages of one endpoint: their sequence numbers, the order of their kinds, and the candidates
they have named. JSON and the parser of ICE candidates are a parameter, `Codec`; nothing is assumed about it.
-/

namespace PaperboatTunnel.PeerSignalingProtocol

open PeerSignaling GoStrings

def schema : String := "paperboat.peer-signaling/v1"

def maximumMessage : Nat := 16 <<< 10

def maximumCandidate : Nat := 2048

def maximumCandidates : Nat := 64

inductive Error where
  | invalid
  | stale
  | sequence
  | limit
  | closed
deriving DecidableEq

inductive Kind where
  | credentials
  | candidate
  | end
  | ready
  | close
  | unknown (text : String)
deriving DecidableEq

structure Message where
  (schema intentID : String)
  (attemptGeneration networkGeneration : UInt64)
  role : Role
  sequence : UInt64
  kind : Kind
  (ufrag password candidate reason : String := "")
deriving DecidableEq

inductive CandidateType where
  | host
  | serverReflexive
  | peerReflexive
  | other
deriving DecidableEq

/-- What the ICE package reads from a candidate. -/
structure ICECandidate where
  /-- `NetworkTypeUDP4` or `NetworkTypeUDP6`. -/
  udp : Bool
  address : String
  type : CandidateType

/-- What comes from other packages: a decoder that takes one JSON value with known fields only and nothing after it,
    `json.Marshal`, and `ice.UnmarshalCandidate`. -/
structure Codec where
  decode : Raw → Option Message
  marshal : Message → Option Raw
  unmarshalCandidate : String → Option ICECandidate

def validCandidate (c : Codec) (raw : String) : Bool :=
  !(raw.utf8ByteSize == 0 || decide (maximumCandidate < raw.utf8ByteSize))
    && (c.unmarshalCandidate raw).any (fun candidate =>
      candidate.udp && GoNet.isIP candidate.address && candidate.type != .other)

def boundedID (value : String) : Bool :=
  decide (0 < value.utf8ByteSize) && decide (value.utf8ByteSize ≤ 256) && !containsAny value ['\r', '\n', '\x00']

def validBinding (value : Binding) : Bool :=
  boundedID value.intentID && decide (0 < value.attemptGeneration) && decide (0 < value.networkGeneration)
    && value.role.valid

def credentialCharacters (value : String) : Bool :=
  value.toList.all (fun c => c.isLower || c.isUpper || c.isDigit || c == '+' || c == '/')

def validCredential (ufrag password : String) : Bool :=
  decide (4 ≤ ufrag.utf8ByteSize) && decide (ufrag.utf8ByteSize ≤ 256) && decide (22 ≤ password.utf8ByteSize)
    && decide (password.utf8ByteSize ≤ 256) && credentialCharacters ufrag && credentialCharacters password

def validReason (value : String) : Bool :=
  ["completed", "canceled", "network_changed", "expired", "revoked", "protocol_error", "capacity"].contains value

/-- The fields that a message of its kind may have. -/
def Message.wellFormed (c : Codec) (m : Message) : Bool :=
  match m.kind with
  | .credentials => validCredential m.ufrag m.password && m.candidate == "" && m.reason == ""
  | .candidate => m.ufrag == "" && m.password == "" && m.reason == "" && validCandidate c m.candidate
  | .end | .ready => m.ufrag == "" && m.password == "" && m.candidate == "" && m.reason == ""
  | .close => m.ufrag == "" && m.password == "" && m.candidate == "" && validReason m.reason
  | .unknown _ => false

def decode (c : Codec) (raw : Raw) (binding : Binding) : Except Error Message :=
  if raw.length = 0 ∨ maximumMessage < raw.length then .error .limit
  else
    match c.decode raw with
    | none => .error .invalid
    | some current =>
      if current.schema ≠ schema ∨ current.intentID ≠ binding.intentID ∨ current.role ≠ binding.role
          ∨ current.sequence = 0 then
        .error .invalid
      else if current.attemptGeneration ≠ binding.attemptGeneration
          ∨ current.networkGeneration ≠ binding.networkGeneration then
        .error .stale
      else if !current.wellFormed c then .error .invalid
      else if c.marshal current ≠ some raw then .error .invalid
      else .ok current

/-! ## The validator -/

structure Validator where
  binding : Binding
  lastSequence : UInt64 := 0
  candidates : List String := []
  (credentials ended ready closed : Bool := false)
deriving DecidableEq

def newValidator (binding : Binding) : Option Validator :=
  if validBinding binding then some { binding := binding } else none

namespace Validator

/-- The first switch of `Accept`. -/
def outOfOrder (v : Validator) (m : Message) : Option Error :=
  match m.kind with
  | .credentials => if v.credentials || v.ended then some .sequence else none
  | .candidate =>
    if !v.credentials || v.ended then some .sequence
    else if m.candidate ∉ v.candidates ∧ maximumCandidates ≤ v.candidates.length then some .limit
    else none
  | .end => if !v.credentials || v.ended then some .sequence else none
  | .ready => if !v.credentials || v.ready then some .sequence else none
  | _ => none

/-- The second switch of `Accept`. -/
def apply (v : Validator) (m : Message) : Validator × Bool :=
  let v := { v with lastSequence := m.sequence }
  match m.kind with
  | .credentials => ({ v with credentials := true }, true)
  | .candidate =>
    if m.candidate ∈ v.candidates then (v, false) else ({ v with candidates := m.candidate :: v.candidates }, true)
  | .end => ({ v with ended := true }, true)
  | .ready => ({ v with ready := true }, true)
  | .close => ({ v with closed := true }, true)
  | .unknown _ => (v, true)

def accept (c : Codec) (v : Validator) (raw : Raw) : Validator × Except Error Bool :=
  if v.closed then (v, .error .closed)
  else if v.lastSequence = 18446744073709551615 then (v, .error .sequence)
  else
    match decode c raw v.binding with
    | .error e => (v, .error e)
    | .ok current =>
      if current.sequence ≠ v.lastSequence + 1 then (v, .error .sequence)
      else
        match v.outOfOrder current with
        | some e => (v, .error e)
        | none => ((v.apply current).1, .ok (v.apply current).2)

end Validator

def factory (c : Codec) : Validators Validator Error where
  newValidator := newValidator
  accept := Validator.accept c

end PaperboatTunnel.PeerSignalingProtocol
