import PaperboatTunnel.ConnectorProtocol.Protocol

/-!
# `Messages` — the control messages and their validation

The message types of `internal/connectorprotocol/protocol.go` with their `Validate` methods, check by check in the
order of the source. `none` is Go's `nil` error. Every field defaults to Go's zero value, so `{}` is the zero message a
failing call returns.

The canonical JSON encoding of a payload, its SHA-256 digest and the shape check of a configuration payload are a
parameter, `PayloadCodec`; nothing is assumed about it.
-/

namespace PaperboatTunnel.ConnectorProtocol

open GoTime

/-- `json.RawMessage`. -/
abbrev Payload := List UInt8

/-- What `Snapshot.Validate` and `Delta.Validate` use of the payload: `canonicalJSON`, the hexadecimal
    SHA-256 digest, and `validateConfigSnapshotPayload`. -/
structure PayloadCodec where
  canonicalJSON : Payload → Nat → Except Error Payload
  sha256Hex : Payload → String
  validateConfigSnapshotPayload : Payload → String → UInt64 → Option Error

def badIdentifier (value : String) : Bool := (validateIdentifier value).isSome

/-! ## Authentication -/

structure AuthRequest where
  (accountID tunnelID connectorID hostID identityKeyID identityKeyThumbprint : String := "")
  (processGeneration credentialGeneration : UInt64 := 0)
  (nonce signedProof : String := "")
  (issuedAt expiresAt : Time := {})
deriving DecidableEq

/-- `AuthRequest.validate`. -/
def AuthRequest.check (a : AuthRequest) (now : Time) (requireProof : Bool) : Option Error :=
  if badIdentifier a.accountID ∨ badIdentifier a.tunnelID ∨ badIdentifier a.connectorID
      ∨ badIdentifier a.hostID ∨ (validateIdentityKey a.identityKeyID a.identityKeyThumbprint).isSome then
    some errInvalidInput
  else if badNonce a.nonce ∨ a.processGeneration = 0 ∨ a.credentialGeneration = 0
      ∨ a.issuedAt.isZero ∨ a.expiresAt.isZero ∨ ¬ a.expiresAt.after a.issuedAt
      ∨ a.expiresAt.sub a.issuedAt > 15 * Duration.minute
      ∨ (requireProof ∧ (validateProof a.signedProof).isSome) then
    some errInvalidInput
  else if ¬ now.isZero ∧ (a.issuedAt.after (now.add maxClockSkew) ∨ now.sub a.issuedAt > maxClockSkew
      ∨ ¬ a.expiresAt.after now) then
    some (codeError .credentialExpired .credentialExpired true)
  else none

def AuthRequest.validate (a : AuthRequest) (now : Time) : Option Error := a.check now true

structure AuthResult where
  (accountID tunnelID connectorID sessionID hostID identityKeyID identityKeyThumbprint : String := "")
  (processGeneration credentialGeneration : UInt64 := 0)
  (credentialExpiresAt leaseExpiresAt : Time := {})
deriving DecidableEq

def AuthResult.validate (a : AuthResult) (now : Time) : Option Error :=
  if [a.accountID, a.tunnelID, a.connectorID, a.hostID].any badIdentifier then
    some errAuthenticationFailed
  else if a.sessionID ≠ "" ∧ badIdentifier a.sessionID then some errAuthenticationFailed
  else if (validateIdentityKey a.identityKeyID a.identityKeyThumbprint).isSome
      ∨ a.processGeneration = 0 ∨ a.credentialGeneration = 0 ∨ a.credentialExpiresAt.isZero
      ∨ a.leaseExpiresAt.isZero ∨ a.leaseExpiresAt.after a.credentialExpiresAt then
    some errAuthenticationFailed
  else if ¬ now.isZero ∧ (¬ a.credentialExpiresAt.after now ∨ ¬ a.leaseExpiresAt.after now
      ∨ a.leaseExpiresAt.sub now > maxLease) then
    some errAuthenticationFailed
  else none

def AuthResult.validateBound (a : AuthResult) : Option Error :=
  if (a.validate {}).isSome ∨ badIdentifier a.sessionID then some errAuthenticationFailed else none

theorem AuthResult.lease_le_credential {a : AuthResult} {now : Time} (h : a.validate now = none) :
    a.leaseExpiresAt.nanos ≤ a.credentialExpiresAt.nanos := by
  unfold AuthResult.validate at h
  split at h
  · exact absurd h (by simp)
  split at h
  · exact absurd h (by simp)
  split at h
  · exact absurd h (by simp)
  next hbad =>
  have hafter : ¬ a.leaseExpiresAt.after a.credentialExpiresAt = true := fun hc => hbad (by simp [hc])
  rw [Time.after_iff] at hafter
  omega

structure RenewalRequest where
  (sessionID accountID tunnelID connectorID hostID identityKeyID identityKeyThumbprint : String := "")
  (processGeneration credentialGeneration : UInt64 := 0)
  (nonce signedProof : String := "")
  requestedAt : Time := {}
deriving DecidableEq

/-- `RenewalRequest.validate`. -/
def RenewalRequest.check (r : RenewalRequest) (requireProof : Bool) : Option Error :=
  if badIdentifier r.sessionID ∨ badIdentifier r.accountID ∨ badIdentifier r.tunnelID
      ∨ badIdentifier r.connectorID ∨ badIdentifier r.hostID
      ∨ (validateIdentityKey r.identityKeyID r.identityKeyThumbprint).isSome
      ∨ r.processGeneration = 0 ∨ r.credentialGeneration = 0 ∨ badNonce r.nonce
      ∨ r.requestedAt.isZero ∨ (requireProof ∧ (validateProof r.signedProof).isSome) then
    some errInvalidInput
  else none

def RenewalRequest.validate (r : RenewalRequest) : Option Error := r.check true

def RenewalRequest.validateAt (r : RenewalRequest) (now : Time) : Option Error :=
  match r.check true with
  | some err => some err
  | none =>
    if ¬ now.isZero ∧ (r.requestedAt.after (now.add maxClockSkew) ∨ now.sub r.requestedAt > maxClockSkew) then
      some (codeError .authenticationFailed .authentication false
        (some (.text "renewal request is outside clock skew")))
    else none

/-! ## Session setup -/

structure Lease where
  sessionID : String := ""
  expiresAt : Time := {}
  heartbeatIntervalMS : UInt32 := 0
deriving DecidableEq

/-- `time.Duration(l.HeartbeatIntervalMS) * time.Millisecond`; a `uint32` of milliseconds cannot
    overflow. -/
def Lease.heartbeatInterval (l : Lease) : Duration := l.heartbeatIntervalMS.toNat * Duration.millisecond

def Lease.validate (l : Lease) (now : Time) : Option Error :=
  if badIdentifier l.sessionID ∨ l.expiresAt.isZero ∨ l.heartbeatIntervalMS = 0 then
    some errInvalidInput
  else if ¬ now.isZero ∧ (¬ l.expiresAt.after now ∨ l.expiresAt.sub now > maxLease
      ∨ l.heartbeatInterval ≥ l.expiresAt.sub now) then
    some errInvalidInput
  else none

structure Hello where
  (protocol minVersion maxVersion accountID tunnelID connectorID hostID : String := "")
  processGeneration : UInt64 := 0
  capabilities : List String := []
  auth : AuthRequest := {}
deriving DecidableEq

def Hello.validate (h : Hello) (now : Time) : Option Error :=
  if h.protocol ≠ protocolName ∨ h.minVersion = "" ∨ h.maxVersion = "" ∨ badIdentifier h.accountID
      ∨ badIdentifier h.tunnelID ∨ badIdentifier h.connectorID ∨ badIdentifier h.hostID
      ∨ h.processGeneration = 0 then
    some errInvalidInput
  else match negotiateVersion h.minVersion h.maxVersion with
    | .error err => some err
    | .ok _ =>
      match validateCapabilities h.capabilities with
      | some err => some err
      | none =>
        if h.auth.accountID ≠ h.accountID ∨ h.auth.tunnelID ≠ h.tunnelID
            ∨ h.auth.connectorID ≠ h.connectorID ∨ h.auth.hostID ≠ h.hostID
            ∨ h.auth.processGeneration ≠ h.processGeneration then
          some (codeError .identityMismatch .authentication)
        else h.auth.validate now

structure Welcome where
  (protocol version sessionID : String := "")
  capabilities : List String := []
  lease : Lease := {}
  requiresSnapshot : Bool := false
  serverTime : Time := {}
deriving DecidableEq

def Welcome.validate (w : Welcome) (now : Time) : Option Error :=
  if w.protocol ≠ protocolName ∨ w.version ≠ protocolVersion ∨ badIdentifier w.sessionID
      ∨ ¬ w.requiresSnapshot ∨ (validateCapabilities w.capabilities).isSome ∨ w.serverTime.isZero
      ∨ w.lease.sessionID ≠ w.sessionID then
    some errInvalidInput
  else w.lease.validate now

/-! ## Configuration -/

structure Snapshot where
  (accountID tunnelID connectorID sessionID : String := "")
  (processGeneration generation : UInt64 := 0)
  contentHash : String := ""
  payload : Payload := []
deriving DecidableEq

structure Delta where
  (accountID tunnelID connectorID sessionID : String := "")
  (processGeneration previousGeneration generation : UInt64 := 0)
  (previousContentHash contentHash : String := "")
  payload : Payload := []
deriving DecidableEq

variable (codec : PayloadCodec)

/-- The payload checks common to `Snapshot.Validate` and `Delta.Validate`, which differ in the size limit,
    the reason of a hash mismatch and the error of a misshapen payload. -/
def checkPayload (limit : Nat) (reason : DisconnectReason) (shapeError : Error → Error)
    (payload : Payload) (contentHash tunnelID : String) (generation : UInt64) : Option Error :=
  match codec.canonicalJSON payload limit with
  | .error err => some (codeError .contentHashMismatch reason false (some err))
  | .ok canonical =>
    if canonical ≠ payload then some (codeError .contentHashMismatch reason)
    else if contentHash ≠ "sha256:" ++ codec.sha256Hex canonical then
      some (codeError .contentHashMismatch reason)
    else (codec.validateConfigSnapshotPayload canonical tunnelID generation).map shapeError

def Snapshot.validate (s : Snapshot) : Option Error :=
  if badIdentifier s.tunnelID ∨ (s.accountID ≠ "" ∧ badIdentifier s.accountID)
      ∨ (s.sessionID ≠ "" ∧ badIdentifier s.sessionID) ∨ s.generation = 0
      ∨ ¬ hashPattern s.contentHash ∨ s.payload.length = 0 ∨ s.payload.length > maxSnapshotBytes then
    some errInvalidInput
  else checkPayload codec maxSnapshotBytes .snapshotRejected
    (fun err => codeError .snapshotRejected .snapshotRejected false (some err))
    s.payload s.contentHash s.tunnelID s.generation

def Snapshot.validateBound (s : Snapshot) : Option Error :=
  if badIdentifier s.accountID ∨ badIdentifier s.connectorID ∨ badIdentifier s.sessionID
      ∨ s.processGeneration = 0 then
    some errInvalidInput
  else s.validate codec

def Delta.validate (d : Delta) : Option Error :=
  if badIdentifier d.tunnelID ∨ (d.accountID ≠ "" ∧ badIdentifier d.accountID)
      ∨ (d.sessionID ≠ "" ∧ badIdentifier d.sessionID) ∨ ¬ hashPattern d.previousContentHash
      ∨ ¬ hashPattern d.contentHash ∨ d.payload.length = 0 ∨ d.payload.length > maxDeltaBytes then
    some errInvalidInput
  else if d.previousGeneration = 0 ∨ d.generation ≠ d.previousGeneration + 1 then
    some (codeError .generationGap .generationGap true)
  else checkPayload codec maxDeltaBytes .generationGap
    (fun err => codeError .deltaRejected .generationGap false (some err))
    d.payload d.contentHash d.tunnelID d.generation

def Delta.validateBound (d : Delta) : Option Error :=
  if badIdentifier d.accountID ∨ badIdentifier d.connectorID ∨ badIdentifier d.sessionID
      ∨ d.processGeneration = 0 then
    some errInvalidInput
  else d.validate codec

variable {codec}

/-- A valid delta moves the generation by one, in `uint64` arithmetic. -/
theorem Delta.generation_eq {d : Delta} (h : d.validate codec = none) : d.generation = d.previousGeneration + 1 := by
  unfold Delta.validate at h
  split at h
  · exact absurd h (by simp)
  split at h
  · exact absurd h (by simp)
  · next hgen =>
    rw [not_or] at hgen
    exact not_not.mp hgen.2

/-- The largest `uint64`, at which the successor of a generation wraps. -/
def maxGeneration : UInt64 := 0xffffffffffffffff

theorem lt_succ_of_lt_max {g : UInt64} (h : g < maxGeneration) : g < g + 1 := by
  have hmax : maxGeneration.toNat = 2 ^ 64 - 1 := rfl
  rw [UInt64.lt_iff_toNat_lt] at h ⊢
  rw [UInt64.toNat_add]
  have hone : (1 : UInt64).toNat = 1 := rfl
  omega

/-! ## Acknowledgements and readiness -/

inductive AckKind where
  | unset | snapshot | delta | ready | renewal
deriving DecidableEq

inductive AckStatus where
  | unset | applied | duplicate | rejected | snapshotRequired
deriving DecidableEq

structure Ack where
  (accountID tunnelID connectorID sessionID : String := "")
  processGeneration : UInt64 := 0
  kind : AckKind := .unset
  status : AckStatus := .unset
  generation : UInt64 := 0
  contentHash : String := ""
  code : Code := .unset
deriving DecidableEq

def Ack.validate (a : Ack) : Option Error :=
  if badIdentifier a.accountID ∨ badIdentifier a.tunnelID ∨ badIdentifier a.connectorID
      ∨ badIdentifier a.sessionID ∨ a.processGeneration = 0 ∨ a.kind = .unset ∨ a.status = .unset
      ∨ a.generation = 0 ∨ ¬ hashPattern a.contentHash then
    some errInvalidInput
  else if (a.status = .rejected ∧ (a.code = .unset ∨ ¬ validCode a.code))
      ∨ (a.status ≠ .rejected ∧ a.code ≠ .unset) then
    some errInvalidInput
  else none

structure Readiness where
  (accountID sessionID tunnelID connectorID : String := "")
  (processGeneration generation : UInt64 := 0)
  contentHash : String := ""
  (edgeReady routeReady originReady : Bool := false)
deriving DecidableEq

def Readiness.validate (r : Readiness) : Option Error :=
  if badIdentifier r.accountID ∨ badIdentifier r.sessionID ∨ badIdentifier r.tunnelID
      ∨ badIdentifier r.connectorID ∨ r.processGeneration = 0 ∨ r.generation = 0
      ∨ ¬ hashPattern r.contentHash then
    some errInvalidInput
  else none

/-! ## Heartbeats -/

structure Heartbeat where
  (accountID sessionID tunnelID connectorID : String := "")
  (processGeneration lastAppliedGeneration : UInt64 := 0)
  lastAppliedHash : String := ""
  sentAt : Time := {}
deriving DecidableEq

def Heartbeat.validate (h : Heartbeat) : Option Error :=
  if badIdentifier h.accountID ∨ badIdentifier h.sessionID ∨ badIdentifier h.tunnelID
      ∨ badIdentifier h.connectorID ∨ h.processGeneration = 0 ∨ h.lastAppliedGeneration = 0
      ∨ ¬ hashPattern h.lastAppliedHash ∨ h.sentAt.isZero then
    some errInvalidInput
  else none

theorem Heartbeat.sentAt_ne_zero {h : Heartbeat} (hv : h.validate = none) : h.sentAt.nanos ≠ 0 := by
  intro hz
  unfold Heartbeat.validate at hv
  rw [if_pos (by simp [hz])] at hv
  exact absurd hv (by simp)

structure HeartbeatAck where
  (accountID tunnelID connectorID sessionID : String := "")
  processGeneration : UInt64 := 0
  (leaseExpiresAt serverTime : Time := {})
deriving DecidableEq

def HeartbeatAck.validate (h : HeartbeatAck) (now : Time) : Option Error :=
  if badIdentifier h.accountID ∨ badIdentifier h.tunnelID ∨ badIdentifier h.connectorID
      ∨ badIdentifier h.sessionID ∨ h.processGeneration = 0 ∨ h.leaseExpiresAt.isZero
      ∨ ¬ h.leaseExpiresAt.after now ∨ h.serverTime.isZero then
    some errInvalidInput
  else none

/-! ## Drain -/

inductive DrainStatus where
  | unset | accepted | progress | completed | forced | rejected
deriving DecidableEq

structure Drain where
  (accountID tunnelID connectorID sessionID : String := "")
  processGeneration : UInt64 := 0
  drainID : String := ""
  generation : UInt64 := 0
  contentHash : String := ""
  deadline : Time := {}
  (stopNewStreams forceAfterDeadline : Bool := false)
deriving DecidableEq

def Drain.validate (d : Drain) (now : Time) : Option Error :=
  if badIdentifier d.accountID ∨ badIdentifier d.tunnelID ∨ badIdentifier d.connectorID
      ∨ badIdentifier d.sessionID ∨ badIdentifier d.drainID ∨ d.processGeneration = 0
      ∨ d.generation = 0 ∨ ¬ hashPattern d.contentHash ∨ d.deadline.isZero ∨ ¬ d.stopNewStreams then
    some errInvalidInput
  else if ¬ now.isZero ∧ (¬ d.deadline.after now ∨ d.deadline.sub now > maxLease) then
    some errInvalidInput
  else none

structure DrainAck where
  (accountID tunnelID connectorID sessionID : String := "")
  processGeneration : UInt64 := 0
  drainID : String := ""
  generation : UInt64 := 0
  contentHash : String := ""
  status : DrainStatus := .unset
  activeStreams : UInt32 := 0
  forcedClose : Bool := false
  code : Code := .unset
deriving DecidableEq

/-- The `switch` of `DrainAck.Validate`: what each status may carry. -/
def DrainAck.badStatus (a : DrainAck) : Bool :=
  match a.status with
  | .accepted | .progress => a.forcedClose || a.code != .unset
  | .completed => a.activeStreams != 0 || a.forcedClose || a.code != .unset
  | .forced => !a.forcedClose || a.code != .drainTimeout || a.activeStreams != 0
  | .rejected => a.forcedClose || a.code != .drainRejected
  | .unset => true

/-- `DrainAck.Validate`; the source takes a time and does not use it. -/
def DrainAck.validate (a : DrainAck) : Option Error :=
  if badIdentifier a.accountID ∨ badIdentifier a.tunnelID ∨ badIdentifier a.connectorID
      ∨ badIdentifier a.sessionID ∨ badIdentifier a.drainID ∨ a.processGeneration = 0
      ∨ a.generation = 0 ∨ ¬ hashPattern a.contentHash ∨ a.activeStreams > maxActiveStreams then
    some errInvalidInput
  else if a.badStatus then some errInvalidInput
  else if a.code ≠ .unset ∧ ¬ validCode a.code then some errInvalidInput
  else none

theorem DrainAck.validate_ne_none_of_unset {a : DrainAck} (h : a.status = .unset) : a.validate ≠ none := by
  have hbad : a.badStatus = true := by simp [DrainAck.badStatus, h]
  unfold DrainAck.validate
  rw [if_pos hbad]
  split <;> simp

end PaperboatTunnel.ConnectorProtocol
