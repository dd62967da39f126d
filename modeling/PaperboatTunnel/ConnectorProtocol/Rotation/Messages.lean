import PaperboatTunnel.ConnectorProtocol.Messages

/-!
# `Messages` — the records of a credential rotation

The plan of a rotation and the records that are kept for each of its targets, with their `Validate` methods from
`internal/connectorprotocol/rotation.go`. What the checks use of hashing, signatures and URL parsing is the parameter
`RotationCodec`; nothing is assumed about it.
-/

namespace PaperboatTunnel.ConnectorProtocol

open GoTime

/-! ## Limits and vocabularies -/

def maxRotationTargets : Nat := 256
def maxRotationMessage : Nat := 512
def maxCredentialRef : Nat := 512
def maxRotationCredentialLifetime : Duration := 5 * 365 * 24 * Duration.hour

/-- `RotationTargetState`; `unset` is any string outside the vocabulary. -/
inductive RotationTargetState where
  | unset | pending | challenged | installed | ready | revoking | revoked | failed
deriving DecidableEq

def validRotationTargetState (state : RotationTargetState) : Bool := state != .unset

inductive RotationAckStatus where
  | unset | proofAccepted | installed | ready | revoked | rejected | failed
deriving DecidableEq

inductive RotationAggregateStatus where
  | unset | pending | succeeded | failed
deriving DecidableEq

/-- The wire text of a code; `unset` is the empty string. -/
def Code.text : Code → String
  | .unset => ""
  | .invalidInput => "invalid_input"
  | .malformedFrame => "malformed_frame"
  | .frameTooLarge => "frame_too_large"
  | .protocolIncompatible => "protocol_incompatible"
  | .capabilityMissing => "capability_missing"
  | .authenticationFailed => "authentication_failed"
  | .credentialExpired => "credential_expired"
  | .identityMismatch => "identity_mismatch"
  | .sessionConflict => "session_conflict"
  | .sessionClosed => "session_closed"
  | .leaseExpired => "lease_expired"
  | .heartbeatTimeout => "heartbeat_timeout"
  | .snapshotRequired => "snapshot_required"
  | .generationGap => "generation_gap"
  | .staleGeneration => "stale_generation"
  | .contentHashMismatch => "content_hash_mismatch"
  | .snapshotRejected => "snapshot_rejected"
  | .deltaRejected => "delta_rejected"
  | .notReady => "not_ready"
  | .canceled => "canceled"
  | .staleSession => "stale_session"
  | .unsupportedMessage => "unsupported_message"
  | .drainRejected => "drain_rejected"
  | .drainTimeout => "drain_timeout"
  | .credentialRotationRejected => "credential_rotation_rejected"
  | .credentialRotationNotReady => "credential_rotation_not_ready"
  | .credentialRotationFailed => "credential_rotation_failed"

/-! ## The plan and the records of a target -/

structure RotationTarget where
  (connectorID hostID : String := "")
  (oldCredentialGeneration newCredentialGeneration : UInt64 := 0)
deriving DecidableEq

def RotationTarget.validate (t : RotationTarget) : Option Error :=
  if badIdentifier t.connectorID ∨ badIdentifier t.hostID ∨ t.oldCredentialGeneration = 0
      ∨ t.newCredentialGeneration ≠ t.oldCredentialGeneration + 1 then
    some errInvalidInput
  else none

structure RotationPlan where
  (accountID tunnelID operationID targetSetHash : String := "")
  targets : List RotationTarget := []
deriving DecidableEq

structure CredentialRotationChallenge where
  (accountID tunnelID operationID connectorID hostID sessionID : String := "")
  processGeneration : UInt64 := 0
  targetSetHash : String := ""
  target : RotationTarget := {}
  (oldCredentialGeneration newCredentialGeneration : UInt64 := 0)
  (oldIdentityKeyID oldIdentityKeyThumbprint challengeNonce : String := "")
  (issuedAt expiresAt overlapUntil newCredentialValidUntil : Time := {})
deriving DecidableEq

structure CredentialRotationProof where
  (accountID tunnelID operationID connectorID hostID sessionID : String := "")
  processGeneration : UInt64 := 0
  targetSetHash : String := ""
  (oldCredentialGeneration newCredentialGeneration : UInt64 := 0)
  (oldIdentityKeyID oldIdentityKeyThumbprint newIdentityKeyID newIdentityKeyThumbprint : String := "")
  (newPublicKey newCredentialReference challengeNonce : String := "")
  (issuedAt newCredentialValidUntil : Time := {})
  (oldSignedProof newSignedProof : String := "")
deriving DecidableEq

structure CredentialRotationInstall where
  (accountID tunnelID operationID connectorID hostID sessionID : String := "")
  processGeneration : UInt64 := 0
  targetSetHash : String := ""
  (oldCredentialGeneration newCredentialGeneration : UInt64 := 0)
  (newIdentityKeyID newIdentityKeyThumbprint newPublicKey newCredentialReference : String := "")
  challengeNonce : String := ""
  (overlapUntil newCredentialValidUntil : Time := {})
  replacementProcessGeneration : UInt64 := 0
deriving DecidableEq

structure CredentialRotationReady where
  (accountID tunnelID operationID connectorID hostID sessionID previousSessionID : String := "")
  processGeneration : UInt64 := 0
  targetSetHash : String := ""
  (oldCredentialGeneration newCredentialGeneration : UInt64 := 0)
  (newIdentityKeyID newIdentityKeyThumbprint newPublicKey newCredentialReference : String := "")
  newCredentialValidUntil : Time := {}
  configGeneration : UInt64 := 0
  configContentHash : String := ""
  (edgeReady routeReady originReady : Bool := false)
  readyAt : Time := {}
deriving DecidableEq

structure CredentialRotationRevoke where
  (accountID tunnelID operationID connectorID hostID sessionID : String := "")
  processGeneration : UInt64 := 0
  targetSetHash : String := ""
  (oldCredentialGeneration newCredentialGeneration : UInt64 := 0)
  revokeNonce : String := ""
  (issuedAt deadline : Time := {})
deriving DecidableEq

structure CredentialRotationAck where
  (accountID tunnelID operationID connectorID hostID sessionID : String := "")
  processGeneration : UInt64 := 0
  targetSetHash : String := ""
  (oldCredentialGeneration newCredentialGeneration : UInt64 := 0)
  status : RotationAckStatus := .unset
  code : Code := .unset
  message : String := ""
deriving DecidableEq

/-! ## The encodings below the records -/

/-- What `url.Parse` returns, as far as `ValidateCredentialReference` reads it. -/
structure ParsedURL where
  (scheme host : String := "")
  hasUser : Bool := false
  (opaquePart rawQuery fragment path : String := "")
deriving DecidableEq

/-- The JSON documents of a plan (without its hash) and of a proof transcript, SHA-256, `url.Parse`, and
    `ed25519.Verify` on a public key, a message and a signature. -/
structure RotationCodec where
  planDocument : RotationPlan → List UInt8
  proofTranscript : CredentialRotationProof → Except Error (List UInt8)
  sha256 : List UInt8 → List UInt8
  parseURL : String → Option ParsedURL
  ed25519Verify : List UInt8 → List UInt8 → List UInt8 → Bool

/-- `hex.EncodeToString`. -/
def hexEncode (digest : List UInt8) : String :=
  String.ofList (digest.flatMap (fun b => [Nat.digitChar (b.toNat / 16), Nat.digitChar (b.toNat % 16)]))

variable (codec : RotationCodec)

def rotationPlanHash (plan : RotationPlan) : String :=
  "sha256:" ++ hexEncode (codec.sha256 (codec.planDocument plan))

def validRotationNonce (value : String) : Bool :=
  value.utf8ByteSize ≥ 16 && value.utf8ByteSize ≤ maxNonceBytes && isTrimmed value && !hasLineBreak value

def decodeRotationPublicKey (value : String) : Except Error (List UInt8) :=
  match GoBase64.decode (bytes value) with
  | none => .error errInvalidInput
  | some decoded =>
    if decoded.length ≠ publicKeySize ∨ GoBase64.encode decoded ≠ bytes value then .error errInvalidInput
    else .ok decoded

def credentialSchemes : List String := ["keychain", "credential-manager", "secret-service", "protected-file", "tpm"]

def validateCredentialReference (value : String) : Option Error :=
  if value.utf8ByteSize = 0 ∨ value.utf8ByteSize > maxCredentialRef ∨ ¬ isTrimmed value ∨ hasLineBreak value then
    some errInvalidInput
  else match codec.parseURL value with
    | none => some errInvalidInput
    | some parsed =>
      if parsed.scheme = "" ∨ parsed.host ≠ "paperboat" ∨ parsed.hasUser ∨ parsed.opaquePart ≠ ""
          ∨ parsed.rawQuery ≠ "" ∨ parsed.fragment ≠ "" ∨ parsed.path = "" then
        some errInvalidInput
      else if credentialSchemes.contains parsed.scheme then none
      else some errInvalidInput

def decodeProof (signedProof : String) : Except Error (List UInt8) :=
  if (validateProof signedProof).isSome then .error errAuthenticationFailed
  else match GoBase64.decode (bytes signedProof) with
    | none => .error errAuthenticationFailed
    | some signature =>
      if signature.length = 0 ∨ signature.length > maxProofBytes then .error errAuthenticationFailed
      else .ok signature

/-- The public key is well formed and has the given thumbprint; `mismatch` is the error if it has not. -/
def validatePublicKey (publicKey thumbprint : String) (mismatch : Error) : Option Error :=
  match decodeRotationPublicKey publicKey with
  | .error err => some err
  | .ok key =>
    match identityThumbprint codec.sha256 key with
    | .error _ => some mismatch
    | .ok digest => if digest ≠ bytes thumbprint then some mismatch else none

/-! ## Validation -/

/-- The loop of `validateRotationPlanFields` over the targets; `previous` is the last connector, `seen` all
    of them. -/
def scanTargets (previous : Option String) (seen : List String) : List RotationTarget → Option Error
  | [] => none
  | target :: targets =>
    match target.validate with
    | some err => some err
    | none =>
      if previous.any (fun id => ¬ id < target.connectorID) then some errInvalidInput
      else if seen.contains target.connectorID then some errInvalidInput
      else scanTargets (some target.connectorID) (target.connectorID :: seen) targets

/-- `validateRotationPlanFields`. -/
def RotationPlan.validateFields (p : RotationPlan) : Option Error :=
  if badIdentifier p.accountID ∨ badIdentifier p.tunnelID ∨ badIdentifier p.operationID
      ∨ (¬ hashPattern p.targetSetHash ∧ p.targetSetHash ≠ "") ∨ p.targets.length = 0
      ∨ p.targets.length > maxRotationTargets then
    some errInvalidInput
  else scanTargets none [] p.targets

def RotationPlan.validate (p : RotationPlan) : Option Error :=
  match p.validateFields with
  | some err => some err
  | none =>
    if p.targetSetHash ≠ rotationPlanHash codec p then
      some (codeError .contentHashMismatch .snapshotRejected false (some (.text "rotation target set hash mismatch")))
    else none

def RotationPlan.target (p : RotationPlan) (connectorID : String) : Option RotationTarget :=
  p.targets.find? (fun target => target.connectorID == connectorID)

def CredentialRotationChallenge.validate (c : CredentialRotationChallenge) (now : Time) : Option Error :=
  if badIdentifier c.accountID ∨ badIdentifier c.tunnelID ∨ badIdentifier c.operationID
      ∨ badIdentifier c.connectorID ∨ badIdentifier c.hostID ∨ badIdentifier c.sessionID
      ∨ c.processGeneration = 0 ∨ ¬ hashPattern c.targetSetHash ∨ c.oldCredentialGeneration = 0
      ∨ c.newCredentialGeneration ≠ c.oldCredentialGeneration + 1
      ∨ (validateIdentityKey c.oldIdentityKeyID c.oldIdentityKeyThumbprint).isSome
      ∨ ¬ validRotationNonce c.challengeNonce ∨ c.issuedAt.isZero ∨ c.expiresAt.isZero
      ∨ c.overlapUntil.isZero ∨ c.newCredentialValidUntil.isZero ∨ ¬ c.expiresAt.after c.issuedAt
      ∨ ¬ c.overlapUntil.after c.expiresAt ∨ ¬ c.newCredentialValidUntil.after c.overlapUntil
      ∨ c.expiresAt.sub c.issuedAt > 15 * Duration.minute ∨ c.overlapUntil.sub c.issuedAt > maxLease
      ∨ c.newCredentialValidUntil.sub c.issuedAt > maxRotationCredentialLifetime then
    some errInvalidInput
  else if c.target.validate.isSome ∨ c.target.connectorID ≠ c.connectorID ∨ c.target.hostID ≠ c.hostID
      ∨ c.target.oldCredentialGeneration ≠ c.oldCredentialGeneration
      ∨ c.target.newCredentialGeneration ≠ c.newCredentialGeneration then
    some (codeError .identityMismatch .authentication false (some (.text "rotation challenge target mismatch")))
  else if ¬ now.isZero ∧ (c.issuedAt.after (now.add maxClockSkew) ∨ now.sub c.issuedAt > maxClockSkew
      ∨ ¬ c.expiresAt.after now ∨ ¬ c.overlapUntil.after now) then
    some (codeError .credentialExpired .credentialExpired true)
  else none

/-- The unexported `CredentialRotationProof.validate`, which looks at the unsigned part. -/
def CredentialRotationProof.check (p : CredentialRotationProof) : Option Error :=
  if badIdentifier p.accountID ∨ badIdentifier p.tunnelID ∨ badIdentifier p.operationID
      ∨ badIdentifier p.connectorID ∨ badIdentifier p.hostID ∨ badIdentifier p.sessionID
      ∨ p.processGeneration = 0 ∨ ¬ hashPattern p.targetSetHash ∨ p.oldCredentialGeneration = 0
      ∨ p.newCredentialGeneration ≠ p.oldCredentialGeneration + 1
      ∨ (validateIdentityKey p.oldIdentityKeyID p.oldIdentityKeyThumbprint).isSome
      ∨ (validateIdentityKey p.newIdentityKeyID p.newIdentityKeyThumbprint).isSome
      ∨ p.oldIdentityKeyID = p.newIdentityKeyID ∨ ¬ validRotationNonce p.challengeNonce
      ∨ p.issuedAt.isZero ∨ p.newCredentialValidUntil.isZero
      ∨ (validateCredentialReference codec p.newCredentialReference).isSome
      ∨ ¬ p.newCredentialValidUntil.after p.issuedAt
      ∨ p.newCredentialValidUntil.sub p.issuedAt > maxRotationCredentialLifetime then
    some errInvalidInput
  else validatePublicKey codec p.newPublicKey p.newIdentityKeyThumbprint
    (codeError .identityMismatch .authentication false (some (.text "new rotation key thumbprint mismatch")))

def CredentialRotationProof.validate (p : CredentialRotationProof) (now : Time) : Option Error :=
  match p.check codec with
  | some err => some err
  | none =>
    if (validateProof p.oldSignedProof).isSome ∨ (validateProof p.newSignedProof).isSome then
      some errInvalidInput
    else if ¬ now.isZero ∧ (p.issuedAt.after (now.add maxClockSkew) ∨ now.sub p.issuedAt > maxClockSkew) then
      some (codeError .authenticationFailed .authentication false
        (some (.text "rotation proof is outside clock skew")))
    else none

def CredentialRotationInstall.validate (i : CredentialRotationInstall) (now : Time) : Option Error :=
  if badIdentifier i.accountID ∨ badIdentifier i.tunnelID ∨ badIdentifier i.operationID
      ∨ badIdentifier i.connectorID ∨ badIdentifier i.hostID ∨ badIdentifier i.sessionID
      ∨ i.processGeneration = 0 ∨ i.replacementProcessGeneration ≤ i.processGeneration
      ∨ ¬ hashPattern i.targetSetHash ∨ i.oldCredentialGeneration = 0
      ∨ i.newCredentialGeneration ≠ i.oldCredentialGeneration + 1
      ∨ (validateIdentityKey i.newIdentityKeyID i.newIdentityKeyThumbprint).isSome
      ∨ (validateCredentialReference codec i.newCredentialReference).isSome
      ∨ ¬ validRotationNonce i.challengeNonce ∨ i.overlapUntil.isZero ∨ i.newCredentialValidUntil.isZero
      ∨ ¬ i.newCredentialValidUntil.after i.overlapUntil
      ∨ i.newCredentialValidUntil.sub i.overlapUntil > maxRotationCredentialLifetime then
    some errInvalidInput
  else match validatePublicKey codec i.newPublicKey i.newIdentityKeyThumbprint errIdentityMismatch with
    | some err => some err
    | none =>
      if ¬ now.isZero ∧ ¬ i.overlapUntil.after now then
        some (codeError .credentialExpired .credentialExpired true)
      else none

def CredentialRotationReady.validate (r : CredentialRotationReady) (now : Time) : Option Error :=
  if badIdentifier r.accountID ∨ badIdentifier r.tunnelID ∨ badIdentifier r.operationID
      ∨ badIdentifier r.connectorID ∨ badIdentifier r.hostID ∨ badIdentifier r.sessionID
      ∨ badIdentifier r.previousSessionID ∨ r.processGeneration = 0 ∨ ¬ hashPattern r.targetSetHash
      ∨ r.oldCredentialGeneration = 0 ∨ r.newCredentialGeneration ≠ r.oldCredentialGeneration + 1
      ∨ (validateIdentityKey r.newIdentityKeyID r.newIdentityKeyThumbprint).isSome
      ∨ (validateCredentialReference codec r.newCredentialReference).isSome
      ∨ r.newCredentialValidUntil.isZero ∨ r.configGeneration = 0 ∨ ¬ hashPattern r.configContentHash
      ∨ r.readyAt.isZero then
    some errInvalidInput
  else match validatePublicKey codec r.newPublicKey r.newIdentityKeyThumbprint errIdentityMismatch with
    | some err => some err
    | none =>
      if ¬ r.edgeReady ∨ ¬ r.routeReady ∨ ¬ r.originReady then
        some (codeError .credentialRotationNotReady .snapshotRejected true)
      else if ¬ now.isZero ∧ (¬ r.newCredentialValidUntil.after now
          ∨ r.readyAt.before (now.add (-maxClockSkew)) ∨ r.readyAt.after (now.add maxClockSkew)) then
        if ¬ r.newCredentialValidUntil.after now then
          some (codeError .credentialExpired .credentialExpired true)
        else some errInvalidInput
      else none

def CredentialRotationRevoke.validate (r : CredentialRotationRevoke) (now : Time) : Option Error :=
  if badIdentifier r.accountID ∨ badIdentifier r.tunnelID ∨ badIdentifier r.operationID
      ∨ badIdentifier r.connectorID ∨ badIdentifier r.hostID ∨ badIdentifier r.sessionID
      ∨ r.processGeneration = 0 ∨ ¬ hashPattern r.targetSetHash ∨ r.oldCredentialGeneration = 0
      ∨ r.newCredentialGeneration ≠ r.oldCredentialGeneration + 1 ∨ ¬ validRotationNonce r.revokeNonce
      ∨ r.issuedAt.isZero ∨ r.deadline.isZero ∨ ¬ r.deadline.after r.issuedAt
      ∨ r.deadline.sub r.issuedAt > defaultAbortTimeout * 2 then
    some errInvalidInput
  else if ¬ now.isZero ∧ (r.issuedAt.after (now.add maxClockSkew) ∨ ¬ r.deadline.after now) then
    some (codeError .credentialExpired .credentialExpired true)
  else none

def CredentialRotationAck.validate (a : CredentialRotationAck) : Option Error :=
  if badIdentifier a.accountID ∨ badIdentifier a.tunnelID ∨ badIdentifier a.operationID
      ∨ badIdentifier a.connectorID ∨ badIdentifier a.hostID ∨ badIdentifier a.sessionID
      ∨ a.processGeneration = 0 ∨ ¬ hashPattern a.targetSetHash ∨ a.oldCredentialGeneration = 0
      ∨ a.newCredentialGeneration ≠ a.oldCredentialGeneration + 1
      ∨ a.message.utf8ByteSize > maxRotationMessage then
    some errInvalidInput
  else match a.status with
    | .proofAccepted | .installed | .ready | .revoked =>
      if a.code ≠ .unset then some errInvalidInput else none
    | .rejected | .failed => if a.code = .unset ∨ ¬ validCode a.code then some errInvalidInput else none
    | .unset => some errInvalidInput

end PaperboatTunnel.ConnectorProtocol
