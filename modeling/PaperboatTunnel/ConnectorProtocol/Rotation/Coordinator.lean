import PaperboatTunnel.ConnectorProtocol.Rotation.Messages
import PaperboatTunnel.ConnectorProtocol.ServerSession

/-!
# `Coordinator` — one credential rotation over many targets

`RotationCoordinator` of `internal/connectorprotocol/rotation.go`. Each call holds the lock for its whole body, the
persistence call included. What the environment decides is an argument: the context, the reading of the clock, the
answers of the store, of the old-key verifier and of the random source.

The map from connector to target state is the list of records in plan order; `planned` says that it has exactly the
targets of the plan.
-/

namespace PaperboatTunnel.ConnectorProtocol

open GoTime

/-- The source's `rotationTargetState`. -/
structure RotationTargetRecord where
  target : RotationTarget
  state : RotationTargetState := .pending
  code : Code := .unset
  challenge : CredentialRotationChallenge := {}
  proof : CredentialRotationProof := {}
  install : CredentialRotationInstall := {}
  ready : CredentialRotationReady := {}
  revoke : CredentialRotationRevoke := {}
deriving DecidableEq

structure RotationTargetSummary where
  target : RotationTarget := {}
  state : RotationTargetState := .unset
  code : Code := .unset
deriving DecidableEq

structure RotationSummary where
  (accountID tunnelID operationID targetSetHash : String := "")
  status : RotationAggregateStatus := .unset
  targets : List RotationTargetSummary := []
  completedAt : Time := {}
deriving DecidableEq

@[ext]
structure RotationCoordinator where
  plan : RotationPlan
  started : Bool := false
  finished : Time := {}
  targets : List RotationTargetRecord
  planned : targets.map RotationTargetRecord.target = plan.targets
deriving DecidableEq

/-- `NewRotationCoordinator`, with a store and a verifier. -/
def newRotationCoordinator (codec : RotationCodec) (plan : RotationPlan) : Except Error RotationCoordinator :=
  if (plan.validate codec).isSome then .error errInvalidInput
  else .ok { plan, targets := plan.targets.map (fun target => { target }), planned := by simp [Function.comp_def] }

namespace RotationCoordinator

variable (codec : RotationCodec) (c : RotationCoordinator) (ctx : Option Context) (connectorID : String)

def find : Option RotationTargetRecord := c.targets.find? (fun r => r.target.connectorID == connectorID)

def update (f : RotationTargetRecord → RotationTargetRecord) (hf : ∀ r, (f r).target = r.target) :
    RotationCoordinator :=
  { c with
    targets := c.targets.map (fun r => if r.target.connectorID = connectorID then f r else r)
    planned := by
      rw [← c.planned, List.map_map]
      refine List.map_congr_left (fun r _ => ?_)
      by_cases h : r.target.connectorID = connectorID <;> simp [h, hf] }

/-! ## Summaries -/

def anyFailed : Bool := c.targets.any (fun r => r.state == .failed)

def allRevoked : Bool := c.targets.all (fun r => r.state == .revoked)

/-- `allReadyLocked`. -/
def allReady : Bool := c.targets.all (fun r => r.state == .ready || r.state == .revoking || r.state == .revoked)

/-- `summaryLocked`, which is also `Summary`. -/
def summary : RotationSummary :=
  { accountID := c.plan.accountID, tunnelID := c.plan.tunnelID, operationID := c.plan.operationID,
    targetSetHash := c.plan.targetSetHash,
    status := if c.anyFailed then .failed else if c.allRevoked then .succeeded else .pending,
    targets := c.targets.map (fun r => { target := r.target, state := r.state, code := r.code }),
    completedAt := if c.anyFailed then {} else if c.allRevoked then c.finished else {} }

/-- The error of a persistence call that failed. -/
def persistError (err : Error) : Error := codeError .credentialRotationFailed .credentialRotation false (some err)

def failTarget (code : Code) : RotationCoordinator :=
  c.update connectorID (fun r => { r with state := .failed, code }) (fun _ => rfl)

def start (begun : Option Error) : RotationCoordinator × Option Error :=
  match doneContext ctx with
  | some err => (c, some err)
  | none =>
    if c.started then (c, none)
    else match begun with
      | some err => (c, some (persistError err))
      | none => ({ c with started := true }, none)

/-! ## `Challenge` -/

/-- The arguments of `ChallengeWithCredentialExpiry`. -/
structure ChallengeRequest where
  (connectorID sessionID : String := "")
  processGeneration : UInt64 := 0
  (oldIdentityKeyID oldIdentityKeyThumbprint nonce : String := "")
  (issuedAt expiresAt overlapUntil credentialValidUntil : Time := {})
deriving DecidableEq

def newChallenge (target : RotationTarget) (request : ChallengeRequest) : CredentialRotationChallenge :=
  { accountID := c.plan.accountID, tunnelID := c.plan.tunnelID, operationID := c.plan.operationID,
    connectorID := request.connectorID, hostID := target.hostID, sessionID := request.sessionID,
    processGeneration := request.processGeneration, targetSetHash := c.plan.targetSetHash, target,
    oldCredentialGeneration := target.oldCredentialGeneration,
    newCredentialGeneration := target.newCredentialGeneration,
    oldIdentityKeyID := request.oldIdentityKeyID,
    oldIdentityKeyThumbprint := request.oldIdentityKeyThumbprint, challengeNonce := request.nonce,
    issuedAt := request.issuedAt, expiresAt := request.expiresAt, overlapUntil := request.overlapUntil,
    newCredentialValidUntil := request.credentialValidUntil }

/-- A target that is not pending is challenged again only after its challenge has expired. -/
def challengeConflict (r : RotationTargetRecord) (now : Time) : Bool := r.state != .pending &&
    (r.state != .challenged || r.challenge.expiresAt.isZero || r.challenge.expiresAt.after now)

/-- `ChallengeWithCredentialExpiry`. A store that cannot authorize sessions authorizes all of them. -/
def challengeWithCredentialExpiry (request : ChallengeRequest) (clock : Time) (authorize record : Option Error) :
    RotationCoordinator × Except Error CredentialRotationChallenge :=
  match doneContext ctx with
  | some err => (c, .error err)
  | none =>
    if ¬ c.started then (c, .error errInvalidInput)
    else match c.find request.connectorID with
      | none => (c, .error (codeError .identityMismatch .authentication))
      | some r =>
        if challengeConflict r clock.utc then
          (c, .error (codeError .sessionConflict .staleGeneration true))
        else
          let challenge := c.newChallenge r.target request
          match challenge.validate clock.utc with
          | some err => (c, .error err)
          | none =>
            match authorize with
            | some err => (c, .error err)
            | none =>
              match record with
              | some err => (c, .error (persistError err))
              | none =>
                (c.update request.connectorID (fun r => { r with challenge, state := .challenged }) (fun _ => rfl),
                 .ok challenge)

/-- `Challenge`: the new credential is valid for a year after the overlap. -/
def challenge (request : ChallengeRequest) (clock : Time)
    (authorize record : Option Error) : RotationCoordinator × Except Error CredentialRotationChallenge :=
  c.challengeWithCredentialExpiry ctx
    { request with credentialValidUntil := request.overlapUntil.add (365 * 24 * Duration.hour) }
    clock authorize record

/-! ## `AcceptProof` -/

variable (proof : CredentialRotationProof)

def rotationProofMatchesChallenge (challenge : CredentialRotationChallenge) (target : RotationTarget) : Prop :=
  proof.accountID = challenge.accountID ∧ proof.tunnelID = challenge.tunnelID
    ∧ proof.operationID = challenge.operationID ∧ proof.connectorID = challenge.connectorID
    ∧ proof.hostID = challenge.hostID ∧ proof.sessionID = challenge.sessionID
    ∧ proof.processGeneration = challenge.processGeneration ∧ proof.targetSetHash = challenge.targetSetHash
    ∧ proof.oldCredentialGeneration = target.oldCredentialGeneration
    ∧ proof.newCredentialGeneration = target.newCredentialGeneration
    ∧ proof.oldIdentityKeyID = challenge.oldIdentityKeyID
    ∧ proof.oldIdentityKeyThumbprint = challenge.oldIdentityKeyThumbprint
    ∧ proof.challengeNonce = challenge.challengeNonce
    ∧ proof.newCredentialValidUntil = challenge.newCredentialValidUntil
    ∧ ¬ proof.issuedAt.before challenge.issuedAt ∧ ¬ proof.issuedAt.after challenge.expiresAt

instance (challenge : CredentialRotationChallenge)
    (target : RotationTarget) : Decidable (rotationProofMatchesChallenge proof challenge target) := by
  unfold rotationProofMatchesChallenge; infer_instance

def credentialRotationProofPayload : Except Error (List UInt8) :=
  match proof.check codec with
  | some err => .error err
  | none => codec.proofTranscript proof

/-- `VerifyCredentialRotationProofAt`; `verifyOld` is the answer of the old-key verifier. -/
def verifyCredentialRotationProofAt (verifyOld : Option Error) (now : Time) : Option Error :=
  match proof.validate codec now with
  | some err => some err
  | none =>
    match credentialRotationProofPayload codec proof, decodeProof proof.oldSignedProof with
    | .error err, _ => some err
    | .ok _, .error err => some err
    | .ok payload, .ok _ =>
      match verifyOld with
      | some err => some (codeError .authenticationFailed .authentication false (some err))
      | none =>
        let failed := codeError .authenticationFailed .authentication false
          (some (.text "new rotation key proof failed"))
        match decodeProof proof.newSignedProof, decodeRotationPublicKey proof.newPublicKey with
        | .error err, _ => some err
        | .ok _, .error _ => some failed
        | .ok signature, .ok key =>
          if codec.ed25519Verify key payload signature then none else some failed

def newInstall (challenge : CredentialRotationChallenge)
    (proof : CredentialRotationProof) : CredentialRotationInstall :=
  { accountID := c.plan.accountID, tunnelID := c.plan.tunnelID, operationID := c.plan.operationID,
    connectorID := proof.connectorID, hostID := proof.hostID, sessionID := proof.sessionID,
    processGeneration := proof.processGeneration, targetSetHash := c.plan.targetSetHash,
    oldCredentialGeneration := proof.oldCredentialGeneration,
    newCredentialGeneration := proof.newCredentialGeneration, newIdentityKeyID := proof.newIdentityKeyID,
    newIdentityKeyThumbprint := proof.newIdentityKeyThumbprint, newPublicKey := proof.newPublicKey,
    newCredentialReference := proof.newCredentialReference, challengeNonce := proof.challengeNonce,
    overlapUntil := challenge.overlapUntil, newCredentialValidUntil := proof.newCredentialValidUntil,
    replacementProcessGeneration := proof.processGeneration + 1 }

def rotationAckForInstall (install : CredentialRotationInstall) : CredentialRotationAck :=
  { accountID := install.accountID, tunnelID := install.tunnelID, operationID := install.operationID,
    connectorID := install.connectorID, hostID := install.hostID, sessionID := install.sessionID,
    processGeneration := install.processGeneration, targetSetHash := install.targetSetHash,
    oldCredentialGeneration := install.oldCredentialGeneration,
    newCredentialGeneration := install.newCredentialGeneration, status := .installed }

def acceptProof (clock : Time) (verifyOld record : Option Error) :
    RotationCoordinator × Except Error (CredentialRotationInstall × CredentialRotationAck) :=
  let stale := codeError .staleGeneration .staleGeneration
  match doneContext ctx with
  | some err => (c, .error err)
  | none =>
    match proof.validate codec clock.utc with
    | some err => (c, .error err)
    | none =>
      match c.find proof.connectorID with
      | none => (c, .error stale)
      | some r =>
        if r.state ≠ .challenged then (c, .error stale)
        else if ¬ rotationProofMatchesChallenge proof r.challenge r.target then
          (c, .error (codeError .identityMismatch .authentication))
        else match verifyCredentialRotationProofAt codec proof verifyOld clock.utc with
          | some err => (c, .error err)
          | none =>
            let install := c.newInstall r.challenge proof
            match install.validate codec clock.utc with
            | some err => (c, .error err)
            | none =>
              match record with
              | some err =>
                (c.failTarget proof.connectorID .credentialRotationFailed, .error (persistError err))
              | none =>
                (c.update proof.connectorID (fun r => { r with proof, install, state := .installed }) (fun _ => rfl),
                 .ok (install, rotationAckForInstall install))

/-! ## `MarkReady` -/

variable (plan : RotationPlan) (ready : CredentialRotationReady)

def rotationReadyAck (status : RotationAckStatus) (code : Code) : CredentialRotationAck :=
  { accountID := ready.accountID, tunnelID := ready.tunnelID, operationID := ready.operationID,
    connectorID := ready.connectorID, hostID := ready.hostID, sessionID := ready.sessionID,
    processGeneration := ready.processGeneration, targetSetHash := ready.targetSetHash,
    oldCredentialGeneration := ready.oldCredentialGeneration,
    newCredentialGeneration := ready.newCredentialGeneration, status, code }

def rotationRejectedAck (code : Code) : CredentialRotationAck := rotationReadyAck ready .rejected code

/-- The readiness message belongs to the installed replacement, from a new session. -/
def readyMatchesInstall (install : CredentialRotationInstall) : Prop :=
  ready.accountID = plan.accountID ∧ ready.tunnelID = plan.tunnelID
    ∧ ready.operationID = plan.operationID ∧ ready.connectorID = install.connectorID
    ∧ ready.hostID = install.hostID ∧ ready.targetSetHash = plan.targetSetHash
    ∧ ready.sessionID ≠ install.sessionID ∧ ready.previousSessionID = install.sessionID
    ∧ ¬ ready.processGeneration < install.replacementProcessGeneration
    ∧ ready.oldCredentialGeneration = install.oldCredentialGeneration
    ∧ ready.newCredentialGeneration = install.newCredentialGeneration
    ∧ ready.newIdentityKeyID = install.newIdentityKeyID
    ∧ ready.newIdentityKeyThumbprint = install.newIdentityKeyThumbprint
    ∧ ready.newPublicKey = install.newPublicKey
    ∧ ready.newCredentialReference = install.newCredentialReference
    ∧ ready.newCredentialValidUntil = install.newCredentialValidUntil

instance (install : CredentialRotationInstall) : Decidable (readyMatchesInstall plan ready install) := by
  unfold readyMatchesInstall; infer_instance

def markReady (clock : Time) (record : Option Error) : RotationCoordinator × CredentialRotationAck × Option Error :=
  let stale := codeError .staleGeneration .staleGeneration
  match doneContext ctx with
  | some err => (c, {}, some err)
  | none =>
    match ready.validate codec clock.utc with
    | some err => (c, rotationRejectedAck ready .credentialRotationNotReady, some err)
    | none =>
      match c.find ready.connectorID with
      | none => (c, {}, some stale)
      | some r =>
        if r.state ≠ .installed then (c, {}, some stale)
        else if ¬ readyMatchesInstall c.plan ready r.install then
          (c, {}, some (codeError .identityMismatch .authentication))
        else match record with
          | some err => (c.failTarget ready.connectorID .credentialRotationFailed, {}, some (persistError err))
          | none =>
            (c.update ready.connectorID (fun r => { r with ready, state := .ready }) (fun _ => rfl),
             rotationReadyAck ready .ready .unset, none)

variable (r : RotationTargetRecord) (ack : CredentialRotationAck) (clock : Time) (record : Option Error)

def newRevoke (revokeNonce : String) (now : Time) : CredentialRotationRevoke :=
  { accountID := c.plan.accountID, tunnelID := c.plan.tunnelID, operationID := c.plan.operationID,
    connectorID, hostID := r.target.hostID, sessionID := r.ready.sessionID,
    processGeneration := r.ready.processGeneration, targetSetHash := c.plan.targetSetHash,
    oldCredentialGeneration := r.target.oldCredentialGeneration,
    newCredentialGeneration := r.target.newCredentialGeneration, revokeNonce, issuedAt := now,
    deadline := now.add defaultAbortTimeout }

/-- `Revoke`; `nonce` is what `newOpaqueID` returns. -/
def revoke (clock : Time) (nonce : Except Error String) (record : Option Error) :
    RotationCoordinator × Except Error CredentialRotationRevoke :=
  match doneContext ctx with
  | some err => (c, .error err)
  | none =>
    match c.find connectorID with
    | none => (c, .error (codeError .identityMismatch .authentication))
    | some r =>
      if c.summary.status = .failed then
        (c, .error (codeError .credentialRotationFailed .credentialRotation))
      else if ¬ c.allReady then
        (c, .error (codeError .credentialRotationNotReady .snapshotRejected true))
      else if r.state = .revoking then (c, .ok r.revoke)
      else if r.state ≠ .ready then
        (c, .error (codeError .staleGeneration .staleGeneration))
      else match nonce with
        | .error err => (c, .error err)
        | .ok revokeNonce =>
          let revoke := c.newRevoke connectorID r revokeNonce clock.utc
          match revoke.validate clock.utc with
          | some err => (c, .error err)
          | none =>
            match record with
            | some err => (c.failTarget connectorID .credentialRotationFailed, .error (persistError err))
            | none =>
              (c.update connectorID (fun r => { r with revoke, state := .revoking }) (fun _ => rfl), .ok revoke)

/-! ## `HandleAck` and `Fail` -/

/-- The acknowledgement names another rotation or another target than its entry. -/
def ackMismatch (target : RotationTarget) : Prop :=
  ack.accountID ≠ plan.accountID ∨ ack.tunnelID ≠ plan.tunnelID ∨ ack.operationID ≠ plan.operationID
    ∨ ack.targetSetHash ≠ plan.targetSetHash ∨ ack.hostID ≠ target.hostID
    ∨ ack.oldCredentialGeneration ≠ target.oldCredentialGeneration
    ∨ ack.newCredentialGeneration ≠ target.newCredentialGeneration

instance (target : RotationTarget) : Decidable (ackMismatch plan ack target) := by
  unfold ackMismatch; infer_instance

/-- The session and process generation a negative acknowledgement must come from. -/
def negativeAckSession : Option (String × UInt64) :=
  match r.state with
  | .challenged | .installed => some (r.challenge.sessionID, r.challenge.processGeneration)
  | .ready => some (r.ready.sessionID, r.ready.processGeneration)
  | .revoking => some (r.revoke.sessionID, r.revoke.processGeneration)
  | _ => none

def rotationNegativeAckMatches : Bool :=
  match negativeAckSession r with
  | none => false
  | some (sessionID, processGeneration) =>
    sessionID != "" && processGeneration > 0 && ack.sessionID == sessionID
      && ack.processGeneration == processGeneration

/-- A target that a peer or the operator gives up. If the result cannot be stored the target goes back to
    the state and code it had; `lost` is the error then. -/
def giveUp (code : Code) (record : Option Error)
    (lost : Error → Error) : RotationCoordinator × RotationSummary × Option Error :=
  let failed := c.failTarget connectorID code
  match record with
  | some err => (c, c.summary, some (lost err))
  | none => (failed, failed.summary, some (persistError (.text code.text)))

/-- The acknowledgement of a revocation: the last one finishes the rotation. -/
def markRevoked : RotationCoordinator × RotationSummary × Option Error :=
  let revoked := c.update connectorID (fun r => { r with state := .revoked }) (fun _ => rfl)
  let succeeded := revoked.summary.status = .succeeded
  let finished := if succeeded then { revoked with finished := clock.utc } else revoked
  match record with
  | some err =>
    let failed := finished.failTarget connectorID .credentialRotationFailed
    (failed, failed.summary, some (persistError err))
  | none =>
    (finished,
     if succeeded then { revoked.summary with completedAt := clock.utc } else revoked.summary, none)

/-- `HandleAck`, after the target of the acknowledgement is found. -/
def handleAckLocked : RotationCoordinator × RotationSummary × Option Error :=
  let stale := codeError .staleGeneration .staleGeneration
  if r.state = .revoked ∨ r.state = .failed then (c, c.summary, some stale)
  else if ack.status = .rejected ∨ ack.status = .failed then
    if ¬ rotationNegativeAckMatches r ack then
      (c, {}, some (codeError .identityMismatch .authentication))
    else c.giveUp ack.connectorID ack.code record
      (fun err => persistError (.joined (.coded .credentialRotationFailed .unset false) err))
  else if ack.status = .installed then
    if r.state ≠ .installed ∨ ack.sessionID ≠ r.install.sessionID
        ∨ ack.processGeneration ≠ r.install.processGeneration then (c, {}, some stale)
    else (c, c.summary, none)
  else if ack.status = .ready then
    if r.state ≠ .ready ∨ ack.sessionID ≠ r.ready.sessionID
        ∨ ack.processGeneration ≠ r.ready.processGeneration then (c, {}, some stale)
    else (c, c.summary, none)
  else if ack.status ≠ .revoked ∨ r.state ≠ .revoking ∨ ack.sessionID ≠ r.revoke.sessionID
      ∨ ack.processGeneration ≠ r.revoke.processGeneration then (c, {}, some stale)
  else c.markRevoked ack.connectorID clock record

def handleAck : RotationCoordinator × RotationSummary × Option Error :=
  let mismatch := codeError .identityMismatch .authentication
  match nilContext ctx with
  | some err => (c, {}, some err)
  | none =>
    match ack.validate with
    | some err => (c, {}, some err)
    | none =>
      match doneContext ctx with
      | some err => (c, {}, some err)
      | none =>
        match c.find ack.connectorID with
        | none => (c, {}, some mismatch)
        | some r =>
          if ackMismatch c.plan ack r.target then (c, {}, some mismatch)
          else c.handleAckLocked r ack clock record

/-- `Fail`. The acknowledgement it stores (`failureAckLocked`) is seen by the store only. -/
def fail (code : Code) (record : Option Error) : RotationCoordinator × RotationSummary × Option Error :=
  if ctx.isNone ∨ ¬ validCode code ∨ code = .unset then (c, {}, some errInvalidInput)
  else match c.find connectorID with
    | none => (c, {}, some (codeError .identityMismatch .authentication))
    | some r =>
      if r.state = .revoked then
        (c, c.summary, some (codeError .staleGeneration .staleGeneration))
      else if r.state = .failed then (c, c.summary, some (persistError (.text r.code.text)))
      else c.giveUp connectorID code record persistError

end RotationCoordinator

end PaperboatTunnel.ConnectorProtocol
