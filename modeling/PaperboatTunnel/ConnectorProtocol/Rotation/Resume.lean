import PaperboatTunnel.ConnectorProtocol.Rotation.Coordinator

/-!
# `Resume` — a coordinator from the records of the store

`RotationCoordinator.Resume` and `validateRotationResumeTarget` of
`internal/connectorprotocol/rotation.go`, and `durable`, the answer of a store that holds exactly what a
coordinator holds.
-/

namespace PaperboatTunnel.ConnectorProtocol

open GoTime

structure RotationResumeTarget where
  target : RotationTarget := {}
  state : RotationTargetState := .unset
  code : Code := .unset
  (overlapUntil newCredentialValidUntil : Time := {})
  challenge : CredentialRotationChallenge := {}
  proof : CredentialRotationProof := {}
  install : CredentialRotationInstall := {}
  ready : CredentialRotationReady := {}
  revoke : CredentialRotationRevoke := {}
deriving DecidableEq

structure RotationResume where
  plan : RotationPlan := {}
  started : Bool := false
  finishedAt : Time := {}
  targets : List RotationResumeTarget := []
deriving DecidableEq

namespace RotationResumeTarget

variable (codec : RotationCodec) (plan : RotationPlan) (r : RotationResumeTarget)

/-! ## The checks on one recovered target -/

def challengePresent : Prop := r.challenge.sessionID ≠ ""
def installPresent : Prop := r.install.sessionID ≠ ""
def readyPresent : Prop := r.ready.sessionID ≠ ""
def revokePresent : Prop := r.revoke.sessionID ≠ ""

instance : Decidable r.challengePresent := by
  unfold challengePresent; infer_instance
instance : Decidable r.installPresent := by
  unfold installPresent; infer_instance
instance : Decidable r.readyPresent := by
  unfold readyPresent; infer_instance
instance : Decidable r.revokePresent := by
  unfold revokePresent; infer_instance

/-- The challenge is valid and was made for this target of the plan. -/
def challengeBound : Prop :=
  r.challenge.validate {} = none ∧ r.challenge.accountID = plan.accountID
    ∧ r.challenge.tunnelID = plan.tunnelID ∧ r.challenge.operationID = plan.operationID
    ∧ r.challenge.targetSetHash = plan.targetSetHash ∧ r.challenge.target = r.target
    ∧ r.challenge.connectorID = r.target.connectorID ∧ r.challenge.hostID = r.target.hostID

/-- The install record is valid and answers the challenge. -/
def installBound : Prop :=
  r.install.validate codec {} = none ∧ r.install.accountID = plan.accountID
    ∧ r.install.tunnelID = plan.tunnelID ∧ r.install.operationID = plan.operationID
    ∧ r.install.targetSetHash = plan.targetSetHash ∧ r.install.connectorID = r.target.connectorID
    ∧ r.install.hostID = r.target.hostID ∧ r.install.sessionID = r.challenge.sessionID
    ∧ r.install.processGeneration = r.challenge.processGeneration
    ∧ r.install.oldCredentialGeneration = r.target.oldCredentialGeneration
    ∧ r.install.newCredentialGeneration = r.target.newCredentialGeneration
    ∧ r.install.challengeNonce = r.challenge.challengeNonce

/-- The readiness record is valid and comes from the replacement of the installed credential. -/
def readyBound : Prop :=
  r.ready.validate codec {} = none ∧ r.ready.accountID = plan.accountID
    ∧ r.ready.tunnelID = plan.tunnelID ∧ r.ready.operationID = plan.operationID
    ∧ r.ready.targetSetHash = plan.targetSetHash ∧ r.ready.connectorID = r.target.connectorID
    ∧ r.ready.hostID = r.target.hostID ∧ r.ready.previousSessionID = r.install.sessionID
    ∧ r.ready.sessionID ≠ r.install.sessionID
    ∧ ¬ r.ready.processGeneration < r.install.replacementProcessGeneration
    ∧ r.ready.oldCredentialGeneration = r.target.oldCredentialGeneration
    ∧ r.ready.newCredentialGeneration = r.target.newCredentialGeneration
    ∧ r.ready.newIdentityKeyID = r.install.newIdentityKeyID
    ∧ r.ready.newIdentityKeyThumbprint = r.install.newIdentityKeyThumbprint
    ∧ r.ready.newPublicKey = r.install.newPublicKey
    ∧ r.ready.newCredentialReference = r.install.newCredentialReference
    ∧ r.ready.newCredentialValidUntil.equal r.install.newCredentialValidUntil

/-- The revocation is valid and goes to the ready session, or to a later one it was bound to again. -/
def revokeBound : Prop :=
  r.revoke.validate {} = none ∧ r.revoke.accountID = plan.accountID ∧ r.revoke.tunnelID = plan.tunnelID
    ∧ r.revoke.operationID = plan.operationID ∧ r.revoke.targetSetHash = plan.targetSetHash
    ∧ r.revoke.connectorID = r.target.connectorID ∧ r.revoke.hostID = r.target.hostID
    ∧ ((r.revoke.processGeneration = r.ready.processGeneration ∧ r.revoke.sessionID = r.ready.sessionID)
      ∨ (r.revoke.processGeneration > r.ready.processGeneration ∧ r.revoke.sessionID ≠ r.ready.sessionID))
    ∧ r.revoke.oldCredentialGeneration = r.target.oldCredentialGeneration
    ∧ r.revoke.newCredentialGeneration = r.target.newCredentialGeneration

instance : Decidable (r.challengeBound plan) := by
  unfold challengeBound; infer_instance
instance : Decidable (r.installBound codec plan) := by
  unfold installBound; infer_instance
instance : Decidable (r.readyBound codec plan) := by
  unfold readyBound; infer_instance
instance : Decidable (r.revokeBound plan) := by
  unfold revokeBound; infer_instance

/-- The final switch of `validateRotationResumeTarget`: which records each phase has. -/
def phaseRecords : Prop :=
  match r.state with
  | .pending => ¬ r.challengePresent ∧ ¬ r.installPresent ∧ ¬ r.readyPresent ∧ ¬ r.revokePresent
  | .challenged => r.challengePresent ∧ ¬ r.installPresent ∧ ¬ r.readyPresent ∧ ¬ r.revokePresent
  | .installed => r.installPresent ∧ ¬ r.readyPresent ∧ ¬ r.revokePresent
  | .ready => r.readyPresent ∧ ¬ r.revokePresent
  | .revoking | .revoked => r.revokePresent
  | .failed | .unset => True

instance : Decidable r.phaseRecords := by
  unfold phaseRecords; split <;> infer_instance

end RotationResumeTarget

open RotationResumeTarget in
def validateRotationResumeTarget (codec : RotationCodec) (plan : RotationPlan) (r : RotationResumeTarget) :
    Option Error :=
  match r.target.validate with
  | some err => some err
  | none =>
    if plan.target r.target.connectorID ≠ some r.target then some errIdentityMismatch
    else if ¬ validRotationTargetState r.state then some errInvalidInput
    else if r.state = .failed ∧ (r.code = .unset ∨ ¬ validCode r.code) then some errInvalidInput
    else if r.state ≠ .failed ∧ r.code ≠ .unset then some errInvalidInput
    else if r.overlapUntil.isZero ≠ r.newCredentialValidUntil.isZero
        ∨ (¬ r.overlapUntil.isZero ∧ ¬ r.newCredentialValidUntil.after r.overlapUntil) then
      some errInvalidInput
    else if ¬ r.challengePresent ∧ (r.installPresent ∨ r.readyPresent ∨ r.revokePresent) then
      some errInvalidInput
    else if ¬ r.installPresent ∧ (r.readyPresent ∨ r.revokePresent) then some errInvalidInput
    else if ¬ r.readyPresent ∧ r.revokePresent then some errInvalidInput
    else if r.challengePresent ∧ ¬ r.challengeBound plan then some errIdentityMismatch
    else if r.installPresent ∧ ¬ r.installBound codec plan then some errIdentityMismatch
    else if r.readyPresent ∧ ¬ r.readyBound codec plan then some errIdentityMismatch
    else if r.revokePresent ∧ ¬ r.revokeBound plan then some errIdentityMismatch
    else if ¬ r.phaseRecords then some errInvalidInput
    else none

/-- A record that takes over the phase and the records of a recovered target. -/
def RotationTargetRecord.restored (r : RotationTargetRecord) (recovered : RotationResumeTarget) :
    RotationTargetRecord :=
  { r with
    state := recovered.state, code := recovered.code, challenge := recovered.challenge,
    proof := recovered.proof, install := recovered.install, ready := recovered.ready,
    revoke := recovered.revoke }

namespace RotationCoordinator

/-! ## `Resume` -/

def resumeError (message : String) : Error :=
  codeError .identityMismatch .credentialRotation false (some (.text message))

variable (codec : RotationCodec) (c : RotationCoordinator) (plan : RotationPlan) (loaded : RotationResume)

/-- The loop of `Resume` that checks the recovered targets. -/
def scanRecovered (seen : List String) : List RotationResumeTarget → Option Error
  | [] => none
  | recovered :: rest =>
    if seen.contains recovered.target.connectorID then
      some (resumeError "rotation recovery contains duplicate target")
    else if (c.find recovered.target.connectorID).map (fun r => r.target) ≠ some recovered.target
        ∨ ¬ validRotationTargetState recovered.state
        ∨ (validateRotationResumeTarget codec c.plan recovered).isSome then
      some (resumeError "rotation recovery target or phase mismatch")
    else scanRecovered (recovered.target.connectorID :: seen) rest

/-- The check of the finish time, with the time that is taken over. -/
def recoveredFinish (clock : Time) : Except Error Time :=
  if loaded.finishedAt.isZero then .ok {}
  else if ¬ loaded.targets.any (fun r => r.state == .failed)
      ∧ ¬ loaded.targets.all (fun r => r.state == .revoked) then
    .error (resumeError "rotation recovery finished timestamp does not match target states")
  else if loaded.finishedAt.after (clock.utc.add maxClockSkew) then
    .error (resumeError "rotation recovery finished timestamp is in the future")
  else .ok loaded.finishedAt

def restore (recovered : RotationResumeTarget) : RotationCoordinator :=
  c.update recovered.target.connectorID (fun r => r.restored recovered) (fun _ => rfl)

/-- The store answered for another plan. -/
def resumePlanMismatch : Prop :=
  ¬ loaded.started ∨ loaded.plan.accountID ≠ plan.accountID ∨ loaded.plan.tunnelID ≠ plan.tunnelID
    ∨ loaded.plan.operationID ≠ plan.operationID ∨ loaded.plan.targetSetHash ≠ plan.targetSetHash
    ∨ (loaded.plan.validate codec).isSome

instance : Decidable (resumePlanMismatch codec plan loaded) := by
  unfold resumePlanMismatch; infer_instance

/-- `Resume`; `load` is the answer of the store, `none` if it cannot recover. -/
def resume (ctx : Option Context) (load : Option (Except Error RotationResume)) (clock : Time) :
    RotationCoordinator × Option Error :=
  match doneContext ctx with
  | some err => (c, some err)
  | none =>
    match load with
    | none =>
      (c, some (codeError .unsupportedMessage .credentialRotation false
        (some (.text "rotation persistence does not support recovery"))))
    | some (.error err) => (c, some (codeError .credentialRotationFailed .credentialRotation true (some err)))
    | some (.ok loaded) =>
      if resumePlanMismatch codec c.plan loaded then
        (c, some (resumeError "rotation recovery plan mismatch"))
      else if c.started then (c, none)
      else if loaded.targets.length ≠ c.targets.length then
        (c, some (resumeError "rotation recovery target count mismatch"))
      else match scanRecovered codec c [] loaded.targets with
        | some err => (c, some err)
        | none =>
          match recoveredFinish loaded clock with
          | .error err => (c, some err)
          | .ok finished => ({ loaded.targets.foldl restore c with started := true, finished }, none)

end RotationCoordinator

/-- The row of a store that holds exactly the records of a target. -/
def RotationTargetRecord.durable (r : RotationTargetRecord) : RotationResumeTarget :=
  { target := r.target, state := r.state, code := r.code, overlapUntil := r.challenge.overlapUntil,
    newCredentialValidUntil := r.challenge.newCredentialValidUntil, challenge := r.challenge,
    proof := r.proof, install := r.install, ready := r.ready, revoke := r.revoke }

end PaperboatTunnel.ConnectorProtocol
