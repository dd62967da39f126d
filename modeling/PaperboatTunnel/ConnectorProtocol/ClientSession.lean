import PaperboatTunnel.ConnectorProtocol.ServerSession

/-!
# `ClientSession` — the connector half of a session

The operations of `ClientSession` in `internal/connectorprotocol/session.go`.

`ApplySnapshot`, `ApplyDelta`, `MarkReadyContext`, `HandleDrain` and `CompleteDrain` give up the lock around a call to
the applier or to the drainer. Each is cut there: the `Begin` half says what it returns or what it has to remember,
and the `Finish` half takes the outcome of the call and runs to the end.

A `PreparedConfig` is a `Handle`; every operation reports which handles it activated and aborted.
-/

namespace PaperboatTunnel.ConnectorProtocol

open GoTime

/-- The identity of a `PreparedConfig` object. -/
abbrev Handle := Nat

/-! ## Configuration and state -/

structure ClientConfig where
  hello : Hello
  (applyTimeout abortTimeout : Duration := 0)
deriving DecidableEq

structure ClientSession where
  config : ClientConfig
  welcome : Welcome := {}
  state : SessionState := .new
  lease : Lease := {}
  auth : AuthRequest
  active : Snapshot := {}
  hasActive : Bool := false
  candidate : Snapshot := {}
  hasCandidate : Bool := false
  prepared : Option Handle := none
  needsSnapshot : Bool := false
  readyGeneration : UInt64 := 0
  lastHeartbeatAck : Time := {}
  drain : Option Drain := none
  drainStatus : DrainStatus := .unset
  drainCode : Code := .unset
  drainCompleted : Bool := false
  activeStreams : UInt32 := 0
  disconnectReason : DisconnectReason := .unset
deriving DecidableEq

/-- The timeouts `NewClientSession` fills in. -/
def ClientConfig.withDefaults (config : ClientConfig) : ClientConfig := { config with
    applyTimeout := if config.applyTimeout = 0 then defaultApplyTimeout else config.applyTimeout
    abortTimeout := if config.abortTimeout = 0 then defaultAbortTimeout else config.abortTimeout }

def ClientConfig.bad (config : ClientConfig) : Bool :=
  config.applyTimeout ≤ 0 || config.applyTimeout > maxLease || config.abortTimeout ≤ 0
    || config.abortTimeout > maxLease

def newClientSession (config : ClientConfig) (clock : Time) : Except Error ClientSession :=
  if config.withDefaults.bad then .error errInvalidInput
  else match config.hello.validate clock.utc with
    | some err => .error err
    | none => .ok { config := config.withDefaults, auth := config.hello.auth }

/-- What the first half of an operation ends with: a result for the caller, or a call to the outside with
    what the second half needs. -/
inductive Began (α β : Type) where
  | returned (value : α) (err : Option Error)
  | calling (call : β)

namespace ClientSession

variable (codec : PayloadCodec) (c : ClientSession) (ctx : Option Context) (now : Time) (reason : DisconnectReason)

/-! ## Liveness and messages -/

def heartbeatOverdue : Prop :=
  ¬ c.lastHeartbeatAck.isZero ∧ now.sub c.lastHeartbeatAck > 2 * c.lease.heartbeatInterval

instance : Decidable (c.heartbeatOverdue now) := by
  unfold heartbeatOverdue; infer_instance

/-- The session closed for `reason`; the expiry checks write nothing else. -/
def expire : ClientSession := { c with state := .closed, disconnectReason := reason }

def ensureActiveLocked : ClientSession × Option Error :=
  if c.state = .closed then (c, some (codeError .sessionClosed c.disconnectReason))
  else if c.state = .new then (c, some (codeError .sessionConflict .protocolClosed))
  else if ¬ c.lease.expiresAt.after now then
    (c.expire .leaseExpired, some (codeError .leaseExpired .leaseExpired true))
  else if c.heartbeatOverdue now then
    (c.expire .heartbeatTimeout, some (codeError .heartbeatTimeout .heartbeatTimeout true))
  else (c, none)

/-- The read-only variant, used by `RenewalRequest`; it does not look at the heartbeat. -/
def ensureActiveReadLocked : Option Error :=
  if c.state = .closed then some (codeError .sessionClosed c.disconnectReason)
  else if c.state = .new then some (codeError .sessionConflict .protocolClosed)
  else if ¬ c.lease.expiresAt.after now then some (codeError .leaseExpired .leaseExpired true)
  else none

def restoreStateLocked : ClientSession := { c with state :=
      if c.hasActive ∧ c.readyGeneration = c.active.generation ∧ ¬ c.needsSnapshot then .ready
      else if c.hasCandidate then .awaitingReady
      else .awaitingSnapshot }

def makeAckLocked (kind : AckKind) (status : AckStatus) (generation : UInt64) (contentHash : String) : Ack :=
  { accountID := c.config.hello.accountID, tunnelID := c.config.hello.tunnelID,
    connectorID := c.config.hello.connectorID, sessionID := c.welcome.sessionID,
    processGeneration := c.config.hello.processGeneration, kind, status, generation, contentHash }

def makeDrainAckLocked (request : Drain) (status : DrainStatus)
    (activeStreams : UInt32) (forcedClose : Bool) (code : Code) : DrainAck :=
  { accountID := c.config.hello.accountID, tunnelID := c.config.hello.tunnelID,
    connectorID := c.config.hello.connectorID, sessionID := c.welcome.sessionID,
    processGeneration := c.config.hello.processGeneration, drainID := request.drainID,
    generation := request.generation, contentHash := request.contentHash, status, activeStreams,
    forcedClose, code }

def matchesIdentity (accountID tunnelID connectorID sessionID : String) (processGeneration : UInt64) : Bool :=
  accountID == c.config.hello.accountID && tunnelID == c.config.hello.tunnelID
    && connectorID == c.config.hello.connectorID && sessionID == c.welcome.sessionID
    && processGeneration == c.config.hello.processGeneration

/-- `AcceptWelcome`; it reads the clock a second time when it commits. -/
def acceptWelcome (welcome : Welcome) (clock clock' : Time) : ClientSession × Option Error :=
  match welcome.validate clock.utc with
  | some err => (c, some err)
  | none =>
    if c.state ≠ .new then (c, some (codeError .sessionConflict .protocolClosed))
    else if welcome.version ≠ protocolVersion ∨ welcome.protocol ≠ protocolName then
      (c, some (codeError .protocolIncompatible .protocolMismatch))
    else match negotiateVersion c.config.hello.minVersion c.config.hello.maxVersion with
      | .error err => (c, some err)
      | .ok _ =>
        match negotiateCapabilities c.config.hello.capabilities welcome.capabilities with
        | .error err => (c, some err)
        | .ok _ =>
          ({ c with welcome, lease := welcome.lease, state := .awaitingSnapshot,
                    lastHeartbeatAck := clock'.utc }, none)

/-! ## Applying a configuration -/

/-- What `ApplySnapshot` and `ApplyDelta` hand to the applier. -/
inductive ApplyCall where
  | snapshot (snapshot : Snapshot)
  | delta (delta : Delta)
deriving DecidableEq

/-- What the applier returned, with the readings of the contexts around it and the error `Abort` returns
    should the session abort the prepared configuration. -/
structure PrepareOutcome where
  prepared : Option Handle := none
  (err prepareErr ctxErr abortErr : Option Error := none)
deriving DecidableEq

/-- The snapshot is older than the current one, the same, or in conflict with it. -/
def againstCurrent (snapshot current : Snapshot) : Option (Ack × Option Error) :=
  if snapshot.generation < current.generation then
    some ({}, some (codeError .staleGeneration .staleGeneration))
  else if snapshot.generation = current.generation then
    if snapshot.contentHash = current.contentHash then
      some (c.makeAckLocked .snapshot .duplicate snapshot.generation snapshot.contentHash, none)
    else some ({}, some (codeError .contentHashMismatch .snapshotRejected))
  else none

/-- The comparison of `ApplySnapshot` with the candidate or, without one, the active snapshot. -/
def compareSnapshot (snapshot : Snapshot) : Option (Ack × Option Error) :=
  if c.hasCandidate then c.againstCurrent snapshot c.candidate
  else if c.hasActive then c.againstCurrent snapshot c.active
  else none

def applySnapshotLocked (ctx : Context) (snapshot : Snapshot) : Began Ack ApplyCall :=
  if snapshot.tunnelID ≠ c.config.hello.tunnelID then
    .returned {} (some (codeError .identityMismatch .authentication))
  else if (snapshot.validateBound codec).isSome
      ∨ ¬ c.matchesIdentity snapshot.accountID snapshot.tunnelID snapshot.connectorID snapshot.sessionID
        snapshot.processGeneration then
    .returned {} (some (codeError .identityMismatch .authentication))
  else match c.compareSnapshot snapshot with
    | some (ack, err) => .returned ack err
    | none =>
      match ctx.err with
      | some err => .returned {} (some (codeError .canceled .canceled true (some err)))
      | none => .calling (.snapshot snapshot)

/-- `ApplySnapshot` up to its external call. -/
def applySnapshotBegin (snapshot : Snapshot) (clock : Time) : ClientSession × Began Ack ApplyCall :=
  match ctx with
  | none => (c, .returned {} (some errInvalidInput))
  | some ctx =>
    match snapshot.validate codec with
    | some err => (c, .returned {} (some (codeError .snapshotRejected .snapshotRejected false (some err))))
    | none =>
      match c.ensureActiveLocked clock.utc with
      | (c, some err) => (c, .returned {} (some err))
      | (c, none) => (c, c.applySnapshotLocked codec ctx snapshot)

/-- The answer to a delta that the session cannot build on. -/
def snapshotRequired (delta : Delta) (code : Code) : Began Ack ApplyCall :=
  .returned (c.makeAckLocked .delta .snapshotRequired delta.generation delta.contentHash)
    (some (codeError code .generationGap true none))

def applyDeltaLocked (ctx : Context) (delta : Delta) : ClientSession × Began Ack ApplyCall :=
  if (delta.validateBound codec).isSome
      ∨ ¬ c.matchesIdentity delta.accountID delta.tunnelID delta.connectorID delta.sessionID
        delta.processGeneration then
    (c, .returned {} (some (codeError .identityMismatch .authentication)))
  else if ¬ c.hasActive ∨ c.needsSnapshot ∨ c.hasCandidate then
    -- the answer leaves no mark, also when a pending candidate is the only reason for it
    (c, c.snapshotRequired delta .snapshotRequired)
  else if delta.previousGeneration = c.active.generation ∧ delta.previousContentHash = c.active.contentHash then
    if delta.generation ≠ c.active.generation + 1 then
      ({ c with needsSnapshot := true }, c.snapshotRequired delta .generationGap)
    else match ctx.err with
      | some err => (c, .returned {} (some (codeError .canceled .canceled true (some err))))
      | none => (c, .calling (.delta delta))
  else if delta.generation ≤ c.active.generation then
    (c, .returned {} (some (codeError .staleGeneration .staleGeneration)))
  else ({ c with needsSnapshot := true }, c.snapshotRequired delta .generationGap)

/-- `ApplyDelta` up to its external call. -/
def applyDeltaBegin (delta : Delta) (clock : Time) : ClientSession × Began Ack ApplyCall :=
  match ctx with
  | none => (c, .returned {} (some errInvalidInput))
  | some ctx =>
    match delta.validate codec with
    | some err => (c, .returned {} (some (codeError .deltaRejected .generationGap false (some err))))
    | none =>
      match c.ensureActiveLocked clock.utc with
      | (c, some err) => (c, .returned {} (some err))
      | (c, none) => c.applyDeltaLocked codec ctx delta

def ApplyCall.kind : ApplyCall → AckKind
  | .snapshot _ => .snapshot
  | .delta _ => .delta

def ApplyCall.code : ApplyCall → Code
  | .snapshot _ => .snapshotRejected
  | .delta _ => .deltaRejected

def ApplyCall.generation : ApplyCall → UInt64
  | .snapshot s => s.generation
  | .delta d => d.generation

/-- The candidate that a prepared configuration becomes, bound to this session. -/
def ApplyCall.candidate : ApplyCall → Snapshot
  | .snapshot s =>
    bindSnapshot s c.config.hello.accountID c.config.hello.connectorID c.welcome.sessionID
      c.config.hello.processGeneration
  | .delta d =>
    { accountID := c.config.hello.accountID, tunnelID := d.tunnelID,
      connectorID := c.config.hello.connectorID, generation := d.generation,
      sessionID := c.welcome.sessionID, processGeneration := c.config.hello.processGeneration,
      contentHash := d.contentHash, payload := d.payload }

/-- The commit of `ApplySnapshot` and `ApplyDelta`; only a snapshot clears `needsSnapshot`. -/
def stage (call : ApplyCall) (prepared : Handle) : ClientSession := { c with
    candidate := call.candidate c, hasCandidate := true, prepared := some prepared,
    needsSnapshot := (match call with
      | .snapshot _ => false
      | .delta _ => c.needsSnapshot),
    readyGeneration := 0, state := .awaitingReady }

/-- The result of a finished operation: the session, what the caller gets, and the prepared configurations
    that were activated and aborted on the way. -/
structure Finished (α : Type) where
  session : ClientSession
  value : α
  err : Option Error
  (activated aborted : List Handle := [])

/-- `abortPrepared`: the error of `Abort`, nil for a nil configuration. -/
def PrepareOutcome.cleanup (o : PrepareOutcome) : Option Error :=
  if o.prepared.isSome then o.abortErr else none

/-- The error of a failed preparation: cancellation first, then the applier's own error. -/
def prepareError (call : ApplyCall) (o : PrepareOutcome) (err : Error) : Error :=
  if o.ctxErr.isSome ∨ o.prepareErr.isSome then
    codeError .canceled .canceled true (joinCleanup (o.ctxErr <|> o.prepareErr) o.cleanup)
  else codeError call.code .snapshotRejected false (joinCleanup (some err) o.cleanup)

/-- `ApplySnapshot` and `ApplyDelta` from their external call on. -/
def applyFinish (call : ApplyCall) (o : PrepareOutcome) (clock : Time) : Finished Ack :=
  match o.err, o.prepareErr, o.prepared with
  | some err, _, _ =>
    { session := c, value := {}, err := some (prepareError call o err), aborted := o.prepared.toList }
  | none, some prepareErr, _ =>
    { session := c, value := {}, aborted := o.prepared.toList
      err := some (codeError .canceled .canceled true (joinCleanup (some prepareErr) o.cleanup)) }
  | none, none, none =>
    { session := c, value := {}
      err := some (codeError call.code .snapshotRejected false
        (some (.text "applier returned nil prepared configuration"))) }
  | none, none, some prepared =>
    -- the lock is taken again: whatever fails from here on aborts the configuration
    match c.ensureActiveLocked clock.utc with
    | (c, some err) =>
      { session := c, value := {}, err := joinCleanup (some err) o.abortErr, aborted := [prepared] }
    | (c, none) =>
      if c.hasCandidate ∧ c.prepared.isSome then
        { session := c, value := {}, aborted := [prepared]
          err := joinCleanup (some (codeError .generationGap .generationGap true)) o.abortErr }
      else
        { session := c.stage call prepared, err := none
          value := c.makeAckLocked call.kind .applied (call.candidate c).generation (call.candidate c).contentHash }

/-! ## Readiness -/

/-- What `MarkReadyContext` remembers across `Activate`. -/
structure ReadyCall where
  readiness : Readiness
  prepared : Handle
  candidate : Snapshot
deriving DecidableEq

/-- What `Activate` returned, `ctx.Err()` after a failure, and what `Abort` then returned. -/
structure ActivateOutcome where
  (err ctxErr abortErr : Option Error := none)
deriving DecidableEq

def readinessFor (edgeReady routeReady originReady : Bool) : Readiness :=
  { accountID := c.config.hello.accountID, sessionID := c.welcome.sessionID,
    tunnelID := c.config.hello.tunnelID, connectorID := c.config.hello.connectorID,
    processGeneration := c.config.hello.processGeneration, generation := c.candidate.generation,
    contentHash := c.candidate.contentHash, edgeReady, routeReady, originReady }

def markReadyLocked (ctx : Context) (edgeReady routeReady originReady : Bool) : Began Readiness ReadyCall :=
  if ¬ c.hasCandidate then
    .returned {} (some (codeError .snapshotRequired .generationGap true))
  else
    let readiness := c.readinessFor edgeReady routeReady originReady
    if ¬ edgeReady ∨ ¬ routeReady ∨ ¬ originReady then
      .returned readiness (some (codeError .notReady .snapshotRejected true))
    else match ctx.err, c.prepared with
      | some err, _ => .returned readiness (some (codeError .canceled .canceled true (some err)))
      | none, none =>
        .returned readiness (some (codeError .snapshotRejected .snapshotRejected false
          (some (.text "missing prepared configuration"))))
      | none, some prepared => .calling { readiness, prepared, candidate := c.candidate }

/-- `MarkReadyContext` up to `Activate`. -/
def markReadyBegin (edgeReady routeReady originReady : Bool)
    (clock : Time) : ClientSession × Began Readiness ReadyCall :=
  match ctx with
  | none => (c, .returned {} (some errInvalidInput))
  | some ctx =>
    match c.ensureActiveLocked clock.utc with
    | (c, some err) => (c, .returned {} (some err))
    | (c, none) => (c, c.markReadyLocked ctx edgeReady routeReady originReady)

/-- The candidate is still the one that `Activate` was called for. -/
def stillStaged (call : ReadyCall) : Prop :=
  c.hasCandidate ∧ c.candidate.generation = call.candidate.generation
    ∧ c.candidate.contentHash = call.candidate.contentHash

instance (call : ReadyCall) : Decidable (c.stillStaged call) := by
  unfold stillStaged; infer_instance

def dropCandidate : ClientSession :=
  restoreStateLocked { c with candidate := {}, hasCandidate := false, prepared := none, needsSnapshot := true }

def promote : ClientSession :=
  { c with active := c.candidate, hasActive := true, candidate := {}, hasCandidate := false,
           prepared := none, needsSnapshot := false, readyGeneration := c.candidate.generation,
           state := .ready }

/-- `MarkReadyContext` from `Activate` on. -/
def markReadyFinish (call : ReadyCall) (o : ActivateOutcome) (clock : Time) : Finished Readiness :=
  match o.err with
  | some err =>
    -- the session may have been closed in the meantime, but this path does not check
    { session := if c.stillStaged call then c.dropCandidate else c
      value := call.readiness, aborted := [call.prepared]
      err :=
        if o.ctxErr.isSome then
          some (codeError .canceled .canceled true (joinCleanup (some err) o.abortErr))
        else some (codeError .snapshotRejected .snapshotRejected false (joinCleanup (some err) o.abortErr)) }
  | none =>
    match c.ensureActiveLocked clock.utc with
    | (c, some err) =>
      -- `Activate` has succeeded, so there is nothing to abort
      { session := c, value := call.readiness, err := some err, activated := [call.prepared] }
    | (c, none) =>
      if ¬ c.stillStaged call then
        { session := c, value := call.readiness, activated := [call.prepared]
          err := some (codeError .sessionConflict .staleGeneration true) }
      else
        { session := c.promote, value := call.readiness, err := none, activated := [call.prepared] }

/-! ## Heartbeats and renewal -/

def currentCandidateLocked : Option Snapshot :=
  if c.hasActive then some c.active else if c.hasCandidate then some c.candidate else none

/-- `Heartbeat`; a zero `now` means the session's own clock. -/
def heartbeat (now clock : Time) : ClientSession × Heartbeat × Option Error :=
  let now := if now.isZero then clock.utc else now
  match c.ensureActiveLocked now with
  | (c, some err) => (c, {}, some err)
  | (c, none) =>
    match c.currentCandidateLocked with
    | none => (c, {}, some (codeError .snapshotRequired .generationGap true))
    | some current =>
      (c, { accountID := c.config.hello.accountID, sessionID := c.welcome.sessionID,
            tunnelID := c.config.hello.tunnelID, connectorID := c.config.hello.connectorID,
            processGeneration := c.config.hello.processGeneration,
            lastAppliedGeneration := current.generation, lastAppliedHash := current.contentHash,
            sentAt := now }, none)

def acceptHeartbeatAck (ack : HeartbeatAck) (clock : Time) : ClientSession × Option Error :=
  match ack.validate clock.utc with
  | some err => (c, some err)
  | none =>
    match c.ensureActiveLocked clock.utc with
    | (c, some err) => (c, some err)
    | (c, none) =>
      if ¬ c.matchesIdentity ack.accountID ack.tunnelID ack.connectorID ack.sessionID ack.processGeneration then
        (c, some (codeError .identityMismatch .authentication))
      else
        ({ c with lease := { c.lease with expiresAt := ack.leaseExpiresAt }, lastHeartbeatAck := clock.utc }, none)

def renewalRequest (now clock : Time) (nonce signedProof : String) : RenewalRequest × Option Error :=
  let now := if now.isZero then clock.utc else now
  match c.ensureActiveReadLocked now with
  | some err => ({}, some err)
  | none =>
    let request : RenewalRequest :=
      { sessionID := c.welcome.sessionID, accountID := c.auth.accountID, tunnelID := c.auth.tunnelID,
        connectorID := c.auth.connectorID, hostID := c.auth.hostID,
        identityKeyID := c.auth.identityKeyID, identityKeyThumbprint := c.auth.identityKeyThumbprint,
        processGeneration := c.config.hello.processGeneration,
        credentialGeneration := c.auth.credentialGeneration, nonce, signedProof, requestedAt := now }
    match request.validate with
    | some err => ({}, some err)
    | none => (request, none)

/-- The commit of `ApplyRenewal`. -/
def renew (result : AuthResult) (now : Time) : ClientSession := { c with
    auth := { accountID := result.accountID, tunnelID := result.tunnelID,
              connectorID := result.connectorID, hostID := result.hostID,
              identityKeyID := result.identityKeyID,
              identityKeyThumbprint := result.identityKeyThumbprint,
              processGeneration := result.processGeneration,
              credentialGeneration := result.credentialGeneration, issuedAt := now,
              expiresAt := result.credentialExpiresAt }
    lease := { c.lease with expiresAt := result.leaseExpiresAt }, lastHeartbeatAck := now }

def applyRenewal (result : AuthResult) (clock : Time) : ClientSession × Option Error :=
  match result.validateBound with
  | some err => (c, some err)
  | none =>
    match c.ensureActiveLocked clock.utc with
    | (c, some err) => (c, some err)
    | (c, none) =>
      if result.accountID ≠ c.auth.accountID ∨ result.tunnelID ≠ c.auth.tunnelID
          ∨ result.connectorID ≠ c.auth.connectorID ∨ result.sessionID ≠ c.welcome.sessionID
          ∨ result.hostID ≠ c.auth.hostID ∨ result.identityKeyID ≠ c.auth.identityKeyID
          ∨ result.identityKeyThumbprint ≠ c.auth.identityKeyThumbprint
          ∨ result.processGeneration ≠ c.config.hello.processGeneration
          ∨ result.credentialGeneration < c.auth.credentialGeneration then
        (c, some (codeError .identityMismatch .authentication))
      else if result.credentialExpiresAt.before c.auth.expiresAt ∨ result.leaseExpiresAt.before c.lease.expiresAt then
        (c, some (codeError .sessionConflict .authentication))
      else if result.credentialGeneration = c.auth.credentialGeneration
          ∧ result.credentialExpiresAt.equal c.auth.expiresAt
          ∧ result.leaseExpiresAt.equal c.lease.expiresAt then
        -- the same result delivered twice
        (c, none)
      else (c.renew result clock.utc, none)

/-! ## Drain -/

/-- What the drainer answered: `StopNewStreams`, then the count of `ActiveStreams`. -/
structure DrainOutcome where
  stopErr : Option Error := none
  activeStreams : UInt32 := 0
  countErr : Option Error := none
deriving DecidableEq

variable (request : Drain)

def recordDrain : ClientSession :=
  { c with drain := some request, drainStatus := .accepted, drainCode := .unset,
           drainCompleted := false, activeStreams := 0, state := .draining }

def handleDrainLocked : ClientSession × Began DrainAck Drain :=
  let rejected (streams : UInt32) (code : Code) (reason : DisconnectReason) (retryable : Bool) :=
    Began.returned (c.makeDrainAckLocked request .rejected streams false .drainRejected)
      (some (codeError code reason retryable none))
  if ¬ hasCapability c.welcome.capabilities capabilityDrain then
    (c, .returned {} (some (codeError .capabilityMissing .capabilityMissing)))
  else if ¬ c.matchesIdentity request.accountID request.tunnelID request.connectorID request.sessionID
      request.processGeneration then
    (c, rejected 0 .identityMismatch .authentication false)
  else match c.drain with
    | some drain =>
      if request.drainID ≠ drain.drainID then
        (c, rejected c.activeStreams .sessionConflict .staleGeneration true)
      else if request.generation ≠ drain.generation ∨ request.contentHash ≠ drain.contentHash then
        (c, rejected c.activeStreams .contentHashMismatch .snapshotRejected false)
      else
        (c, .returned (c.makeDrainAckLocked request c.drainStatus c.activeStreams
          (c.drainStatus == .forced) c.drainCode) none)
    | none =>
      if ¬ c.hasActive ∨ c.needsSnapshot ∨ c.readyGeneration ≠ c.active.generation then
        (c, rejected 0 .notReady .snapshotRejected true)
      else if request.generation ≠ c.active.generation ∨ request.contentHash ≠ c.active.contentHash then
        (c, rejected 0 .staleGeneration .staleGeneration true)
      else (c.recordDrain request, .calling request)

/-- `HandleDrain` up to its calls of the drainer. -/
def handleDrainBegin (clock : Time) : ClientSession × Began DrainAck Drain :=
  match doneContext ctx, request.validate clock.utc with
  | some err, _ => (c, .returned {} (some err))
  | none, some err => (c, .returned {} (some err))
  | none, none =>
    match c.ensureActiveLocked clock.utc with
    | (c, some err) => (c, .returned {} (some err))
    | (c, none) => c.handleDrainLocked request

/-- The recorded drain is the one of this request. -/
def isDraining : Bool := c.drain.any (fun drain => drain.drainID == request.drainID)

/-- The failure section of `HandleDrain`: the drain ends in rejection and the state is restored. -/
def failDrain : ClientSession :=
  if c.isDraining request then
    restoreStateLocked { c with drainStatus := .rejected, drainCode := .drainRejected, drainCompleted := true }
  else c

/-- `HandleDrain` from its calls of the drainer on. -/
def handleDrainFinish (o : DrainOutcome) : ClientSession × DrainAck × Option Error :=
  match o.stopErr with
  | some err =>
    (c.failDrain request, c.makeDrainAckLocked request .rejected c.activeStreams false .drainRejected,
      some (codeError .drainRejected .snapshotRejected true (some err)))
  | none =>
    if o.countErr.isSome ∨ o.activeStreams > maxActiveStreams then
      (c.failDrain request, c.makeDrainAckLocked request .rejected 0 false .drainRejected,
        some (codeError .drainRejected .snapshotRejected true (some (o.countErr.getD errInvalidInput))))
    else if ¬ c.isDraining request then
      (c, c.makeDrainAckLocked request .rejected o.activeStreams false .drainRejected,
        some (codeError .staleSession .staleGeneration))
    else
      ({ c with activeStreams := o.activeStreams },
        c.makeDrainAckLocked request .accepted o.activeStreams false .unset, none)

def drainProgressLocked (drain : Drain) (now : Time) (activeStreams : UInt32)
    (forcedClose : Bool) : ClientSession × DrainAck × Option Error :=
  -- the count is recorded first, also for a drain that has ended
  let c := { c with activeStreams }
  if c.drainCompleted then
    (c, c.makeDrainAckLocked drain c.drainStatus c.activeStreams (c.drainStatus == .forced) c.drainCode, none)
  else if forcedClose then
    if activeStreams ≠ 0 then
      (c, {}, some (codeError .invalidInput .snapshotRejected false
        (some (.text "forced drain must have zero active streams"))))
    else
      ({ c with drainStatus := .forced, drainCode := .drainTimeout, drainCompleted := true },
        c.makeDrainAckLocked drain .forced 0 true .drainTimeout, none)
  else if activeStreams = 0 then
    ({ c with drainStatus := .completed, drainCode := .unset, drainCompleted := true },
      c.makeDrainAckLocked drain .completed 0 false .unset, none)
  else if ¬ now.before drain.deadline then
    (c, c.makeDrainAckLocked drain .progress activeStreams false .unset,
      some (codeError .drainTimeout .heartbeatTimeout true))
  else
    ({ c with drainStatus := .progress, drainCode := .unset },
      c.makeDrainAckLocked drain .progress activeStreams false .unset, none)

def drainProgress (activeStreams : UInt32)
    (forcedClose : Bool) (clock : Time) : ClientSession × DrainAck × Option Error :=
  match ctx with
  | none => (c, {}, some errInvalidInput)
  | some ctx =>
    if activeStreams > maxActiveStreams then (c, {}, some errInvalidInput)
    else match ctx.err with
      | some err => (c, {}, some (codeError .canceled .canceled true (some err)))
      | none =>
        match c.ensureActiveLocked clock.utc with
        | (c, some err) => (c, {}, some err)
        | (c, none) =>
          match c.drain with
          | none => (c, {}, some (codeError .sessionConflict .staleGeneration))
          | some drain => c.drainProgressLocked drain clock.utc activeStreams forcedClose

/-- `CompleteDrain` up to its call of the drainer; it reads the session and changes nothing. -/
def completeDrainBegin (force : Bool) : Began DrainAck Bool :=
  if ctx.isNone then .returned {} (some errInvalidInput)
  else match c.drain with
    | none => .returned {} (some (codeError .sessionConflict .staleGeneration))
    | some drain =>
      if c.drainCompleted then
        .returned (c.makeDrainAckLocked drain c.drainStatus c.activeStreams (c.drainStatus == .forced)
          c.drainCode) none
      else .calling force

/-- `CompleteDrain` from its call of the drainer on: `ForceClose` when forced, else `ActiveStreams`. -/
def completeDrainFinish (force : Bool)
    (outcome : Except Error UInt32) (clock : Time) : ClientSession × DrainAck × Option Error :=
  match outcome with
  | .error err => (c, {}, some (codeError .drainRejected .snapshotRejected true (some err)))
  | .ok activeStreams =>
    if force then c.drainProgress ctx 0 true clock else c.drainProgress ctx activeStreams false clock

/-! ## Lease check and close -/

def checkLease : ClientSession × Option Error := c.ensureActiveLocked now

def closeLocked : ClientSession :=
  { c with state := .closed, disconnectReason := reason, prepared := none, candidate := {}, hasCandidate := false }

/-- `Close`; `abortErr` is what `Abort` returns if there is a prepared configuration to abort. -/
def close (abortErr : Option Error) : Finished Unit :=
  if ¬ validDisconnectReason reason then { session := c, value := (), err := some errInvalidInput }
  -- a session that has expired is closed already, and keeps its prepared configuration
  else if c.state = .closed then { session := c, value := (), err := none }
  else
    let cleanup := if c.prepared.isSome then abortErr else none
    { session := c.closeLocked reason, value := (), aborted := c.prepared.toList
      err := cleanup.map (fun err =>
        codeError .snapshotRejected .snapshotRejected false (joinCleanup none (some err))) }

end ClientSession

end PaperboatTunnel.ConnectorProtocol
