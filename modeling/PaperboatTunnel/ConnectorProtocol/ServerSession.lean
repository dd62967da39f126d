import PaperboatTunnel.ConnectorProtocol.Registry

/-!
# `ServerSession` — the server half of a connector session

`Server.Accept` and the operations of `ServerSession` in `internal/connectorprotocol/session.go`.

An operation checks its arguments, takes the lock, asks `ensureActiveLocked` whether the session may still act, and
runs its body: `op` is the whole call, `opLocked` its body, and `whenActive` the step between them. What the
environment decides is an argument: the registry the session finds, the readings of the clock, the context, and the
answers from outside. `Renew` gives up the lock around its external call, so it is split.

Payload copies (`cloneSnapshot`, `bindSnapshot`) keep the value; only the bound identity is visible here.
-/

namespace PaperboatTunnel.ConnectorProtocol

open GoTime

inductive SessionState where
  | new | awaitingSnapshot | awaitingReady | ready | draining | closed
deriving DecidableEq

/-- What an operation sees of a `context.Context`: the value of `ctx.Err()` at the moment it asks. A nil
    context is `none` of an `Option Context`. -/
structure Context where
  err : Option Error := none
deriving DecidableEq

/-- A nil context is refused like a bad argument. -/
def nilContext (ctx : Option Context) : Option Error :=
  if ctx.isNone then some errInvalidInput else none

/-- The context checks of the drain operations: nil, then already cancelled. -/
def doneContext (ctx : Option Context) : Option Error :=
  match ctx with
  | none => some errInvalidInput
  | some ctx => ctx.err.map (fun err => codeError .canceled .canceled true (some err))

/-! ## The server -/

structure ServerConfig where
  capabilities : List String
  (leaseDuration heartbeatInterval : Duration)
deriving DecidableEq

/-- The final test of `NewServer`; the doubling is an `int64` product. -/
def ServerConfig.bad (config : ServerConfig) : Bool :=
  config.leaseDuration ≤ 0 || config.leaseDuration > maxLease || config.heartbeatInterval ≤ 0
    || Duration.mul config.heartbeatInterval 2 ≥ config.leaseDuration
    || (validateCapabilities config.capabilities).isSome

/-- A configured server; one with a bad configuration cannot be built. -/
structure Server where
  config : ServerConfig
  good : config.bad = false
deriving DecidableEq

/-- The durations `NewServer` fills in. -/
def ServerConfig.withDefaults (config : ServerConfig) : ServerConfig := { config with
    leaseDuration := if config.leaseDuration = 0 then defaultLease else config.leaseDuration
    heartbeatInterval :=
      if config.heartbeatInterval = 0 then defaultHeartbeat else config.heartbeatInterval }

def newServer (config : ServerConfig) : Except Error Server :=
  if h : config.withDefaults.bad = false then .ok ⟨config.withDefaults, h⟩ else .error errInvalidInput

structure ServerSession where
  server : Server
  ref : SessionRef
  auth : AuthResult
  lease : Lease
  welcome : Welcome
  pendingSnapshot : Option Snapshot := none
  pendingDelta : Option Delta := none
  active : Snapshot := {}
  hasActive : Bool := false
  candidate : Snapshot := {}
  hasCandidate : Bool := false
  readyGeneration : UInt64 := 0
  needsSnapshot : Bool := false
  state : SessionState
  (lastHeartbeat lastHeartbeatSentAt : Time := {})
  drain : Option Drain := none
  drainStatus : DrainStatus := .unset
  drainCode : Code := .unset
  drainCompleted : Bool := false
  disconnectReason : DisconnectReason := .unset
deriving DecidableEq

def bindSnapshot (snapshot : Snapshot) (accountID connectorID sessionID : String)
    (processGeneration : UInt64) : Snapshot :=
  { snapshot with accountID, connectorID, sessionID, processGeneration }

/-- What `Accept` obtains from outside: the clock, the authenticator, the snapshot source and the session
    id source. -/
structure AcceptEnv where
  clock : Time
  auth : Except Error AuthResult
  snapshot : Except Error Snapshot
  sessionID : Except Error String

/-- The authentication result does not answer this hello. -/
def authMismatch (auth : AuthResult) (hello : Hello) : Prop :=
  auth.accountID ≠ hello.accountID ∨ auth.tunnelID ≠ hello.tunnelID
    ∨ auth.connectorID ≠ hello.connectorID ∨ auth.hostID ≠ hello.hostID
    ∨ auth.identityKeyID ≠ hello.auth.identityKeyID
    ∨ auth.identityKeyThumbprint ≠ hello.auth.identityKeyThumbprint
    ∨ auth.processGeneration ≠ hello.processGeneration

instance (auth : AuthResult) (hello : Hello) : Decidable (authMismatch auth hello) := by
  unfold authMismatch; infer_instance

/-- The lease `Accept` grants: the authenticated expiry, capped by the configured duration. -/
def Server.initialLease (sv : Server) (auth : AuthResult) (sessionID : String) (now : Time) : Lease :=
  let configuredExpiry := now.add sv.config.leaseDuration
  { sessionID
    expiresAt :=
      if configuredExpiry.before auth.leaseExpiresAt then configuredExpiry else auth.leaseExpiresAt
    heartbeatIntervalMS := UInt32.ofInt (sv.config.heartbeatInterval.tdiv Duration.millisecond) }

def Server.session (sv : Server) (ref : SessionRef) (auth : AuthResult) (lease : Lease)
    (welcome : Welcome) (snapshot : Snapshot) (now : Time) : ServerSession :=
  { server := sv, ref, auth, lease, welcome, pendingSnapshot := some snapshot,
    state := .awaitingSnapshot, lastHeartbeat := now }

variable (codec : PayloadCodec)

/-- Everything `Accept` does before it attaches: negotiate, authenticate, fetch the first snapshot, draw a
    session id and compute the lease. -/
def Server.acceptChecks (sv : Server) (hello : Hello) (env : AcceptEnv) :
    Except Error (String × List String × AuthResult × Snapshot × Lease) :=
  let now := env.clock.utc
  match hello.validate now with
  | some err => .error err
  | none => do
      let version ← negotiateVersion hello.minVersion hello.maxVersion
      let capabilities ← negotiateCapabilities hello.capabilities sv.config.capabilities
      match env.auth with
      | .error err => .error (codeError .authenticationFailed .authentication false (some err))
      | .ok auth =>
        if (auth.validate now).isSome ∨ authMismatch auth hello then
          .error (codeError .authenticationFailed .authentication false (auth.validate now))
        else match env.snapshot with
          | .error err => .error (codeError .snapshotRejected .snapshotRejected true (some err))
          | .ok snapshot =>
            if (snapshot.validate codec).isSome ∨ snapshot.tunnelID ≠ hello.tunnelID then
              .error (codeError .snapshotRejected .snapshotRejected false (snapshot.validate codec))
            else match env.sessionID with
              | .error err => .error (codeError .sessionConflict .authentication true (some err))
              | .ok sessionID =>
                if badIdentifier sessionID then
                  .error (codeError .sessionConflict .authentication true)
                else
                  let lease := sv.initialLease auth sessionID now
                  match lease.validate now with
                  | some err => .error (codeError .authenticationFailed .authentication false (some err))
                  | none => .ok (version, capabilities, auth, snapshot, lease)

def Server.accept (sv : Server) (reg : SessionRegistry) (ctx : Option Context) (hello : Hello)
    (env : AcceptEnv) : SessionRegistry × Except Error (ServerSession × Welcome × Snapshot) :=
  if ctx.isNone then (reg, .error errInvalidInput)
  else match sv.acceptChecks codec hello env with
    | .error err => (reg, .error err)
    | .ok (version, capabilities, auth, snapshot, lease) =>
      let ref : SessionRef :=
        { tunnelID := hello.tunnelID, connectorID := hello.connectorID, sessionID := lease.sessionID,
          processGeneration := hello.processGeneration }
      match reg.attach ref with
      | (reg, .error err) => (reg, .error err)
      | (reg, .ok _) =>
        let now := env.clock.utc
        let welcome : Welcome :=
          { protocol := protocolName, version, sessionID := lease.sessionID, capabilities, lease,
            requiresSnapshot := true, serverTime := now }
        let snapshot := bindSnapshot snapshot hello.accountID hello.connectorID lease.sessionID
          hello.processGeneration
        (reg, .ok (sv.session ref auth lease welcome snapshot now, welcome, snapshot))

namespace ServerSession

variable (s : ServerSession) (reg : SessionRegistry) (ctx : Option Context) (now : Time)

/-! ## Liveness of a session -/

def matchesIdentity (accountID tunnelID connectorID sessionID : String) (processGeneration : UInt64) : Bool :=
  accountID == s.auth.accountID && tunnelID == s.ref.tunnelID && connectorID == s.ref.connectorID
    && sessionID == s.ref.sessionID && processGeneration == s.ref.processGeneration

/-- `restoreStateLocked`; the source's last two branches set the same state. -/
def restoreStateLocked : ServerSession := { s with state :=
      if s.hasActive ∧ s.readyGeneration = s.active.generation ∧ ¬ s.needsSnapshot then .ready
      else .awaitingSnapshot }

def closeLocked (reason : DisconnectReason) : SessionRegistry × ServerSession :=
  if s.state = .closed then (reg, s)
  else ((reg.disconnect s.ref reason).1, { s with state := .closed, disconnectReason := reason })

def heartbeatOverdue : Prop :=
  ¬ s.lastHeartbeat.isZero ∧ now.sub s.lastHeartbeat > 2 * s.lease.heartbeatInterval

instance : Decidable (s.heartbeatOverdue now) := by
  unfold heartbeatOverdue; infer_instance

def ensureActiveLocked : SessionRegistry × ServerSession × Option Error :=
  if s.state = .closed then (reg, s, some (codeError .sessionClosed s.disconnectReason))
  else if reg.active s.ref.connectorID ≠ some s.ref then
    -- a newer session of this connector has attached; its registry entry stays
    ((s.closeLocked reg .sessionReplaced).1, (s.closeLocked reg .sessionReplaced).2,
      some (codeError .staleSession .sessionReplaced))
  else if ¬ s.auth.credentialExpiresAt.after now then
    ((s.closeLocked reg .credentialExpired).1, (s.closeLocked reg .credentialExpired).2,
      some (codeError .credentialExpired .credentialExpired true))
  else if ¬ s.lease.expiresAt.after now then
    ((s.closeLocked reg .leaseExpired).1, (s.closeLocked reg .leaseExpired).2,
      some (codeError .leaseExpired .leaseExpired true))
  else if s.heartbeatOverdue now then
    ((s.closeLocked reg .heartbeatTimeout).1, (s.closeLocked reg .heartbeatTimeout).2,
      some (codeError .heartbeatTimeout .heartbeatTimeout true))
  else (reg, s, none)

/-- The result of an operation: the registry and the session it leaves, and what it returns. -/
abbrev Outcome (α : Type) := SessionRegistry × ServerSession × Except Error α

/-- Take the lock: run `body` if the session is active, else return the error of `ensureActiveLocked`. -/
def whenActive {α : Type} (body : ServerSession → ServerSession × Except Error α) : Outcome α :=
  match s.ensureActiveLocked reg now with
  | (reg, s, some err) => (reg, s, .error err)
  | (reg, s, none) => (reg, (body s).1, (body s).2)

/-- Refuse bad arguments before the lock is taken. -/
def checked {α : Type} (bad : Option Error) (rest : Outcome α) : Outcome α :=
  match bad with
  | some err => (reg, s, .error err)
  | none => rest

/-! ## Acknowledgements -/

/-- A staged configuration waits for readiness, unless an active one is still ready. -/
def awaitReady : ServerSession := { s with state :=
      if s.hasActive ∧ s.readyGeneration = s.active.generation then s.state else .awaitingReady }

/-- `HandleAck` with a snapshot on offer. -/
def ackSnapshot (pending : Snapshot) (ack : Ack) : ServerSession × Except Error Unit :=
  if ack.kind ≠ .snapshot ∨ ack.generation ≠ pending.generation ∨ ack.contentHash ≠ pending.contentHash then
    (s, .error (codeError .snapshotRejected .snapshotRejected))
  else if ack.status = .snapshotRequired ∨ ack.status = .rejected then
    (restoreStateLocked { s with pendingSnapshot := none, needsSnapshot := true },
      if ack.status = .snapshotRequired then
        .error (codeError .snapshotRequired .generationGap true)
      else .error (codeError .snapshotRejected .snapshotRejected))
  else
    -- unlike in `ackDelta`, the offer is not compared with what has become active since it was made
    (awaitReady { s with candidate := pending, hasCandidate := true, pendingSnapshot := none,
                         needsSnapshot := false }, .ok ())

def deltaCandidate (pending : Delta) : Snapshot :=
  { accountID := s.auth.accountID, tunnelID := pending.tunnelID, connectorID := s.ref.connectorID,
    sessionID := s.ref.sessionID, processGeneration := s.ref.processGeneration,
    generation := pending.generation, contentHash := pending.contentHash, payload := pending.payload }

/-- `HandleAck` with a delta on offer. -/
def ackDelta (pending : Delta) (ack : Ack) : ServerSession × Except Error Unit :=
  if ack.kind ≠ .delta ∨ ack.generation ≠ pending.generation ∨ ack.contentHash ≠ pending.contentHash then
    (s, .error (codeError .deltaRejected .generationGap))
  else if ack.status = .snapshotRequired then
    (restoreStateLocked { s with pendingDelta := none, needsSnapshot := true },
      .error (codeError .snapshotRequired .generationGap true))
  else if ack.status = .rejected then
    (restoreStateLocked { s with pendingDelta := none, needsSnapshot := true },
      .error (codeError .deltaRejected .snapshotRejected))
  else if s.hasActive ∧ (pending.previousGeneration ≠ s.active.generation
      ∨ pending.previousContentHash ≠ s.active.contentHash) then
    -- the active configuration has moved since the offer
    ({ s with pendingDelta := none }, .error (codeError .generationGap .generationGap true))
  else
    (awaitReady { s with pendingDelta := none, candidate := s.deltaCandidate pending, hasCandidate := true }, .ok ())

/-- `HandleAck` with nothing on offer: only a duplicate of the current configuration is fine. -/
def ackCurrent (ack : Ack) : Except Error Unit :=
  if ack.status = .duplicate then
    if ¬ s.hasCandidate ∧ ¬ s.hasActive then
      .error (codeError .staleGeneration .staleGeneration)
    else
      let current := if s.hasCandidate then s.candidate else s.active
      if ack.generation ≠ current.generation ∨ ack.contentHash ≠ current.contentHash then
        .error (codeError .staleGeneration .staleGeneration)
      else .ok ()
  else .error (codeError .invalidInput .malformed)

def handleAckLocked (ack : Ack) : ServerSession × Except Error Unit :=
  if ¬ s.matchesIdentity ack.accountID ack.tunnelID ack.connectorID ack.sessionID ack.processGeneration then
    (s, .error (codeError .identityMismatch .authentication))
  else match s.pendingSnapshot with
    | some pending => s.ackSnapshot pending ack
    | none =>
      match s.pendingDelta with
      | some pending => s.ackDelta pending ack
      | none => (s, s.ackCurrent ack)

def handleAck (ack : Ack) (clock : Time) : Outcome Unit :=
  s.checked reg (nilContext ctx) (s.checked reg ack.validate
    (s.whenActive reg clock.utc (fun s => s.handleAckLocked ack)))

def canPersistNegativeAck (ack : Ack) : Bool :=
  if (ack.status ≠ .rejected ∧ ack.status ≠ .snapshotRequired) ∨ ack.validate ≠ none then false
  else if ¬ s.matchesIdentity ack.accountID ack.tunnelID ack.connectorID ack.sessionID ack.processGeneration then
    false
  else match s.pendingSnapshot with
    | some pending =>
      ack.kind = .snapshot ∧ ack.generation = pending.generation ∧ ack.contentHash = pending.contentHash
    | none =>
      match s.pendingDelta with
      | some pending =>
        ack.kind = .delta ∧ ack.generation = pending.generation ∧ ack.contentHash = pending.contentHash
      | none => false

/-! ## Readiness -/

def makeAckLocked (kind : AckKind) (status : AckStatus) (snapshot : Snapshot) : Ack :=
  { accountID := s.auth.accountID, tunnelID := s.ref.tunnelID, connectorID := s.ref.connectorID,
    sessionID := s.ref.sessionID, processGeneration := s.ref.processGeneration, kind, status,
    generation := snapshot.generation, contentHash := snapshot.contentHash }

/-- The promotion inside `HandleReadiness`: the staged candidate becomes active. -/
def promote : ServerSession :=
  if s.hasCandidate then
    { s with active := s.candidate, hasActive := true, candidate := {}, hasCandidate := false }
  else s

def handleReadinessLocked (r : Readiness) : ServerSession × Except Error Ack :=
  if ¬ s.matchesIdentity r.accountID r.tunnelID r.connectorID r.sessionID r.processGeneration then
    (s, .error (codeError .identityMismatch .authentication))
  else if s.hasCandidate ∧ (r.generation ≠ s.candidate.generation ∨ r.contentHash ≠ s.candidate.contentHash) then
    (s, .error (codeError .staleGeneration .staleGeneration))
  else if ¬ s.hasCandidate ∧ (¬ s.hasActive ∨ r.generation ≠ s.active.generation
      ∨ r.contentHash ≠ s.active.contentHash) then
    (s, .error (codeError .staleGeneration .staleGeneration))
  else if ¬ r.edgeReady ∨ ¬ r.routeReady ∨ ¬ r.originReady then
    (s, .error (codeError .notReady .snapshotRejected true))
  else
    -- the state is set without a look at the drain
    ({ s.promote with needsSnapshot := false, readyGeneration := r.generation, state := .ready },
      .ok (s.makeAckLocked .ready .applied { generation := r.generation, contentHash := r.contentHash }))

def handleReadiness (readiness : Readiness) (clock : Time) : Outcome Ack :=
  s.checked reg (nilContext ctx) (s.checked reg readiness.validate
    (s.whenActive reg clock.utc (fun s => s.handleReadinessLocked readiness)))

/-! ## Offers -/

/-- An offered configuration is bound to another session. -/
def boundElsewhere (accountID connectorID sessionID : String) (processGeneration : UInt64) : Prop :=
  (accountID ≠ "" ∧ accountID ≠ s.auth.accountID) ∨ (connectorID ≠ "" ∧ connectorID ≠ s.ref.connectorID)
    ∨ (sessionID ≠ "" ∧ sessionID ≠ s.ref.sessionID)
    ∨ (processGeneration ≠ 0 ∧ processGeneration ≠ s.ref.processGeneration)

instance (a c i : String) (g : UInt64) : Decidable (s.boundElsewhere a c i g) := by
  unfold boundElsewhere; infer_instance

/-- Same generation as `current`: fine with the same hash, refused with another. -/
def sameGeneration (snapshot current : Snapshot) : ServerSession × Except Error Unit :=
  if snapshot.contentHash ≠ current.contentHash then
    (s, .error (codeError .contentHashMismatch .snapshotRejected))
  else (s, .ok ())

/-- A snapshot nobody holds yet replaces whatever was on offer. -/
def putOnOffer (snapshot : Snapshot) : ServerSession :=
  let bound := bindSnapshot snapshot s.auth.accountID s.ref.connectorID s.ref.sessionID s.ref.processGeneration
  { s with pendingDelta := none, pendingSnapshot := some bound,
           state := if ¬ s.hasActive then .awaitingSnapshot else s.state }

def offerSnapshotLocked (snapshot : Snapshot) : ServerSession × Except Error Unit :=
  if snapshot.tunnelID ≠ s.ref.tunnelID then
    (s, .error (codeError .identityMismatch .authentication))
  else if s.boundElsewhere snapshot.accountID snapshot.connectorID snapshot.sessionID snapshot.processGeneration then
    (s, .error (codeError .identityMismatch .authentication))
  else if s.hasActive ∧ snapshot.generation < s.active.generation then
    (s, .error (codeError .staleGeneration .staleGeneration))
  else if s.hasCandidate ∧ snapshot.generation = s.candidate.generation then
    s.sameGeneration snapshot s.candidate
  else if s.hasActive ∧ snapshot.generation = s.active.generation then
    s.sameGeneration snapshot s.active
  else match s.pendingSnapshot with
    | some pending =>
      if snapshot.generation = pending.generation then s.sameGeneration snapshot pending
      else (s.putOnOffer snapshot, .ok ())
    | none => (s.putOnOffer snapshot, .ok ())

def offerSnapshot (snapshot : Snapshot) (clock : Time) : Outcome Unit :=
  s.checked reg (nilContext ctx) (s.checked reg ((snapshot.validate codec).map
        (fun err => codeError .snapshotRejected .snapshotRejected false (some err)))
      (s.whenActive reg clock.utc (fun s => s.offerSnapshotLocked snapshot)))

def offerDeltaLocked (delta : Delta) : ServerSession × Except Error Unit :=
  if ¬ s.hasActive ∨ s.readyGeneration ≠ s.active.generation ∨ s.needsSnapshot then
    (s, .error (codeError .notReady .snapshotRejected true))
  else if s.pendingSnapshot.isSome ∨ s.pendingDelta.isSome ∨ s.hasCandidate then
    (s, .error (codeError .generationGap .generationGap true))
  else if delta.tunnelID ≠ s.ref.tunnelID
      ∨ s.boundElsewhere delta.accountID delta.connectorID delta.sessionID delta.processGeneration
      ∨ delta.previousGeneration ≠ s.active.generation
      ∨ delta.previousContentHash ≠ s.active.contentHash then
    (s, .error (codeError .generationGap .generationGap true))
  else
    let bound : Delta :=
      { delta with accountID := s.auth.accountID, connectorID := s.ref.connectorID,
                   sessionID := s.ref.sessionID, processGeneration := s.ref.processGeneration }
    ({ s with pendingDelta := some bound }, .ok ())

def offerDelta (delta : Delta) (clock : Time) : Outcome Unit :=
  s.checked reg (nilContext ctx) (s.checked reg ((delta.validate codec).map
        (fun err => codeError .deltaRejected .generationGap false (some err)))
      (s.whenActive reg clock.utc (fun s => s.offerDeltaLocked delta)))

/-! ## Heartbeats -/

/-- The configuration a heartbeat has to report. -/
def expectedSnapshot : Option Snapshot :=
  if s.hasActive then some s.active
  else if s.hasCandidate then some s.candidate
  else s.pendingSnapshot

/-- The lease an accepted heartbeat renews to. -/
def heartbeatLease : Time :=
  let leaseExpiry := now.add s.server.config.leaseDuration
  if s.auth.credentialExpiresAt.before leaseExpiry then s.auth.credentialExpiresAt else leaseExpiry

/-- Withdraw readiness but keep the last-known-good snapshot. -/
def withdrawReadiness : ServerSession :=
  if s.hasActive then
    { s with needsSnapshot := true, readyGeneration := 0, state := .awaitingSnapshot }
  else s

def heartbeatAck (leaseExpiresAt serverTime : Time) : HeartbeatAck :=
  { accountID := s.auth.accountID, tunnelID := s.ref.tunnelID, connectorID := s.ref.connectorID,
    sessionID := s.ref.sessionID, processGeneration := s.ref.processGeneration, leaseExpiresAt,
    serverTime }

def handleHeartbeatLocked (h : Heartbeat) : ServerSession × Except Error HeartbeatAck :=
  if ¬ s.matchesIdentity h.accountID h.tunnelID h.connectorID h.sessionID h.processGeneration then
    (s, .error (codeError .identityMismatch .authentication))
  else if h.sentAt.after (now.add maxClockSkew) then
    (s, .error (codeError .invalidInput .malformed))
  else if h.sentAt.before (now.add (-maxClockSkew)) then
    (s, .error (codeError .heartbeatTimeout .heartbeatTimeout true))
  else if ¬ s.lastHeartbeatSentAt.isZero ∧ ¬ h.sentAt.after s.lastHeartbeatSentAt then
    (s, .error (codeError .staleSession .staleGeneration))
  else match s.expectedSnapshot with
    | none => (s, .error (codeError .snapshotRequired .generationGap true))
    | some expected =>
      if h.lastAppliedGeneration ≠ expected.generation ∨ h.lastAppliedHash ≠ expected.contentHash then
        (s.withdrawReadiness, .error (codeError .snapshotRequired .generationGap true))
      else
        -- the replay fence moves only here, after every check
        let leaseExpiry := s.heartbeatLease now
        ({ s with lastHeartbeatSentAt := h.sentAt, lastHeartbeat := now,
                  lease := { s.lease with expiresAt := leaseExpiry } },
          .ok (s.heartbeatAck leaseExpiry now))

def handleHeartbeat (heartbeat : Heartbeat) (clock : Time) : Outcome HeartbeatAck :=
  s.checked reg (nilContext ctx) (s.checked reg heartbeat.validate
    (s.whenActive reg clock.utc (fun s => s.handleHeartbeatLocked clock.utc heartbeat)))

/-! ## Drain -/

/-- The request `BeginDrain` sends for the active generation. -/
def drainRequest (drainID : String) (deadline : Time) (forceAfterDeadline : Bool) : Drain :=
  { accountID := s.auth.accountID, tunnelID := s.ref.tunnelID, connectorID := s.ref.connectorID,
    sessionID := s.ref.sessionID, processGeneration := s.ref.processGeneration, drainID,
    generation := s.active.generation, contentHash := s.active.contentHash, deadline,
    stopNewStreams := true, forceAfterDeadline }

def beginDrainLocked (drainID : String) (deadline : Time)
    (forceAfterDeadline : Bool) (now : Time) : ServerSession × Except Error Drain :=
  if ¬ hasCapability s.welcome.capabilities capabilityDrain then
    (s, .error (codeError .capabilityMissing .capabilityMissing))
  else match s.drain with
    | some drain =>
      -- a retry is answered from the record, whatever has become of that drain
      if drain.drainID = drainID then (s, .ok drain)
      else (s, .error (codeError .sessionConflict .staleGeneration true))
    | none =>
      if ¬ s.hasActive ∨ s.needsSnapshot ∨ s.readyGeneration ≠ s.active.generation ∨ s.state ≠ .ready then
        (s, .error (codeError .notReady .snapshotRejected true))
      else match (s.drainRequest drainID deadline forceAfterDeadline).validate now with
        | some err => (s, .error err)
        | none =>
          ({ s with drain := some (s.drainRequest drainID deadline forceAfterDeadline),
                    drainStatus := .accepted, drainCode := .unset, drainCompleted := false,
                    state := .draining },
            .ok (s.drainRequest drainID deadline forceAfterDeadline))

/-- `BeginDrain`; it reads the clock a second time to validate the request. -/
def beginDrain (drainID : String)
    (deadline : Time) (forceAfterDeadline : Bool) (clock clock' : Time) : Outcome Drain :=
  s.checked reg (doneContext ctx) (s.whenActive reg clock.utc
      (fun s => s.beginDrainLocked drainID deadline forceAfterDeadline clock'.utc))

variable (ack : DrainAck)

/-- The end of `HandleDrainAck`: the status of the drain in progress. -/
def recordDrainAck : ServerSession × Except Error Unit :=
  let s := { s with drainStatus := ack.status, drainCode := ack.code }
  match ack.status with
  | .accepted | .progress => (s, .ok ())
  | .completed | .forced => ({ s with drainCompleted := true }, .ok ())
  | .rejected =>
    (restoreStateLocked { s with drainCompleted := true }, .error (codeError .drainRejected .snapshotRejected))
  -- `DrainAck.Validate` has refused every other status
  | .unset => (s, .error errInvalidInput)

def handleDrainAckLocked : ServerSession × Except Error Unit :=
  if ¬ s.matchesIdentity ack.accountID ack.tunnelID ack.connectorID ack.sessionID ack.processGeneration then
    (s, .error (codeError .identityMismatch .authentication))
  else match s.drain with
    | none => (s, .error (codeError .staleSession .staleGeneration))
    | some drain =>
      if ack.drainID ≠ drain.drainID then
        (s, .error (codeError .staleSession .staleGeneration))
      else if ack.generation ≠ drain.generation ∨ ack.contentHash ≠ drain.contentHash then
        (s, .error (codeError .contentHashMismatch .snapshotRejected))
      else if s.drainCompleted then
        if ack.status = s.drainStatus ∧ ack.code = s.drainCode then (s, .ok ())
        else (s, .error (codeError .staleGeneration .staleGeneration))
      else s.recordDrainAck ack

def handleDrainAck (clock : Time) : Outcome Unit :=
  s.checked reg (doneContext ctx) (s.checked reg ack.validate
    (s.whenActive reg clock.utc (fun s => s.handleDrainAckLocked ack)))

/-- `CanPersistNegativeDrainAck`; it does not read `drainCompleted`. -/
def canPersistNegativeDrainAck : Bool :=
  if ack.status ≠ .rejected ∨ ack.validate ≠ none then false
  else match s.drain with
    | none => false
    | some drain =>
      s.matchesIdentity ack.accountID ack.tunnelID ack.connectorID ack.sessionID ack.processGeneration
        ∧ ack.drainID = drain.drainID ∧ ack.generation = drain.generation ∧ ack.contentHash = drain.contentHash

/-! ## Renewal -/

/-- What `Renew` keeps across its external call: the first clock reading and the identity it saw. -/
structure Renewal where
  now : Time
  expected : AuthResult
  ref : SessionRef
deriving DecidableEq

def renewBeginLocked (request : RenewalRequest) : ServerSession × Except Error Renewal :=
  if request.sessionID ≠ s.ref.sessionID ∨ request.accountID ≠ s.auth.accountID
      ∨ request.tunnelID ≠ s.ref.tunnelID ∨ request.connectorID ≠ s.ref.connectorID
      ∨ request.hostID ≠ s.auth.hostID ∨ request.identityKeyID ≠ s.auth.identityKeyID
      ∨ request.identityKeyThumbprint ≠ s.auth.identityKeyThumbprint
      ∨ request.processGeneration ≠ s.ref.processGeneration
      ∨ request.credentialGeneration ≠ s.auth.credentialGeneration then
    (s, .error (codeError .identityMismatch .authentication))
  else (s, .ok { now, expected := s.auth, ref := s.ref })

/-- `Renew` up to its external call. -/
def renewBegin (request : RenewalRequest) (clock : Time) : Outcome Renewal :=
  s.checked reg (nilContext ctx) (s.checked reg (request.validateAt clock.utc)
    (s.whenActive reg clock.utc (fun s => s.renewBeginLocked clock.utc request)))

/-- The check of the authenticator's answer, made without the lock. -/
def renewCheck (renewal : Renewal) (result : Except Error AuthResult) : Except Error AuthResult :=
  match result with
  | .error err => .error (codeError .credentialExpired .credentialExpired true (some err))
  | .ok result =>
    if (result.validate renewal.now).isSome ∨ result.accountID ≠ renewal.expected.accountID
        ∨ result.tunnelID ≠ renewal.ref.tunnelID ∨ result.connectorID ≠ renewal.ref.connectorID
        ∨ (result.sessionID ≠ "" ∧ result.sessionID ≠ renewal.ref.sessionID)
        ∨ result.hostID ≠ renewal.expected.hostID
        ∨ result.identityKeyID ≠ renewal.expected.identityKeyID
        ∨ result.identityKeyThumbprint ≠ renewal.expected.identityKeyThumbprint
        ∨ result.processGeneration ≠ renewal.ref.processGeneration
        ∨ result.credentialGeneration < renewal.expected.credentialGeneration then
      .error (codeError .authenticationFailed .authentication false
        (some ((result.validate renewal.now).getD errIdentityMismatch)))
    else .ok result

/-- The lease a renewal grants: the authenticated expiry, capped by the configured duration. -/
def renewedLease (result : AuthResult) : Time :=
  let configuredExpiry := now.add s.server.config.leaseDuration
  if configuredExpiry.before result.leaseExpiresAt then configuredExpiry else result.leaseExpiresAt

def renewFinishLocked (renewal : Renewal) (result : AuthResult) : ServerSession × Except Error AuthResult :=
  if s.auth ≠ renewal.expected ∨ s.ref ≠ renewal.ref then
    (s, .error (codeError .sessionConflict .staleGeneration true))
  else
    -- the session keeps the capped lease, the caller gets the result as it was granted
    let result := { result with sessionID := renewal.ref.sessionID }
    ({ s with auth := result, lease := { s.lease with expiresAt := s.renewedLease renewal.now result },
              lastHeartbeat := renewal.now }, .ok result)

/-- `Renew` from its external call on. -/
def renewFinish (renewal : Renewal) (result : Except Error AuthResult) (clock : Time) : Outcome AuthResult :=
  match renewCheck renewal result with
  | .error err => (reg, s, .error err)
  | .ok result => s.whenActive reg clock.utc (fun s => s.renewFinishLocked renewal result)

/-- `Renew` as one step. -/
def renew (request : RenewalRequest)
    (clock : Time) (result : Except Error AuthResult) (clock' : Time) : Outcome AuthResult :=
  match s.renewBegin reg ctx request clock with
  | (reg, s, .error err) => (reg, s, .error err)
  | (reg, s, .ok renewal) => s.renewFinish reg renewal result clock'

def checkLease : Outcome Unit := s.whenActive reg now (fun s => (s, .ok ()))

def close (reason : DisconnectReason) : Outcome Unit :=
  if ¬ validDisconnectReason reason then (reg, s, .error errInvalidInput)
  else ((s.closeLocked reg reason).1, (s.closeLocked reg reason).2, .ok ())

end ServerSession

end PaperboatTunnel.ConnectorProtocol
