import PaperboatTunnel.Runtime.CanonicalSets

/-!
# `RouteWorker` — one reconcile of the route worker

`RouteWorker.reconcileRoutes` of `internal/runtime/workers.go`. The worker owns three things that advance one after the
other: the matcher generation, the admission registry and its own records of what it published. A reconcile returns
from many places, and each return keeps what was changed before it.

Everything a reconcile is told from outside is its `ReconcileInput`. Beside the new worker and the error it gives the
list of what others could see of it, in order (`RouteEvent`). The retained legacy projection runs after the canonical
part, on a registry of its own; only its result is part of the input.
-/

namespace PaperboatTunnel.Runtime

open GoTime Datacarrier Route

/-! ## The worker and its surroundings -/

/-- The fields a worker is built with, and which of its collaborators are there. -/
structure RouteWorkerConfig where
  (nodeID processEpoch : String)
  hasReady : Bool := false
  (hasCarrier hasPrivateCarrier hasPublicTCP hasObserver hasDurableAdmissions : Bool := true)
deriving DecidableEq

structure RouteWorker (Digest : Type) where
  config : RouteWorkerConfig
  registry : GenerationRegistry
  durableAdmissions : DurableAdmissionRegistry
  canonicalSet : Bool := false
  canonicalHash : Digest
  canonicalGeneration : UInt64 := 0
  canonicalPendingSet : Bool := false
  canonicalPendingHash : Digest
  canonicalPendingGeneration : UInt64 := 0
  canonicalPendingAdmissions : Bool := false
  (canonicalAssignments canonicalPendingDetached : Rows := [])
deriving DecidableEq

structure RouteSnapshot where
  routes : Rows := []
  (complete canonical : Bool := true)
deriving DecidableEq

/-- What the source of desired routes answers: an error, a snapshot, or plain routes if it is not a
    `RouteSnapshotSource`. -/
inductive Desired where
  | failed
  | snapshot (s : RouteSnapshot)
  | routes (desired : Rows)
deriving DecidableEq

/-- Why a group is not ready: a collaborator is missing, or a probe failed. -/
inductive ProbeFailure where
  | generationNotReady | refused
deriving DecidableEq

/-- The errors of a reconcile. Those of the source, the observer and the legacy part come from outside. -/
inductive RouteWorkerError where
  | control | context | observer | legacy
  | route (err : Route.Error)
  | admission (err : Datacarrier.Error)
  | probes (failures : List ProbeFailure)
deriving DecidableEq

/-- The answers a reconcile gets. The probes answer `true` when they succeed. -/
structure ReconcileInput where
  desired : Desired
  (ready probeRoutes prepareTCP probePrivate : List RouteRule → Bool := fun _ => true)
  canceled : Bool := false
  (pendingNow finalNow : Time := {})
  (readyAccepted detachedAccepted : Bool := true)
  drain : Drain := .drained
  legacy : Option RouteWorkerError := none

/-- What others see of a reconcile. A probe is made under the admissions in force at that moment. -/
inductive RouteEvent where
  | probed (group : CanonicalAssignmentGroup) (admissions : DurableAdmissionRegistry)
  | ready (observations : List RouteObservation) (accepted : Bool)
  | activated (generation : UInt64) (assignments : Rows)
  | detached (observations : List RouteObservation) (accepted : Bool)
deriving DecidableEq

structure Reconciled (Digest : Type) where
  worker : RouteWorker Digest
  err : Option RouteWorkerError := none
  events : List RouteEvent := []

/-! ## Probing -/

variable (config : RouteWorkerConfig)

def probeCanonicalGroup (input : ReconcileInput) (assignments : Rows) : Option ProbeFailure :=
  let httpRules := sortRouteRules (canonicalRouteRules (ofKind .tunnelHTTPSWSS assignments))
  let tcpRules := canonicalTCPRouteRules (ofKind .tunnelTCP assignments)
  let privateRules := canonicalPrivateRouteRules (ofKind .tunnelPrivateTCP assignments)
  let http : Option ProbeFailure :=
    if httpRules = [] then none
    else if config.hasReady then (if input.ready httpRules then none else some .refused)
    else if ¬ config.hasCarrier then some .generationNotReady
    else if input.probeRoutes httpRules then none else some .refused
  let tcp : Option ProbeFailure :=
    if tcpRules = [] then none
    else if ¬ config.hasCarrier then some .generationNotReady
    else if ¬ input.probeRoutes tcpRules then some .refused
    else if ¬ config.hasPublicTCP then some .generationNotReady
    else if input.prepareTCP tcpRules then none else some .refused
  let privateTCP : Option ProbeFailure :=
    if privateRules = [] then none
    else if ¬ config.hasPrivateCarrier then some .generationNotReady
    else if input.probePrivate privateRules then none else some .refused
  http.or (tcp.or privateTCP)

structure Resolution where
  (effective ready : Rows := [])
  failures : List ProbeFailure := []
  failed : Rows := []
deriving DecidableEq

/-- One turn of the loop: a group that fails falls back to the previous rows of its tunnel. -/
def resolveGroup (input : ReconcileInput)
    (previous : List CanonicalAssignmentGroup) (res : Resolution) (group : CanonicalAssignmentGroup) :
    Resolution :=
  match probeCanonicalGroup config input group.assignments with
  | some failure =>
    { res with
      failures := res.failures ++ [failure], failed := res.failed ++ group.assignments,
      effective := res.effective ++
        ((previous.find? (fun p => p.key == group.key)).map CanonicalAssignmentGroup.assignments).getD [] }
  | none =>
    { res with effective := res.effective ++ group.assignments, ready := res.ready ++ group.assignments }

def resolveCanonicalGroups (input : ReconcileInput) (candidates previous : Rows) : Resolution :=
  let res := (canonicalAssignmentGroups candidates).foldl
    (resolveGroup config input (canonicalAssignmentGroups previous)) {}
  { res with effective := sortAssignments res.effective, ready := sortAssignments res.ready }

namespace RouteWorker

variable {Digest : Type} [DecidableEq Digest] (codec : RouteCodec Digest) (w : RouteWorker Digest) (input : ReconcileInput)

/-! ## The parts of a reconcile -/

/-- The set is not the one on record by its hash, or nothing is active. -/
def differs (rows : Rows) : Bool :=
  !w.canonicalSet || canonicalRouteHash codec rows != w.canonicalHash || !w.registry.hasActiveGeneration

variable (selected desired : Rows)

/-- Installs the admissions of the candidate and of the rows it replaces, unless an earlier attempt has
    already done so. -/
def installPending : RouteWorker Digest × Option RouteWorkerError :=
  if selected = [] ∨ w.canonicalPendingAdmissions then (w, none)
  else match canonicalDurableAdmissions codec.sha256
      (canonicalPendingAdmissionAssignments selected w.canonicalAssignments desired) with
    | .error err => (w, some (.route err))
    | .ok admissions =>
      match w.durableAdmissions.replace codec.sha256 admissions input.pendingNow with
      | (_, some err) => (w, some (.admission err))
      | (durableAdmissions, none) => ({ w with durableAdmissions, canonicalPendingAdmissions := true }, none)

def flushCanonicalDetached : Reconciled Digest :=
  if w.canonicalPendingDetached = [] then { worker := w }
  else
    let observations := canonicalRouteObservations w.canonicalPendingDetached "detached"
    if input.detachedAccepted then
      { worker := { w with canonicalPendingDetached := [] }, events := [.detached observations true] }
    else { worker := w, err := some .observer, events := [.detached observations false] }

/-- The local generation a changed set is staged under. -/
def localGeneration (hash : Digest) : UInt64 :=
  let generation :=
    if w.canonicalPendingSet ∧ hash = w.canonicalPendingHash then w.canonicalPendingGeneration
    else (if w.canonicalPendingGeneration > w.canonicalGeneration then w.canonicalPendingGeneration
      else w.canonicalGeneration) + 1
  if generation = 0 then 1 else generation

/-- The end of a promotion, once the generation is active: the admissions of the replaced rows are retired and
    the set is recorded. -/
def recordPromotion (generation : UInt64) (hash : Digest) (active superseded : Rows) : Reconciled Digest :=
  match canonicalDurableAdmissions codec.sha256 active with
  | .error err => { worker := w, err := some (.route err) }
  | .ok admissions =>
    match w.durableAdmissions.replace codec.sha256 admissions input.finalNow with
    | (_, some err) => { worker := w, err := some (.admission err) }
    | (durableAdmissions, none) =>
      flushCanonicalDetached { w with
          durableAdmissions, canonicalPendingAdmissions := false, canonicalGeneration := generation,
          canonicalHash := hash, canonicalSet := true, canonicalPendingSet := false,
          canonicalPendingDetached := mergeCanonicalAssignments
            (detachedCanonicalAssignments w.canonicalAssignments active) superseded,
          canonicalAssignments := active } input

/-- The rows reported as ready: all of them, or those of the ready groups if a group failed. -/
def observedRows (res : Resolution) : Rows :=
  if res.failures = [] then res.effective else res.ready

/-- The branch of a changed set: stage, observe, activate, record. -/
def promote (res : Resolution) (superseded : Rows) : Reconciled Digest :=
  let hash := canonicalRouteHash codec res.effective
  let generation := w.localGeneration hash
  let rules := (publishedRules res.effective).map (fun rule => { rule with generation })
  let observations := canonicalRouteObservations (observedRows res) "ready"
  match w.registry.stageGeneration codec.toASCII generation rules with
  | (_, some err) => { worker := w, err := some (.route err) }
  | (registry, none) =>
    let staged := { w with
        registry, canonicalPendingSet := true, canonicalPendingHash := hash,
        canonicalPendingGeneration := generation }
    match staged.installPending codec input selected desired with
    | (w, some err) => { worker := w, err := some err }
    | (w, none) =>
      if ¬ input.readyAccepted then
        { worker := w, err := some .observer, events := [.ready observations false] }
      else match w.registry.markGenerationReady generation with
        | (registry, some err) =>
          { worker := { w with registry }, err := some (.route err), events := [.ready observations true] }
        | (registry, none) =>
          match registry.activateGeneration generation input.drain with
          | (registry, drainErr) =>
            let w := { w with registry }
            let events := [.ready observations true, .activated generation res.effective]
            match drainErr with
            | none | some .drainTimeout =>
              let recorded := w.recordPromotion codec input generation hash res.effective superseded
              { recorded with events := events ++ recorded.events }
            -- the generation was active before the wait was cancelled
            | some .context => { worker := w, err := some (.route .context), events }
            | some err =>
              { worker := w, err := some (.route err), events := [.ready observations true] }

/-- The last report of the branch of an unchanged set. -/
def reportReady (res : Resolution) : Reconciled Digest :=
  if res.failures ≠ [] ∧ res.ready = [] then { worker := w, err := some (.probes res.failures) }
  else
    { worker := w, err := if input.readyAccepted then none else some .observer,
      events := [.ready (canonicalRouteObservations (observedRows res) "ready") input.readyAccepted] }

/-- The branch of an unchanged set: refresh the admissions and report. -/
def refresh (res : Resolution) (superseded : Rows) : Reconciled Digest :=
  let admitted : RouteWorker Digest × Option RouteWorkerError :=
    if res.failures ≠ [] then w.installPending codec input selected desired
    else match canonicalDurableAdmissions codec.sha256 res.effective with
      | .error err => (w, some (.route err))
      | .ok admissions =>
        match w.durableAdmissions.replace codec.sha256 admissions input.finalNow with
        | (_, some err) => (w, some (.admission err))
        | (durableAdmissions, none) => ({ w with durableAdmissions }, none)
  match admitted with
  | (w, some err) => { worker := w, err := some err }
  | (w, none) =>
    let flushed := flushCanonicalDetached { w with
        canonicalPendingDetached := mergeCanonicalAssignments w.canonicalPendingDetached superseded } input
    match flushed.err with
    | some _ => flushed
    | none =>
      let reported := flushed.worker.reportReady input res
      { reported with events := flushed.events ++ reported.events }

/-- The effective set of a selection: what the probes leave of it, or all of it if nothing is to be probed. -/
def resolution (codec : RouteCodec Digest) (input : ReconcileInput) (selected : Rows) : Resolution :=
  if w.differs codec selected then
    resolveCanonicalGroups w.config input selected w.canonicalAssignments
  else { effective := selected, ready := selected }

/-- The probes of a selection, with the admissions they are made under. -/
def probes (codec : RouteCodec Digest) (selected : Rows) : List RouteEvent :=
  if w.differs codec selected then
    (canonicalAssignmentGroups selected).map (fun group => .probed group w.durableAdmissions)
  else []

/-- A reconcile after its selection has been made and its candidate admissions are in force. -/
def settle : Reconciled Digest :=
  let probing := w.differs codec selected
  let res := w.resolution codec input selected
  if probing ∧ input.canceled then { worker := w, err := some .context }
  else if probing ∧ selected ≠ [] ∧ res.effective = [] ∧ res.failures ≠ [] then
    { worker := w, err := some (.probes res.failures) }
  else match canonicalSupersededAssignments codec.sha256 desired (res.effective ++ res.failed)
      w.config.nodeID w.config.processEpoch with
    | .error err => { worker := w, err := some (.route err) }
    | .ok superseded =>
      if w.differs codec res.effective then
        w.promote codec input selected desired res superseded
      else w.refresh codec input selected desired res superseded

/-- The canonical part of `reconcileRoutes`. -/
def reconcileCanonical (desired : Rows) : Reconciled Digest :=
  if w.config.processEpoch = "" ∨ (¬ w.config.hasCarrier ∧ ¬ w.config.hasReady) ∨ ¬ w.config.hasObserver then
    { worker := w, err := some (.route .generationNotReady) }
  else match selectCanonicalAssignments codec.sha256 desired w.config.nodeID w.config.processEpoch with
    | .error err => { worker := w, err := some (.route err) }
    | .ok selected =>
      if ¬ w.config.hasDurableAdmissions then { worker := w, err := some (.route .generationNotReady) }
      else
        let admitted : RouteWorker Digest × Option RouteWorkerError :=
          if w.differs codec selected then w.installPending codec input selected desired
          else (w, none)
        match admitted with
        | (w, some err) => { worker := w, err := some err }
        | (w, none) =>
          let settled := w.settle codec input selected desired
          { settled with events := w.probes codec selected ++ settled.events }

/-- The rows a source asks for, and whether they are canonical. -/
def desiredRoutes : Except RouteWorkerError (Rows × Bool) :=
  match input.desired with
  | .failed => .error .control
  | .snapshot s =>
    if ¬ s.complete ∧ s.canonical then .error (.route .invalid) else .ok (s.routes, s.canonical)
  | .routes desired => .ok (desired, desired.any (fun a => isCanonicalAssignment a || a.configGeneration != 0))

def reconcileRoutes : Reconciled Digest :=
  match desiredRoutes input with
  | .error err => { worker := w, err := some err }
  | .ok (desired, canonical) =>
    if ¬ canonical then { worker := w, err := input.legacy }
    else
      let reconciled := w.reconcileCanonical codec input desired
      match reconciled.err with
      | some _ => reconciled
      | none => { reconciled with err := input.legacy }

/-- The worker before its first reconcile, with the registries it is built with. -/
def new [Inhabited Digest] (config : RouteWorkerConfig) (maximumRoutes : Int)
    (durableAdmissions : DurableAdmissionRegistry) : RouteWorker Digest :=
  { config, registry := GenerationRegistry.new maximumRoutes, durableAdmissions,
    canonicalHash := default, canonicalPendingHash := default }

/-- One reconcile. Reconciles of one worker follow each other. -/
def step : Option (RouteWorker Digest) := some (w.reconcileRoutes codec input).worker

end RouteWorker

end PaperboatTunnel.Runtime
