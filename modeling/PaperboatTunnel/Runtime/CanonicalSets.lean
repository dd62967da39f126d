import PaperboatTunnel.Lib.Grouping
import PaperboatTunnel.Runtime.Assignments

/-!
# `CanonicalSets` — rules, groups, admissions and observations of a set of rows

The pure functions of `internal/runtime/workers.go` on lists of assignments: the rules they publish, the tunnel
groups they are probed in, the admissions they need and the reports about them.
-/

namespace PaperboatTunnel.Runtime

open GoStrings Datacarrier Route

/-! ## Rules -/

/-- One turn of the first loop of `canonicalRouteRules`: the row with the least connector speaks for a route. -/
def electRoute (byRoute : Rows) (a : RouteAssignment) : Rows :=
  if a.kind ≠ .tunnelHTTPSWSS then byRoute
  else match byRoute.find? (fun b => b.routeID == a.routeID) with
    | none => byRoute ++ [a]
    | some current =>
      if ¬ a.connectorID < current.connectorID then byRoute
      else byRoute.map (fun b => if b.routeID = a.routeID then a else b)

variable (sha256 : List UInt8 → List UInt8) (a : RouteAssignment) (assignments : Rows)

def baseRule : RouteRule :=
  { id := a.routeID, revision := a.revision, environment := a.environment, routeID := a.routeID,
    routeGeneration := a.revision, accountID := a.accountID, hostID := a.hostID, tunnelID := a.tunnelID,
    connectorID := a.connectorID, machineIdentityPublicKey := a.machineIdentityPublicKey,
    machineIdentityThumbprint := a.machineIdentityThumbprint, connectorSessionID := a.connectorSessionID,
    connectorProcessGeneration := a.connectorProcessGeneration, configGeneration := a.configGeneration,
    configContentHash := a.configContentHash, assignmentID := a.assignmentID,
    assignmentGeneration := a.assignmentGeneration, resourceKind := "tunnel",
    sessionGeneration := a.generation, node := a.nodeID, edgeProcessEpoch := a.edgeProcessEpoch,
    edgeFailureDomain := a.edgeFailureDomain, kind := a.kind, matchType := a.matchType,
    hostname := if a.matchHostname = "" ∧ a.matchType ≠ matchOneLabelWildcard then a.publicHost
      else a.matchHostname,
    wildcardSuffix := a.wildcardSuffix, pathPrefix := ConnectorProtocol.bytes a.pathPrefix,
    priority := a.priority, target := a.routeID, protocol := a.protocol, originScheme := a.originScheme,
    accessMode := a.accessMode, preserveHost := a.preserveHost, hostOverride := a.hostOverride,
    desiredState := a.desiredState,
    observedState := if a.observedState = "" then "ready" else a.observedState,
    reason := a.previewReason }

/-- The rule of a custom domain of the route. -/
def aliasRule (domain : DomainBinding) : RouteRule := { baseRule a with
    id := a.routeID ++ "@" ++ domain.id, target := a.routeID, revision := domain.generation,
    matchType := domain.matchType,
    hostname := if domain.matchType = matchOneLabelWildcard then "" else domain.hostname,
    wildcardSuffix :=
      if domain.matchType = matchOneLabelWildcard then trimPrefix domain.hostname "*." else "" }

def rulesOf : List RouteRule := baseRule a :: a.domainBindings.map (aliasRule a)

def canonicalRouteRules : List RouteRule := (assignments.foldl electRoute []).flatMap rulesOf

def sortRouteRules (rules : List RouteRule) : List RouteRule := sortBy (fun r => [r.id, r.assignmentID]) rules

def canonicalPrivateRouteRules : List RouteRule :=
  sortRouteRules ((assignments.filter (fun a => a.kind == .tunnelPrivateTCP)).map (fun a =>
    { id := a.routeID, revision := a.revision, assignmentID := a.assignmentID,
      assignmentGeneration := a.assignmentGeneration, accountID := a.accountID, hostID := a.hostID,
      tunnelID := a.tunnelID, connectorID := a.connectorID, connectorSessionID := a.connectorSessionID,
      connectorProcessGeneration := a.connectorProcessGeneration, configGeneration := a.configGeneration,
      machineIdentityPublicKey := a.machineIdentityPublicKey,
      machineIdentityThumbprint := a.machineIdentityThumbprint, configContentHash := a.configContentHash,
      node := a.nodeID, edgeProcessEpoch := a.edgeProcessEpoch, edgeFailureDomain := a.edgeFailureDomain,
      kind := .tunnelPrivateTCP, protocol := a.protocol, accessMode := a.accessMode, target := a.routeID,
      desiredState := a.desiredState, observedState := a.observedState }))

def canonicalTCPRouteRules : List RouteRule :=
  sortRouteRules ((assignments.filter (fun a => a.kind == .tunnelTCP)).map (fun a =>
    { id := a.routeID, routeID := a.routeID, revision := a.revision, routeGeneration := a.revision,
      assignmentID := a.assignmentID, assignmentGeneration := a.assignmentGeneration,
      accountID := a.accountID, hostID := a.hostID, tunnelID := a.tunnelID, connectorID := a.connectorID,
      connectorSessionID := a.connectorSessionID,
      connectorProcessGeneration := a.connectorProcessGeneration, configGeneration := a.configGeneration,
      configContentHash := a.configContentHash, machineIdentityPublicKey := a.machineIdentityPublicKey,
      machineIdentityThumbprint := a.machineIdentityThumbprint, node := a.nodeID,
      edgeProcessEpoch := a.edgeProcessEpoch, edgeFailureDomain := a.edgeFailureDomain, kind := .tunnelTCP,
      protocol := "tcp", accessMode := "public", target := a.routeID,
      publicTCPListenerID := a.publicTCPListenerID, publicTCPPort := a.publicTCPPort,
      desiredState := a.desiredState, observedState := a.observedState }))

/-- The part of `splitCanonicalAssignments` with one kind. -/
def ofKind (kind : Kind) (assignments : Rows) : Rows := assignments.filter (fun a => a.kind == kind)

/-- What `reconcileRoutes` stages for a set of rows. -/
def publishedRules : List RouteRule := sortRouteRules (canonicalRouteRules (ofKind .tunnelHTTPSWSS assignments))

/-! ## Tunnel groups -/

structure CanonicalAssignmentGroup where
  key : String
  assignments : Rows
deriving DecidableEq

def canonicalAssignmentGroupKey : String := a.accountID ++ "\x00" ++ a.tunnelID

def tunnelRows (key : String) : Rows := assignments.filter (fun a => canonicalAssignmentGroupKey a == key)

def canonicalAssignmentGroups : List CanonicalAssignmentGroup :=
  let keys := (assignments.map canonicalAssignmentGroupKey).dedup
  sortBy CanonicalAssignmentGroup.key
    (keys.map (fun key => { key, assignments := sortAssignments (tunnelRows assignments key) }))

/-! ## Admissions -/

/-- The state the snapshot gives an assignment; of several rows the last one counts. -/
def desiredStateOf (desired : Rows) (assignmentID : String) : Option AssignmentState :=
  (desired.reverse.find? (fun a =>
    isCanonicalAssignment a && a.assignmentID != "" && a.assignmentID == assignmentID)).map effectiveState

/-- The last loop of `canonicalPendingAdmissionAssignments`: rows of the previous set that the snapshot still
    lists as active or staged; `selected` are the ids taken so far. -/
def retainPrevious (desired : Rows) : List String → Rows → Rows
  | _, [] => []
  | selected, a :: previous =>
    if a.assignmentID = "" ∨ selected.contains a.assignmentID then retainPrevious desired selected previous
    else match desiredStateOf desired a.assignmentID with
      | some .active | some .staged => a :: retainPrevious desired (a.assignmentID :: selected) previous
      | _ => retainPrevious desired selected previous

def canonicalPendingAdmissionAssignments (candidate previous desired : Rows) : Rows :=
  candidate ++ retainPrevious desired (candidate.map RouteAssignment.assignmentID) previous

def durableAdmission : DurableAdmission :=
  { identity :=
      { accountID := a.accountID, hostID := a.hostID, tunnelID := a.tunnelID, connectorID := a.connectorID,
        sessionID := a.connectorSessionID, processGeneration := a.connectorProcessGeneration,
        generation := a.configGeneration },
    edgeNodeID := a.nodeID, edgeProcessEpoch := a.edgeProcessEpoch, assignmentID := a.assignmentID,
    routeID := a.routeID, assignmentGeneration := a.assignmentGeneration, routeGeneration := a.revision,
    configContentHash := a.configContentHash, machineIdentityPublicKey := a.machineIdentityPublicKey,
    machineIdentityThumbprint := a.machineIdentityThumbprint, state := effectiveState a }

def canonicalDurableAdmissions : Except Route.Error (List DurableAdmission) :=
  assignments.mapM (fun a =>
    match validateCanonicalAssignment sha256 a a.nodeID a.edgeProcessEpoch with
    | some err => .error err
    | none => .ok (durableAdmission a))

/-! ## Reports -/

/-- `RouteObservation`, as the canonical path fills it in. -/
structure RouteObservation where
  routeID : String := ""
  routeRevision : UInt64 := 0
  assignmentID : String := ""
  assignmentGeneration : UInt64 := 0
  (edgeNodeID edgeProcessEpoch connectorID hostID : String := "")
  connectorGeneration : UInt64 := 0
  connectorSessionID : String := ""
  (connectorProcessGeneration configGeneration : UInt64 := 0)
  (configContentHash state observedState : String := "")
deriving DecidableEq

def canonicalRouteObservation (observedState : String) (a : RouteAssignment) : RouteObservation :=
  { routeID := a.routeID, routeRevision := a.revision, assignmentID := a.assignmentID,
    assignmentGeneration := a.assignmentGeneration, edgeNodeID := a.nodeID,
    edgeProcessEpoch := a.edgeProcessEpoch, connectorID := a.connectorID, hostID := a.hostID,
    connectorGeneration := a.generation, connectorSessionID := a.connectorSessionID,
    connectorProcessGeneration := a.connectorProcessGeneration, configGeneration := a.configGeneration,
    configContentHash := a.configContentHash, state := observedState, observedState }

def canonicalRouteObservations (observedState : String) : List RouteObservation :=
  assignments.map (canonicalRouteObservation observedState)

def ids : List String := assignments.map RouteAssignment.assignmentID

def detachedCanonicalAssignments (previous current : Rows) : Rows :=
  previous.filter (fun a => !(ids current).contains a.assignmentID)

/-- The loop of `canonicalSupersededAssignments`. -/
def collectSuperseded (nodeID processEpoch : String) (selectedIDs : List String) :
    List String → Rows → Except Route.Error Rows
  | _, [] => .ok []
  | seen, a :: desired =>
    if ¬ isCanonicalAssignment a then collectSuperseded nodeID processEpoch selectedIDs seen desired
    else match validateCanonicalAssignment sha256 a nodeID processEpoch with
      | some err => .error err
      | none =>
        if (effectiveState a ≠ .active ∧ effectiveState a ≠ .draining)
            ∨ selectedIDs.contains a.assignmentID ∨ seen.contains a.assignmentID then
          collectSuperseded nodeID processEpoch selectedIDs seen desired
        else
          (collectSuperseded nodeID processEpoch selectedIDs (a.assignmentID :: seen) desired).map
            (fun rest => a :: rest)

def canonicalSupersededAssignments (desired selected : Rows) (nodeID processEpoch : String) :
    Except Route.Error Rows :=
  (collectSuperseded sha256 nodeID processEpoch (ids selected) [] desired).map (sortBy RouteAssignment.assignmentID)

/-- The rows of `right` that are not in `seen`, each id once. -/
def unseen : List String → Rows → Rows
  | _, [] => []
  | seen, a :: right =>
    if seen.contains a.assignmentID then unseen seen right else a :: unseen (a.assignmentID :: seen) right

def mergeCanonicalAssignments (left right : Rows) : Rows :=
  if right = [] then left else sortBy RouteAssignment.assignmentID (left ++ unseen (ids left) right)

end PaperboatTunnel.Runtime
