import PaperboatTunnel.Datacarrier.Replacement
import PaperboatTunnel.Route.Generations

/-!
# `Assignments` — the desired assignments of an edge

`RouteAssignment` of `internal/control/contracts.go` and what `internal/runtime/workers.go` makes of a list of
them before it touches any state: the check of one row, the selection among rows for the same route and
connector, and the content hash that change detection compares.

`RouteCodec` holds punycode, SHA-256, and the digest of the JSON document of the hashed rows. Rows that compare as equal
in a sort (one assignment id under two connectors) keep the order of the snapshot, where Go leaves it to the iteration
over a map.
-/

namespace PaperboatTunnel.Runtime

open GoStrings ConnectorProtocol Datacarrier Route

/-! ## Rows -/

structure DomainBinding where
  (id hostname matchType : String := "")
  generation : UInt64 := 0
deriving DecidableEq

/-- `RouteAssignment`. Only the retained legacy projection reads `PreviewState`, which is left out. -/
structure RouteAssignment where
  routeID : String := ""
  revision : UInt64 := 0
  (environment accountID hostID machineIdentityPublicKey machineIdentityThumbprint tunnelID : String := "")
  connectorID : String := ""
  generation : UInt64 := 0
  connectorSessionID : String := ""
  (connectorProcessGeneration configGeneration : UInt64 := 0)
  (configContentHash assignmentID : String := "")
  assignmentGeneration : UInt64 := 0
  (edgeFailureDomain edgeProcessEpoch nodeID : String := "")
  kind : Kind := .unset
  (publicHost matchType matchHostname wildcardSuffix pathPrefix : String := "")
  priority : Int := 0
  (protocol publicTCPListenerID : String := "")
  publicTCPPort : UInt16 := 0
  (originScheme accessMode originAddress : String := "")
  preserveHost : Bool := false
  hostOverride : String := ""
  domainBindings : List DomainBinding := []
  state : AssignmentState := .unset
  (desiredState observedState targetHost : String := "")
  targetPort : UInt16 := 0
  (targetRouteID targetConnectorSessionID : String := "")
  (targetConnectorProcessGen targetConfigGeneration : UInt64 := 0)
  previewReason : String := ""
  canonical : Bool := false
deriving DecidableEq

abbrev Rows := List RouteAssignment

variable (sha256 : List UInt8 → List UInt8) (a : RouteAssignment)

def isCanonicalAssignment : Bool :=
  a.canonical || a.assignmentID != "" || a.kind == .tunnelHTTPSWSS || a.kind == .tunnelTCP
    || a.kind == .tunnelPrivateTCP || a.configContentHash != ""

/-- The state of a row, with the default the worker reads an empty one as. -/
def effectiveState : AssignmentState := if a.state = .unset then .active else a.state

def sortAssignments (assignments : Rows) : Rows := sortBy (fun a => [a.routeID, a.assignmentID]) assignments

/-! ## The check of one row -/

/-- `hex.DecodeString` accepts a text of these bytes: hexadecimal digits, an even number of them. -/
def hexDecodable (value : List UInt8) : Bool := value.length % 2 == 0
    && value.all (fun b => (48 ≤ b && b ≤ 57) || (97 ≤ b && b ≤ 102) || (65 ≤ b && b ≤ 70))

/-- One binding of `validateDomainBindings`, apart from the comparison with the others. -/
def badDomainBinding (b : DomainBinding) : Bool :=
  if (validateIdentifier b.id).isSome || b.generation == 0 || b.hostname == ""
      || b.hostname != toLower b.hostname || hasSuffix b.hostname "."
      || containsAny b.hostname ['/', ':', '@', '\r', '\n', '\x00'] then true
  else
    let badHostname (hostname : String) : Bool :=
      GoNet.isIP hostname || hostname.utf8ByteSize > 253 || hasPrefix hostname "."
        || containsList hostname.toList ['.', '.']
    if b.matchType = matchExact then containsChar b.hostname '*' || badHostname b.hostname
    else if b.matchType = matchOneLabelWildcard then
      !hasPrefix b.hostname "*." || containsChar (trimPrefix b.hostname "*.") '*'
        || badHostname (trimPrefix b.hostname "*.")
    else true

def validateDomainBindings (bindings : List DomainBinding) : Option Route.Error :=
  if bindings.length > 256 ∨ bindings.any badDomainBinding ∨ ¬ (bindings.map DomainBinding.id).Nodup
      ∨ ¬ (bindings.map DomainBinding.hostname).Nodup then
    some .invalid
  else none

def badIdentifier (value : String) : Bool := value == "" || (validateIdentifier value).isSome

/-- The key check of `validateCanonicalAssignment`. -/
def badMachineKey : Bool :=
  match GoBase64.decode (bytes a.machineIdentityPublicKey) with
  | none => true
  | some publicKey =>
    if publicKey.length ≠ publicKeySize then true
    else match identityThumbprint sha256 publicKey with
      | .error _ => true
      | .ok thumbprint => thumbprint != bytes a.machineIdentityThumbprint

/-- What `validateCanonicalAssignment` asks of each kind of route. -/
def validateKind : Option Route.Error :=
  match a.kind with
  | .tunnelHTTPSWSS =>
    if ¬ ["public", "private", "team"].contains a.accessMode ∨ a.publicHost = "" ∨ a.matchType = ""
        ∨ a.protocol = "" then
      some .invalid
    else if a.matchType = matchManagedExact
        ∧ ¬ validOpaqueTunnelHostname (if a.matchHostname = "" then a.publicHost else a.matchHostname) then
      some .invalid
    else validateDomainBindings a.domainBindings
  | .tunnelTCP =>
    if a.accessMode ≠ "public" ∨ a.protocol ≠ "tcp" ∨ a.publicHost = ""
        ∨ a.matchType ≠ matchManagedExact ∨ a.pathPrefix ≠ "" ∨ a.originScheme ≠ "tcp"
        ∨ a.hostOverride ≠ "" ∨ a.preserveHost ∨ a.domainBindings.length ≠ 0 then
      some .invalid
    else none
  | .tunnelPrivateTCP =>
    if a.accessMode ≠ "private" ∨ a.protocol ≠ "private_tcp" ∨ a.publicHost ≠ "" ∨ a.matchType ≠ ""
        ∨ a.matchHostname ≠ "" ∨ a.wildcardSuffix ≠ "" ∨ a.pathPrefix ≠ "" ∨ a.priority ≠ 0
        ∨ a.hostOverride ≠ "" ∨ a.preserveHost ∨ a.domainBindings.length ≠ 0 then
      some .invalid
    else none
  | _ => some .invalid

def validateCanonicalAssignment (nodeID processEpoch : String) : Option Route.Error :=
  if badIdentifier a.assignmentID ∨ badIdentifier a.routeID ∨ badIdentifier a.accountID
      ∨ badIdentifier a.hostID ∨ a.machineIdentityPublicKey = "" ∨ a.machineIdentityThumbprint = ""
      ∨ badIdentifier a.tunnelID ∨ badIdentifier a.connectorID ∨ badIdentifier a.connectorSessionID
      ∨ a.nodeID ≠ nodeID ∨ a.edgeProcessEpoch ≠ processEpoch
      ∨ (validateOpaqueEpoch a.edgeProcessEpoch).isSome ∨ a.assignmentGeneration = 0 ∨ a.revision = 0
      ∨ a.generation = 0 ∨ a.connectorProcessGeneration = 0 ∨ a.configGeneration = 0
      ∨ a.originAddress ≠ "" ∨ a.targetHost ≠ "" ∨ a.targetPort ≠ 0 then
    some .invalid
  else if badMachineKey sha256 a then some .invalid
  else if a.targetRouteID ≠ "" ∧ a.targetRouteID ≠ a.routeID then some .invalid
  else if a.targetConnectorSessionID ≠ "" ∧ a.targetConnectorSessionID ≠ a.connectorSessionID then
    some .invalid
  else if a.targetConnectorProcessGen ≠ 0 ∧ a.targetConnectorProcessGen ≠ a.connectorProcessGeneration then
    some .invalid
  else if a.targetConfigGeneration ≠ 0 ∧ a.targetConfigGeneration ≠ a.configGeneration then some .invalid
  else if a.configContentHash.utf8ByteSize ≠ "sha256:".utf8ByteSize + 64
      ∨ ¬ (bytes "sha256:").isPrefixOf (bytes a.configContentHash) then
    some .invalid
  else if ¬ hexDecodable ((bytes a.configContentHash).drop (bytes "sha256:").length) then some .invalid
  else if a.edgeFailureDomain = "" then some .invalid
  else match validateKind a with
    | some err => some err
    | none => if a.state = .unknown then some .invalid else none

/-- One turn of the loop of `selectCanonicalAssignments`; `selected` has one row for each route and
    connector. -/
def selectAssignment (nodeID processEpoch : String) (selected : Rows) (a : RouteAssignment) :
    Except Route.Error Rows :=
  if ¬ isCanonicalAssignment a then .ok selected
  else match validateCanonicalAssignment sha256 a nodeID processEpoch with
    | some err => .error err
    | none =>
      let state := effectiveState a
      let sameKey (b : RouteAssignment) : Bool := b.routeID == a.routeID && b.connectorID == a.connectorID
      let put := selected.map (fun b => if sameKey b then a else b)
      if state = .draining ∨ state = .detached then .ok selected
      else if state ≠ .staged ∧ state ≠ .active then .error .invalid
      else match selected.find? sameKey with
        | none => .ok (selected ++ [a])
        | some current =>
          let currentState := effectiveState current
          if current.assignmentID = a.assignmentID then
            if currentState = .active ∧ state = .staged then .ok put else .ok selected
          else if currentState = .active ∧ state = .staged then .ok put
          else if currentState = .staged ∧ state = .active then .ok selected
          else .error .matchConflict

def selectCanonicalAssignments (desired : Rows) (nodeID processEpoch : String) : Except Route.Error Rows :=
  (desired.foldlM (selectAssignment sha256 nodeID processEpoch) []).map sortAssignments

/-! ## The content hash -/

/-- The fields of a row that `canonicalRouteHash` covers. -/
structure ImmutableAssignment where
  assignmentID : String
  assignmentGeneration : UInt64
  routeID : String
  routeRevision : UInt64
  (accountID hostID machineIdentityPublicKey machineIdentityThumbprint tunnelID connectorID : String)
  connectorGeneration : UInt64
  connectorSessionID : String
  (connectorProcessGeneration configGeneration : UInt64)
  (configContentHash edgeNodeID edgeProcessEpoch edgeFailureDomain : String)
  kind : Kind
  (publicHost matchType matchHostname wildcardSuffix pathPrefix : String)
  priority : Int
  (protocol originScheme accessMode : String)
  preserveHost : Bool
  (hostOverride targetRouteID targetConnectorSessionID : String)
  (targetConnectorProcessGen targetConfigGeneration : UInt64)
  domainBindings : List DomainBinding
deriving DecidableEq

def canonicalDomainBindings (bindings : List DomainBinding) : List DomainBinding :=
  sortBy (fun b => [b.hostname, b.id]) bindings

def immutableAssignment : ImmutableAssignment :=
  { assignmentID := a.assignmentID, assignmentGeneration := a.assignmentGeneration, routeID := a.routeID,
    routeRevision := a.revision, accountID := a.accountID, hostID := a.hostID,
    machineIdentityPublicKey := a.machineIdentityPublicKey,
    machineIdentityThumbprint := a.machineIdentityThumbprint, tunnelID := a.tunnelID,
    connectorID := a.connectorID, connectorGeneration := a.generation,
    connectorSessionID := a.connectorSessionID,
    connectorProcessGeneration := a.connectorProcessGeneration, configGeneration := a.configGeneration,
    configContentHash := a.configContentHash, edgeNodeID := a.nodeID,
    edgeProcessEpoch := a.edgeProcessEpoch, edgeFailureDomain := a.edgeFailureDomain, kind := a.kind,
    publicHost := a.publicHost, matchType := a.matchType, matchHostname := a.matchHostname,
    wildcardSuffix := a.wildcardSuffix, pathPrefix := a.pathPrefix, priority := a.priority,
    protocol := a.protocol, originScheme := a.originScheme, accessMode := a.accessMode,
    preserveHost := a.preserveHost, hostOverride := a.hostOverride, targetRouteID := a.targetRouteID,
    targetConnectorSessionID := a.targetConnectorSessionID,
    targetConnectorProcessGen := a.targetConnectorProcessGen,
    targetConfigGeneration := a.targetConfigGeneration,
    domainBindings := canonicalDomainBindings a.domainBindings }

/-- `idna.Lookup.ToASCII`, SHA-256, and the SHA-256 digest of the JSON document of hashed rows. -/
structure RouteCodec (Digest : Type) where
  toASCII : ToASCII
  sha256 : List UInt8 → List UInt8
  digest : List ImmutableAssignment → Digest

def canonicalRouteHash {Digest : Type} (codec : RouteCodec Digest) (assignments : Rows) : Digest :=
  codec.digest (sortBy (fun a => [a.routeID, a.assignmentID]) (assignments.map immutableAssignment))

end PaperboatTunnel.Runtime
