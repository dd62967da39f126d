import PaperboatTunnel.Datacarrier.Carrier
import PaperboatTunnel.Lib.GoNet

/-!
# `Ingress` — decisions of the ingress authority

A decision of the server lets one edge process forward to one route of one connector session for at most ten seconds
(`internal/connectorprotocol/ingress.go`). The binding in it says which route and which target.

What the checks use of `net`, `path` and `strconv`, beyond the split of an address, is a parameter (`AddressLib`).
-/

namespace PaperboatTunnel.ConnectorProtocol

open GoTime GoStrings Datacarrier

def ingressAuthorityLifetime : Duration := 10 * Duration.second
structure IngressBinding where
  (environmentID accountID tunnelID lifecycle : String := "")
  resourceGeneration : UInt64 := 0
  routeID : String := ""
  routeGeneration : UInt64 := 0
  targetID : String := ""
  targetGeneration : UInt64 := 0
  hostID : String := ""
  installationGeneration : UInt64 := 0
  (audience connectionMethod protocol hostname pathPrefix originScheme originAddress : String := "")
  (tlsServerName tlsVerification caReference mtlsCredentialReference publicationID : String := "")
  publicationGeneration : UInt64 := 0
  listenerID : String := ""
  publicPort : UInt16 := 0
deriving DecidableEq

/-- `net.ParseIP(host).IsLoopback()`, `path.IsAbs`, `path.Clean` and `strconv.Atoi`. -/
structure AddressLib where
  (isLoopback isAbs : String → Bool)
  clean : String → String
  atoi : String → Option Int

def badIngressID (id : String) : Bool := (validateIdentifier id).isSome

namespace IngressBinding

/-- The origin is a unix socket with a clean absolute path, or a loopback address with a port. -/
def validOrigin (lib : AddressLib) (b : IngressBinding) : Bool :=
  if b.originScheme == "unix" then
    b.protocol == "http" && b.originAddress.utf8ByteSize ≤ 512 && lib.isAbs b.originAddress
      && lib.clean b.originAddress == b.originAddress && !containsAny b.originAddress ['\x00', '\r', '\n']
  else
    match GoNet.splitHostPort b.originAddress with
    | none => false
    | some (host, port) => (lib.atoi port).any (fun n => 1 ≤ n && n ≤ 65535) && lib.isLoopback host

def validProtocol (b : IngressBinding) : Bool :=
  match b.protocol with
  | "http" =>
    b.listenerID == "" && b.publicPort == 0 && hasPrefix b.pathPrefix "/"
      && !containsAny b.pathPrefix ['?', '#', '\r', '\n'] && ["http", "https", "h2c", "unix"].contains b.originScheme
  | "tcp" =>
    b.audience == "public" && !badIngressID b.listenerID && b.publicPort != 0 && b.pathPrefix == ""
      && b.originScheme == "tcp"
  | _ => false

def validTLS (b : IngressBinding) : Bool :=
  if b.originScheme == "https" then
    b.tlsVerification == "system" || b.tlsVerification == "custom_ca" && b.caReference != ""
  else
    b.tlsVerification == "not_applicable" && b.tlsServerName == "" && b.caReference == ""
      && b.mtlsCredentialReference == ""

/-- `IngressBinding.Validate`; its only error is `ErrIngressDenied`. -/
def validate (lib : AddressLib) (b : IngressBinding) : Bool :=
  !([b.environmentID, b.accountID, b.tunnelID, b.routeID, b.targetID, b.hostID, b.publicationID].any badIngressID)
    && (b.lifecycle == "ephemeral" || b.lifecycle == "durable") && b.connectionMethod == "edge"
    && b.resourceGeneration != 0 && b.routeGeneration != 0 && b.targetGeneration != 0
    && b.installationGeneration != 0 && b.publicationGeneration != 0
    && ["public", "private", "team"].contains b.audience && b.validOrigin lib
    && b.hostname != "" && b.hostname.utf8ByteSize ≤ 253 && b.hostname == toLower b.hostname
    && !containsAny b.hostname [' ', '/', '\\', ':', '@', '\r', '\n']
    && b.validProtocol && b.validTLS

end IngressBinding

structure IngressDecision where
  binding : IngressBinding := {}
  decisionID : String := ""
  policyGeneration : UInt64 := 0
  (edgeNodeID edgeProcessEpoch connectorID sessionID : String := "")
  (processGeneration configGeneration assignmentGeneration : UInt64 := 0)
  (principalID grantID : String := "")
  (grantGeneration membershipGeneration : UInt64 := 0)
  action : String := ""
  (issuedAt expiresAt : Time := {})
deriving DecidableEq

namespace IngressDecision

/-- A public decision names no viewer, a restricted one does. -/
def validGrant (d : IngressDecision) : Bool :=
  if d.binding.audience == "public" then
    d.principalID == "" && d.grantID == "" && d.grantGeneration == 0 && d.membershipGeneration == 0
  else
    !badIngressID d.principalID && !badIngressID d.grantID && d.grantGeneration != 0
      && (d.binding.audience != "team" || d.membershipGeneration != 0)

def validate (lib : AddressLib) (d : IngressDecision) (now : Time) : Bool :=
  d.binding.validate lib && !now.isZero && !d.issuedAt.isZero && !d.issuedAt.after now && d.expiresAt.after now
    && d.expiresAt.sub d.issuedAt ≤ ingressAuthorityLifetime && d.action == "view"
    && !([d.decisionID, d.edgeNodeID, d.connectorID, d.sessionID].any badIngressID)
    && (validateOpaqueEpoch d.edgeProcessEpoch).isNone && d.policyGeneration != 0 && d.processGeneration != 0
    && d.configGeneration != 0 && d.assignmentGeneration != 0 && d.validGrant

/-- What two decisions for the same thing share: all but the id and the two times. -/
def sameAuthority (d e : IngressDecision) : Bool :=
  d.binding == e.binding && d.policyGeneration == e.policyGeneration
    && d.assignmentGeneration == e.assignmentGeneration && d.connectorID == e.connectorID
    && d.sessionID == e.sessionID && d.processGeneration == e.processGeneration
    && d.configGeneration == e.configGeneration && d.edgeNodeID == e.edgeNodeID
    && d.edgeProcessEpoch == e.edgeProcessEpoch && d.principalID == e.principalID && d.grantID == e.grantID
    && d.grantGeneration == e.grantGeneration && d.membershipGeneration == e.membershipGeneration

def authorize (lib : AddressLib) (d authority : IngressDecision) (stream : StreamOpen) (edgeNodeID edgeEpoch : String)
    (now : Time) : Bool :=
  d.validate lib now && authority.validate lib now && stream.validate.isNone && d.sameAuthority authority
    && stream.accountID == authority.binding.accountID && stream.tunnelID == authority.binding.tunnelID
    && stream.routeID == authority.binding.routeID && d.connectorID == stream.connectorID
    && d.sessionID == stream.sessionID && d.processGeneration == stream.processGeneration
    && d.configGeneration == stream.generation && d.edgeNodeID == edgeNodeID && d.edgeProcessEpoch == edgeEpoch

end IngressDecision

/-! ## A decision for the runs on fixed inputs -/

def sampleLib : AddressLib := ⟨fun _ => true, fun _ => true, id, fun _ => some 8080⟩

def sampleBinding : IngressBinding :=
  { environmentID := "env_1", accountID := "acct_1", tunnelID := "tunnel_1", lifecycle := "durable",
    resourceGeneration := 1, routeID := "route_1", routeGeneration := 1, targetID := "target_1", targetGeneration := 1,
    hostID := "host_1", installationGeneration := 1, audience := "public", connectionMethod := "edge",
    protocol := "tcp", hostname := "app.example.com", originScheme := "tcp", originAddress := "127.0.0.1:8080",
    tlsVerification := "not_applicable", publicationID := "pub_1", publicationGeneration := 1,
    listenerID := "listener_1", publicPort := 20000 }

/-- Issued after this many seconds, for ten seconds. -/
def sampleDecision (seconds : Int) : IngressDecision :=
  { binding := sampleBinding, decisionID := "decision_1", policyGeneration := 1, edgeNodeID := "edge_1",
    edgeProcessEpoch := "epoch_0001", connectorID := "connector_1", sessionID := "session_1", processGeneration := 1,
    configGeneration := 1, assignmentGeneration := 1, action := "view", issuedAt := ⟨seconds * Duration.second, 0⟩,
    expiresAt := ⟨(seconds + 10) * Duration.second, 0⟩ }

end PaperboatTunnel.ConnectorProtocol
