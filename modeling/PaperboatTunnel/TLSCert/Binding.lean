import PaperboatTunnel.Lib.Checks
import PaperboatTunnel.Lib.GoNet
import PaperboatTunnel.Lib.GoTime

/-!
# `Binding` — what a certificate is bound to

A binding names the owner of a certificate, its hostname, the edge process it is for, and three generations. It is valid
only with a hostname in canonical form. Punycode (`idna.Lookup.ToASCII`) is the parameter `toASCII`, and nothing is
assumed about it.
-/

namespace PaperboatTunnel.TLSCert

open GoTime GoStrings

/-- The errors of the package, with the text that is wrapped around them. -/
inductive Error where
  | invalid (text : String)
  | certificateInvalid (text : String)
  | generationConflict (text : String := "")
  | hostnameConflict (host : String)
  | notReady
  | replacementNotReady
  | certificateExpired
  | certificateMissing
  | closed
  | distributionInvalid (text : String := "")
  | distributionAuth
  /-- The error of a context that is done. -/
  | context
deriving DecidableEq

inductive TargetKind where
  | unset
  | durableRoute
  | previewLease
  | platformWildcard
  | unknown (text : String)
deriving DecidableEq

def TargetKind.text : TargetKind → String
  | .unset => ""
  | .durableRoute => "durable_route"
  | .previewLease => "preview_lease"
  | .platformWildcard => "platform_wildcard"
  | .unknown text => text

def validIdentifier (value : String) : Bool :=
  !(decide (value.utf8ByteSize < 3) || decide (128 < value.utf8ByteSize) || trimSpace value != value
      || containsAny value ['\r', '\n', '\x00'])
    && value.toList.all (fun c => c.isUpper || c.isLower || c.isDigit || c == '_' || c == '-' || c == '.')

def validEpoch (value : String) : Bool :=
  !(decide (value.utf8ByteSize < 8) || decide (128 < value.utf8ByteSize) || trimSpace value != value)
    && value.toList.all (fun c => c.isUpper || c.isLower || c.isDigit || c == '_' || c == '-')

/-! ## Hostnames -/

def lowerAlnum (c : Char) : Bool := c.isLower || c.isDigit

/-- `[a-z0-9](?:[a-z0-9-]{0,61}[a-z0-9])?` -/
def dnsLabel (label : List Char) : Bool :=
  decide (1 ≤ label.length) && decide (label.length ≤ 63) && label.all (fun c => lowerAlnum c || c == '-')
    && label.head?.any lowerAlnum && label.getLast?.any lowerAlnum

/-- `dnsNamePattern`: at least two labels. -/
def dnsNamePattern (name : String) : Bool :=
  let labels := name.toList.splitOn '.'
  decide (2 ≤ labels.length) && labels.all dnsLabel

def hostnameInvalid : Error := .invalid "hostname is invalid"

/-- `normalizeHostname`: the canonical hostname, and whether it is a wildcard. -/
def normalizeHostname (toASCII : String → Option String) (raw : String) : Except Error (String × Bool) :=
  let host := toLower (trimSuffix (trimSpace raw) ".")
  if host = "" ∨ host.utf8ByteSize > 253 ∨ containsAny host ['/', ':', '@', '?', '#', '\r', '\n', '\x00'] then
    .error hostnameInvalid
  else
    let wildcard := hasPrefix host "*."
    match toASCII (if wildcard then trimPrefix host "*." else host) with
    | none => .error hostnameInvalid
    | some ascii =>
      let base := toLower (trimSuffix ascii ".")
      let host := if wildcard then "*." ++ base else base
      if containsChar base '*' || GoNet.isIP base || !dnsNamePattern base then .error hostnameInvalid
      else if wildcard && decide (count base '.' < 1) then .error (.invalid "wildcard hostname is invalid")
      else if !wildcard && !dnsNamePattern host then .error hostnameInvalid
      else .ok (host, wildcard)

/-! ## Targets and bindings -/

structure CertificateTarget where
  kind : TargetKind
  (domainID accountID tunnelID routeID previewID : String)
  previewGeneration : UInt64
  previewState : String
  previewExpiresAt : Time

namespace CertificateTarget

variable (t : CertificateTarget)

def normalizedKind : TargetKind :=
  if t.kind ≠ .unset then t.kind
  else if t.previewID ≠ "" ∨ t.previewGeneration ≠ 0 then .previewLease
  else .durableRoute

/-- The target has none of the fields of a preview. -/
def noPreview : Bool :=
  t.previewID == "" && t.previewGeneration == 0 && t.previewState == "" && t.previewExpiresAt.isZero

def validate : Option Error :=
  if !validIdentifier t.domainID || !validIdentifier t.accountID then some (.invalid "target identity is invalid")
  else
    match t.normalizedKind with
    | .durableRoute =>
      if !validIdentifier t.tunnelID then some (.invalid "durable target tunnel is invalid")
      else if decide (t.kind ≠ .unset) && !validIdentifier t.routeID then
        some (.invalid "durable target route is invalid")
      else if !t.noPreview then some (.invalid "durable target contains preview identity")
      else none
    | .previewLease =>
      if t.tunnelID ≠ "" ∨ t.routeID ≠ "" ∨ validIdentifier t.previewID = false ∨ t.previewGeneration = 0
          ∨ t.previewState ≠ "active" ∨ t.previewExpiresAt.isZero = true then
        some (.invalid "preview target identity is invalid")
      else none
    | .platformWildcard =>
      if t.tunnelID ≠ "" ∨ t.routeID ≠ "" ∨ t.noPreview = false then
        some (.invalid "platform wildcard target contains route or lease identity")
      else none
    | _ => some (.invalid "target kind is invalid")

def key : String := "\x00".intercalate
    [t.normalizedKind.text, t.domainID, t.accountID, t.tunnelID, t.routeID, t.previewID, toString t.previewGeneration]

end CertificateTarget

structure Binding where
  (accountID tunnelID domainID hostname : String)
  targetKind : TargetKind
  (routeID previewID : String)
  previewGeneration : UInt64
  previewState : String
  previewExpiresAt : Time
  onDemandLeaf : Bool
  (domainGeneration certificateGeneration : UInt64)
  (edgeNodeID edgeProcessEpoch : String)
  assignmentGeneration : UInt64
deriving DecidableEq

namespace Binding

def target (b : Binding) : CertificateTarget where
  kind := b.targetKind
  domainID := b.domainID
  accountID := b.accountID
  tunnelID := b.tunnelID
  routeID := b.routeID
  previewID := b.previewID
  previewGeneration := b.previewGeneration
  previewState := b.previewState
  previewExpiresAt := b.previewExpiresAt

def isPreview (b : Binding) : Bool := b.target.normalizedKind == .previewLease

/-- `validate`: the canonical hostname, and whether it is a wildcard. When both names of the edge are bad, the source
    may name either. -/
def validate (toASCII : String → Option String) (b : Binding) : Except Error (String × Bool) :=
  match b.target.validate with
  | some e => .error e
  | none =>
    if !validIdentifier b.edgeNodeID then .error (.invalid "edge_node_id")
    else if !validEpoch b.edgeProcessEpoch then .error (.invalid "edge_process_epoch")
    else if b.domainGeneration = 0 ∨ b.certificateGeneration = 0 ∨ b.assignmentGeneration = 0 then
      .error (.invalid "generations are required")
    else
      match normalizeHostname toASCII b.hostname with
      | .error e => .error e
      | .ok (host, wildcard) =>
        if b.hostname ≠ host then .error (.invalid "hostname must be canonical")
        else if b.onDemandLeaf && !wildcard then
          .error (.invalid "on-demand policy requires a wildcard parent")
        else if decide (b.target.normalizedKind = .platformWildcard) && (!wildcard || b.onDemandLeaf) then
          .error (.invalid "platform wildcard target requires a non-on-demand wildcard hostname")
        else .ok (host, wildcard)

theorem hostname_of_validate {toASCII : String → Option String} {b : Binding} {host : String} {wildcard : Bool}
    (h : b.validate toASCII = .ok (host, wildcard)) : b.hostname = host := by
  unfold validate at h
  split at h
  · cases h
  simp only [Checks.ok_iff] at h
  obtain ⟨_, _, _, h⟩ := h
  split at h
  · cases h
  simp only [Checks.ok_iff, ne_eq, not_not] at h
  obtain ⟨hsame, _, _, heq⟩ := h
  cases heq
  exact hsame

end Binding

def bindingKey (b : Binding) : String := "\x00".intercalate
    [b.target.key, b.hostname, toString b.onDemandLeaf, b.edgeNodeID, b.edgeProcessEpoch, toString b.domainGeneration,
      toString b.certificateGeneration, toString b.assignmentGeneration]

def hostKey (host : String) (wildcard : Bool) : String := if wildcard then "w:" ++ host else "e:" ++ host

end PaperboatTunnel.TLSCert
