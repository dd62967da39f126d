import PaperboatTunnel.Lib.Transition
import PaperboatTunnel.Datacarrier.DurableAdmission
import Mathlib.Data.List.AList

/-!
# `ExpectedAdmission` — the preview admissions of the edge

`ExpectedAdmissionRegistry` of `internal/datacarrier/admission.go`. A pull from the control plane is staged by
`InstallPending`, acknowledged by `MarkAdmitted` and made the complete set by `Commit`; a stream is authorized by an
admitted entry only. Entries are filed under the operation id and the route id, joined by a NUL byte.

SHA-256 and the parser of URLs are parameters. Only in `AuthorizeStream` does the order of a map matter; it is an
argument there.
-/

namespace PaperboatTunnel.Datacarrier

open GoTime ConnectorProtocol TransitionSystem GoStrings

/-! ## Admissions -/

def previewCarrierSchema : String := "paperboat.preview-tunnel/v1"
def previewCarrierKind : String := "preview_carrier_attachment"

/-- Who may reach a preview; `unset` is the empty text and `unknown` any text outside the vocabulary. -/
inductive AccessMode where
  | unset | publicAccess | privateAccess | unknown
deriving DecidableEq

/-- `PreviewCarrierRoute` and `PreviewCarrierPrivateRoute`, and other texts as above. -/
inductive RouteKind where
  | unset | publicRoute | privateRoute | unknown
deriving DecidableEq

structure ExpectedAdmission where
  (schema kind edgeNodeID previewID operationID ownerDeviceID ownerSessionID : String := "")
  identity : Identity := {}
  (leaseGeneration configGeneration : UInt64 := 0)
  (configContentHash routeID edgeProcessEpoch edgeCarrierServerSPKISHA256 : String := "")
  edgeCarrierServerCertificateChainPEM : String := ""
  accessMode : AccessMode := .unset
  routeKind : RouteKind := .unset
  hostname : String := ""
  (routeRevision attachmentGeneration : UInt64 := 0)
  endpoint : String := ""
  expiresAt : Time := {}
  (machineIdentityPublicKey machineIdentityThumbprint : String := "")
  admitted : Bool := false
deriving DecidableEq

/-- What `url.Parse` says of an endpoint; `hostname` is the result of `Hostname()`. -/
structure ParsedURL where
  (scheme host hostname : String := "")
  user : Bool := false
  (rawQuery fragment : String := "")
deriving DecidableEq

/-- The external functions that the checks call. -/
structure Externals where
  sha256 : List UInt8 → List UInt8
  parseURL : String → Option ParsedURL

def hexByte (b : UInt8) : Bool := lowerHexByte b || (code 'A' ≤ b && b ≤ code 'F')

def validHostLabel (label : String) : Bool :=
  label != "" && label.utf8ByteSize ≤ 63 && label.toList.head? != some '-' && label.toList.getLast? != some '-'
    && label.toList.all (fun c => c == '-' || ('a' ≤ c && c ≤ 'z') || ('0' ≤ c && c ≤ '9'))

def validAdmissionHost (value : String) : Bool :=
  let host := toLower (trimSuffix (trimSpace value) ".")
  host != "" && host.utf8ByteSize ≤ 253 && !containsAny host ['/', ':', '@', '[', ']', ' ', '\t', '\r', '\n']
    && (split host '.').all validHostLabel

namespace ExpectedAdmission

variable (ext : Externals) (a : ExpectedAdmission)

def validateEndpoint (value hostname : String) : Option Error :=
  let bad := some (.admissionNotExpected "endpoint does not bind the admitted hostname")
  match ext.parseURL value with
  | none => bad
  | some parsed =>
    if (parsed.scheme ≠ "https" ∧ parsed.scheme ≠ "http") ∨ parsed.host = "" ∨ parsed.user
        ∨ parsed.rawQuery ≠ "" ∨ parsed.fragment ≠ ""
        ∨ ¬ equalFold (trimSuffix parsed.hostname ".") (trimSuffix hostname ".") then
      bad
    else none

/-- `decodeMachinePublicKey`; the callers only use its error. -/
def checkMachinePublicKey (value thumbprint : String) : Option Error :=
  match GoBase64.decode (bytes value) with
  | none => some (.admissionNotExpected "machine public key is invalid")
  | some key =>
    if key.length ≠ publicKeySize then some (.admissionNotExpected "machine public key is invalid")
    else if bytes thumbprint ≠ bytes "sha256:" ++ GoBase64.encode (ext.sha256 key) then
      some (.expectedConflict "machine key thumbprint does not match")
    else none

/-- The identifiers that must be present, each with the name it has in the error. Go reports one of the invalid ones,
    the model the first. -/
def identifiers : List (String × String) :=
  [("preview_id", a.previewID), ("operation_id", a.operationID), ("route_id", a.routeID),
    ("owner_device_id", a.ownerDeviceID), ("owner_session_id", a.ownerSessionID)]

def validPin (value : String) : Bool :=
  match afterLiteral "sha256:" value with
  | none => false
  | some digest => digest.length == 64 && digest.all hexByte

def validate (now : Time) (nodeID : String) : Option Error :=
  if a.schema ≠ previewCarrierSchema ∨ a.kind ≠ previewCarrierKind then
    some (.admissionNotExpected "schema or kind is invalid")
  else if nodeID = "" ∨ a.edgeNodeID ≠ nodeID ∨ (validateIdentifier a.edgeNodeID).isSome
      ∨ (validateOpaqueEpoch a.edgeProcessEpoch).isSome then
    some (.admissionNotExpected "edge node binding is invalid")
  else match a.identifiers.find? (fun entry => entry.2 == "" || (validateIdentifier entry.2).isSome) with
    | some entry => some (.admissionNotExpected (entry.1 ++ " is invalid"))
    | none =>
      if a.identity.validate.isSome then some (.admissionNotExpected "carrier identity is invalid")
      else if a.identity.hostID ≠ a.ownerDeviceID then
        some (.expectedConflict "host and owner device differ")
      else if a.leaseGeneration = 0 ∨ a.configGeneration = 0 ∨ a.routeRevision = 0 ∨ a.attachmentGeneration = 0 then
        some (.admissionNotExpected "generations must be positive")
      else if a.accessMode ≠ .publicAccess ∧ a.accessMode ≠ .privateAccess then
        some (.admissionNotExpected "access mode is invalid")
      else if a.routeKind ≠ (if a.accessMode = .privateAccess then .privateRoute else .publicRoute)
          ∨ ¬ validAdmissionHost a.hostname then
        some (.admissionNotExpected "route binding is invalid")
      else match validateEndpoint ext a.endpoint a.hostname with
        | some err => some err
        | none =>
          if ¬ hashPattern a.configContentHash then
            some (.admissionNotExpected "config content hash is invalid")
          else if ¬ validPin a.edgeCarrierServerSPKISHA256 then
            some (.admissionNotExpected "edge carrier SPKI pin is invalid")
          else if a.edgeCarrierServerCertificateChainPEM.utf8ByteSize = 0
              ∨ a.edgeCarrierServerCertificateChainPEM.utf8ByteSize > 65536 then
            some (.admissionNotExpected "edge carrier certificate chain is invalid")
          else if a.expiresAt.isZero ∨ ¬ a.expiresAt.after now then some .expectedExpired
          else checkMachinePublicKey ext a.machineIdentityPublicKey a.machineIdentityThumbprint

def key : String := a.operationID ++ "\x00" ++ a.routeID

/-- `exactEqual`: all fields but `admitted`, and the expiry as an instant. -/
def exactEqual (a b : ExpectedAdmission) : Bool :=
  a.schema == b.schema && a.kind == b.kind && a.edgeNodeID == b.edgeNodeID && a.edgeProcessEpoch == b.edgeProcessEpoch
    && a.edgeCarrierServerSPKISHA256 == b.edgeCarrierServerSPKISHA256
    && a.edgeCarrierServerCertificateChainPEM == b.edgeCarrierServerCertificateChainPEM
    && a.previewID == b.previewID && a.operationID == b.operationID && a.ownerDeviceID == b.ownerDeviceID
    && a.ownerSessionID == b.ownerSessionID && a.identity == b.identity
    && a.leaseGeneration == b.leaseGeneration && a.configGeneration == b.configGeneration
    && a.configContentHash == b.configContentHash && a.routeID == b.routeID && a.accessMode == b.accessMode
    && a.routeKind == b.routeKind && a.hostname == b.hostname && a.routeRevision == b.routeRevision
    && a.attachmentGeneration == b.attachmentGeneration && a.endpoint == b.endpoint
    && a.expiresAt.equal b.expiresAt && a.machineIdentityPublicKey == b.machineIdentityPublicKey
    && a.machineIdentityThumbprint == b.machineIdentityThumbprint

def identityEqual (a b : ExpectedAdmission) : Bool :=
  a.identity == b.identity && a.machineIdentityPublicKey == b.machineIdentityPublicKey
    && a.machineIdentityThumbprint == b.machineIdentityThumbprint

/-- The durable fields, as `exactEqual` compares them. -/
def durable : ExpectedAdmission := { a with admitted := false, expiresAt := a.expiresAt.utc }

theorem exactEqual_iff {a b : ExpectedAdmission} : a.exactEqual b = true ↔ a.durable = b.durable := by
  obtain ⟨⟩ := a
  obtain ⟨⟩ := b
  simp only [exactEqual, durable, Time.equal, Time.utc, Bool.and_eq_true, beq_iff_eq, mk.injEq, Time.mk.injEq,
    and_true]
  tauto

end ExpectedAdmission

/-! ## The registry -/

def maxExpectedAdmissions : Int := 4096

abbrev AdmissionMap := AList (fun _ : String => ExpectedAdmission)

/-- The registry; the channel that wakes the waiting readers is left out. -/
structure ExpectedAdmissionRegistry where
  (nodeID processEpoch : String)
  maximum : Nat
  closed : Bool := false
  (byKey pending : AdmissionMap := ∅)
deriving DecidableEq

/-- `PrivateAccessDecision`, which the context of a stream may carry. -/
structure PrivateAccessDecision where
  allowed : Bool := false
  expiresAt : Time := {}
  (resourceID routeID operationID carrierSessionID : String := "")
  (routeGeneration processGeneration configGeneration : UInt64 := 0)
  protocol : String := ""
deriving DecidableEq

/-- The decision is one for the admission. -/
def PrivateAccessDecision.covers (decision : PrivateAccessDecision) (a : ExpectedAdmission) (now : Time) : Bool :=
  decision.allowed && !decision.expiresAt.isZero && decision.expiresAt.after now
    && decision.resourceID == a.previewID && decision.routeID == a.routeID
    && decision.operationID == a.operationID && decision.carrierSessionID == a.identity.sessionID
    && decision.routeGeneration == a.routeRevision
    && decision.processGeneration == a.identity.processGeneration
    && decision.configGeneration == a.identity.generation
    && (decision.protocol == "http" || decision.protocol == "tcp")

namespace ExpectedAdmissionRegistry

variable (ext : Externals) (r : ExpectedAdmissionRegistry) (a : ExpectedAdmission)

/-- `NewExpectedAdmissionRegistry`. -/
def new (nodeID processEpoch : String) (maximumAdmissions : Int) : Except Error ExpectedAdmissionRegistry :=
  let maximum := if maximumAdmissions = 0 then maxExpectedAdmissions else maximumAdmissions
  if (validateIdentifier nodeID).isSome ∨ (validateOpaqueEpoch processEpoch).isSome ∨ maximum < 1
      ∨ maximum > maxExpectedAdmissions then .error .invalidConfig
  else .ok { nodeID, processEpoch, maximum := maximum.toNat }

/-- In `Replace` an admission of the same generations keeps whether its entry is admitted. -/
def renewed : ExpectedAdmission :=
  match r.byKey.lookup a.key with
  | none => a
  | some old =>
    if old.identityEqual a && old.attachmentGeneration == a.attachmentGeneration
        && old.leaseGeneration == a.leaseGeneration && old.routeRevision == a.routeRevision then
      { a with admitted := old.admitted }
    else a

/-- The loop of `Replace`; `next` has the admissions of the turns before. -/
def collect (now : Time) : AdmissionMap → List ExpectedAdmission → Except Error AdmissionMap
  | next, [] => .ok next
  | next, a :: rest =>
    match a.validate ext now r.nodeID with
    | some err => .error err
    | none =>
      if a.edgeProcessEpoch ≠ r.processEpoch then .error (.expectedConflict "edge process epoch is stale")
      else if (next.lookup a.key).isSome then .error (.expectedConflict "duplicate operation and route")
      else collect now (next.insert a.key (r.renewed a)) rest

variable (admissions : List ExpectedAdmission)

def replace (now : Time) : ExpectedAdmissionRegistry × Option Error :=
  if admissions.length > r.maximum then (r, some (.expectedConflict "too many admissions"))
  else match r.collect ext now ∅ admissions with
    | .error err => (r, some err)
    | .ok next => if r.closed then (r, some .carrierClosed) else ({ r with byKey := next, pending := ∅ }, none)

def upsert (now : Time) : ExpectedAdmissionRegistry × Option Error :=
  match a.validate ext now r.nodeID with
  | some err => (r, some err)
  | none =>
    if a.edgeProcessEpoch ≠ r.processEpoch then (r, some (.expectedConflict "edge process epoch is stale"))
    else if r.closed then (r, some .carrierClosed)
    else if r.byKey.lookup a.key = some a then (r, none)
    else if (r.byKey.lookup a.key).any (fun current => a.attachmentGeneration < current.attachmentGeneration) then
      (r, some (.expectedConflict "attachment generation regressed"))
    else if (r.byKey.lookup a.key).isNone ∧ r.byKey.entries.length ≥ r.maximum then
      (r, some (.expectedConflict "admission capacity reached"))
    else ({ r with byKey := r.byKey.insert a.key a }, none)

/-- The loop of `InstallPending` over the pulled admissions; `next` has those of the turns before. -/
def stage (now : Time) : AdmissionMap → List ExpectedAdmission → Except Error AdmissionMap
  | next, [] => .ok next
  | next, pulled :: rest =>
    let admission := { pulled with admitted := false }
    match admission.validate ext now r.nodeID with
    | some err => .error err
    | none =>
      if admission.edgeProcessEpoch ≠ r.processEpoch then
        .error (.expectedConflict "edge process epoch is stale")
      else if (next.lookup admission.key).isSome then
        .error (.expectedConflict "duplicate operation and route")
      else stage now (next.insert admission.key admission) rest

/-- A staged admission is shown at its key, unless an admitted one is there. -/
def publish (byKey : AdmissionMap) (entry : Sigma (fun _ : String => ExpectedAdmission)) : AdmissionMap :=
  if (byKey.lookup entry.1).any ExpectedAdmission.admitted then byKey else byKey.insert entry.1 entry.2

def installPending (now : Time) : ExpectedAdmissionRegistry × Option Error :=
  if admissions.length > r.maximum then (r, some (.expectedConflict "too many admissions"))
  else match r.stage ext now ∅ admissions with
    | .error err => (r, some err)
    | .ok next =>
      if r.closed then (r, some .carrierClosed)
      else ({ r with pending := next, byKey := next.entries.foldl publish r.byKey }, none)

/-- One turn of the second loop of `MarkAdmitted`. -/
def admitOne (admission : ExpectedAdmission) : ExpectedAdmissionRegistry :=
  let value := { (r.pending.lookup admission.key).getD {} with admitted := true }
  { r with byKey := r.byKey.insert admission.key value, pending := r.pending.erase admission.key }

def markAdmitted : ExpectedAdmissionRegistry × Option Error :=
  if r.closed then (r, some .carrierClosed)
  else if admissions.any (fun a => !(r.pending.lookup a.key).any (fun current => current.exactEqual a)) then
    (r, some (.expectedConflict ""))
  else (admissions.foldl admitOne r, none)

/-- The map that `Commit` builds. -/
def committed : AdmissionMap := admissions.foldl (fun next a => next.insert a.key a) ∅

def commit : ExpectedAdmissionRegistry × Option Error :=
  if admissions.any (fun a => !a.admitted) then (r, some (.expectedConflict ""))
  else if r.closed then (r, some .carrierClosed)
  else if (committed admissions).entries.any (fun entry =>
      !(r.byKey.lookup entry.1).any (fun current => current.admitted && current.exactEqual entry.2)) then
    (r, some (.expectedConflict ""))
  else ({ r with byKey := committed admissions, pending := ∅ }, none)

def remove (admission : ExpectedAdmission) : ExpectedAdmissionRegistry × Option Error :=
  match r.byKey.lookup admission.key with
  | none => (r, none)
  | some current =>
    if ¬ current.exactEqual admission then (r, some (.expectedConflict ""))
    else ({ r with byKey := r.byKey.erase admission.key }, none)

/-- The admission is one for streams of the identity and the route. -/
def selects (identity : Identity) (preface : StreamOpen) : Bool :=
  a.admitted && a.identity == identity && a.routeID == preface.routeID

/-- The answer of the first admission that the loop of `AuthorizeStream` selects. -/
def verdict (now : Time) (decision : Option PrivateAccessDecision) : Option Error :=
  if ¬ a.expiresAt.after now then some .expectedExpired
  else if a.accessMode = .privateAccess ∧ ¬ decision.any (fun d => d.covers a now) then some (.routeDenied "")
  else none

/-- `AuthorizeStream`. `order` is the order in which Go meets the entries of the map, `canceled` says that the context
    is done, and `decision` is the one it carries. -/
def authorizeStream (order : List ExpectedAdmission) (now : Time)
    (canceled : Bool) (decision : Option PrivateAccessDecision) (identity : Identity) (preface : StreamOpen) :
    Option Error :=
  if canceled then some .context
  else if identity.validate.isSome ∨ ¬ identity.matchesOpen preface then some .identityMismatch
  else if r.closed then some .carrierClosed
  else match order.find? (fun a => selects a identity preface) with
    | none => some (.admissionNotExpected "")
    | some a => verdict a now decision

/-! ## Calls -/

inductive Call where
  | installPending (admissions : List ExpectedAdmission) (now : Time)
  | markAdmitted (admissions : List ExpectedAdmission)
  | commit (admissions : List ExpectedAdmission)
  | remove (admission : ExpectedAdmission)
deriving DecidableEq

/-- A call, with the error it returns; each works in one section under the lock. -/
def apply : Call → ExpectedAdmissionRegistry × Option Error
  | .installPending admissions now => r.installPending ext admissions now
  | .markAdmitted admissions => r.markAdmitted admissions
  | .commit admissions => r.commit admissions
  | .remove admission => r.remove admission

def step (call : Call) : Option ExpectedAdmissionRegistry := some (r.apply ext call).1

end ExpectedAdmissionRegistry

end PaperboatTunnel.Datacarrier
