import PaperboatTunnel.Lib.GoStrings
import PaperboatTunnel.ConnectorProtocol.Protocol

/-!
# `DurableAdmission` — the admission authority of the edge

`DurableAdmissionRegistry` of `internal/datacarrier/durable_admission.go`. It holds one complete set of admissions,
grouped by their connector identity, and `Replace` puts another complete set in its place or changes nothing.

Go keys its maps by the fields of an identity joined with NUL bytes. An identity that becomes a key has been validated
and has no NUL byte in it, so the model uses the identity itself.
-/

namespace PaperboatTunnel.Datacarrier

open GoTime ConnectorProtocol

/-! ## Admissions -/

/-- The errors of the package; a detail is the text after the error. The first `admission` errors are those of
    durable admissions, the `expected` ones those of preview admissions. `context` is the error of a context that is
    done, `transport` one of the session or of a stream below the carrier, and `preface` one of the package that
    reads and writes the preface of a stream. -/
inductive Error where
  | invalidConfig | identityMismatch | carrierClosed
  | admissionInvalid (detail : String)
  | admissionMissing
  | admissionConflict (detail : String)
  | admissionExpired
  | streamLimit | carrierOverloaded
  | routeDenied (detail : String)
  | invalidPreface | requestInUse | accessStreamKind | accessStreamIdentity
  | admissionNotExpected (detail : String)
  | expectedConflict (detail : String)
  | expectedExpired
  | context
  | transport (detail : String)
  | preface (err : ConnectorProtocol.Error)
deriving DecidableEq

structure Identity where
  (accountID hostID tunnelID connectorID sessionID : String := "")
  (processGeneration generation : UInt64 := 0)
deriving DecidableEq

def Identity.validate (i : Identity) : Option Error :=
  if (validateIdentifier i.accountID).isSome ∨ (validateIdentifier i.hostID).isSome
      ∨ (validateIdentifier i.tunnelID).isSome ∨ (validateIdentifier i.connectorID).isSome
      ∨ (validateIdentifier i.sessionID).isSome ∨ i.processGeneration = 0 ∨ i.generation = 0 then
    some .invalidConfig
  else none

def smallIdentity : Identity :=
  { accountID := "account", hostID := "host", tunnelID := "tunnel", connectorID := "connector",
    sessionID := "session", processGeneration := 1, generation := 1 }

/-- `connectorprotocol.StreamOpen`, the preface of a stream. -/
structure StreamOpen where
  (protocol version accountID tunnelID connectorID sessionID : String := "")
  (processGeneration generation : UInt64 := 0)
  (routeID requestID kind : String := "")
deriving DecidableEq

/-- `matches`; the host is not part of the preface of a stream. -/
def Identity.matchesOpen (i : Identity) (o : StreamOpen) : Bool :=
  o.accountID == i.accountID && o.tunnelID == i.tunnelID && o.connectorID == i.connectorID
    && o.sessionID == i.sessionID && o.processGeneration == i.processGeneration
    && o.generation == i.generation

/-- The states of an assignment; `unset` is the empty text and `unknown` any text outside the vocabulary. -/
inductive AssignmentState where
  | unset | staged | active | draining | detached | unknown
deriving DecidableEq

structure DurableAdmission where
  identity : Identity := {}
  (edgeNodeID edgeProcessEpoch assignmentID routeID : String := "")
  (assignmentGeneration routeGeneration : UInt64 := 0)
  (configContentHash machineIdentityPublicKey machineIdentityThumbprint : String := "")
  state : AssignmentState := .unset
  expiresAt : Time := {}
deriving DecidableEq

def validDurableContentHash (value : String) : Bool := hashPattern value

namespace DurableAdmission

variable (sha256 : List UInt8 → List UInt8) (a : DurableAdmission)

/-- The check of the machine key against its thumbprint. -/
def validateKey : Option Error :=
  match GoBase64.decode (bytes a.machineIdentityPublicKey) with
  | none => some (.admissionInvalid "machine public key")
  | some publicKey =>
    if publicKey.length ≠ publicKeySize then some (.admissionInvalid "machine public key")
    else match identityThumbprint sha256 publicKey with
      | .error _ => some (.admissionConflict "machine key thumbprint")
      | .ok thumbprint =>
        if thumbprint ≠ bytes a.machineIdentityThumbprint then
          some (.admissionConflict "machine key thumbprint")
        else none

def validate (nodeID processEpoch : String) (now : Time) : Option Error :=
  if a.identity.validate.isSome then some (.admissionInvalid "identity")
  else if a.edgeNodeID ≠ nodeID ∨ (validateIdentifier a.edgeNodeID).isSome
      ∨ a.edgeProcessEpoch ≠ processEpoch ∨ (validateOpaqueEpoch a.edgeProcessEpoch).isSome then
    some (.admissionInvalid "edge binding")
  else if (validateIdentifier a.assignmentID).isSome ∨ (validateIdentifier a.routeID).isSome then
    some (.admissionInvalid "route binding")
  else if a.assignmentGeneration = 0 ∨ a.routeGeneration = 0 ∨ a.configContentHash = "" then
    some (.admissionInvalid "generations or config hash")
  else if a.state = .unset ∨ a.state = .unknown then some (.admissionInvalid "state")
  else if ¬ a.expiresAt.isZero ∧ ¬ a.expiresAt.after now then some .admissionExpired
  else match a.validateKey sha256 with
    | some err => some err
    | none => if ¬ validDurableContentHash a.configContentHash then some (.admissionInvalid "config hash")
        else none

/-- Staged or active, and not expired; the readers of the registry share this test. -/
def usable (now : Time) : Bool :=
  (a.state == .staged || a.state == .active) && (a.expiresAt.isZero || a.expiresAt.after now)

/-- The account, host and route an assignment generation counts for. -/
def fence : String × String × String := (a.identity.accountID, a.identity.hostID, a.routeID)

/-- The preface of a stream for the route of an admission. -/
def streamOpen : StreamOpen :=
  { accountID := a.identity.accountID, tunnelID := a.identity.tunnelID,
    connectorID := a.identity.connectorID, sessionID := a.identity.sessionID,
    processGeneration := a.identity.processGeneration, generation := a.identity.generation,
    routeID := a.routeID }

/-- The two may stand in one set: the same verifier material for one identity, and one route only once. -/
def Compatible (a b : DurableAdmission) : Prop := a.identity = b.identity →
    a.machineIdentityPublicKey = b.machineIdentityPublicKey
      ∧ a.machineIdentityThumbprint = b.machineIdentityThumbprint
      ∧ a.edgeProcessEpoch = b.edgeProcessEpoch ∧ a.routeID ≠ b.routeID

instance (a b : DurableAdmission) : Decidable (Compatible a b) := by
  unfold Compatible; infer_instance

theorem Compatible.symm {a b : DurableAdmission} (h : Compatible a b) : Compatible b a := by
  intro heq
  obtain ⟨hkey, hthumb, hepoch, hroute⟩ := h heq.symm
  exact ⟨hkey.symm, hthumb.symm, hepoch.symm, hroute.symm⟩

end DurableAdmission

/-! ## The registry -/

structure DurableAdmissionEntry where
  identity : Identity
  (edgeProcessEpoch machineIdentityPublicKey machineIdentityThumbprint : String)
  byRoute : List DurableAdmission := []
deriving DecidableEq

structure DurableAdmissionRegistry where
  (nodeID processEpoch : String := "")
  maximum : Nat := 0
  closed : Bool := false
  byID : List DurableAdmissionEntry := []
deriving DecidableEq

def maxDurableAdmissions : Nat := 4096

namespace DurableAdmissionRegistry

variable (sha256 : List UInt8 → List UInt8) (r : DurableAdmissionRegistry)

/-- `NewDurableAdmissionRegistry`. -/
def new (nodeID processEpoch : String) (maximumAdmissions : Int) : Except Error DurableAdmissionRegistry :=
  if (validateIdentifier nodeID).isSome ∨ (validateOpaqueEpoch processEpoch).isSome then
    .error (.admissionInvalid "")
  else
    let maximum := if maximumAdmissions = 0 then (maxDurableAdmissions : Int) else maximumAdmissions
    if maximum < 1 ∨ maximum > maxDurableAdmissions then .error (.admissionInvalid "")
    else .ok { nodeID, processEpoch, maximum := maximum.toNat }

def flatten (entries : List DurableAdmissionEntry) : List DurableAdmission :=
  entries.flatMap DurableAdmissionEntry.byRoute

def admissions : List DurableAdmission := flatten r.byID

/-- `currentGenerations`: the highest assignment generation admitted now for an account, host and route. -/
def currentGeneration (key : String × String × String) : UInt64 :=
  (r.admissions.filter (fun a => a.fence == key)).foldl
    (fun generation a => if a.assignmentGeneration > generation then a.assignmentGeneration else generation) 0

def insertAdmission (next : List DurableAdmissionEntry) (a : DurableAdmission) :
    Except Error (List DurableAdmissionEntry) :=
  match next.find? (fun entry => entry.identity == a.identity) with
  | none =>
    .ok (next ++ [{ identity := a.identity, edgeProcessEpoch := a.edgeProcessEpoch,
                    machineIdentityPublicKey := a.machineIdentityPublicKey,
                    machineIdentityThumbprint := a.machineIdentityThumbprint, byRoute := [a] }])
  | some entry =>
    if entry.machineIdentityPublicKey ≠ a.machineIdentityPublicKey
        ∨ entry.machineIdentityThumbprint ≠ a.machineIdentityThumbprint
        ∨ entry.edgeProcessEpoch ≠ a.edgeProcessEpoch then
      .error (.admissionConflict "identity has conflicting verifier material")
    else if entry.byRoute.any (fun b => b.routeID == a.routeID) then
      .error (.admissionConflict "duplicate route assignment")
    else
      .ok (next.map (fun entry =>
        if entry.identity = a.identity then { entry with byRoute := entry.byRoute ++ [a] } else entry))

/-- The loop of `Replace`, which collects the admissions in `next`. -/
def collect (sha256 : List UInt8 → List UInt8) (r : DurableAdmissionRegistry) (now : Time) :
    List DurableAdmissionEntry → List DurableAdmission → Except Error (List DurableAdmissionEntry)
  | next, [] => .ok next
  | next, a :: rest =>
    match a.validate sha256 r.nodeID r.processEpoch now with
    | some err => .error err
    | none =>
      if a.assignmentGeneration < r.currentGeneration a.fence then .error (.admissionConflict "")
      else match insertAdmission next a with
        | .error err => .error err
        | .ok next => collect sha256 r now next rest

def replace (admissions : List DurableAdmission) (now : Time) : DurableAdmissionRegistry × Option Error :=
  if admissions.length > r.maximum then (r, some (.admissionConflict ""))
  else match collect sha256 r now [] admissions with
    | .error err => (r, some err)
    | .ok next =>
      if next.length > r.maximum then (r, some (.admissionConflict ""))
      else if r.closed then (r, some .carrierClosed)
      else ({ r with byID := next }, none)

/-- `AuthorizeStream`, for a context that has not ended. -/
def authorizeStream (identity : Identity) (o : StreamOpen) (now : Time) : Option Error :=
  if identity.validate.isSome ∨ ¬ identity.matchesOpen o then some .identityMismatch
  else if r.closed then some .carrierClosed
  else match r.byID.find? (fun entry => entry.identity == identity) with
    | none => some .admissionMissing
    | some entry =>
      match entry.byRoute.find? (fun a => a.routeID == o.routeID) with
      | none => some .admissionMissing
      | some a =>
        if a.state ≠ .staged ∧ a.state ≠ .active then some .admissionMissing
        else if ¬ a.expiresAt.isZero ∧ ¬ a.expiresAt.after now then some .admissionExpired
        else none

def hasIdentity (identity : Identity) (now : Time) : Bool :=
  identity.validate.isNone && !r.closed && (r.byID.find? (fun entry => entry.identity == identity)).any
    (fun entry => entry.byRoute.any (fun a => a.usable now))

def forIdentity (identity : Identity) (now : Time) : List DurableAdmission :=
  if identity.validate.isSome ∨ r.closed then []
  else match r.byID.find? (fun entry => entry.identity == identity) with
    | none => []
    | some entry => GoStrings.sortBy DurableAdmission.routeID (entry.byRoute.filter (fun a => a.usable now))

end DurableAdmissionRegistry

end PaperboatTunnel.Datacarrier
