import PaperboatTunnel.Lib.GoMap
import PaperboatTunnel.Lib.Transition
import PaperboatTunnel.TLSCert.Binding

/-!
# `Registry` — the certificates of an edge process

The registry holds one entry for each binding and, for each hostname, the binding whose certificate is served. An entry
is staged, made ready, and activated; the one it replaces is retired. Expiry is lazy: some calls look through all
entries first (`expireLocked`), others look at the one entry they are about.

Every call takes the lock once, and is one step; the action has the reading of the clock. A binding's key is never
empty, so the table's zero value `""` is `none` here. What Go's packages compute from a bundle is a parameter,
`External`; nothing is assumed about it.
-/

namespace PaperboatTunnel.TLSCert

open GoTime GoStrings TransitionSystem

def maxBundleBytes : Nat := 16 <<< 20

def defaultMaximumLifetime : Duration := 90 * (24 * Duration.hour)

/-- `[sha256.Size]byte`. -/
abbrev Fingerprint : Type := { bytes : List UInt8 // bytes.length = 32 }

def zeroFingerprint : Fingerprint := ⟨List.replicate 32 0, List.length_replicate⟩

/-- `x509.Certificate`, as far as it is read. -/
structure Leaf where
  raw : List UInt8
  (notBefore notAfter : Time)
deriving DecidableEq

/-- What comes from other packages: `idna.Lookup.ToASCII`, `tls.X509KeyPair` (the chain, if key and certificate
    match), `x509.ParseCertificate`, `VerifyHostname`, and `sha256.Sum256`. -/
structure External where
  toASCII : String → Option String
  x509KeyPair : List UInt8 → List UInt8 → Option (List (List UInt8))
  parseCertificate : List UInt8 → Option Leaf
  verifyHostname : Leaf → String → Bool
  sum256 : List UInt8 → Fingerprint

structure Bundle where
  (certificatePEM privateKeyPEM : List UInt8)
  issuer : String
  (notBefore notAfter : Time := {})
deriving DecidableEq

/-- `tls.Certificate`; the empty one is what `wipeTLSCertificate` leaves. -/
structure TLSCertificate where
  certificate : List (List UInt8) := []
  privateKey : List UInt8 := []
  leaf : Option Leaf := none
deriving DecidableEq

/-- `validateBundle`: the certificate, its fingerprint, and its validity. -/
def validateBundle (x : External) (bundle : Bundle) (hostname : String) (wildcard : Bool) (now : Time)
    (maxLifetime : Duration) : Except Error (TLSCertificate × Fingerprint × Time × Time) :=
  if bundle.certificatePEM.length = 0 ∨ maxBundleBytes < bundle.certificatePEM.length
      ∨ bundle.privateKeyPEM.length = 0 ∨ maxBundleBytes < bundle.privateKeyPEM.length
      ∨ trimSpace bundle.issuer = "" then
    .error (.certificateInvalid "bundle is empty or oversized")
  else
    match x.x509KeyPair bundle.certificatePEM bundle.privateKeyPEM with
    | none | some [] => .error (.certificateInvalid "certificate and private key do not match")
    | some (first :: chain) =>
      match x.parseCertificate first with
      | none => .error (.certificateInvalid "parse certificate")
      | some leaf =>
        let verifyHost := if wildcard then "paperboat." ++ String.ofList (hostname.toList.drop 2) else hostname
        if leaf.notAfter.after now = false ∨ leaf.notBefore.after (now.add (10 * Duration.minute)) = true
            ∨ 0 < maxLifetime ∧ maxLifetime < leaf.notAfter.sub now then
          .error (.certificateInvalid "certificate lifetime is outside bounds")
        else if !x.verifyHostname leaf verifyHost then
          .error (.certificateInvalid "certificate does not cover hostname")
        else if bundle.notBefore.isZero = false ∧ bundle.notBefore.equal leaf.notBefore = false
            ∨ bundle.notAfter.isZero = false ∧ bundle.notAfter.equal leaf.notAfter = false then
          .error (.certificateInvalid "certificate timestamps do not match")
        else
          .ok (⟨first :: chain, bundle.privateKeyPEM, some leaf⟩, x.sum256 leaf.raw, leaf.notBefore, leaf.notAfter)

/-! ## Entries -/

inductive State where
  | staged | ready | active | retired | revoked | expired | failed
deriving DecidableEq

structure Entry where
  binding : Binding
  hostname : String
  wildcard : Bool
  state : State
  fingerprint : Fingerprint
  issuer : String
  (notBefore notAfter : Time)
  (activatedAt retiredAt revokedAt : Time := {})
  certificate : TLSCertificate
deriving DecidableEq

namespace Entry

variable (e : Entry)

def key : String := bindingKey e.binding

def host : String := hostKey e.hostname e.wildcard

/-- The certificate has expired at the first reading, or the lease it is for at the second. -/
def lapsed (now now' : Time) : Bool :=
  !e.notAfter.after now || (e.binding.isPreview && !e.binding.previewExpiresAt.after now')

def expire : Entry := { e with state := .expired, certificate := {} }

/-- The generation checks that `stage` and `activate` make against the active entry. -/
def fences (current e : Entry) : Bool :=
  decide (e.binding.domainGeneration < current.binding.domainGeneration)
    || decide (e.binding.certificateGeneration < current.binding.certificateGeneration)
    || (e.binding.domainGeneration == current.binding.domainGeneration
      && decide (e.binding.assignmentGeneration < current.binding.assignmentGeneration))
    || (e.binding.domainGeneration == current.binding.domainGeneration
      && e.binding.certificateGeneration == current.binding.certificateGeneration
      && current.fingerprint != e.fingerprint)
    || (e.binding.certificateGeneration == current.binding.certificateGeneration
      && current.binding.edgeNodeID == e.binding.edgeNodeID
      && current.binding.edgeProcessEpoch == e.binding.edgeProcessEpoch
      && (!e.binding.isPreview || current.binding.target.key == e.binding.target.key
        || current.fingerprint != e.fingerprint))

/-- A candidate that `stage` drops for the later certificate generation `e` of the same target. -/
def supersededBy (old e : Entry) : Bool :=
  old.binding.domainID == e.binding.domainID && old.hostname == e.hostname && old.wildcard == e.wildcard
    && old.binding.edgeNodeID == e.binding.edgeNodeID && old.binding.edgeProcessEpoch == e.binding.edgeProcessEpoch
    && old.state != .active && old.state != .retired && old.state != .revoked
    && decide (old.binding.certificateGeneration < e.binding.certificateGeneration)

end Entry

def mismatched (expected : Option Fingerprint) (fingerprint : Fingerprint) : Bool :=
  expected.any (fun f => f != zeroFingerprint && f != fingerprint)

def fingerprintConflict : Error := .generationConflict "certificate fingerprint does not match distribution"

structure Registry where
  maxLife : Duration
  closed : Bool := false
  entries : GoMap String Entry := ∅
  active : GoMap String String := ∅

def newRegistry (maximumCertificateLife : Duration) : Registry where
  maxLife :=
    if maximumCertificateLife ≤ 0 ∨ defaultMaximumLifetime < maximumCertificateLife then defaultMaximumLifetime
    else maximumCertificateLife

namespace Registry

variable (x : External) (r : Registry) (e : Entry) (cancelled : Bool) (b : Binding) (expected : Option Fingerprint)

def find : Option Entry := (r.entries.lookup (bindingKey b)).filter (fun e => decide (e.binding = b))

def put : Registry := { r with entries := r.entries.insert e.key e }

def drop : Registry := { r with entries := r.entries.erase e.key }

/-- The entry's hostname has no active certificate any more, if it was this one. -/
def deactivate : Registry :=
  { r with active := if r.active.lookup e.host = some e.key then r.active.erase e.host else r.active }

/-- `markReady` and `activate` find that the entry has expired. -/
def lapse : Registry := (r.put e.expire).deactivate e

def due (now : Time) (e : Entry) : Bool := e.state == .active && e.lapsed now now

def expireLocked (now : Time) : Registry := { r with
    entries := r.entries.mapValues (fun e => if due now e then e.expire else e)
    active := r.active.filter (fun h _ => !r.entries.values.any (fun e => due now e && e.host == h)) }

def currentDomainActiveLocked (domainID hostname : String) (wildcard : Bool) : Option Entry :=
  ((r.active.lookup (hostKey hostname wildcard)).bind r.entries.lookup).filter
    (fun e => e.state == .active && e.binding.domainID == domainID)

/-! ## The calls -/

/-- The beginning of every call about a binding: the context, and the binding with its hostname in canonical form. -/
def checkBinding : Except Error (Binding × Bool) :=
  if cancelled then .error .context
  else
    match b.validate x.toASCII with
    | .error e => .error e
    | .ok (host, wildcard) => .ok ({ b with hostname := host }, wildcard)

/-- Another domain's certificate is active for the hostname. -/
def foreignActive : Bool := r.entries.entries.any (fun a =>
    a.2.state == .active && a.2.hostname == e.hostname && a.1 != e.key && a.2.binding.domainID != e.binding.domainID)

/-- The end of `stage`: the candidate takes the place of those it supersedes. -/
def addCandidate : Registry :=
  { r with entries := r.entries.filter (fun _ old => !old.supersededBy e) }.put e

/-- The part of `stage` after `expireLocked`. -/
def stageLocked : Registry × Option Error :=
  if r.foreignActive e then (r, some (.hostnameConflict e.hostname))
  else
    match r.entries.lookup e.key with
    | some existing =>
      if existing.binding ≠ e.binding then (r, some .generationConflict)
      else
        match existing.state with
        | .active | .staged | .ready =>
          if existing.fingerprint = e.fingerprint ∧ existing.notAfter.equal e.notAfter = true then (r, none)
          else (r, some .generationConflict)
        | .retired | .revoked | .expired | .failed => (r, some .generationConflict)
    | none =>
      if (r.currentDomainActiveLocked e.binding.domainID e.hostname e.wildcard).any (fun current => current.fences e)
      then (r, some .generationConflict)
      else (r.addCandidate e, none)

def stage (bundle : Bundle) (expected : Option Fingerprint) (now : Time) : Registry × Option Error :=
  match checkBinding x cancelled b with
  | .error e => (r, some e)
  | .ok (b, wildcard) =>
    if b.isPreview && !b.previewExpiresAt.after now then (r, some .certificateExpired)
    else
      match validateBundle x bundle b.hostname wildcard now r.maxLife with
      | .error e => (r, some e)
      | .ok (parsed, fingerprint, notBefore, notAfter) =>
        if mismatched expected fingerprint then (r, some fingerprintConflict)
        else if r.closed then (r, some .closed)
        else (r.expireLocked now).stageLocked
          { binding := b, hostname := b.hostname, wildcard := wildcard, state := .staged,
            fingerprint := fingerprint, issuer := bundle.issuer, notBefore := notBefore, notAfter := notAfter,
            certificate := parsed }

/-- `markReady`; it reads the clock a second time for a preview lease. -/
def markReady (now now' : Time) : Registry × Option Error :=
  match checkBinding x cancelled b with
  | .error e => (r, some e)
  | .ok (b, _) =>
    if r.closed then (r, some .closed)
    else
      match r.find b with
      | none => (r, some .generationConflict)
      | some e =>
        if mismatched expected e.fingerprint then (r, some fingerprintConflict)
        else if e.lapsed now now' then (r.lapse e, some .certificateExpired)
        else if e.state = .ready ∨ e.state = .active then (r, none)
        else if e.state ≠ .staged then (r, some .notReady)
        else (r.put { e with state := .ready }, none)

/-- The key that is active for the hostname of `e`, if it is another one. -/
def previousKey : Option String := (r.active.lookup e.host).filter (fun k => k != e.key)

def previous : Option Entry := (r.previousKey e).bind r.entries.lookup

/-- `activate` retires the previous entry. The private key of a preview lease is discarded at once when the lease is
    renewed with the same certificate. -/
def retirePrevious (now : Time) : Registry :=
  match r.previousKey e with
  | none => r
  | some k =>
    match r.entries.lookup k with
    | none => r
    | some p =>
      if p.state ≠ .active then r
      else if p.binding.certificateGeneration = e.binding.certificateGeneration ∧ p.binding.isPreview = true
          ∧ p.fingerprint = e.fingerprint then
        { r with entries := r.entries.erase k }
      else { r with entries := r.entries.insert k { p with state := .retired, retiredAt := now } }

/-- The end of `activate`. -/
def select (now : Time) : Registry :=
  let r := (r.retirePrevious e now).put { e with state := .active, activatedAt := now }
  { r with active := r.active.insert e.host e.key }

def activate (now : Time) : Registry × Option Error :=
  match checkBinding x cancelled b with
  | .error e => (r, some e)
  | .ok (b, _) =>
    if r.closed then (r, some .closed)
    else
      match r.find b with
      | none => (r, some .generationConflict)
      | some e =>
        if mismatched expected e.fingerprint then (r, some fingerprintConflict)
        else if e.lapsed now now then (r.lapse e, some .certificateExpired)
        else if e.state = .active then (r, none)
        else if e.state ≠ .ready then (r, some .notReady)
        else if (r.previous e).any (fun p => p.fences e) then (r, some .generationConflict)
        else (r.select e now, none)

def retire : Registry × Option Error :=
  match checkBinding x cancelled b with
  | .error e => (r, some e)
  | .ok (b, _) =>
    match r.find b with
    | none => (r, none)
    | some e =>
      if mismatched expected e.fingerprint then (r, some fingerprintConflict)
      else if e.state = .retired then (r.drop e, none)
      else if e.state = .revoked ∨ e.state = .expired then (r, none)
      else if e.state = .active ∧ r.active.lookup e.host = some e.key then (r, some .replacementNotReady)
      else (r.drop e, none)

def revoke : Registry × Option Error :=
  match checkBinding x cancelled b with
  | .error e => (r, some e)
  | .ok (b, _) =>
    match r.find b with
    | none => (r, none)
    | some e =>
      if mismatched expected e.fingerprint then (r, some fingerprintConflict)
      else ((r.deactivate e).drop e, none)

def close : Registry := if r.closed then r else { r with closed := true, entries := ∅, active := ∅ }

/-! ## Serving -/

def wildcardMatches (pattern host : String) : Bool := hasPrefix pattern "*." &&
    let patternLabels := split (trimPrefix pattern "*.") '.'
    let hostLabels := split host '.'
    hostLabels.length == patternLabels.length + 1
      && equalFold (".".intercalate hostLabels.tail) (".".intercalate patternLabels)

def wildcardActiveKeyLocked (host : String) : Option String :=
  let labels := split host '.'
  if labels.length < 3 then none
  else r.active.lookup (hostKey ("*." ++ ".".intercalate labels.tail) true)

def onDemandWildcardActiveLocked (host : String) : Bool := r.entries.entries.any (fun a =>
    a.2.state == .active && a.2.wildcard && a.2.binding.onDemandLeaf
      && r.active.lookup (hostKey a.2.hostname true) == some a.1 && wildcardMatches a.2.hostname host)

def expiredForHostLocked (host : String) : Bool := r.entries.values.any (fun e =>
    e.state == .expired && ((e.hostname == host && !e.wildcard) || (e.wildcard && wildcardMatches e.hostname host)))

/-- The part of `GetCertificate` after `expireLocked`. -/
def serveLocked (host : String) (now : Time) : Registry × Except Error TLSCertificate :=
  let key :=
    match r.active.lookup (hostKey host false) with
    | some key => some key
    | none => if r.onDemandWildcardActiveLocked host then none else r.wildcardActiveKeyLocked host
  match (key.bind r.entries.lookup).filter (fun e => e.state == .active) with
  | none => (r, .error (if r.expiredForHostLocked host then .certificateExpired else .certificateMissing))
  | some e =>
    if !e.notAfter.after now then
      ({ r.put { e with state := .expired } with active := r.active.erase e.host }, .error .certificateExpired)
    else (r, .ok e.certificate)

/-- `GetCertificate`, for the server name of the hello. -/
def getCertificate (serverName : Option String) (now : Time) : Registry × Except Error TLSCertificate :=
  match serverName.map (normalizeHostname x.toASCII) with
  | some (.ok (host, false)) => if r.closed then (r, .error .closed) else (r.expireLocked now).serveLocked host now
  | _ => (r, .error .certificateMissing)

def requiresExactCertificate (hostname : String) (now : Time) : Registry × Bool :=
  match normalizeHostname x.toASCII hostname with
  | .ok (host, false) =>
    if r.closed then (r, false)
    else
      let r := r.expireLocked now
      (r, !((r.active.lookup (hostKey host false)).bind r.entries.lookup).any (fun e => e.state == .active)
        && r.onDemandWildcardActiveLocked host)
  | _ => (r, false)

end Registry

/-! ## Steps -/

inductive Action where
  | stage (cancelled : Bool) (b : Binding) (bundle : Bundle) (expected : Option Fingerprint) (now : Time)
  | markReady (cancelled : Bool) (b : Binding) (expected : Option Fingerprint) (now now' : Time)
  | activate (cancelled : Bool) (b : Binding) (expected : Option Fingerprint) (now : Time)
  | retire (cancelled : Bool) (b : Binding) (expected : Option Fingerprint)
  | revoke (cancelled : Bool) (b : Binding) (expected : Option Fingerprint)
  | getCertificate (serverName : Option String) (now : Time)
  | requiresExactCertificate (hostname : String) (now : Time)
  /-- `Snapshot`, which expires entries before it lists them. -/
  | snapshot (now : Time)
  | close

namespace Registry

/-- The registry after a call, and the error it returns. -/
def call (x : External) (r : Registry) : Action → Registry × Option Error
  | .stage cancelled b bundle expected now => r.stage x cancelled b bundle expected now
  | .markReady cancelled b expected now now' => r.markReady x cancelled b expected now now'
  | .activate cancelled b expected now => r.activate x cancelled b expected now
  | .retire cancelled b expected => r.retire x cancelled b expected
  | .revoke cancelled b expected => r.revoke x cancelled b expected
  | .getCertificate serverName now => ((r.getCertificate x serverName now).1, none)
  | .requiresExactCertificate hostname now => ((r.requiresExactCertificate x hostname now).1, none)
  | .snapshot now => (r.expireLocked now, none)
  | .close => (r.close, none)

def step (x : External) (r : Registry) (a : Action) : Option Registry := some (r.call x a).1

end Registry

end PaperboatTunnel.TLSCert
