import PaperboatTunnel.TLSCert.Registry

/-!
# `Distribution` — the receiver of certificate distributions

The control plane sends envelopes with an action, which may be delivered again. The receiver authenticates an envelope
and calls the registry. `StageAndReady` makes two calls, between which others may come (`readying`). The check of the
proof is the parameter `verify`; nothing is assumed about it.
-/

namespace PaperboatTunnel.TLSCert

open GoTime TransitionSystem

structure DistributionEnvelope where
  (action certificateID : String)
  fingerprint : Fingerprint
  binding : Binding
  bundle : Bundle
  proof : List UInt8
  (issuedAt expiresAt : Time)

structure DistributionReceiver where
  registry : Registry
  (nodeID processEpoch : String)
  maximumMessage : Int
  /-- The calls of `StageAndReady` that have staged. -/
  readying : List (Binding × Option Fingerprint) := []

/-- `NewDistributionReceiver`, for a registry and an authenticator. -/
def newDistributionReceiver (registry : Registry) (nodeID processEpoch : String) (maximumMessage : Int) :
    Except Error DistributionReceiver :=
  if !validIdentifier nodeID || !validEpoch processEpoch then
    .error (.distributionInvalid "receiver identity and authentication are required")
  else
    .ok
      { registry := registry, nodeID := nodeID, processEpoch := processEpoch,
        maximumMessage := if maximumMessage ≤ 0 ∨ 32 <<< 20 < maximumMessage then 16 <<< 20 else maximumMessage }

def distributionFingerprint (value : Fingerprint) : Option Fingerprint :=
  if value = zeroFingerprint then none else some value

/-- The methods of the receiver that take an envelope. -/
inductive Method where
  | stage | stageAndReady | ready | activate | retire | revoke
deriving DecidableEq

namespace Method

/-- The action under which a method authenticates its envelope. -/
def action : Method → String
  | .stage | .stageAndReady => "stage"
  | .ready => "ready"
  | .activate => "activate"
  | .retire => "retire"
  | .revoke => "revoke"

/-- The first call of the registry that a method makes. -/
def call (method : Method) (envelope : DistributionEnvelope) (cancelled : Bool) (now now' : Time) : Action :=
  let fingerprint := distributionFingerprint envelope.fingerprint
  match method with
  | .stage | .stageAndReady => .stage cancelled envelope.binding envelope.bundle fingerprint now
  | .ready => .markReady cancelled envelope.binding fingerprint now now'
  | .activate => .activate cancelled envelope.binding fingerprint now
  | .retire => .retire cancelled envelope.binding fingerprint
  | .revoke => .revoke cancelled envelope.binding fingerprint

end Method

/-- A call with an envelope: the state of its context and the clock, when it authenticates the envelope and when it
    calls the registry. -/
structure Delivery where
  method : Method
  envelope : DistributionEnvelope
  authCancelled : Bool := false
  authenticatedAt : Time
  cancelled : Bool := false
  (now now' : Time)

namespace DistributionReceiver

def authenticate (verify : Time → String → DistributionEnvelope → Bool) (d : DistributionReceiver) (delivery : Delivery) :
    Option Error :=
  let envelope := delivery.envelope
  let b := envelope.binding
  if !validIdentifier envelope.certificateID then some .distributionInvalid
  else if delivery.authCancelled then some .context
  else if b.edgeNodeID ≠ d.nodeID ∨ b.edgeProcessEpoch ≠ d.processEpoch ∨ b.certificateGeneration = 0
      ∨ b.assignmentGeneration = 0 ∨ b.domainGeneration = 0 then
    some (.generationConflict "edge target binding is stale")
  else if d.maximumMessage < envelope.bundle.certificatePEM.length
      ∨ d.maximumMessage < envelope.bundle.privateKeyPEM.length ∨ 64 <<< 10 < envelope.proof.length
      ∨ envelope.proof.length = 0 ∨ envelope.expiresAt.isZero = true
      ∨ envelope.expiresAt.after delivery.authenticatedAt = false ∨ envelope.issuedAt.isZero = true
      ∨ 10 * Duration.minute < envelope.expiresAt.sub envelope.issuedAt then
    some .distributionInvalid
  else if !verify delivery.authenticatedAt delivery.method.action envelope then some .distributionAuth
  else none

/-- The methods up to the end of their first call of the registry. -/
def deliver (x : External) (verify : Time → String → DistributionEnvelope → Bool) (d : DistributionReceiver)
    (delivery : Delivery) : DistributionReceiver × Option Error :=
  match d.authenticate verify delivery with
  | some e => (d, some e)
  | none =>
    let result :=
      d.registry.call x (delivery.method.call delivery.envelope delivery.cancelled delivery.now delivery.now')
    let staged :=
      if delivery.method = .stageAndReady ∧ result.2 = none then
        [(delivery.envelope.binding, distributionFingerprint delivery.envelope.fingerprint)]
      else []
    ({ d with registry := result.1, readying := d.readying ++ staged }, result.2)

end DistributionReceiver

inductive ReceiverAction where
  | deliver (delivery : Delivery)
  /-- A `StageAndReady` that has staged marks its binding ready. -/
  | finishReady (i : Nat) (cancelled : Bool) (now now' : Time)
  | getCertificate (serverName : Option String) (now : Time)
  | requiresExactCertificate (hostname : String) (now : Time)
  | snapshot (now : Time)
  | close

namespace DistributionReceiver

def step (x : External) (verify : Time → String → DistributionEnvelope → Bool) (d : DistributionReceiver) :
    ReceiverAction → Option DistributionReceiver
  | .deliver delivery => some (d.deliver x verify delivery).1
  | .finishReady i cancelled now now' =>
    (d.readying[i]?).map (fun call =>
      { d with
        registry := (d.registry.call x (.markReady cancelled call.1 call.2 now now')).1
        readying := d.readying.eraseIdx i })
  | .getCertificate serverName now =>
    some { d with registry := (d.registry.call x (.getCertificate serverName now)).1 }
  | .requiresExactCertificate hostname now =>
    some { d with registry := (d.registry.call x (.requiresExactCertificate hostname now)).1 }
  | .snapshot now => some { d with registry := (d.registry.call x (.snapshot now)).1 }
  | .close => some { d with registry := (d.registry.call x .close).1 }

end DistributionReceiver

end PaperboatTunnel.TLSCert
