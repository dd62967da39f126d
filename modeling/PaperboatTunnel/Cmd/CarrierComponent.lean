import PaperboatTunnel.Runtime.RouteStep

/-!
# `CarrierComponent` — the durable sync step of a carrier

The handler of `cmd/paperboat-tunnel/carrier_component.go` brings its carrier in line with the durable admissions of
the identity, at the start and at every tick. `Replace` may be called between the up to three reads of such a step;
an identity that loses its admissions there makes the step fail, and the handler returns (`lost_between_reads`).
-/

namespace PaperboatTunnel.Datacarrier.DurableAdmissionRegistry

open GoTime

/-- `MachineBinding`: the public key and the thumbprint. -/
def machineBinding (r : DurableAdmissionRegistry) (identity : Identity) (now : Time) : Option (String × String) :=
  if identity.validate.isSome ∨ r.closed then none
  else match r.byID.find? (fun entry => entry.identity == identity) with
    | none => none
    | some entry =>
      if entry.byRoute.any (fun a => a.usable now) then
        some (entry.machineIdentityPublicKey, entry.machineIdentityThumbprint)
      else none

theorem machineBinding_isSome (r : DurableAdmissionRegistry) (identity : Identity) (now : Time) :
    (r.machineBinding identity now).isSome = r.hasIdentity identity now := by
  unfold machineBinding hasIdentity
  cases identity.validate <;> cases r.closed <;> cases r.byID.find? (fun entry => entry.identity == identity) <;>
    grind

/-- The registry after calls of `Replace`. -/
def replaceAll (sha256 : List UInt8 → List UInt8) (r : DurableAdmissionRegistry)
    (calls : List (List DurableAdmission × Time)) : DurableAdmissionRegistry :=
  calls.foldl (fun r call => (r.replace sha256 call.1 call.2).1) r

end PaperboatTunnel.Datacarrier.DurableAdmissionRegistry

namespace PaperboatTunnel.Cmd

open GoTime Datacarrier DurableAdmissionRegistry

/-! ## The sync step -/

inductive SyncError where
  | admissionMissing
  /-- An error of the durable route registry. -/
  | routes (detail : String)
deriving DecidableEq

/-- The durable route registry, as the handler of one server calls it. The state of the replica is made of the
    admissions. -/
structure DurableRoutes (σ : Type) where
  detach : σ → σ
  updateReplicaState : List DurableAdmission → σ → σ × Option String
  attachReplica : (publicKey thumbprint : String) → List DurableAdmission → σ → σ × Option String

/-- An error the handler has returned ends its preview and private access work. -/
structure Carrier (σ : Type) where
  identity : Identity
  routes : σ
  durableRegistered : Bool := false
  returned : Option SyncError := none
deriving DecidableEq

namespace Carrier

variable {σ : Type} (sha256 : List UInt8 → List UInt8) (durableRoutes : DurableRoutes σ) (now : Time)
  (r : DurableAdmissionRegistry) (first second : List (List DurableAdmission × Time)) (c : Carrier σ)
  {r₁ r₂ r₃ : DurableAdmissionRegistry}

/-- `syncDurable`. The reads see `r₁`, `r₂` and `r₃`; a registry that is not there is one without entries. -/
def syncDurable (r₁ r₂ r₃ : DurableAdmissionRegistry) : Carrier σ × Option SyncError :=
  if r₁.hasIdentity c.identity now = false then
    if c.durableRegistered then
      ({ c with routes := durableRoutes.detach c.routes, durableRegistered := false }, none)
    else (c, none)
  else match r₂.machineBinding c.identity now with
    | none => (c, some .admissionMissing)
    | some (publicKey, thumbprint) =>
      let admissions := (r₃.forIdentity c.identity now).filter (fun a => a.state == .active || a.state == .staged)
      if admissions = [] then (c, some .admissionMissing)
      else if c.durableRegistered then
        let (routes, err) := durableRoutes.updateReplicaState admissions c.routes
        ({ c with routes }, err.map .routes)
      else
        let (routes, err) := durableRoutes.attachReplica publicKey thumbprint admissions c.routes
        ({ c with routes, durableRegistered := err.isNone }, err.map .routes)

/-- A tick, with the calls of `Replace` after the first read and after the second one. The handler returns the error
    of the step. -/
def tick : Carrier σ :=
  let r₂ := r.replaceAll sha256 first
  let (c, err) := c.syncDurable durableRoutes now r r₂ (r₂.replaceAll sha256 second)
  { c with returned := err }

/-! ## Admissions lost -/

/-- The step filters what `ForIdentity` has filtered already. -/
theorem filter_forIdentity (identity : Identity) :
    (r.forIdentity identity now).filter (fun a => a.state == .active || a.state == .staged)
      = r.forIdentity identity now := by
  rw [List.filter_eq_self]
  intro a ha
  obtain ⟨_, _, _, _, _, husable⟩ := mem_forIdentity.mp ha
  grind [DurableAdmission.usable]

/-- **The step fails for want of an admission** if and only if the first read finds the identity and a later one does
    not. -/
theorem missing_iff : (c.syncDurable durableRoutes now r₁ r₂ r₃).2 = some .admissionMissing ↔
    r₁.hasIdentity c.identity now = true
      ∧ ¬ (r₂.hasIdentity c.identity now = true ∧ r₃.hasIdentity c.identity now = true) := by
  have hbinding := machineBinding_isSome r₂ c.identity now
  have hread := filter_forIdentity now r₃ c.identity
  have hfound : r₃.hasIdentity c.identity now = true ↔ _ := hasIdentity_iff
  -- the other errors are those of the route registry
  have hroutes (err : Option String) : err.map SyncError.routes ≠ some .admissionMissing := by simp
  fun_cases syncDurable durableRoutes now c r₁ r₂ r₃ <;> grind

/-- **Losing the admissions only detaches the carrier**: the step does not fail for want of an admission if and only if
    its later reads find the identity whenever the first one does, and when the first read does not find it, the
    handler goes on and the carrier is not on the durable routes. -/
theorem lost_admissions_detach :
    ((c.tick sha256 durableRoutes now r first second).returned ≠ some .admissionMissing ↔
      (r.hasIdentity c.identity now = true → (r.replaceAll sha256 first).hasIdentity c.identity now = true
        ∧ ((r.replaceAll sha256 first).replaceAll sha256 second).hasIdentity c.identity now = true)) ∧
    (r.hasIdentity c.identity now = false → c.tick sha256 durableRoutes now r first second
      = { c with routes := if c.durableRegistered then durableRoutes.detach c.routes else c.routes,
                 durableRegistered := false, returned := none }) := by
  constructor
  · have hmissing : (c.tick sha256 durableRoutes now r first second).returned = some .admissionMissing ↔ _ :=
      missing_iff durableRoutes now c
    rw [Ne, hmissing, not_and, not_not]
  · intro hgone
    simp only [tick, syncDurable, hgone, if_true]
    by_cases hreg : c.durableRegistered = true <;> simp_all

/-! ## One admission -/

open PaperboatTunnel.Runtime RouteSample

def admitted : DurableAdmissionRegistry :=
  admissions.replaceAll codec.sha256 [([durableAdmission (row "a" "a1" 1 .active)], {})]

/-- The carrier of the admission; the route registry notes whether the server is attached. -/
def attached : Carrier Bool :=
  { identity := (durableAdmission (row "a" "a1" 1 .active)).identity, routes := true, durableRegistered := true }

def noted : DurableRoutes Bool where
  detach := fun _ => false
  updateReplicaState := fun _ routes => (routes, none)
  attachReplica := fun _ _ _ _ => (true, none)

/-- An empty set comes before the tick, and the carrier is detached. -/
theorem lost_admissions_detach_before :
    attached.tick codec.sha256 noted {} (admitted.replaceAll codec.sha256 [([], {})]) [] []
      = { attached with routes := false, durableRegistered := false } :=
  (lost_admissions_detach codec.sha256 noted {} _ [] [] attached).2 (by decide +kernel)

/-- The same set comes between two reads: the step fails, the carrier stays on the durable routes and the handler
    returns. -/
theorem lost_between_reads : attached.tick codec.sha256 noted {} admitted [([], {})] []
        = { attached with returned := some .admissionMissing }
      ∧ attached.tick codec.sha256 noted {} admitted [] [([], {})]
        = { attached with returned := some .admissionMissing } := by
  decide +kernel

end Carrier

end PaperboatTunnel.Cmd
