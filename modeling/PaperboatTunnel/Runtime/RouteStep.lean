import PaperboatTunnel.Route.Promotion
import PaperboatTunnel.Runtime.RouteWorker

/-!
# `RouteStep` — the ways a reconcile can end

`reconcile_effect` says once what a reconcile can do: one rule of `Effect` for each place where it stops, with
the calls that succeeded before. All invariants of the worker are proved by cases on these rules.
-/

namespace PaperboatTunnel.Runtime.RouteWorker

open Datacarrier Route TransitionSystem GenerationRegistry

variable {Digest : Type} (codec : RouteCodec Digest) (w : RouteWorker Digest) (input : ReconcileInput)

/-! ## What a reconcile starts from -/

/-- The reconcile is canonical and selects these rows of the desired ones. -/
structure Selects (desired selected : Rows) : Prop where
  source : desiredRoutes input = .ok (desired, true)
  selection : selectCanonicalAssignments codec.sha256 desired w.config.nodeID w.config.processEpoch = .ok selected

/-- What the reconcile selects, if it comes so far. -/
def selectionOf : Option (Rows × Rows) :=
  match desiredRoutes input with
  | .ok (desired, true) =>
    match selectCanonicalAssignments codec.sha256 desired w.config.nodeID w.config.processEpoch with
    | .ok selected => some (desired, selected)
    | .error _ => none
  | _ => none

/-- What the refresh of an unchanged set does to the admissions. -/
inductive Refreshed (res : Resolution) : RouteWorker Digest → Prop
  | kept (hfailures : res.failures ≠ []) : Refreshed res w
  | replaced {admissions durableAdmissions} (hfailures : res.failures = [])
      (hadmissions : canonicalDurableAdmissions codec.sha256 res.effective = .ok admissions)
      (hreplace : w.durableAdmissions.replace codec.sha256 admissions input.finalNow = (durableAdmissions, none)) :
      Refreshed res { w with durableAdmissions }

/-- The registry takes the admissions of these rows at the end of a promotion. -/
def FinalAccepted (r : DurableAdmissionRegistry) (active : Rows) : Prop :=
  ∃ admissions r', canonicalDurableAdmissions codec.sha256 active = .ok admissions
    ∧ r.replace codec.sha256 admissions input.finalNow = (r', none)

variable {codec w input} {des sel : Rows}

theorem selects_iff : Selects codec w input des sel ↔ selectionOf codec w input = some (des, sel) := by
  unfold selectionOf
  constructor
  · rintro ⟨hsource, hselection⟩
    rw [hsource]
    dsimp only
    rw [hselection]
  · intro h
    split at h
    · next des' hsource =>
      split at h
      · next sel' hselection =>
        obtain ⟨rfl, rfl⟩ := Prod.mk.inj (Option.some.inj h)
        exact ⟨hsource, hselection⟩
      · cases h
    · cases h

/-- A statement about the selection can be evaluated. -/
instance decidableSelects {P : Rows → Rows → Prop} [∀ desired selected, Decidable (P desired selected)] :
    Decidable (∀ desired selected, Selects codec w input desired selected → P desired selected) :=
  decidable_of_iff (∀ p ∈ selectionOf codec w input, P p.1 p.2)
    ⟨fun h _ _ hsel => h _ (selects_iff.mp hsel), fun h _ hp => h _ _ (selects_iff.mpr hp)⟩

theorem Refreshed.frame {res : Resolution} {w₂ : RouteWorker Digest} (h : Refreshed codec w input res w₂) :
    w₂ = { w with durableAdmissions := w₂.durableAdmissions } := by
  cases h with
  | kept | replaced => rfl

variable [DecidableEq Digest]

variable (codec w input) (selected desired : Rows) in
/-- The worker once the admissions of the candidate are in force: nothing to do, or a set installed now. -/
inductive Admitted : RouteWorker Digest → Prop
  | kept (h : w.differs codec selected = true → selected = [] ∨ w.canonicalPendingAdmissions = true) : Admitted w
  | installed {admissions durableAdmissions} (hne : selected ≠ []) (hflag : w.canonicalPendingAdmissions = false)
      (hadmissions : canonicalDurableAdmissions codec.sha256
        (canonicalPendingAdmissionAssignments selected w.canonicalAssignments desired) = .ok admissions)
      (hreplace : w.durableAdmissions.replace codec.sha256 admissions input.pendingNow = (durableAdmissions, none)) :
      Admitted { w with durableAdmissions, canonicalPendingAdmissions := true }

theorem Admitted.frame {w₁ : RouteWorker Digest} (h : Admitted codec w input sel des w₁) : w₁ = { w with
      durableAdmissions := w₁.durableAdmissions,
      canonicalPendingAdmissions := w₁.canonicalPendingAdmissions } := by
  cases h with
  | kept | installed => rfl

def withStaged (w : RouteWorker Digest) (registry : GenerationRegistry) (hash : Digest)
    (generation : UInt64) : RouteWorker Digest :=
  { w with
    registry, canonicalPendingSet := true, canonicalPendingHash := hash,
    canonicalPendingGeneration := generation }

/-- The worker with a promotion on record, before the detached rows are reported. -/
def withPromoted (w : RouteWorker Digest) (durableAdmissions : DurableAdmissionRegistry)
    (generation : UInt64) (hash : Digest) (active superseded : Rows) : RouteWorker Digest :=
  { w with
    durableAdmissions, canonicalPendingAdmissions := false, canonicalGeneration := generation,
    canonicalHash := hash, canonicalSet := true, canonicalPendingSet := false,
    canonicalPendingDetached := mergeCanonicalAssignments
      (detachedCanonicalAssignments w.canonicalAssignments active) superseded,
    canonicalAssignments := active }

def stagedRules (res : Resolution) (generation : UInt64) : List RouteRule :=
  (publishedRules res.effective).map (fun rule => { rule with generation })

def readyReport (res : Resolution) : List RouteObservation := canonicalRouteObservations (observedRows res) "ready"

variable (codec w input) in
/-- **The ways a reconcile ends.** -/
inductive Effect : Reconciled Digest → Prop
  /-- Nothing was selected, or its admissions were refused. -/
  | idle {err} (hcanonical : err = none → ∀ desired, desiredRoutes input ≠ .ok (desired, true)) :
      Effect { worker := w, err }
  /-- It stopped after the probes, before anything was staged or reported. -/
  | blocked {desired selected w₁ err} (hsel : Selects codec w input desired selected)
      (hadm : Admitted codec w input selected desired w₁) :
      Effect { worker := w₁, err := some err, events := w₁.probes codec selected }
  /-- A generation was staged and is not active. -/
  | staged {desired selected w₁ res hash generation g₁ g₂ err events} (hsel : Selects codec w input desired selected)
      (hadm : Admitted codec w input selected desired w₁)
      (hres : res = w.resolution codec input selected) (hhash : hash = canonicalRouteHash codec res.effective)
      (hgen : generation = w.localGeneration hash)
      (hstage : w.registry.stageGeneration codec.toASCII generation (stagedRules res generation) = (g₁, none))
      (hmark : MarkedAs g₁ g₂)
      (hevents : events = [] ∨ ∃ accepted, events = [.ready (readyReport res) accepted]) :
      Effect
        { worker := w₁.withStaged g₂ hash generation, err := some err,
          events := w₁.probes codec selected ++ events }
  /-- The generation is active, but the promotion is not on record: the wait for the old generation was cancelled,
      or the final admissions were refused. -/
  | activated {desired selected w₁ res hash generation g₃ err} (hsel : Selects codec w input desired selected)
      (hadm : Admitted codec w input selected desired w₁)
      (hres : res = w.resolution codec input selected) (hhash : hash = canonicalRouteHash codec res.effective)
      (hgen : generation = w.localGeneration hash) (hready : input.readyAccepted = true)
      (hpromote : Promotes codec.toASCII w.registry generation (stagedRules res generation) g₃)
      (hfinal : input.drain = .canceled ∨ ¬ FinalAccepted codec input w₁.durableAdmissions res.effective)
      (hdiff : w.differs codec selected = true) :
      Effect
        { worker := w₁.withStaged g₃ hash generation, err := some err,
          events := w₁.probes codec selected ++ [.ready (readyReport res) true, .activated generation res.effective] }
  /-- The promotion is on record, and its detached rows are reported. -/
  | promoted {desired selected w₁ res hash generation g₃ superseded admissions durableAdmissions flushed err}
      (hsel : Selects codec w input desired selected)
      (hadm : Admitted codec w input selected desired w₁)
      (hres : res = w.resolution codec input selected) (hhash : hash = canonicalRouteHash codec res.effective)
      (hgen : generation = w.localGeneration hash) (hready : input.readyAccepted = true)
      (hsuperseded : canonicalSupersededAssignments codec.sha256 desired (res.effective ++ res.failed)
        w.config.nodeID w.config.processEpoch = .ok superseded)
      (hpromote : Promotes codec.toASCII w.registry generation (stagedRules res generation) g₃)
      (hadmissions : canonicalDurableAdmissions codec.sha256 res.effective = .ok admissions)
      (hreplace : w₁.durableAdmissions.replace codec.sha256 admissions input.finalNow = (durableAdmissions, none))
      (hflushed : flushed = flushCanonicalDetached
        ((w₁.withStaged g₃ hash generation).withPromoted durableAdmissions generation hash res.effective
          superseded) input)
      (hdiff : w.differs codec selected = true) :
      Effect
        { worker := flushed.worker, err, events := w₁.probes codec selected ++
            (.ready (readyReport res) true :: .activated generation res.effective :: flushed.events) }
  /-- The set is the one on record. -/
  | refreshed {desired selected w₁ w₂ res superseded flushed err events}
      (hsel : Selects codec w input desired selected)
      (hadm : Admitted codec w input selected desired w₁)
      (hres : res = w.resolution codec input selected)
      (hsame : w.differs codec res.effective = false)
      (hsuperseded : canonicalSupersededAssignments codec.sha256 desired (res.effective ++ res.failed)
        w.config.nodeID w.config.processEpoch = .ok superseded)
      (hrefreshed : Refreshed codec w₁ input res w₂)
      (hflushed : flushed = flushCanonicalDetached
        { w₂ with canonicalPendingDetached :=
            mergeCanonicalAssignments w.canonicalPendingDetached superseded } input)
      (hevents : events = [] ∨ ∃ accepted, events = [.ready (readyReport res) accepted]) :
      Effect
        { worker := flushed.worker, err,
          events := w₁.probes codec selected ++ (flushed.events ++ events) }

/-! ## The parts one by one -/

section Parts

variable {w₁ : RouteWorker Digest}

theorem installPending_cases : (∃ e, w.installPending codec input sel des = (w, some e)) ∨
    ∃ w₁, w.installPending codec input sel des = (w₁, none) ∧ Admitted codec w input sel des w₁ := by
  unfold installPending
  split
  · next hidle => exact .inr ⟨w, rfl, .kept (fun _ => hidle)⟩
  next hnew =>
  rw [not_or] at hnew
  split
  · exact .inl ⟨_, rfl⟩
  next adms hadmissions =>
  split
  · exact .inl ⟨_, rfl⟩
  next durable hreplace =>
  exact .inr ⟨_, rfl, .installed hnew.1 (Bool.eq_false_of_not_eq_true hnew.2) hadmissions hreplace⟩

theorem Admitted.installPending_idle (h : Admitted codec w input sel des w₁)
    (hdiff : w.differs codec sel) (w₂ : RouteWorker Digest)
    (hflag : w₂.canonicalPendingAdmissions = w₁.canonicalPendingAdmissions) :
    w₂.installPending codec input sel des = (w₂, none) := by
  have hidle : sel = [] ∨ w₂.canonicalPendingAdmissions = true := by
    rw [hflag]
    cases h with
    | kept h => exact h hdiff
    | installed => exact .inr rfl
  rw [installPending, if_pos hidle]

theorem resolution_of_same (h : w.differs codec sel = false) :
    w.resolution codec input sel = { effective := sel, ready := sel } := by
  rw [resolution, h]
  rfl

theorem differs_of_failures (h : (w.resolution codec input sel).failures ≠ []) : w.differs codec sel = true := by
  by_contra hsame
  rw [resolution_of_same (Bool.eq_false_of_not_eq_true hsame)] at h
  exact h rfl

theorem Admitted.resolution_eq (h : Admitted codec w input sel des w₁) :
    w₁.resolution codec input sel = w.resolution codec input sel := by
  cases h with
  | kept | installed => rfl

theorem Admitted.differs_eq (h : Admitted codec w input sel des w₁) (rows : Rows) :
    w₁.differs codec rows = w.differs codec rows := by
  cases h with
  | kept | installed => rfl

/-- What follows the probes ends as `r` does; where `r` has no error, that of the legacy part counts. -/
def Ends (codec : RouteCodec Digest) (w w₁ : RouteWorker Digest) (input : ReconcileInput) (selected : Rows)
    (r : Reconciled Digest) : Prop :=
  ∀ err, (∀ e, r.err = some e → err = some e) →
    Effect codec w input { worker := r.worker, err, events := w₁.probes codec selected ++ r.events }

variable {res : Resolution} {sup : Rows} (hsel : Selects codec w input des sel)
  (hadm : Admitted codec w input sel des w₁)

include hsel hadm

theorem blocked_ends (e : RouteWorkerError) : Ends codec w w₁ input sel { worker := w₁, err := some e } := by
  intro err herr
  rw [herr e rfl, List.append_nil]
  exact .blocked hsel hadm

variable (hres : res = w.resolution codec input sel)
  (hsuperseded : canonicalSupersededAssignments codec.sha256 des (res.effective ++ res.failed) w.config.nodeID w.config.processEpoch = .ok sup)

include hres hsuperseded

theorem recordPromotion_ends {hash : Digest} {gen : UInt64} {g₃ : GenerationRegistry}
    (hhash : hash = canonicalRouteHash codec res.effective) (hgen : gen = w.localGeneration hash)
    (hready : input.readyAccepted) (hdiff : w.differs codec sel)
    (hpromote : Promotes codec.toASCII w.registry gen (stagedRules res gen) g₃) :
    let recd := (w₁.withStaged g₃ hash gen).recordPromotion codec input gen hash res.effective sup
    Ends codec w w₁ input sel { recd with
        events := [.ready (readyReport res) true, .activated gen res.effective] ++ recd.events } := by
  intro recd err
  unfold recd recordPromotion
  split
  · next e hadmissions =>
    intro herr
    rw [herr _ rfl]
    refine .activated hsel hadm hres hhash hgen hready hpromote (.inr ?_) hdiff
    rintro ⟨adms, r', hok, _⟩
    rw [hadmissions] at hok
    cases hok
  next adms hadmissions =>
  split
  · next r' e hreplace =>
    intro herr
    rw [herr _ rfl]
    refine .activated hsel hadm hres hhash hgen hready hpromote (.inr ?_) hdiff
    rintro ⟨adms', r'', hok, hreplace'⟩
    obtain rfl := Except.ok.inj (hadmissions.symm.trans hok)
    have hreplace : w₁.durableAdmissions.replace codec.sha256 adms input.finalNow = (r', some e) := hreplace
    rw [hreplace] at hreplace'
    cases (Prod.mk.inj hreplace').2
  next durable hreplace =>
  intro _
  exact .promoted hsel hadm hres hhash hgen hready hsuperseded hpromote hadmissions hreplace rfl hdiff

theorem promote_ends (hdiff : w.differs codec sel) :
    Ends codec w w₁ input sel (w₁.promote codec input sel des res sup) := by
  have hreg : w₁.registry = w.registry := by rw [hadm.frame]
  have hlocal (hash : Digest) : w₁.localGeneration hash = w.localGeneration hash := by rw [hadm.frame]; rfl
  unfold promote
  extract_lets hash generation rules observations
  have hgen : generation = w.localGeneration hash := hlocal hash
  clear_value generation
  split
  · exact blocked_ends hsel hadm _
  next g₁ hstage =>
  rw [hreg] at hstage
  extract_lets staged
  rw [hadm.installPending_idle hdiff staged rfl]
  dsimp only
  split
  · intro err herr
    rw [herr _ rfl]
    exact .staged hsel hadm hres rfl hgen hstage .same (.inr ⟨false, rfl⟩)
  next hacc =>
  rw [not_not] at hacc
  have hmarked : MarkedAs g₁ (staged.registry.markGenerationReady generation).1 := markGenerationReady_cases
  split
  · next g₂ err' hmark =>
    intro err herr
    rw [herr _ rfl]
    rw [hmark] at hmarked
    exact .staged hsel hadm hres rfl hgen hstage hmarked (.inr ⟨true, rfl⟩)
  next g₂ hmark =>
  rw [hmark] at hmarked
  have hactivated : ActivatedAs g₂ generation (g₂.activateGeneration generation input.drain).1 :=
    activateGeneration_cases
  cases hact : g₂.activateGeneration generation input.drain with
  | mk g₃ drainErr =>
  rw [hact] at hactivated
  have hpromote (hend : Activates drainErr) :
      Promotes codec.toASCII w.registry generation (stagedRules res generation) g₃ := by
    obtain ⟨hactive, hpend⟩ := activateGeneration_active hact hend
    exact ⟨⟨g₁, g₂, hstage, hmarked, hactivated⟩, hactive, hpend⟩
  have hrec (hend : Activates drainErr) :=
    recordPromotion_ends hsel hadm hres hsuperseded rfl hgen hacc hdiff (hpromote hend)
  dsimp only
  split
  · exact hrec (.inl rfl)
  · exact hrec (.inr (.inl rfl))
  · intro err herr
    rw [herr _ rfl]
    exact .activated hsel hadm hres rfl hgen hacc (hpromote (.inr (.inr rfl)))
      (.inl (activateGeneration_context hact)) hdiff
  · next e htimeout hcontext =>
    intro err herr
    rw [herr _ rfl]
    have hrefused : ¬ Activates (some e) := by
      rintro (h | h | h)
      · cases h
      · exact htimeout (Option.some.inj h)
      · exact hcontext (Option.some.inj h)
    obtain rfl := activateGeneration_refused hact hrefused
    exact .staged hsel hadm hres rfl hgen hstage hmarked (.inr ⟨true, rfl⟩)

theorem refresh_ends (hsame : w.differs codec res.effective = false) :
    Ends codec w w₁ input sel (w₁.refresh codec input sel des res sup) := by
  have hdetached : w₁.canonicalPendingDetached = w.canonicalPendingDetached := by rw [hadm.frame]
  unfold refresh
  extract_lets admitted
  have hadmitted : (∃ e, admitted = (w₁, some e)) ∨ ∃ w₂, admitted = (w₂, none) ∧ Refreshed codec w₁ input res w₂
      ∧ w₂.canonicalPendingDetached = w.canonicalPendingDetached := by
    by_cases hfails : res.failures = []
    · have hadmitted' : admitted = _ := if_neg (not_not.mpr hfails)
      rw [hadmitted']
      split
      · exact .inl ⟨_, rfl⟩
      next adms hadmissions =>
      split
      · exact .inl ⟨_, rfl⟩
      next durable hreplace =>
      exact .inr ⟨_, rfl, .replaced hfails hadmissions hreplace, hdetached⟩
    · have hadmitted' : admitted = _ := if_pos hfails
      rw [hres] at hfails
      rw [hadmitted', hadm.installPending_idle (differs_of_failures hfails) w₁ rfl]
      rw [← hres] at hfails
      exact .inr ⟨w₁, rfl, .kept hfails, hdetached⟩
  clear_value admitted
  rcases hadmitted with ⟨e, rfl⟩ | ⟨w₂, rfl, hrefreshed, hdetached₂⟩
  · exact blocked_ends hsel hadm e
  intro err _
  dsimp only
  rw [hdetached₂]
  split
  · rw [← List.append_nil (flushCanonicalDetached _ input).events]
    exact .refreshed hsel hadm hres hsame hsuperseded hrefreshed rfl (.inl rfl)
  unfold reportReady
  split
  · exact .refreshed hsel hadm hres hsame hsuperseded hrefreshed rfl (.inl rfl)
  · exact .refreshed hsel hadm hres hsame hsuperseded hrefreshed rfl (.inr ⟨_, rfl⟩)

omit hres hsuperseded

theorem settle_ends : Ends codec w w₁ input sel (w₁.settle codec input sel des) := by
  have hconfig : w₁.config = w.config := by rw [hadm.frame]
  have hres : w₁.resolution codec input sel = w.resolution codec input sel := hadm.resolution_eq
  unfold settle
  extract_lets probing res
  split
  · exact blocked_ends hsel hadm _
  split
  · exact blocked_ends hsel hadm _
  split
  · exact blocked_ends hsel hadm _
  next sup hsuperseded =>
  rw [hconfig] at hsuperseded
  split
  · next hdiff =>
    refine promote_ends hsel hadm hres hsuperseded ?_
    rw [hadm.differs_eq, show res = w.resolution codec input sel from hres] at hdiff
    by_contra hsame
    rw [resolution_of_same (Bool.eq_false_of_not_eq_true hsame)] at hdiff
    exact hsame hdiff
  · next hsame =>
    rw [hadm.differs_eq] at hsame
    exact refresh_ends hsel hadm hres hsuperseded (Bool.eq_false_of_not_eq_true hsame)

end Parts

/-- **What the canonical part can do.** Its error is final; without one, the error is that of the legacy part. -/
theorem canonical_effect (hsource : desiredRoutes input = .ok (des, true)) (err : Option RouteWorkerError)
    (herr : ∀ e, (w.reconcileCanonical codec input des).err = some e → err = some e) :
    Effect codec w input
      { worker := (w.reconcileCanonical codec input des).worker, err,
        events := (w.reconcileCanonical codec input des).events } := by
  revert herr
  unfold reconcileCanonical
  have hidle (e : RouteWorkerError) (herr : ∀ e', some e = some e' → err = some e') :
      Effect codec w input { worker := w, err } := by
    rw [herr e rfl]
    exact .idle (fun h => by cases h)
  split
  · exact hidle _
  split
  · exact hidle _
  next sel hselected =>
  split
  · exact hidle _
  have hsel : Selects codec w input des sel := ⟨hsource, hselected⟩
  extract_lets admitted
  have hadmitted : (∃ e, admitted = (w, some e)) ∨ ∃ w₁, admitted = (w₁, none)
      ∧ Admitted codec w input sel des w₁ := by
    by_cases hdiff : w.differs codec sel = true
    · have hadmitted' : admitted = _ := if_pos hdiff
      rw [hadmitted']
      exact installPending_cases
    · have hadmitted' : admitted = _ := if_neg hdiff
      exact .inr ⟨w, hadmitted', .kept (hdiff.elim)⟩
  clear_value admitted
  rcases hadmitted with ⟨e, rfl⟩ | ⟨w₁, rfl, hadm⟩
  · exact hidle _
  · exact settle_ends hsel hadm err

/-- **What a reconcile can do.** -/
theorem reconcile_effect (codec : RouteCodec Digest) (w : RouteWorker Digest) (input : ReconcileInput) :
    Effect codec w input (w.reconcileRoutes codec input) := by
  unfold reconcileRoutes
  split
  · exact .idle (fun h => by cases h)
  next des canonical hsource =>
  split
  · next hlegacy =>
    refine .idle (fun _ des' hsource' => hlegacy ?_)
    rw [hsource] at hsource'
    exact (Prod.mk.inj (Except.ok.inj hsource')).2
  next hcan =>
  rw [not_not] at hcan
  rw [hcan] at hsource
  dsimp only
  split
  · next e he => exact canonical_effect hsource _ (fun _ h => h)
  · next hnone => exact canonical_effect hsource _ (fun e h => by rw [hnone] at h; cases h)

theorem effect_of_step {w' : RouteWorker Digest} (h : w.step codec input = some w') :
    Effect codec w input (w.reconcileRoutes codec input) ∧ w' = (w.reconcileRoutes codec input).worker :=
  ⟨reconcile_effect codec w input, (Option.some.inj h).symm⟩

end PaperboatTunnel.Runtime.RouteWorker

/-! ## A worker with rows for a few tunnels

The rows pass all checks. The digest of a list of hashed rows is the list itself, so the content hash is injective. -/

namespace PaperboatTunnel.Runtime.RouteSample

open Datacarrier TransitionSystem RouteWorker

def codec : RouteCodec (List ImmutableAssignment) := { toASCII := some, sha256 := fun _ => [1], digest := id }

def publicKey : String := "AAAAAAAAAAAAAAAAAAAAAAAAAAAAAAAAAAAAAAAAAAA"

def contentHash : String := "sha256:0000000000000000000000000000000000000000000000000000000000000000"

/-- A row for the route of a tunnel, with a connector of its own. -/
def row (tunnel assignment : String) (generation : UInt64) (state : AssignmentState) : RouteAssignment :=
  { routeID := "route_" ++ tunnel, revision := 1, environment := "env_1", accountID := "account_1",
    hostID := "host_1", machineIdentityPublicKey := publicKey, machineIdentityThumbprint := "AQ",
    tunnelID := "tunnel_" ++ tunnel, connectorID := "connector_" ++ assignment, generation := 1,
    connectorSessionID := "session_" ++ assignment, connectorProcessGeneration := 1, configGeneration := 1,
    configContentHash := contentHash, assignmentID := assignment, assignmentGeneration := generation,
    edgeFailureDomain := "zone_1", edgeProcessEpoch := "edge_epoch_1", nodeID := "edge_1",
    kind := .tunnelHTTPSWSS, publicHost := tunnel ++ ".example.test", matchType := Route.matchExact,
    matchHostname := tunnel ++ ".example.test", pathPrefix := "/", protocol := "https",
    accessMode := "public", state }

def config : RouteWorkerConfig := { nodeID := "edge_1", processEpoch := "edge_epoch_1" }

def admissions : DurableAdmissionRegistry :=
  (DurableAdmissionRegistry.new "edge_1" "edge_epoch_1" 0).toOption.getD {}

def worker : RouteWorker (List ImmutableAssignment) := new config 0 admissions

def reconcile (rows : Rows) : ReconcileInput := { desired := .snapshot { routes := rows } }

def unreachable (tunnel : String) (input : ReconcileInput) : ReconcileInput :=
  { input with probeRoutes := fun rules => rules.all (fun rule => rule.tunnelID != "tunnel_" ++ tunnel) }

/-- The worker after a list of reconciles, and their record. -/
def after (inputs : List ReconcileInput) : RouteWorker (List ImmutableAssignment) :=
  (exec (step codec) worker inputs).getD worker

def records (inputs : List ReconcileInput) : Trace (RouteWorker (List ImmutableAssignment)) ReconcileInput :=
  trace (step codec) worker inputs

theorem exec_isSome : ∀ (inputs : List ReconcileInput) (w : RouteWorker (List ImmutableAssignment)),
    (exec (step codec) w inputs).isSome = true
  | [], _ => rfl
  | _ :: inputs, _ => exec_isSome inputs _

variable (inputs : List ReconcileInput)

theorem records_run : Run (step codec) worker (records inputs) (after inputs) :=
  exec_getD_run (exec_isSome inputs worker)

def last (inputs : List ReconcileInput) (input : ReconcileInput) :
    Transition (RouteWorker (List ImmutableAssignment)) ReconcileInput :=
  ⟨after inputs, input, ((after inputs).reconcileRoutes codec input).worker⟩

theorem trace_snoc (input : ReconcileInput) : ∀ (inputs : List ReconcileInput)
    (w : RouteWorker (List ImmutableAssignment)),
    trace (step codec) w (inputs ++ [input]) = trace (step codec) w inputs ++
      [⟨(exec (step codec) w inputs).getD worker, input,
        (((exec (step codec) w inputs).getD worker).reconcileRoutes codec input).worker⟩]
  | [], _ => rfl
  | i :: inputs, w => by
      rw [List.cons_append]
      show _ :: trace _ _ (inputs ++ [input]) = _ :: (trace _ _ inputs ++ _)
      rw [trace_snoc input inputs]
      rfl

theorem records_snoc (input : ReconcileInput) : records (inputs ++ [input]) = records inputs ++ [last inputs input] :=
  trace_snoc input inputs worker

end PaperboatTunnel.Runtime.RouteSample
