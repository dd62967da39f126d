import PaperboatTunnel.Runtime.Completion
import PaperboatTunnel.Runtime.Correctness.Convergence

/-!
# `TunnelIsolation` — a tunnel that is not ready does not hold up the others

The expected rows of a reconcile are the new rows of the ready tunnels and, for a tunnel whose probe failed, the rows
on record. They are published and admitted as long as nothing else stands in the way (`Isolates`). The fence of the
admission registry can: it refuses the row on record when the pending row that was to replace it is newer.
-/

namespace PaperboatTunnel.Runtime.RouteWorker

open GoTime Datacarrier Route TransitionSystem DurableAdmissionRegistry

variable {Digest : Type} [DecidableEq Digest]

section Step

variable (codec : RouteCodec Digest) (w : RouteWorker Digest) (input : ReconcileInput)

/-- **The tunnels of this reconcile do not get in each other's way.** If the expected rows have the content on
    record, nothing is published or admitted anew, so the worker has to be in step, the rows have to keep the fields
    that the hash leaves out, and the admissions in force have to be theirs already. -/
structure Isolates (desired selected : Rows) : Prop extends Unhindered codec w input desired selected where
  unchanged : w.differs codec (w.expectedRows input selected) = false →
    w.InStep ∧ KeepsFields (w.expectedRows input selected) w.canonicalAssignments
      ∧ ∀ a ∈ w.expectedRows input selected, durableAdmission a ∈ w.probeAdmissions selected desired

/-! ## Admissions in force -/

theorem identity_of_validate {sha256 : List UInt8 → List UInt8} {a : DurableAdmission} {nodeID epoch : String}
    {now : Time} (h : a.validate sha256 nodeID epoch now = none) : a.identity.validate = none := by
  unfold DurableAdmission.validate at h
  split at h
  · cases h
  · next hid => exact Option.not_isSome_iff_eq_none.mp hid

variable {codec w input} {des sel rows : Rows} {r : Reconciled Digest}

/-- **One reconcile** without an error admits and serves the expected rows. -/
theorem Effect.isolates (hinj : Function.Injective codec.digest) (hcoherent : Coherent codec w rows)
    (hrecorded : Recorded codec w) (heff : Effect codec w input r)
    (hsel : Selects codec w input des sel) (herr : r.err = none)
    (hdiff : w.differs codec sel)
    (h : Isolates codec w input des sel) :
    Serves codec.toASCII r.worker.registry (w.expectedRows input sel) ∧
      ∀ a ∈ w.expectedRows input sel, durableAdmission a ∈ r.worker.durableAdmissions.admissions := by
  cases heff with
  | idle hcan => exact absurd hsel.source (hcan herr des)
  | blocked | staged | activated => cases herr
  | promoted hsel' _ hres _ hgen _ _ hpromote hadmissions hreplace hflushed =>
    obtain ⟨rfl, rfl⟩ := hsel.unique hsel'
    subst hflushed hres
    rw [flush_frame, ← resolution_effective hdiff]
    refine ⟨hcoherent.serves_promotion hgen hpromote, ?_⟩
    exact mem_of_replace hadmissions hreplace
  | @refreshed _ _ _ w₂ _ _ _ _ _ hsel' hadm hres hsame _ hrefreshed hflushed =>
    obtain ⟨rfl, rfl⟩ := hsel.unique hsel'
    subst hflushed hres
    rw [resolution_effective hdiff] at hsame
    obtain ⟨hstep, hkeeps, hin⟩ := h.unchanged hsame
    rw [flush_frame]
    constructor
    · show Serves codec.toASCII w₂.registry _
      rw [hrefreshed.registry_eq hadm]
      have hsort := hsel.sorted_effective
      rw [resolution_effective hdiff] at hsort
      exact serves_unchanged hinj hcoherent hrecorded hstep hsort hsame hkeeps
    · intro a ha
      show _ ∈ w₂.durableAdmissions.admissions
      cases hrefreshed with
      | kept => exact (hadm.probeAdmissions_eq hdiff (selected_ne_nil ha) _).mpr (hin a ha)
      | replaced _ hadmissions hreplace =>
        rw [← resolution_effective hdiff] at ha
        exact mem_of_replace hadmissions hreplace a ha

end Step

/-- **Tunnel isolation.** In every state the worker can be in, a reconcile with a ready tunnel whose reports are
    accepted ends without an error of its own: the rules of the expected rows are active, and every expected row is
    authorized. The expected rows are the new ones of the ready tunnels and those on record of the tunnels that
    failed. The reconcile must not be hindered otherwise. -/
theorem tunnels_isolated [Inhabited Digest] {codec : RouteCodec Digest} {config : RouteWorkerConfig}
    {maximumRoutes maximumAdmissions : Int} {nodeID processEpoch : String}
    {durableAdmissions : DurableAdmissionRegistry}
    {tr : Trace (RouteWorker Digest) ReconcileInput} {w : RouteWorker Digest}
    (hinj : Function.Injective codec.digest)
    (hregistry : DurableAdmissionRegistry.new nodeID processEpoch maximumAdmissions = .ok durableAdmissions)
    (hrun : Run (RouteWorker.step codec) (RouteWorker.new config maximumRoutes durableAdmissions) tr w)
    {input : ReconcileInput} {desired selected : Rows} (hconfigured : Configured config)
    (haccepting : Accepting input) (hsel : Selects codec w input desired selected)
    (hready : ProbesReady codec w input selected) (hok : Isolates codec w input desired selected) :
    (∀ a, a ∈ w.expectedRows input selected ↔
      (∃ group ∈ canonicalAssignmentGroups selected, Ready w.config input group ∧ a ∈ group.assignments) ∨
      ∃ group ∈ canonicalAssignmentGroups selected, ¬ Ready w.config input group
        ∧ a ∈ w.canonicalAssignments ∧ canonicalAssignmentGroupKey a = group.key) ∧
    (w.reconcileCanonical codec input desired).err = none ∧
    Serves codec.toASCII (w.reconcileRoutes codec input).worker.registry (w.expectedRows input selected) ∧
    ∀ a ∈ w.expectedRows input selected, ∀ now,
      (w.reconcileRoutes codec input).worker.durableAdmissions.authorizeStream
        (durableAdmission a).identity (durableAdmission a).streamOpen now = none := by
  have hcoherent := coherent_run hrun
  obtain ⟨hrecorded, hedge, hconfig⟩ := recorded_run hrun
  obtain ⟨hopen, hempty⟩ := new_ok hregistry
  have hopen' : w.durableAdmissions.closed = false := hedge.closed.trans hopen
  have hlatest : w.RemembersLatest := by
    refine run_induction (I := fun _ => RemembersLatest) (C := fun _ _ => True) hrun (fun _ _ => trivial) ?_
      (fun _ => rfl)
    intro events w input r hcoherent _ _ _ heff hlatest
    exact hlatest.effect hcoherent heff
  have herr := reconcileCanonical_completes hok.toUnhindered hrecorded hopen' haccepting hsel hcoherent
    hlatest (hconfig ▸ hconfigured) hready
  have heff := canonical_effect hsel.source none (fun e h => absurd (herr.symm.trans h) (by simp))
  have hafter := heff.sameEdge.1
  obtain ⟨hserves, hadmitted⟩ := heff.isolates hinj hcoherent hrecorded hsel rfl hready.1 hok
  have hworker : (w.reconcileRoutes codec input).worker = (w.reconcileCanonical codec input desired).worker := by
    unfold reconcileRoutes
    rw [hsel.source]
    dsimp only
    rw [if_neg (not_not.mpr rfl)]
    split
    · rfl
    · rfl
  rw [hworker]
  refine ⟨?_, herr, hserves, ?_⟩
  · intro a
    unfold expectedRows
    rw [mem_effective, mem_ready]
  intro a ha now
  have hgrouped := hafter.grouped (hedge.grouped (by rw [hempty]; exact .nil))
  rw [← resolution_effective hready.1] at ha
  obtain ⟨hval, hadmissible⟩ := effective_admissible hrecorded hsel hok.final.admissible ha
  rw [resolution_effective hready.1] at ha
  exact authorizeStream_of_mem hgrouped (hafter.closed.trans hopen') (hadmitted a ha)
    (identity_of_validate (hafter.admissible hadmissible {})) hval.state rfl

/-! ## A tunnel that cannot be reached beside one that can -/

open RouteSample

omit [DecidableEq Digest] in
theorem takes_of_isSome {codec : RouteCodec Digest} {w : RouteWorker Digest} {rows : Rows} {gen : UInt64}
    (h : (normalizeRules codec.toASCII gen (generationRules rows gen) w.registry.maximumRoutes).toOption.isSome) :
    ∃ rules, TakesRules codec w rows gen rules := by
  unfold TakesRules
  revert h
  cases normalizeRules codec.toASCII gen (generationRules rows gen) w.registry.maximumRoutes with
  | error =>
    intro h
    cases h
  | ok rules => exact fun _ => ⟨rules, rfl⟩

/-- The worker with a row for tunnel `a` on record. -/
def served : RouteWorker (List ImmutableAssignment) := after [reconcile [row "a" "a1" 1 .active]]

/-- A second row for tunnel `a`, and a first one for tunnel `b`. -/
def handover (generation : UInt64) : Rows :=
  [row "a" "a1" 1 .active, row "a" "a2" generation .staged, row "b" "b1" 1 .staged]

/-- The reconcile of these rows, while tunnel `a` cannot be reached. -/
def handing (generation : UInt64) : ReconcileInput := unreachable "a" (reconcile (handover generation))

/-- Tunnel `a` keeps its row, and tunnel `b` gets one. -/
theorem tunnels_isolated_handover : ids (served.expectedRows (handing 1) (handover 1)) = ["a1", "b1"] ∧
    (served.reconcileCanonical codec (handing 1) (handover 1)).err = none ∧
    Serves codec.toASCII (served.reconcileRoutes codec (handing 1)).worker.registry
      (served.expectedRows (handing 1) (handover 1)) ∧
    ∀ a ∈ served.expectedRows (handing 1) (handover 1), ∀ now,
      (served.reconcileRoutes codec (handing 1)).worker.durableAdmissions.authorizeStream
        (durableAdmission a).identity (durableAdmission a).streamOpen now = none := by
  have hselection : selectionOf codec served (handing 1) = some (handover 1, handover 1) := by decide +kernel
  have hisolates : Isolates codec served (handing 1) (handover 1) (handover 1) := by
    constructor
    · exact ⟨by decide +kernel, fun _ => by decide +kernel, by decide +kernel,
        takes_of_isSome (by decide +kernel), fun hset => absurd hset (by decide +kernel)⟩
    · exact fun hsame => absurd hsame (by decide +kernel)
  obtain ⟨_, herr, hserves, hauth⟩ := tunnels_isolated Function.injective_id
    (rfl : DurableAdmissionRegistry.new "edge_1" "edge_epoch_1" 0 = .ok admissions)
    (records_run [reconcile [row "a" "a1" 1 .active]]) ⟨by decide, by decide, by decide, by decide⟩
    ⟨rfl, rfl, rfl, by decide⟩ (selects_iff.mpr hselection) (by decide +kernel) hisolates
  exact ⟨by decide +kernel, herr, hserves, hauth⟩

/-- The second row of tunnel `a` is of a later generation. Its pending admission keeps the row on record from
    being admitted again, and the reconcile fails after the new generation has become active. -/
theorem tunnels_not_isolated : Function.Injective codec.digest ∧
    DurableAdmissionRegistry.new "edge_1" "edge_epoch_1" 0 = .ok admissions ∧
    Run (RouteWorker.step codec) (RouteWorker.new RouteSample.config 0 admissions)
      (records [reconcile [row "a" "a1" 1 .active]]) served ∧
    Configured RouteSample.config ∧ Accepting (handing 2) ∧
    Selects codec served (handing 2) (handover 2) (handover 2) ∧
    ProbesReady codec served (handing 2) (handover 2) ∧
    (served.reconcileCanonical codec (handing 2) (handover 2)).err = some (.admission (.admissionConflict "")) := by
  have hselection : selectionOf codec served (handing 2) = some (handover 2, handover 2) := by decide +kernel
  refine ⟨Function.injective_id, rfl, records_run _, ⟨by decide, by decide, by decide, by decide⟩,
    ⟨rfl, rfl, rfl, by decide⟩, selects_iff.mpr hselection, ?_⟩
  decide +kernel

end PaperboatTunnel.Runtime.RouteWorker
