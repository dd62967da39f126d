import PaperboatTunnel.Runtime.Correctness.ReadyActivation
import PaperboatTunnel.Runtime.Recorded

/-!
# `Detach` — no active row is reported as detached

A promotion reports rows that are not among those it has just activated. What a refresh reports avoids the rows on
record, and the active rows as long as the worker is in step. Out of step, a snapshot with the old content makes the
worker take its record for the active set and report the rows the matcher serves.
-/

namespace PaperboatTunnel.Runtime.RouteWorker

open Datacarrier Route TransitionSystem Function List

/-! ## Reports of detached rows -/

/-- No reported row is in the active generation at the moment of the report; `rows` are active before. -/
def DetachesInactive (rows : Rows) : List RouteEvent → Prop
  | [] => True
  | .activated _ active :: rest => DetachesInactive active rest
  | .detached report _ :: rest => (∀ o ∈ report, o.assignmentID ∉ ids rows) ∧ DetachesInactive rows rest
  | _ :: rest => DetachesInactive rows rest

theorem detachesInactive_append {evs evs' : List RouteEvent} :
    ∀ {rows : Rows}, DetachesInactive rows (evs ++ evs') ↔
      DetachesInactive rows evs ∧ DetachesInactive (activeAfter rows evs) evs' := by
  induction evs with
  | nil =>
    intro rows
    simp [DetachesInactive, activeAfter]
  | cons e evs ih =>
    intro rows
    cases e with
    | activated => exact ih
    | detached =>
      show _ ∧ DetachesInactive rows (evs ++ evs') ↔ (_ ∧ DetachesInactive rows evs) ∧ _
      rw [ih, and_assoc]
      exact Iff.rfl
    | probed | ready => exact ih

theorem detachesInactive_probes {Digest : Type} [DecidableEq Digest] (w : RouteWorker Digest)
    (codec : RouteCodec Digest) (sel rows : Rows) :
    DetachesInactive rows (w.probes codec sel) := by
  unfold probes
  split
  · induction canonicalAssignmentGroups sel with
    | nil => trivial
    | cons _ _ ih => exact ih
  · trivial

variable {rows : Rows}

theorem detachesInactive_ready {evs : List RouteEvent} {rep : List RouteObservation}
    (h : evs = [] ∨ ∃ accepted, evs = [.ready rep accepted]) :
    DetachesInactive rows evs := by
  rcases h with rfl | ⟨accepted, rfl⟩
  · trivial
  · trivial

theorem detachesInactive_flush {Digest : Type} {w : RouteWorker Digest} (input : ReconcileInput)
    (h : ∀ a ∈ w.canonicalPendingDetached, a.assignmentID ∉ ids rows) :
    DetachesInactive rows (flushCanonicalDetached w input).events := by
  rcases flush_cases w input with ⟨_, hflush⟩ | ⟨_, accepted, hevents, _⟩
  · rw [hflush]
    trivial
  rw [hevents]
  refine ⟨?_, trivial⟩
  intro o ho
  obtain ⟨a, ha, rfl⟩ := mem_map.mp ho
  exact h a ha

variable {Digest : Type} [DecidableEq Digest]

/-! ## The pending rows -/

/-- No row on record is pending to be reported as detached. -/
def Detachable (w : RouteWorker Digest) : Prop :=
  ∀ a ∈ w.canonicalPendingDetached, a.assignmentID ∉ ids w.canonicalAssignments

omit [DecidableEq Digest] in
theorem Detachable.flush {w : RouteWorker Digest} (h : w.Detachable) (input : ReconcileInput) :
    (flushCanonicalDetached w input).worker.Detachable := by
  rcases flush_cases w input with ⟨_, hflush⟩ | ⟨_, accepted, _, hworker⟩
  · rw [hflush]
    exact h
  rw [hworker]
  cases accepted with
  | false => exact h
  | true =>
    intro a ha
    cases ha

section Step

variable (codec : RouteCodec Digest) (w : RouteWorker Digest) (input : ReconcileInput)

/-- The reconcile does not rely on a record that is out of step: no probe fails, and the selection differs from
    the rows on record. -/
def SettlesAnew : Prop :=
  ¬ ProbeFails codec w input ∧
    ∀ desired selected, Selects codec w input desired selected → ¬ SameContent selected w.canonicalAssignments

variable {codec w input} {des sel rows : Rows} {r : Reconciled Digest} {sup : Rows}

/-- **An unchanged set has the content on record.** -/
theorem content_of_same (hinj : Injective codec.digest) (hcoherent : Coherent codec w rows)
    (hrecorded : Recorded codec w) {eff : Rows} (hsort : Sorted eff)
    (hsame : w.differs codec eff = false) :
    w.canonicalSet = true ∧ eff.map immutableAssignment = w.canonicalAssignments.map immutableAssignment := by
  unfold differs at hsame
  rw [Bool.or_eq_false_iff, Bool.or_eq_false_iff, Bool.not_eq_false', bne_eq_false_iff_eq] at hsame
  obtain ⟨⟨hset, hhash⟩, _⟩ := hsame
  -- equal hashes of sorted rows mean equal contents
  refine ⟨hset, hinj ?_⟩
  rw [← canonicalRouteHash_sorted hsort, ← canonicalRouteHash_sorted hrecorded.sorted, hhash, (hcoherent.hash hset).1]

omit [DecidableEq Digest] in
theorem not_effective_of_superseded {res : Resolution}
    (hsuperseded : canonicalSupersededAssignments codec.sha256 des (res.effective ++ res.failed)
      w.config.nodeID w.config.processEpoch = .ok sup) :
    ∀ a ∈ sup, a.assignmentID ∉ ids res.effective := by
  intro a ha hin
  refine not_mem_of_superseded hsuperseded a ha ?_
  unfold ids
  rw [map_append]
  exact mem_append_left _ hin

omit [DecidableEq Digest] in
/-- The rows a promotion leaves pending are not among the ones it has activated. -/
theorem pending_promoted {res : Resolution}
    (hsuperseded : canonicalSupersededAssignments codec.sha256 des (res.effective ++ res.failed)
      w.config.nodeID w.config.processEpoch = .ok sup) (prev : Rows) :
    ∀ a ∈ mergeCanonicalAssignments (detachedCanonicalAssignments prev res.effective) sup,
      a.assignmentID ∉ ids res.effective := by
  intro a ha
  rcases mem_of_merge ha with hdetached | hnew
  · exact (mem_detached.mp hdetached).2
  · exact not_effective_of_superseded hsuperseded a hnew

/-- **One reconcile** reports no active row as detached, and leaves no row on record pending. -/
theorem Effect.detaches (hinj : Injective codec.digest) (hcoherent : Coherent codec w rows)
    (hrecorded : Recorded codec w) (hdetachable : w.Detachable)
    (hok : w.canonicalSet = true → ¬ w.InStep → SettlesAnew codec w input) (heff : Effect codec w input r) :
    DetachesInactive rows r.events ∧ r.worker.Detachable := by
  cases heff with
  | idle => exact ⟨trivial, hdetachable⟩
  | blocked _ hadm =>
    refine ⟨detachesInactive_probes _ _ _ _, ?_⟩
    rw [hadm.frame]
    exact hdetachable
  | staged _ hadm _ _ _ _ _ hevents =>
    refine ⟨detachesInactive_append.mpr ⟨detachesInactive_probes _ _ _ _, detachesInactive_ready hevents⟩, ?_⟩
    rw [hadm.frame]
    exact hdetachable
  | activated _ hadm =>
    refine ⟨detachesInactive_append.mpr ⟨detachesInactive_probes _ _ _ _, trivial⟩, ?_⟩
    rw [hadm.frame]
    exact hdetachable
  | promoted _ _ _ _ _ _ hsuperseded _ _ _ hflushed =>
    subst hflushed
    refine ⟨detachesInactive_append.mpr ⟨detachesInactive_probes _ _ _ _, ?_⟩, ?_⟩
    · exact detachesInactive_flush input (pending_promoted hsuperseded _)
    · refine Detachable.flush ?_ input
      exact pending_promoted hsuperseded _
  | @refreshed _ _ _ w₂ _ sup _ _ _ hsel hadm hres hsame hsuperseded hrefreshed hflushed hevents =>
    subst hflushed hres
    obtain ⟨hset, hcontent⟩ := content_of_same hinj hcoherent hrecorded hsel.sorted_effective hsame
    -- a refresh finds the worker in step
    have hstep : w.InStep := by
      by_contra hout
      obtain ⟨hready, hother⟩ := hok hset hout
      refine hother _ _ hsel ?_
      unfold SameContent
      rw [← hcontent]
      exact ((effective_perm_selected (failures_of_ready hsel hready)).map _).symm
    -- neither the pending rows nor the superseded ones are on record
    have hpend : ∀ a ∈ mergeCanonicalAssignments w.canonicalPendingDetached sup,
        a.assignmentID ∉ ids w.canonicalAssignments := by
      intro a ha
      rcases mem_of_merge ha with hold | hnew
      · exact hdetachable a hold
      · rw [ids_eq_content, ← hcontent, ← ids_eq_content]
        exact not_effective_of_superseded hsuperseded a hnew
    constructor
    · refine detachesInactive_append.mpr ⟨detachesInactive_probes _ _ _ _, ?_⟩
      rw [(quiet_probes _ _ _).activeAfter_eq]
      refine detachesInactive_append.mpr ⟨detachesInactive_flush input ?_, detachesInactive_ready hevents⟩
      rw [← hcoherent.inStep hstep]
      exact hpend
    · refine Detachable.flush ?_ input
      have hrows : w₂.canonicalAssignments = w.canonicalAssignments := by rw [hrefreshed.frame, hadm.frame]
      unfold Detachable
      dsimp only
      rw [hrows]
      exact hpend

end Step

section Run

variable [Inhabited Digest] {codec : RouteCodec Digest} {config : RouteWorkerConfig} {maximumRoutes : Int}
  {durableAdmissions : DurableAdmissionRegistry} {tr : Trace (RouteWorker Digest) ReconcileInput}
  {w : RouteWorker Digest}

/-- **A report of detached rows names no active row.** In every run whose reconciles do not rely on a record that
    is out of step, the rows of the active generation at the moment of a report are not among the reported
    ones. -/
theorem detach_spares_active (hinj : Injective codec.digest)
    (hrun : Run (RouteWorker.step codec) (RouteWorker.new config maximumRoutes durableAdmissions) tr w)
    (hok : ∀ t ∈ tr, t.pre.canonicalSet = true → ¬ t.pre.InStep → SettlesAnew codec t.pre t.label) :
    ∀ before report accepted rest, history codec tr = before ++ .detached report accepted :: rest →
      ∀ o ∈ report, o.assignmentID ∉ ids (activeAfter [] before) := by
  -- the history so far has reported no active row, and no row on record is pending
  have hkept : DetachesInactive [] (history codec tr) ∧ w.Detachable := by
    refine run_induction (I := fun events w => DetachesInactive [] events ∧ w.Detachable)
      (C := fun w input => w.canonicalSet = true → ¬ w.InStep → SettlesAnew codec w input) hrun hok ?_
      ⟨trivial, fun a ha => by cases ha⟩
    rintro events w input r hcoherent hrecorded _ hok heff ⟨hhistory, hdetachable⟩
    obtain ⟨hevents, hdetachable'⟩ := heff.detaches hinj hcoherent hrecorded hdetachable hok
    rw [detachesInactive_append]
    exact ⟨⟨hhistory, hevents⟩, hdetachable'⟩
  intro before report accepted rest hhistory
  obtain ⟨hdetaches, _⟩ := hkept
  rw [hhistory, detachesInactive_append] at hdetaches
  exact hdetaches.2.1

end Run

/-! ## A replacement, and a record that is out of step -/

open RouteSample

/-- The snapshot drops `a1`, which is reported as detached once `b1` is active. -/
theorem detach_spares_active_replacement :
    let inputs := [reconcile [row "a" "a1" 1 .active], reconcile [row "b" "b1" 1 .active]]
    let report := canonicalRouteObservations [row "a" "a1" 1 .active] "detached"
    ∃ before, history codec (records inputs) = before ++ [.detached report true]
      ∧ ids (activeAfter [] before) = ["b1"] ∧ ∀ o ∈ report, o.assignmentID ∉ ids (activeAfter [] before) := by
  intro inputs report
  obtain ⟨hstep, hhistory⟩ : (∀ t ∈ records inputs, t.pre.InStep) ∧
      history codec (records inputs) = (history codec (records inputs)).take 6 ++ [.detached report true] := by
    decide +kernel
  refine ⟨_, hhistory, by decide +kernel, ?_⟩
  exact detach_spares_active injective_id (records_run inputs)
    (fun t ht _ hout => absurd (hstep t ht) hout) _ _ _ _ hhistory

/-- The second promotion is activated but not recorded, for its two replicas have different generations. The
    third snapshot has the content on record again, so that the worker refreshes and reports the rows the matcher
    serves. -/
theorem detach_names_active :
    let first := reconcile [row "a" "a1" 1 .active]
    let second := reconcile [row "b" "b1" 1 .active, row "b" "b2" 2 .active]
    let third := reconcile [row "a" "a1" 1 .active, row "b" "b1" 1 .draining, row "b" "b2" 2 .draining]
    let tr := records [first, second, third]
    let report := canonicalRouteObservations [row "b" "b1" 1 .draining, row "b" "b2" 2 .draining] "detached"
    Injective codec.digest ∧ (∃ w, Run (RouteWorker.step codec) worker tr w) ∧
      ∃ before rest, history codec tr = before ++ .detached report true :: rest
        ∧ ∃ o ∈ report, o.assignmentID ∈ ids (activeAfter [] before) := by
  intro first second third tr report
  have hhistory : history codec tr = (history codec tr).take 6 ++ .detached report true :: (history codec tr).drop 7 := by
    decide +kernel
  exact ⟨injective_id, ⟨_, records_run _⟩, _, _, hhistory, by decide +kernel⟩

end PaperboatTunnel.Runtime.RouteWorker
