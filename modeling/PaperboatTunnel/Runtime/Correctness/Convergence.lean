import PaperboatTunnel.Runtime.Correctness.Detach
import PaperboatTunnel.Runtime.Published

/-!
# `Convergence` — a reconcile without errors serves the rules of its snapshot

A promotion serves the rules of its effective rows, which are the selected ones if no probe fails. A refresh leaves
the matcher alone, because the content hash has not changed. The hash leaves out four fields of the rules, and it is
compared with the record, which may be behind the matcher.
-/

namespace PaperboatTunnel.Runtime.RouteWorker

open Datacarrier Route TransitionSystem List

variable {Digest : Type} [DecidableEq Digest]

/-- Rows with the same content agree in the fields that the hash leaves out. -/
def KeepsFields (rows recorded : Rows) : Prop :=
  ∀ a ∈ rows, ∀ b ∈ recorded, immutableAssignment a = immutableAssignment b → ruleFields a = ruleFields b

instance (rows recorded : Rows) : Decidable (KeepsFields rows recorded) := by
  unfold KeepsFields; infer_instance

/-- Rows with equal contents, row by row, that keep the other fields publish the same rules. -/
theorem sameRules_of_content {rows recd : Rows}
    (hcontent : rows.map immutableAssignment = recd.map immutableAssignment)
    (hkeeps : KeepsFields rows recd) : List.Forall₂ SameRules rows recd := by
  induction rows generalizing recd with
  | nil =>
    rw [map_nil, eq_comm, map_eq_nil_iff] at hcontent
    rw [hcontent]
    exact .nil
  | cons a _ ih =>
    cases recd with
    | nil => cases hcontent
    | cons b =>
      rw [map_cons, map_cons] at hcontent
      obtain ⟨hab, hrest⟩ := cons.inj hcontent
      refine .cons ⟨hab, hkeeps a mem_cons_self b mem_cons_self hab⟩ (ih hrest ?_)
      intro c hc d hd
      exact hkeeps c (mem_cons_of_mem _ hc) d (mem_cons_of_mem _ hd)

section Step

variable {codec : RouteCodec Digest} {w : RouteWorker Digest} {input : ReconcileInput}
  {des selected rows : Rows} {r : Reconciled Digest}

omit [DecidableEq Digest] in
theorem Selects.unique {des' selected' : Rows} (h : Selects codec w input des selected)
    (h' : Selects codec w input des' selected') : des = des' ∧ selected = selected' := by
  rw [selects_iff] at h h'
  exact Prod.mk.inj (Option.mem_unique h h')

theorem serves_selected (hsel : Selects codec w input des selected) (hready : ¬ ProbeFails codec w input)
    {g : GenerationRegistry}
    (h : Serves codec.toASCII g (w.resolution codec input selected).effective) :
    Serves codec.toASCII g selected := by
  have hperm := effective_perm_selected (failures_of_ready hsel hready)
  refine h.congr (canonicalRouteRules_perm ?_ hperm)
  exact (hperm.map _).nodup_iff.mpr hsel.isSelection.1.keys

/-- An unchanged set is served, if the worker is in step and the other fields are kept. -/
theorem serves_unchanged (hinj : Function.Injective codec.digest) (hcoherent : Coherent codec w rows)
    (hrecorded : Recorded codec w) (hstep : w.InStep) {eff : Rows}
    (hsort : Sorted eff) (hsame : w.differs codec eff = false)
    (hkeeps : KeepsFields eff w.canonicalAssignments) :
    Serves codec.toASCII w.registry eff := by
  obtain ⟨hset, hcontent⟩ := content_of_same hinj hcoherent hrecorded hsort hsame
  have hserves := hcoherent.serves (hcoherent.hash hset).2
  rw [← hcoherent.inStep hstep] at hserves
  refine hserves.congr (canonicalRouteRules_congr ?_).symm
  exact sameRules_of_content hcontent hkeeps

theorem Refreshed.registry_eq {w₁ w₂ : RouteWorker Digest} {res : Resolution}
    (hadm : Admitted codec w input selected des w₁) (h : Refreshed codec w₁ input res w₂) :
    w₂.registry = w.registry := by
  cases h with
  | kept | replaced => rw [hadm.frame]

/-- **One reconcile** without an error and without a failed probe. -/
theorem Effect.serves (hinj : Function.Injective codec.digest) (hcoherent : Coherent codec w rows)
    (hrecorded : Recorded codec w) (heff : Effect codec w input r)
    (hsel : Selects codec w input des selected) (herr : r.err = none) (hready : ¬ ProbeFails codec w input)
    (hok : w.canonicalSet = true → SameContent selected w.canonicalAssignments →
      w.InStep ∧ KeepsFields selected w.canonicalAssignments) :
    Serves codec.toASCII r.worker.registry selected := by
  cases heff with
  | idle hcan => exact absurd hsel.source (hcan herr des)
  | blocked | staged | activated => cases herr
  | promoted hsel' _ hres _ hgen _ _ hpromote _ _ hflushed =>
    obtain ⟨rfl, rfl⟩ := hsel.unique hsel'
    subst hflushed hres
    rw [flush_frame]
    exact serves_selected hsel hready (hcoherent.serves_promotion hgen hpromote)
  | @refreshed _ _ _ w₂ _ _ _ _ _ hsel' hadm hres hsame _ hrefreshed hflushed =>
    obtain ⟨rfl, rfl⟩ := hsel.unique hsel'
    subst hflushed hres
    rw [flush_frame]
    show Serves codec.toASCII w₂.registry selected
    rw [hrefreshed.registry_eq hadm]
    obtain ⟨hset, hcontent⟩ := content_of_same hinj hcoherent hrecorded hsel.sorted_effective hsame
    have hperm := effective_perm_selected (failures_of_ready hsel hready)
    have hcontent' : SameContent selected w.canonicalAssignments := by
      unfold SameContent
      rw [← hcontent]
      exact (hperm.map _).symm
    obtain ⟨hstep, hkeeps⟩ := hok hset hcontent'
    refine serves_selected hsel hready ?_
    refine serves_unchanged hinj hcoherent hrecorded hstep hsel.sorted_effective hsame ?_
    exact fun a ha => hkeeps a (hperm.mem_iff.mp ha)

end Step

/-- **Route convergence.** In every state the worker can be in, a reconcile that returns no error and whose probes
    all succeed leaves the rules of the selected rows active, normalized and under the local generation. If the
    content of the selection is the one on record, the worker has to be in step and the rows have to keep the
    fields that the hash leaves out. -/
theorem routes_converge [Inhabited Digest] {codec : RouteCodec Digest} {config : RouteWorkerConfig}
    {maximumRoutes : Int} {durableAdmissions : DurableAdmissionRegistry}
    {tr : Trace (RouteWorker Digest) ReconcileInput} {w : RouteWorker Digest}
    (hinj : Function.Injective codec.digest)
    (hrun : Run (RouteWorker.step codec) (RouteWorker.new config maximumRoutes durableAdmissions) tr w)
    {input : ReconcileInput} {desired selected : Rows}
    (hsel : Selects codec w input desired selected) (herr : (w.reconcileRoutes codec input).err = none)
    (hready : ¬ ProbeFails codec w input)
    (hok : w.canonicalSet = true → SameContent selected w.canonicalAssignments →
      w.InStep ∧ KeepsFields selected w.canonicalAssignments) :
    ∃ s, (w.reconcileRoutes codec input).worker.registry.active = some s ∧ normalizeRules codec.toASCII s.generation
        ((publishedRules selected).map (fun rule => { rule with generation := s.generation }))
        (w.reconcileRoutes codec input).worker.registry.maximumRoutes = .ok s.rules :=
  (reconcile_effect codec w input).serves hinj (coherent_run hrun) (recorded_run hrun).1 hsel herr hready hok

/-! ## The same snapshot again, and one with another desired state -/

open RouteSample

theorem not_probeFails {codec : RouteCodec Digest} {w : RouteWorker Digest} {input : ReconcileInput}
    (h : ∀ des selected, Selects codec w input des selected →
      ∀ group ∈ canonicalAssignmentGroups selected, Ready w.config input group) :
    ¬ ProbeFails codec w input := by
  rintro ⟨des, selected, hsel, _, group, hgroup, hfails⟩
  exact hfails (h des selected hsel group hgroup)

/-- A snapshot with the content on record leaves its rules active. -/
theorem routes_converge_refresh :
    let rows := [row "a" "a1" 1 .active]
    SameContent rows (after [reconcile rows]).canonicalAssignments ∧
      ∃ s, ((after [reconcile rows]).reconcileRoutes codec (reconcile rows)).worker.registry.active = some s ∧
        normalizeRules codec.toASCII s.generation
          ((publishedRules rows).map (fun rule => { rule with generation := s.generation }))
          ((after [reconcile rows]).reconcileRoutes codec (reconcile rows)).worker.registry.maximumRoutes
            = .ok s.rules := by
  intro rows
  have hselection : selectionOf codec (after [reconcile rows]) (reconcile rows) = some (rows, rows) := by
    decide +kernel
  have hprobes : ¬ ProbeFails codec (after [reconcile rows]) (reconcile rows) := not_probeFails (by decide +kernel)
  refine ⟨by decide +kernel, ?_⟩
  exact routes_converge Function.injective_id (records_run [reconcile rows]) (selects_iff.mpr hselection)
    (by decide +kernel) hprobes (fun _ _ => ⟨by decide +kernel, by decide +kernel⟩)

/-- The second snapshot disables the route. Its content hash is the same, so the reconcile returns no error and the
    route stays active in the matcher. -/
theorem routes_diverge :
    let rows := [{ row "a" "a1" 1 .active with desiredState := "active" }]
    let rows' := [{ row "a" "a1" 1 .active with desiredState := "disabled" }]
    let w := after [reconcile rows]
    let r := w.reconcileRoutes codec (reconcile rows')
    Function.Injective codec.digest ∧ Run (RouteWorker.step codec) worker (records [reconcile rows]) w ∧
      Selects codec w (reconcile rows') rows' rows' ∧ r.err = none ∧ ¬ ProbeFails codec w (reconcile rows') ∧
      ¬ ∃ s, r.worker.registry.active = some s ∧ normalizeRules codec.toASCII s.generation
          ((publishedRules rows').map (fun rule => { rule with generation := s.generation }))
          r.worker.registry.maximumRoutes = .ok s.rules := by
  intro rows rows' w r
  have hrules : ∀ s ∈ r.worker.registry.active, (normalizeRules codec.toASCII s.generation
      ((publishedRules rows').map (fun rule => { rule with generation := s.generation }))
      r.worker.registry.maximumRoutes).toOption ≠ some s.rules := by decide +kernel
  refine ⟨Function.injective_id, records_run _, selects_iff.mpr (by decide +kernel), by decide +kernel,
    not_probeFails (by decide +kernel), ?_⟩
  rintro ⟨s, hs, hnormal⟩
  refine hrules s hs ?_
  rw [hnormal]
  rfl

end PaperboatTunnel.Runtime.RouteWorker
