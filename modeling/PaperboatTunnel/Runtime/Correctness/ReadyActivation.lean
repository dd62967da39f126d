import PaperboatTunnel.Runtime.Resolution

/-!
# `ReadyActivation` — no row is activated before its readiness was accepted

A promotion activates the rows of the groups that are ready, which it has reported before, and the recorded rows
of the tunnels whose probe failed. When an earlier promotion was activated and not recorded, this fallback brings rows
back that the matcher had left, without any report.
-/

namespace PaperboatTunnel.Runtime.RouteWorker

open Datacarrier Route TransitionSystem List

variable {Digest : Type} [DecidableEq Digest] {a : RouteAssignment}

section Step

variable (codec : RouteCodec Digest) (w : RouteWorker Digest) (input : ReconcileInput)

def ProbeFails : Prop :=
  ∃ desired selected, Selects codec w input desired selected ∧ w.differs codec selected = true
    ∧ ∃ group ∈ canonicalAssignmentGroups selected, ¬ Ready w.config input group

/-- A row was in a ready report that the observer accepted, and the activation that brings it follows. -/
def ObservedBefore (a : RouteAssignment) (events : List RouteEvent) : Prop :=
  ∃ before report between generation active rest,
    events = before ++ .ready report true :: (between ++ .activated generation active :: rest)
      ∧ a ∈ active ∧ canonicalRouteObservation "ready" a ∈ report

variable {codec w input}

section Resolution

variable {des selected : Rows} (hsel : Selects codec w input des selected)

include hsel

theorem probeFails_of_failures (h : (w.resolution codec input selected).failures ≠ []) :
    ProbeFails codec w input := by
  have hdiff := differs_of_failures h
  refine ⟨des, selected, hsel, hdiff, ?_⟩
  rw [resolution, if_pos hdiff, Ne, failures_eq_nil] at h
  push Not at h
  exact h

theorem failures_of_ready (hready : ¬ ProbeFails codec w input) :
    (w.resolution codec input selected).failures = [] := by
  by_contra hne
  exact hready (probeFails_of_failures hsel hne)

/-- An effective row is reported as ready, or it is a recorded row and a probe has failed. -/
theorem observed_of_effective (ha : a ∈ (w.resolution codec input selected).effective) :
    a ∈ observedRows (w.resolution codec input selected)
      ∨ (ProbeFails codec w input ∧ a ∈ w.canonicalAssignments) := by
  unfold observedRows
  split
  · exact .inl ha
  next hfailures =>
  have hfails := probeFails_of_failures hsel hfailures
  rw [resolution, if_pos (differs_of_failures hfailures)] at ha ⊢
  rcases mem_effective.mp ha with hready | ⟨_, _, _, hprev, _⟩
  · exact .inl hready
  · exact .inr ⟨hfails, hprev⟩

end Resolution

variable {r : Reconciled Digest} {rows : Rows}

/-- **One reconcile.** A row it brings into the active generation was observed before, if a failed probe falls
    back to rows that are active. -/
theorem Effect.newly_active (heff : Effect codec w input r)
    (hrows : ProbeFails codec w input → w.canonicalAssignments = rows)
    (ha : a ∈ activeAfter rows r.events) (hnew : a ∉ rows) : ObservedBefore a r.events := by
  have hobs {des selected : Rows} (hsel : Selects codec w input des selected)
      (heffective : a ∈ (w.resolution codec input selected).effective) :
      canonicalRouteObservation "ready" a ∈ readyReport (w.resolution codec input selected) := by
    rcases observed_of_effective hsel heffective with hin | ⟨hfails, hin⟩
    · exact mem_map_of_mem hin
    · rw [hrows hfails] at hin
      exact absurd hin hnew
  cases heff with
  | idle => exact absurd ha hnew
  | blocked =>
    rw [(quiet_probes _ _ _).activeAfter_eq] at ha
    exact absurd ha hnew
  | staged _ _ _ _ _ _ _ hevents =>
    rw [((quiet_probes _ _ _).append (quiet_ready hevents)).activeAfter_eq] at ha
    exact absurd ha hnew
  | activated hsel _ hres =>
    rw [activeAfter_promotion (by simp [Quiet])] at ha
    subst hres
    exact ⟨_, _, [], _, _, [], rfl, ha, hobs hsel ha⟩
  | promoted hsel _ hres _ _ _ _ _ _ _ hflushed =>
    subst hflushed
    rw [activeAfter_promotion (quiet_flush _ _)] at ha
    subst hres
    exact ⟨_, _, [], _, _, _, rfl, ha, hobs hsel ha⟩
  | refreshed _ _ _ _ _ _ hflushed hevents =>
    subst hflushed
    rw [((quiet_probes _ _ _).append ((quiet_flush _ _).append (quiet_ready hevents))).activeAfter_eq] at ha
    exact absurd ha hnew

/-- A reconcile that activates nothing leaves the active generation and the records alone. -/
theorem Effect.unchanged (heff : Effect codec w input r) (hquiet : Quiet r.events) :
    r.worker.registry.active = w.registry.active
      ∧ r.worker.canonicalAssignments = w.canonicalAssignments ∧ r.worker.canonicalHash = w.canonicalHash
      ∧ r.worker.canonicalGeneration = w.canonicalGeneration ∧ r.worker.canonicalSet = w.canonicalSet := by
  cases heff with
  | idle => exact ⟨rfl, rfl, rfl, rfl, rfl⟩
  | blocked _ hadm =>
    rw [hadm.frame]
    exact ⟨rfl, rfl, rfl, rfl, rfl⟩
  | staged _ hadm _ _ _ hstage hmark =>
    obtain ⟨_, _, _, hstaged⟩ := GenerationRegistry.stageGeneration_ok hstage
    rw [hadm.frame, hstaged.marked hmark]
    exact ⟨rfl, rfl, rfl, rfl, rfl⟩
  | activated | promoted => exact absurd (mem_append_right _ (mem_cons_of_mem _ mem_cons_self)) (hquiet _ _)
  | refreshed _ hadm _ _ _ hrefreshed hflushed =>
    subst hflushed
    rw [flush_frame]
    rw [hrefreshed.frame, hadm.frame]
    exact ⟨rfl, rfl, rfl, rfl, rfl⟩

end Step

/-- **No activation without an accepted ready observation.** In every run whose reconciles with a failed probe
    start in step, a row that newly becomes active was reported ready and accepted earlier in the same
    reconcile; the matcher serves the rules of the active rows; and a reconcile that fails before an activation
    leaves the active generation and the records of the worker unchanged. -/
theorem activation_observed [Inhabited Digest] {codec : RouteCodec Digest} {config : RouteWorkerConfig}
    {maximumRoutes : Int} {durableAdmissions : DurableAdmissionRegistry}
    {tr : Trace (RouteWorker Digest) ReconcileInput} {w : RouteWorker Digest}
    (hrun : Run (RouteWorker.step codec) (RouteWorker.new config maximumRoutes durableAdmissions) tr w)
    (hok : ∀ t ∈ tr, ProbeFails codec t.pre t.label → t.pre.InStep) :
    ∀ tr₁ t tr₂, tr = tr₁ ++ t :: tr₂ →
      (∀ a ∈ activeAfter [] (history codec (tr₁ ++ [t])), a ∉ activeAfter [] (history codec tr₁) →
        ObservedBefore a (t.pre.reconcileRoutes codec t.label).events) ∧
      (∀ s, t.post.registry.active = some s → normalizeRules codec.toASCII s.generation
          ((publishedRules (activeAfter [] (history codec (tr₁ ++ [t])))).map
            (fun rule => { rule with generation := s.generation }))
          t.post.registry.maximumRoutes = .ok s.rules) ∧
      ((t.pre.reconcileRoutes codec t.label).err ≠ none → Quiet (t.pre.reconcileRoutes codec t.label).events →
        t.post.registry.active = t.pre.registry.active ∧ t.post.canonicalAssignments = t.pre.canonicalAssignments
          ∧ t.post.canonicalHash = t.pre.canonicalHash
          ∧ t.post.canonicalGeneration = t.pre.canonicalGeneration) := by
  rintro tr₁ t tr₂ rfl
  obtain ⟨hbefore, hstep, _⟩ := hrun.through
  have hcoherent := coherent_run hbefore
  have hpost := coherent_run (Run.tail hbefore hstep)
  obtain ⟨heff, hpost'⟩ := effect_of_step hstep
  refine ⟨fun a ha hnew => ?_, hpost.rules, fun _ hquiet => ?_⟩
  · rw [history_snoc, activeAfter_append] at ha
    refine heff.newly_active (fun hfails => ?_) ha hnew
    exact hcoherent.inStep (hok t (mem_append_right _ mem_cons_self) hfails)
  · rw [hpost']
    obtain ⟨hact, hrows, hhash, hgen, _⟩ := heff.unchanged hquiet
    exact ⟨hact, hrows, hhash, hgen⟩

/-! ## A fallback in step, and one out of step -/

open RouteSample

def reported (events : List RouteEvent) : List RouteObservation := events.flatMap (fun e => match e with
    | .ready report _ => report
    | _ => [])

theorem ObservedBefore.reported {evs : List RouteEvent} (h : ObservedBefore a evs) :
    canonicalRouteObservation "ready" a ∈ reported evs := by
  obtain ⟨_, _, _, _, _, _, rfl, _, hin⟩ := h
  unfold RouteWorker.reported
  rw [flatMap_append, flatMap_cons]
  exact mem_append_right _ (mem_append_left _ hin)

/-- Tunnel `a` keeps its rows when the probe of its replacement fails, and tunnel `b` is observed. -/
theorem activation_observed_fallback :
    let first := reconcile [row "a" "a1" 1 .active]
    let second := unreachable "a" (reconcile [row "a" "a2" 1 .staged, row "b" "b1" 1 .staged])
    row "a" "a1" 1 .active ∈ activeAfter [] (history codec (records [first] ++ [last [first] second])) ∧
      ObservedBefore (row "b" "b1" 1 .staged) ((after [first]).reconcileRoutes codec second).events := by
  intro first second
  have hstep : ∀ t ∈ records ([first] ++ [second]), t.pre.InStep := by decide +kernel
  have hall := activation_observed (records_run ([first] ++ [second])) (fun t ht _ => hstep t ht)
  obtain ⟨hobserved, _⟩ := hall (records [first]) (last [first] second) [] (records_snoc _ _)
  exact ⟨by decide +kernel, hobserved (row "b" "b1" 1 .staged) (by decide +kernel) (by decide +kernel)⟩

/-- The second promotion is activated, but its final admissions are refused: two replicas of one route have
    different assignment generations, and the registry fences the lower one. The third reconcile falls back to
    the row of the first one, which the matcher had left, and activates it without a report. -/
theorem activation_unobserved :
    let first := reconcile [row "a" "a1" 1 .active]
    let second := reconcile [row "a" "a2" 2 .staged, row "a" "a3" 3 .staged]
    let third := unreachable "a" (reconcile [row "a" "a4" 4 .staged, row "b" "b1" 1 .staged])
    let tr := records [first, second]
    let t := last [first, second] third
    (∃ w, Run (RouteWorker.step codec) worker (tr ++ [t]) w) ∧
      row "a" "a1" 1 .active ∈ activeAfter [] (history codec (tr ++ [t])) ∧
      row "a" "a1" 1 .active ∉ activeAfter [] (history codec tr) ∧
      ¬ ObservedBefore (row "a" "a1" 1 .active) (t.pre.reconcileRoutes codec t.label).events := by
  intro first second third tr t
  have hreported : canonicalRouteObservation "ready" (row "a" "a1" 1 .active)
      ∉ reported (t.pre.reconcileRoutes codec t.label).events := by decide +kernel
  have hrun := records_run ([first, second] ++ [third])
  rw [records_snoc] at hrun
  exact ⟨⟨_, hrun⟩, by decide +kernel, by decide +kernel, fun h => hreported h.reported⟩

end PaperboatTunnel.Runtime.RouteWorker
