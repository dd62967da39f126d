import PaperboatTunnel.Runtime.Correctness.Detach
import PaperboatTunnel.Runtime.FinalAdmission

/-!
# `DetachLedger` — no row is forgotten that has to be reported as detached

An assignment that has left the active generation has to be reported as detached. `Owed` says so about the history,
and the ledger computes it. The worker keeps what it owes as long as every activation is recorded and no promotion
begins while its pending set is not empty: a promotion builds the set anew, where a refresh merges it.
-/

namespace PaperboatTunnel.Runtime.RouteWorker

open Datacarrier Route TransitionSystem List

/-! ## What is owed -/

variable (assignmentID : String) (events : List RouteEvent)

def WasActive : Prop := ∃ generation active, .activated generation active ∈ events ∧ assignmentID ∈ ids active

def reportIDs (report : List RouteObservation) : List String := report.map RouteObservation.assignmentID

/-- An accepted report has named the assignment as detached since it left the active generation. -/
def ReportedSince : Prop :=
  ∃ before report rest, events = before ++ .detached report true :: rest ∧ assignmentID ∈ reportIDs report
    ∧ assignmentID ∉ ids (activeAfter [] before)
    ∧ ∀ generation active, .activated generation active ∈ rest → assignmentID ∉ ids active

/-- **The assignment was active, is no longer, and has not been reported since.** -/
def Owed : Prop :=
  WasActive assignmentID events ∧ assignmentID ∉ ids (activeAfter [] events) ∧ ¬ ReportedSince assignmentID events

structure Ledger where
  active : Rows := []
  owed : List String := []

def Ledger.step (l : Ledger) : RouteEvent → Ledger
  | .activated _ active =>
    { active, owed := (l.owed ++ ids l.active).filter (fun i => !(ids active).contains i) }
  | .detached report true => { l with owed := l.owed.filter (fun i => !(reportIDs report).contains i) }
  | _ => l

def Ledger.run (l : Ledger) (events : List RouteEvent) : Ledger := events.foldl Ledger.step l

def ledger (events : List RouteEvent) : Ledger := Ledger.run {} events

variable (l : Ledger)

theorem Ledger.run_append (evs evs' : List RouteEvent) : l.run (evs ++ evs') = (l.run evs).run evs' := foldl_append

theorem Ledger.run_active (evs : List RouteEvent) : (l.run evs).active = activeAfter l.active evs := by
  induction evs generalizing l with
  | nil => rfl
  | cons e evs ih =>
    show ((l.step e).run evs).active = _
    rw [ih]
    cases e with
    | activated => rfl
    | probed | ready => rfl
    | detached _ accepted => cases accepted <;> rfl

theorem ledger_active (evs : List RouteEvent) : (ledger evs).active = activeAfter [] evs :=
  Ledger.run_active {} evs

/-! ### The predicates at the last event -/

variable {report : List RouteObservation} {evs : List RouteEvent} {aid : String}

/-- What is active after the events was active before them, or was activated by one of them. -/
theorem wasActive_of_active {rows : Rows} (h : aid ∈ ids (activeAfter rows evs)) :
    aid ∈ ids rows ∨ WasActive aid evs := by
  induction evs generalizing rows with
  | nil => exact .inl h
  | cons e evs ih =>
    have hlater : WasActive aid evs → WasActive aid (e :: evs) := by
      rintro ⟨gen, active, hin, hid⟩
      exact ⟨gen, active, mem_cons_of_mem _ hin, hid⟩
    cases e with
    | activated gen active =>
      rcases ih h with hid | hwas
      · exact .inr ⟨gen, active, mem_cons_self, hid⟩
      · exact .inr (hlater hwas)
    | probed => exact (ih h).imp_right hlater
    | ready | detached => exact (ih h).imp_right hlater

theorem ReportedSince.not_active (h : ReportedSince aid evs) : aid ∉ ids (activeAfter [] evs) := by
  obtain ⟨bef, _, rest, rfl, _, hbefore, hrest⟩ := h
  rw [activeAfter_append]
  intro hact
  rcases wasActive_of_active (show aid ∈ ids (activeAfter _ rest) from hact) with
    hin | ⟨gen, active, hin, hid⟩
  · exact hbefore hin
  · exact hrest gen active hin hid

/-- The last event does not concern the assignment. -/
def Neutral (assignmentID : String) : RouteEvent → Prop
  | .activated _ active => assignmentID ∉ ids active
  | .detached report true => assignmentID ∉ reportIDs report
  | _ => True

theorem wasActive_snoc {e : RouteEvent} (h : Neutral aid e) : WasActive aid (evs ++ [e]) ↔ WasActive aid evs := by
  constructor
  · rintro ⟨gen, active, hin, hid⟩
    rcases Table.mem_snoc hin with hold | rfl
    · exact ⟨gen, active, hold, hid⟩
    · exact absurd hid h
  · rintro ⟨gen, active, hin, hid⟩
    exact ⟨gen, active, mem_append_left _ hin, hid⟩

theorem reportedSince_snoc {e : RouteEvent} (h : Neutral aid e) :
    ReportedSince aid (evs ++ [e]) ↔ ReportedSince aid evs := by
  constructor
  · rintro ⟨bef, report, rest, heq, hrep, hbefore, hrest⟩
    rcases eq_nil_or_concat rest with rfl | ⟨rest', last, rfl⟩
    · -- the report cannot be the last event
      obtain ⟨rfl, hlast⟩ := append_inj' heq rfl
      obtain rfl := (cons.inj hlast).1
      exact absurd hrep h
    · rw [concat_eq_append] at heq hrest
      have heq' : evs ++ [e] = (bef ++ .detached report true :: rest') ++ [last] := by
        rw [heq]
        simp
      obtain ⟨rfl, _⟩ := append_inj' heq' rfl
      exact ⟨bef, report, rest', rfl, hrep, hbefore, fun gen active hin => hrest gen active (mem_append_left _ hin)⟩
  · rintro ⟨bef, report, rest, rfl, hrep, hbefore, hrest⟩
    refine ⟨bef, report, rest ++ [e], by simp, hrep, hbefore, ?_⟩
    intro gen active hin
    rcases Table.mem_snoc hin with hold | rfl
    · exact hrest gen active hold
    · exact h

/-! ### What is owed after the last event -/

theorem owed_neutral (e : RouteEvent) (h : Neutral aid e) (hact : activeAfter [] (evs ++ [e]) = activeAfter [] evs) :
    Owed aid (evs ++ [e]) ↔ Owed aid evs := by
  unfold Owed
  rw [wasActive_snoc h, reportedSince_snoc h, hact]

theorem owed_activated {gen : UInt64} {active : Rows} :
    Owed aid (evs ++ [.activated gen active]) ↔
      (Owed aid evs ∨ aid ∈ ids (activeAfter [] evs)) ∧ aid ∉ ids active := by
  have hact : activeAfter [] (evs ++ [.activated gen active]) = active := activeAfter_append
  unfold Owed
  rw [hact]
  constructor
  · rintro ⟨hwas, hnot, hreported⟩
    have hlast : Neutral aid (.activated gen active) := hnot
    rw [wasActive_snoc hlast] at hwas
    rw [reportedSince_snoc hlast] at hreported
    refine ⟨?_, hnot⟩
    by_cases hleft : aid ∈ ids (activeAfter [] evs)
    · exact .inr hleft
    · exact .inl ⟨hwas, hleft, hreported⟩
  · rintro ⟨hbefore, hnot⟩
    have hlast : Neutral aid (.activated gen active) := hnot
    rw [wasActive_snoc hlast, reportedSince_snoc hlast]
    rcases hbefore with ⟨hwas, _, hreported⟩ | hleft
    · exact ⟨hwas, hnot, hreported⟩
    · exact ⟨(wasActive_of_active hleft).resolve_left not_mem_nil, hnot, fun h => h.not_active hleft⟩

theorem owed_reported : Owed aid (evs ++ [.detached report true]) ↔ Owed aid evs ∧ aid ∉ reportIDs report := by
  have hact : activeAfter [] (evs ++ [.detached report true]) = activeAfter [] evs := activeAfter_append
  by_cases hrep : aid ∈ reportIDs report
  · constructor
    · rintro ⟨_, hnot, hreported⟩
      rw [hact] at hnot
      refine absurd ⟨evs, report, [], rfl, hrep, hnot, ?_⟩ hreported
      intro gen active hin
      cases hin
    · exact fun h => absurd hrep h.2
  · rw [owed_neutral (.detached report true) hrep hact]
    exact (and_iff_left hrep).symm

/-- **The ledger computes what is owed.** By induction from the last event. -/
theorem mem_owed {aid : String} : aid ∈ (ledger evs).owed ↔ Owed aid evs := by
  induction evs using reverseRecOn with
  | nil =>
    constructor
    · intro h
      cases h
    · rintro ⟨⟨_, _, hin, _⟩, _, _⟩
      cases hin
  | append_singleton evs e ih =>
    rw [ledger, Ledger.run_append]
    cases e with
    | probed => exact ih.trans (owed_neutral (.probed _ _) trivial activeAfter_append).symm
    | ready => exact ih.trans (owed_neutral (.ready _ _) trivial activeAfter_append).symm
    | activated =>
      show aid ∈ ((ledger evs).owed ++ ids (ledger evs).active).filter _ ↔ _
      rw [mem_filter, mem_append, ih, ledger_active, owed_activated]
      simp
    | detached _ accepted =>
      cases accepted with
      | false => exact ih.trans (owed_neutral (.detached _ false) trivial activeAfter_append).symm
      | true =>
        show aid ∈ (ledger evs).owed.filter _ ↔ _
        rw [mem_filter, ih, owed_reported]
        simp

/-! ## The pending set against the ledger -/

def Covers (rows : Rows) (l : Ledger) : Prop := ∀ i ∈ l.owed, i ∈ ids rows

theorem Ledger.run_ready (h : evs = [] ∨ ∃ accepted, evs = [.ready report accepted]) : l.run evs = l := by
  rcases h with rfl | ⟨accepted, rfl⟩
  · rfl
  · rfl

variable {Digest : Type} [DecidableEq Digest]

theorem Ledger.run_probes (w : RouteWorker Digest) (codec : RouteCodec Digest) (sel : Rows) :
    l.run (w.probes codec sel) = l := by
  unfold probes
  split
  · induction canonicalAssignmentGroups sel with
    | nil => rfl
    | cons _ _ ih => exact ih
  · rfl

omit [DecidableEq Digest] in
theorem Covers.flush {w : RouteWorker Digest} {l : Ledger} (h : Covers w.canonicalPendingDetached l)
    (input : ReconcileInput) :
    Covers (flushCanonicalDetached w input).worker.canonicalPendingDetached
      (l.run (flushCanonicalDetached w input).events) := by
  rcases flush_cases w input with ⟨_, hflush⟩ | ⟨_, accepted, hevents, hworker⟩
  · rw [hflush]
    exact h
  rw [hevents, hworker]
  cases accepted with
  | false => exact h
  | true =>
    intro i hi
    obtain ⟨howed, hrep⟩ := mem_filter.mp hi
    have hin : i ∈ reportIDs (canonicalRouteObservations w.canonicalPendingDetached "detached") := by
      obtain ⟨_, ha, rfl⟩ := mem_map.mp (h i howed)
      exact mem_map.mpr ⟨_, mem_map_of_mem ha, rfl⟩
    simp [hin] at hrep

section Step

variable (codec : RouteCodec Digest) (w : RouteWorker Digest) (input : ReconcileInput)

/-- The reconcile completes what it begins: the wait is not cancelled, and if its selection differs from the
    records, nothing is pending to be reported and the final admissions fit. -/
@[mk_iff]
structure Completes : Prop where
  drain : input.drain ≠ .canceled
  pending : ∀ desired selected, Selects codec w input desired selected →
              w.differs codec selected = true → w.canonicalPendingDetached = []
  fits : ∀ desired selected, Selects codec w input desired selected →
              w.differs codec selected = true → FinalFits codec w input desired selected

instance : Decidable (Completes codec w input) := decidable_of_iff' _ (completes_iff ..)

variable {codec w input} {r : Reconciled Digest} {l : Ledger}

omit [DecidableEq Digest] in
/-- What is owed after a promotion has just left, if nothing was pending before. -/
theorem Covers.promoted (gen : UInt64) (active sup : Rows)
    (hcovers : Covers w.canonicalPendingDetached l) (hpend : w.canonicalPendingDetached = [])
    (hact : l.active = w.canonicalAssignments) :
    Covers (mergeCanonicalAssignments (detachedCanonicalAssignments w.canonicalAssignments active) sup)
      (l.step (.activated gen active)) := by
  have howed : l.owed = [] := by
    apply eq_nil_iff_forall_not_mem.mpr
    intro i hi
    have hin := hcovers i hi
    rw [hpend] at hin
    cases hin
  intro i hi
  obtain ⟨hleft, hnot⟩ := mem_filter.mp hi
  rw [howed, nil_append, hact] at hleft
  obtain ⟨a, ha, rfl⟩ := mem_map.mp hleft
  have hdetached : a ∈ detachedCanonicalAssignments w.canonicalAssignments active :=
    mem_detached.mpr ⟨ha, by simpa using hnot⟩
  exact mem_map_of_mem (merge_left hdetached)

/-- **One reconcile** that completes what it begins stays in step and keeps what it owes. -/
theorem Effect.covers (hcoherent : Coherent codec w l.active) (hrecorded : Recorded codec w)
    (hopen : w.durableAdmissions.closed = false) (hstep : w.InStep)
    (hcovers : Covers w.canonicalPendingDetached l) (hok : Completes codec w input)
    (heff : Effect codec w input r) :
    Covers r.worker.canonicalPendingDetached (l.run r.events) ∧ r.worker.InStep := by
  cases heff with
  | idle => exact ⟨hcovers, hstep⟩
  | blocked _ hadm =>
    rw [l.run_probes, hadm.frame]
    exact ⟨hcovers, hstep⟩
  | @staged _ _ _ _ _ _ _ g₂ _ _ _ hadm _ _ _ hstage hmark hevents =>
    rw [l.run_append, l.run_probes, l.run_ready hevents, hadm.frame]
    refine ⟨hcovers, ?_⟩
    show w.canonicalGeneration = g₂.generation
    obtain ⟨_, _, _, hstaged⟩ := GenerationRegistry.stageGeneration_ok hstage
    rw [hstaged.marked hmark]
    exact hstep
  | activated hsel hadm hres _ _ _ _ hfin hdiff =>
    -- the end of the promotion cannot fail
    subst hres
    rcases hfin with hcanceled | hrefused
    · exact absurd hcanceled hok.drain
    · exact absurd ((hok.fits _ _ hsel hdiff).accepted hrecorded hopen hsel hadm hdiff) hrefused
  | @promoted _ _ w₁ res hash generation g₃ superseded _ durableAdmissions _ _ hsel hadm _ _ hgen _ _ hpromote _ _
        hflushed hdiff =>
      subst hflushed
      constructor
      · rw [l.run_append, l.run_probes]
        have hpromoted := hcovers.promoted generation res.effective superseded (hok.pending _ _ hsel hdiff)
          (hcoherent.inStep hstep).symm
        have hrows : w₁.canonicalAssignments = w.canonicalAssignments := by rw [hadm.frame]
        rw [← hrows] at hpromoted
        exact Covers.flush hpromoted input
      · rw [flush_frame]
        exact (hcoherent.promotion hgen hpromote).2.2.1.symm
  | @refreshed _ _ _ _ _ _ _ _ _ _ hadm _ _ _ hrefreshed hflushed hevents =>
    subst hflushed
    constructor
    · rw [l.run_append, l.run_probes, l.run_append, Ledger.run_ready _ hevents]
      refine Covers.flush ?_ input
      intro i hi
      obtain ⟨_, ha, rfl⟩ := mem_map.mp (hcovers i hi)
      exact mem_map_of_mem (merge_left ha)
    · rw [flush_frame]
      rw [hrefreshed.frame, hadm.frame]
      exact hstep

end Step

/-- **No detach is forgotten.** In every run whose reconciles complete what they begin, an assignment that was
    active and is no longer was reported as detached since it left, or it is in the pending set of the worker. -/
theorem detach_not_forgotten [Inhabited Digest] {codec : RouteCodec Digest} {config : RouteWorkerConfig}
    {maximumRoutes maximumAdmissions : Int} {nodeID processEpoch : String}
    {durableAdmissions : DurableAdmissionRegistry}
    {tr : Trace (RouteWorker Digest) ReconcileInput} {w : RouteWorker Digest}
    (hregistry : DurableAdmissionRegistry.new nodeID processEpoch maximumAdmissions = .ok durableAdmissions)
    (hrun : Run (RouteWorker.step codec) (RouteWorker.new config maximumRoutes durableAdmissions) tr w)
    (hok : ∀ t ∈ tr, Completes codec t.pre t.label) :
    ∀ assignmentID, WasActive assignmentID (history codec tr) →
      assignmentID ∉ ids (activeAfter [] (history codec tr)) →
      ReportedSince assignmentID (history codec tr) ∨ assignmentID ∈ ids w.canonicalPendingDetached := by
  obtain ⟨hopen, _⟩ := DurableAdmissionRegistry.new_ok hregistry
  -- the pending set covers what is owed, and the worker is in step
  have hkept : Covers w.canonicalPendingDetached (ledger (history codec tr)) ∧ w.InStep := by
    refine run_induction (I := fun events w => Covers w.canonicalPendingDetached (ledger events) ∧ w.InStep)
      (C := Completes codec) hrun hok ?_ ⟨fun i hi => (by cases hi), rfl⟩
    rintro events w input r hcoherent hrecorded hedge hcompletes heff ⟨hcovers, hstep⟩
    rw [← ledger_active] at hcoherent
    rw [ledger, Ledger.run_append]
    exact heff.covers hcoherent hrecorded (hedge.closed.trans hopen) hstep hcovers hcompletes
  intro assignmentID hwas hnot
  by_cases hreported : ReportedSince assignmentID (history codec tr)
  · exact .inl hreported
  · exact .inr (hkept.1 assignmentID (mem_owed.mpr ⟨hwas, hnot, hreported⟩))

/-! ## A detach that is refused and retried, and one that is forgotten -/

open RouteSample

/-- The report about `a1` is refused once and stays pending. -/
theorem detach_not_forgotten_refused :
    let inputs := [reconcile [row "a" "a1" 1 .active],
      { reconcile [row "b" "b1" 1 .active] with detachedAccepted := false }]
    WasActive "a1" (history codec (records inputs)) ∧ "a1" ∉ ids (activeAfter [] (history codec (records inputs))) ∧
      (ReportedSince "a1" (history codec (records inputs)) ∨ "a1" ∈ ids (after inputs).canonicalPendingDetached) := by
  intro inputs
  have howed : "a1" ∈ (ledger (history codec (records inputs))).owed := by decide +kernel
  obtain ⟨hwas, hnot, _⟩ := mem_owed.mp howed
  have hregistry : DurableAdmissionRegistry.new RouteSample.config.nodeID RouteSample.config.processEpoch 0
      = .ok RouteSample.admissions := rfl
  exact ⟨hwas, hnot, detach_not_forgotten hregistry (records_run inputs) (by decide +kernel) "a1" hwas hnot⟩

/-- The report about `a1` is refused, and the next promotion builds the pending set anew. -/
theorem detach_forgotten :
    let inputs := [reconcile [row "a" "a1" 1 .active],
      { reconcile [row "b" "b1" 1 .active] with detachedAccepted := false }, reconcile [row "c" "c1" 1 .active]]
    Run (RouteWorker.step codec) worker (records inputs) (after inputs) ∧
      WasActive "a1" (history codec (records inputs)) ∧
      "a1" ∉ ids (activeAfter [] (history codec (records inputs))) ∧
      ¬ ReportedSince "a1" (history codec (records inputs)) ∧
      "a1" ∉ ids (after inputs).canonicalPendingDetached := by
  intro inputs
  have howed : "a1" ∈ (ledger (history codec (records inputs))).owed := by decide +kernel
  obtain ⟨hwas, hnot, hreported⟩ := mem_owed.mp howed
  exact ⟨records_run inputs, hwas, hnot, hreported, by decide +kernel⟩

end PaperboatTunnel.Runtime.RouteWorker
