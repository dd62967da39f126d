import PaperboatTunnel.Runtime.Recorded

/-!
# `ProbeAdmission` — a tunnel is probed under admissions for its rows

Before its probes a reconcile installs admissions for the rows it selects. The flag that says so is kept over failed
attempts, until a promotion is recorded, and does not remember the selection. So the next reconcile is probed under the
right admissions only if it selects the same rows again.
-/

namespace PaperboatTunnel.Runtime.RouteWorker

open Datacarrier Route TransitionSystem List

variable {Digest : Type} {evs : List RouteEvent}

/-! ## The installation of pending admissions -/

def Installs (u : Transition (RouteWorker Digest) ReconcileInput) : Prop :=
  u.pre.canonicalPendingAdmissions = false ∧ u.post.canonicalPendingAdmissions = true

/-- The admissions were pending after each of the reconciles. -/
def StayPending (tr : Trace (RouteWorker Digest) ReconcileInput) : Prop :=
  ∀ v ∈ tr, v.post.canonicalPendingAdmissions = true

/-- **Only retries.** A reconcile that finds pending admissions selects the content they were installed for. -/
def OnlyRetries (codec : RouteCodec Digest) (tr : Trace (RouteWorker Digest) ReconcileInput) : Prop :=
  ∀ tr₁ u tr₂ t tr₃, tr = tr₁ ++ u :: (tr₂ ++ t :: tr₃) → Installs u → StayPending tr₂ →
    ∀ desired selected desired' selected', Selects codec u.pre u.label desired selected →
      Selects codec t.pre t.label desired' selected' → SameContent selected' selected

theorem OnlyRetries.of_append {codec : RouteCodec Digest}
    {tr tr' : Trace (RouteWorker Digest) ReconcileInput} (h : OnlyRetries codec (tr ++ tr')) :
    OnlyRetries codec tr := by
  intro tr₁ u tr₂ t tr₃ heq
  refine h tr₁ u tr₂ t (tr₃ ++ tr') ?_
  rw [heq]
  simp

/-- The last reconcile of a record retries what an earlier one has installed. -/
theorem OnlyRetries.last {codec : RouteCodec Digest} {tr₁ tr₂ : Trace (RouteWorker Digest) ReconcileInput}
    {u t : Transition (RouteWorker Digest) ReconcileInput}
    (h : OnlyRetries codec (tr₁ ++ u :: tr₂ ++ [t])) (hinstalls : Installs u) (hstay : StayPending tr₂)
    {desired selected desired' selected' : Rows}
    (hsel : Selects codec u.pre u.label desired selected)
    (hsel' : Selects codec t.pre t.label desired' selected') : SameContent selected' selected :=
  h tr₁ u tr₂ t [] (by simp) hinstalls hstay _ _ _ _ hsel hsel'

theorem onlyRetries_of_desired {codec : RouteCodec Digest}
    {tr : Trace (RouteWorker Digest) ReconcileInput} {d : Desired} {cfg : RouteWorkerConfig}
    (h : ∀ t ∈ tr, t.label.desired = d ∧ t.pre.config = cfg) : OnlyRetries codec tr := by
  rintro tr₁ u tr₂ t tr₃ rfl _ _ desired selected desired' selected' ⟨hsource, hslot⟩ ⟨hsource', hslot'⟩
  obtain ⟨hu, huc⟩ := h u (by simp)
  obtain ⟨ht, htc⟩ := h t (by simp)
  unfold desiredRoutes at hsource hsource'
  rw [hu] at hsource
  rw [ht, hsource] at hsource'
  obtain rfl : desired = desired' := (Prod.mk.inj (Except.ok.inj hsource')).1
  rw [huc] at hslot
  rw [htc, hslot] at hslot'
  obtain rfl : selected = selected' := Except.ok.inj hslot'
  exact Perm.refl _

/-! ## One reconcile -/

section Step

variable {codec : RouteCodec Digest} {w w₁ : RouteWorker Digest} {input : ReconcileInput}
  {desired selected : Rows} {r : Reconciled Digest}

/-- The probes are made under admissions for the rows of their groups. -/
def ProbesAdmitted (events : List RouteEvent) : Prop :=
  ∀ group admissions, .probed group admissions ∈ events → ∀ a ∈ group.assignments, Admits admissions a

theorem ProbesAdmitted.append {evs evs' : List RouteEvent} (h : ProbesAdmitted evs)
    (h' : ∀ group adms, .probed group adms ∉ evs') : ProbesAdmitted (evs ++ evs') := by
  intro group adms hin
  rcases mem_append.mp hin with hl | hr
  · exact h group adms hl
  · exact absurd hr (h' group adms)

theorem not_probed_ready {rep : List RouteObservation}
    (h : evs = [] ∨ ∃ accepted, evs = [.ready rep accepted]) (group : CanonicalAssignmentGroup)
    (adms : DurableAdmissionRegistry) : .probed group adms ∉ evs := by
  rcases h with rfl | ⟨accepted, rfl⟩ <;> simp

theorem not_probed_flush (w : RouteWorker Digest) (input : ReconcileInput) (group : CanonicalAssignmentGroup)
    (adms : DurableAdmissionRegistry) :
    .probed group adms ∉ (flushCanonicalDetached w input).events := by
  rcases flush_cases w input with ⟨_, h⟩ | ⟨_, accepted, h, _⟩
  · rw [h]
    simp
  · rw [h]
    simp

variable [DecidableEq Digest]

theorem Admitted.admits (hadm : Admitted codec w input selected desired w₁)
    (hpend : w.canonicalPendingAdmissions = true → ∀ a ∈ selected, Admits w.durableAdmissions a)
    (hflag : w₁.canonicalPendingAdmissions) : ∀ a ∈ selected, Admits w₁.durableAdmissions a := by
  cases hadm with
  | kept => exact hpend hflag
  | installed _ _ hadmissions hreplace =>
    exact fun a ha => admits_of_mem (mem_of_replace hadmissions hreplace a (mem_append_left _ ha))

/-- **The probes of a selection** are made under its admissions. -/
theorem Admitted.probesAdmitted (hadm : Admitted codec w input selected desired w₁)
    (hpend : w.canonicalPendingAdmissions = true → ∀ a ∈ selected, Admits w.durableAdmissions a) :
    ProbesAdmitted (w₁.probes codec selected) := by
  intro group adms hin a ha
  unfold probes at hin
  split at hin
  · next hdiff =>
    obtain ⟨_, hgroup, heq⟩ := mem_map.mp hin
    obtain ⟨rfl, rfl⟩ := RouteEvent.probed.inj heq
    have hsel : a ∈ selected := ((mem_group hgroup).mp ha).1
    refine hadm.admits hpend ?_ a hsel
    cases hadm with
    | kept hidle =>
      rcases hidle hdiff with hnil | hflag
      · rw [hnil] at hsel
        cases hsel
      · exact hflag
    | installed => rfl
  · cases hin

theorem Refreshed.admits {w₂ : RouteWorker Digest}
    (hrefreshed : Refreshed codec w₁ input (w.resolution codec input selected) w₂)
    (h : w₁.canonicalPendingAdmissions = true → ∀ a ∈ selected, Admits w₁.durableAdmissions a)
    (hflag : w₂.canonicalPendingAdmissions) : ∀ a ∈ selected, Admits w₂.durableAdmissions a := by
  cases hrefreshed with
  | kept => exact h hflag
  | replaced hfails hadmissions hreplace =>
    intro a ha
    rw [← (effective_perm_selected hfails).mem_iff] at ha
    exact admits_of_mem (mem_of_replace hadmissions hreplace a ha)

/-- **One reconcile.** Its probes are admitted if pending admissions cover what it selects; and what it leaves
    pending covers its selection, or was there before. -/
theorem Effect.probed (heff : Effect codec w input r)
    (hpend : w.canonicalPendingAdmissions = true → ∀ desired selected,
      Selects codec w input desired selected → ∀ a ∈ selected, Admits w.durableAdmissions a) :
    ProbesAdmitted r.events ∧
    (r.worker.canonicalPendingAdmissions = true →
      (w.canonicalPendingAdmissions = true ∧ r.worker.durableAdmissions = w.durableAdmissions) ∨
      ∃ desired selected, Selects codec w input desired selected
        ∧ ∀ a ∈ selected, Admits r.worker.durableAdmissions a) := by
  have hselected {desired selected : Rows} (hsel : Selects codec w input desired selected) :=
    fun hflag => hpend hflag _ _ hsel
  cases heff with
  | idle =>
    refine ⟨?_, fun hflag => .inl ⟨hflag, rfl⟩⟩
    intro group adms hin
    cases hin
  | blocked hsel hadm =>
    exact ⟨hadm.probesAdmitted (hselected hsel), fun hflag => .inr ⟨_, _, hsel, hadm.admits (hselected hsel) hflag⟩⟩
  | staged hsel hadm _ _ _ _ _ hevents =>
    exact ⟨(hadm.probesAdmitted (hselected hsel)).append (not_probed_ready hevents),
      fun hflag => .inr ⟨_, _, hsel, hadm.admits (hselected hsel) hflag⟩⟩
  | activated hsel hadm =>
    exact ⟨(hadm.probesAdmitted (hselected hsel)).append (by simp),
      fun hflag => .inr ⟨_, _, hsel, hadm.admits (hselected hsel) hflag⟩⟩
  | promoted hsel hadm _ _ _ _ _ _ _ _ hflushed =>
    subst hflushed
    refine ⟨(hadm.probesAdmitted (hselected hsel)).append ?_, fun hflag => ?_⟩
    · intro group adms hin
      simp only [mem_cons, reduceCtorEq, false_or] at hin
      exact not_probed_flush _ _ group adms hin
    · -- the record of a promotion takes the flag back
      rw [flush_frame] at hflag
      cases hflag
  | refreshed hsel hadm hres _ _ hrefreshed hflushed hevents =>
    subst hflushed hres
    refine ⟨(hadm.probesAdmitted (hselected hsel)).append ?_, fun hflag => .inr ⟨_, _, hsel, ?_⟩⟩
    · intro group adms hin
      rcases mem_append.mp hin with hl | hr
      · exact not_probed_flush _ _ group adms hl
      · exact not_probed_ready hevents group adms hr
    · rw [flush_frame] at hflag ⊢
      exact hrefreshed.admits (hadm.admits (hselected hsel)) hflag

end Step

/-! ## Runs -/

/-- The pending admissions were installed at a step of the record, and cover what it selected. -/
def InstalledFor (codec : RouteCodec Digest) (tr : Trace (RouteWorker Digest) ReconcileInput)
    (w : RouteWorker Digest) : Prop :=
  ∃ tr₁ u tr₂ desired selected, tr = tr₁ ++ u :: tr₂ ∧ Installs u ∧ StayPending tr₂
    ∧ Selects codec u.pre u.label desired selected ∧ ∀ a ∈ selected, Admits w.durableAdmissions a

section Run

variable {codec : RouteCodec Digest} {tr : Trace (RouteWorker Digest) ReconcileInput}
  {w : RouteWorker Digest} {input : ReconcileInput} {r : Reconciled Digest}

theorem InstalledFor.admits (h : InstalledFor codec tr w) {w' : RouteWorker Digest}
    (hretries : OnlyRetries codec (tr ++ [⟨w, input, w'⟩])) {desired selected : Rows}
    (hsel : Selects codec w input desired selected) : ∀ a ∈ selected, Admits w.durableAdmissions a := by
  obtain ⟨_, _, _, _, _, rfl, hinstalls, hstay, hsel₀, hadmits⟩ := h
  exact admits_of_sameContent hadmits (hretries.last hinstalls hstay hsel₀ hsel).symm

theorem InstalledFor.step (h : w.canonicalPendingAdmissions = true → InstalledFor codec tr w)
    (hretries : OnlyRetries codec (tr ++ [⟨w, input, r.worker⟩]))
    (hflag : r.worker.canonicalPendingAdmissions)
    (hafter : (w.canonicalPendingAdmissions = true ∧ r.worker.durableAdmissions = w.durableAdmissions) ∨
      ∃ desired selected, Selects codec w input desired selected
        ∧ ∀ a ∈ selected, Admits r.worker.durableAdmissions a) :
    InstalledFor codec (tr ++ [⟨w, input, r.worker⟩]) r.worker := by
  have hlast {tr₂ : Trace (RouteWorker Digest) ReconcileInput} (hstay : StayPending tr₂) :
      StayPending (tr₂ ++ [⟨w, input, r.worker⟩]) := Table.forall_mem_snoc hstay hflag
  rcases hafter with ⟨hbefore, hsame⟩ | ⟨desired, selected, hsel, hadmits⟩
  · obtain ⟨tr₁, u, _, desired₀, selected₀, rfl, hinstalls, hstay, hsel₀, hadmits⟩ := h hbefore
    refine ⟨tr₁, u, _, desired₀, selected₀, by simp, hinstalls, hlast hstay, hsel₀, ?_⟩
    rw [hsame]
    exact hadmits
  by_cases hbefore : w.canonicalPendingAdmissions = true
  · obtain ⟨tr₁, u, _, desired₀, selected₀, rfl, hinstalls, hstay, hsel₀, _⟩ := h hbefore
    exact ⟨tr₁, u, _, desired₀, selected₀, by simp, hinstalls, hlast hstay, hsel₀,
      admits_of_sameContent hadmits (hretries.last hinstalls hstay hsel₀ hsel)⟩
  refine ⟨tr, ⟨w, input, r.worker⟩, [], desired, selected, rfl, ?_, ?_, hsel, hadmits⟩
  · exact ⟨Bool.eq_false_of_not_eq_true hbefore, hflag⟩
  · intro v hv
    cases hv

end Run

variable [DecidableEq Digest]

/-- **Probes use admitted rows only.** In every run in which a reconcile that finds pending admissions selects the
    content they were installed for, each tunnel group is probed while the registry has an admission for every row
    of the group. -/
theorem probes_admitted [Inhabited Digest] {codec : RouteCodec Digest} {config : RouteWorkerConfig}
    {maximumRoutes : Int} {durableAdmissions : DurableAdmissionRegistry}
    {tr : Trace (RouteWorker Digest) ReconcileInput} {w : RouteWorker Digest}
    (hrun : Run (RouteWorker.step codec) (RouteWorker.new config maximumRoutes durableAdmissions) tr w)
    (hok : OnlyRetries codec tr) :
    ∀ group admissions, .probed group admissions ∈ history codec tr →
      ∀ a ∈ group.assignments, Admits admissions a := by
  suffices h : OnlyRetries codec tr → ProbesAdmitted (history codec tr)
      ∧ (w.canonicalPendingAdmissions = true → InstalledFor codec tr w) from (h hok).1
  refine hrun.trace_invariant (I := fun tr w => OnlyRetries codec tr → ProbesAdmitted (history codec tr)
      ∧ (w.canonicalPendingAdmissions = true → InstalledFor codec tr w)) ?_ ?_
  · intro _
    refine ⟨?_, fun h => by cases h⟩
    intro group admissions hin
    cases hin
  · intro tr w input w' ih hstep hretries
    obtain ⟨hhistory, hinstall⟩ := ih hretries.of_append
    obtain ⟨heff, rfl⟩ := effect_of_step hstep
    obtain ⟨hevents, hafter⟩ := heff.probed (fun hflag _ _ hsel => (hinstall hflag).admits hretries hsel)
    refine ⟨?_, fun hflag => InstalledFor.step hinstall hretries hflag (hafter hflag)⟩
    rw [history_snoc]
    intro group admissions hin
    rcases mem_append.mp hin with hold | hnew
    · exact hhistory group admissions hold
    · exact hevents group admissions hnew

/-! ## A retry, and another snapshot -/

open RouteSample

def probed (events : List RouteEvent) : List (CanonicalAssignmentGroup × DurableAdmissionRegistry) :=
  events.filterMap (fun e => match e with
    | .probed group admissions => some (group, admissions)
    | _ => none)

theorem mem_probed {p : CanonicalAssignmentGroup × DurableAdmissionRegistry} (h : p ∈ probed evs) :
    .probed p.1 p.2 ∈ evs := by
  obtain ⟨e, he, heq⟩ := mem_filterMap.mp h
  cases e with
  | probed group admissions =>
    obtain rfl : (group, admissions) = p := Option.some.inj heq
    exact he
  | ready | activated | detached => cases heq

/-- The observer refuses the readiness of `a1`, and the retry is probed under the admissions of the first
    attempt. -/
theorem probes_admitted_retry :
    let inputs := [{ reconcile [row "a" "a1" 1 .active] with readyAccepted := false },
      reconcile [row "a" "a1" 1 .active]]
    (probed (history codec (records inputs))).length = 2 ∧
      ∀ group admissions, .probed group admissions ∈ history codec (records inputs) →
        ∀ a ∈ group.assignments, Admits admissions a := by
  intro inputs
  have hdesired : ∀ t ∈ records inputs, t.label.desired = .snapshot { routes := [row "a" "a1" 1 .active] }
      ∧ t.pre.config = RouteSample.config := by decide +kernel
  exact ⟨by decide +kernel, probes_admitted (records_run inputs) (onlyRetries_of_desired hdesired)⟩

/-- After a refused observation for `a1`, tunnel `b` is probed without an admission for its row. -/
theorem probes_unadmitted :
    let inputs := [{ reconcile [row "a" "a1" 1 .active] with readyAccepted := false },
      reconcile [row "b" "b1" 1 .active]]
    (∃ w, Run (RouteWorker.step codec) worker (records inputs) w) ∧
      ∃ group admissions, .probed group admissions ∈ history codec (records inputs)
        ∧ ∃ a ∈ group.assignments, ¬ Admits admissions a := by
  intro inputs
  obtain ⟨p, hp, ha⟩ : ∃ p ∈ probed (history codec (records inputs)),
      ∃ a ∈ p.1.assignments, ¬ Admits p.2 a := by decide +kernel
  exact ⟨⟨_, records_run inputs⟩, p.1, p.2, mem_probed hp, ha⟩

end PaperboatTunnel.Runtime.RouteWorker
