import PaperboatTunnel.Runtime.RowSets

/-!
# `Recorded` — the rows on record and the registry they were admitted in

The rows a worker has on record were selected and admitted at an earlier promotion. `Recorded` says what is left of
that: they are valid, admissible in the registry of this edge and compatible with each other.
-/

namespace PaperboatTunnel.Runtime

open GoStrings GoTime Datacarrier TransitionSystem DurableAdmissionRegistry List

variable {adms : List DurableAdmission} {sha256 : List UInt8 → List UInt8} {r r' : DurableAdmissionRegistry}
  {rows : Rows} {now : Time} {a : RouteAssignment}

/-- **The admissions of valid rows.** -/
theorem canonicalDurableAdmissions_ok : canonicalDurableAdmissions sha256 rows = .ok adms ↔
      (∀ a ∈ rows, validateCanonicalAssignment sha256 a a.nodeID a.edgeProcessEpoch = none)
        ∧ adms = rows.map durableAdmission := by
  unfold canonicalDurableAdmissions
  rw [Checks.mapM_ok_iff, eq_comm, ← forall₂_eq_eq_eq, forall₂_map_left_iff, ← forall₂_and_left]
  refine iff_of_eq (congrArg (List.Forall₂ · rows adms) ?_)
  funext a b
  cases validateCanonicalAssignment sha256 a a.nodeID a.edgeProcessEpoch <;> simp

/-- An admission of a row has no expiry, so its check does not depend on the clock. -/
theorem validate_now {nodeID epoch : String} (a : RouteAssignment) (now now' : Time) :
    (durableAdmission a).validate sha256 nodeID epoch now
      = (durableAdmission a).validate sha256 nodeID epoch now' := by
  have hzero : (durableAdmission a).expiresAt.isZero = true := rfl
  unfold DurableAdmission.validate
  rw [hzero]
  simp only [not_true_eq_false, false_and, if_false]

/-! ## The registry of the edge -/

/-- Both registries are of the same edge process, and the second is in order if the first one is. -/
structure SameEdge (r r' : DurableAdmissionRegistry) : Prop where
  nodeID : r'.nodeID = r.nodeID
  processEpoch : r'.processEpoch = r.processEpoch
  maximum : r'.maximum = r.maximum
  closed : r'.closed = r.closed
  grouped : Grouped r.byID → Grouped r'.byID

theorem SameEdge.refl (r : DurableAdmissionRegistry) : SameEdge r r := ⟨rfl, rfl, rfl, rfl, id⟩

theorem SameEdge.trans {r'' : DurableAdmissionRegistry} (h : SameEdge r r') (h' : SameEdge r' r'') :
    SameEdge r r'' where
  nodeID := h'.nodeID.trans h.nodeID
  processEpoch := h'.processEpoch.trans h.processEpoch
  maximum := h'.maximum.trans h.maximum
  closed := h'.closed.trans h.closed
  grouped hg := h'.grouped (h.grouped hg)

theorem SameEdge.of_replace (h : r.replace sha256 adms now = (r', none)) : SameEdge r r' := by
  obtain ⟨hr, _, _⟩ := replace_ok h
  exact ⟨hr.nodeID, hr.processEpoch, hr.maximum, hr.closed, fun _ => hr.grouped⟩

theorem mem_of_replace (hadmissions : canonicalDurableAdmissions sha256 rows = .ok adms)
    (hreplace : r.replace sha256 adms now = (r', none)) : ∀ a ∈ rows, durableAdmission a ∈ r'.admissions := by
  obtain ⟨_, rfl⟩ := canonicalDurableAdmissions_ok.mp hadmissions
  intro a ha
  exact ((replace_ok hreplace).1.mem _).mpr (mem_map_of_mem ha)

def Admissible (sha256 : List UInt8 → List UInt8) (r : DurableAdmissionRegistry) (a : RouteAssignment) : Prop :=
  ∀ now, (durableAdmission a).validate sha256 r.nodeID r.processEpoch now = none

instance (sha256 : List UInt8 → List UInt8) (r : DurableAdmissionRegistry) (a : RouteAssignment) :
    Decidable (Admissible sha256 r a) :=
  decidable_of_iff ((durableAdmission a).validate sha256 r.nodeID r.processEpoch {} = none)
    ⟨fun h now => (validate_now a now {}).trans h, fun h => h {}⟩

theorem SameEdge.admissible (h : SameEdge r r') (ha : Admissible sha256 r a) : Admissible sha256 r' a := by
  intro now
  rw [h.nodeID, h.processEpoch]
  exact ha now

/-- The rows may stand in one set of admissions. -/
def CompatibleRows (rows : Rows) : Prop :=
  rows.Pairwise (fun a b => (durableAdmission a).Compatible (durableAdmission b))

instance (rows : Rows) : Decidable (CompatibleRows rows) := by
  unfold CompatibleRows; infer_instance

namespace RouteWorker

variable {Digest : Type} {codec : RouteCodec Digest} {w w₁ : RouteWorker Digest} {input : ReconcileInput}
  {des sel : Rows} {r : Reconciled Digest}

theorem Refreshed.sameEdge {w₂ : RouteWorker Digest} {res : Resolution} (h : Refreshed codec w input res w₂) :
    SameEdge w.durableAdmissions w₂.durableAdmissions := by
  cases h with
  | kept => exact SameEdge.refl _
  | replaced _ _ hreplace => exact SameEdge.of_replace hreplace

variable [DecidableEq Digest]

theorem Admitted.sameEdge (h : Admitted codec w input sel des w₁) :
    SameEdge w.durableAdmissions w₁.durableAdmissions := by
  cases h with
  | kept => exact SameEdge.refl _
  | installed _ _ _ hreplace => exact SameEdge.of_replace hreplace

theorem Effect.sameEdge (heff : Effect codec w input r) :
    SameEdge w.durableAdmissions r.worker.durableAdmissions ∧ r.worker.config = w.config := by
  cases heff with
  | idle => exact ⟨SameEdge.refl _, rfl⟩
  | blocked _ hadm => exact ⟨hadm.sameEdge, by rw [hadm.frame]⟩
  | staged _ hadm | activated _ hadm => exact ⟨hadm.sameEdge, by rw [hadm.frame]; rfl⟩
  | promoted _ hadm _ _ _ _ _ _ _ hreplace hflushed =>
    subst hflushed
    rw [flush_frame]
    exact ⟨hadm.sameEdge.trans (SameEdge.of_replace hreplace), by rw [hadm.frame]; rfl⟩
  | refreshed _ hadm _ _ _ hrefreshed hflushed =>
    subst hflushed
    rw [flush_frame]
    exact ⟨hadm.sameEdge.trans hrefreshed.sameEdge, by rw [hrefreshed.frame, hadm.frame]⟩

/-! ## The effective rows -/

omit [DecidableEq Digest] in
/-- What is selected is sorted, valid and has one row for each route and connector. -/
theorem Selects.isSelection (hsel : Selects codec w input des sel) :
    Selection codec.sha256 w.config.nodeID w.config.processEpoch sel ∧ Sorted sel := by
  obtain ⟨hselection, ⟨rows, rfl⟩, _⟩ := selection_of_select hsel.selection
  exact ⟨hselection, sorted_sortAssignments rows⟩

theorem Selects.sorted_effective (hsel : Selects codec w input des sel) :
    Sorted (w.resolution codec input sel).effective := by
  unfold resolution
  split
  · exact sorted_sortAssignments _
  · exact hsel.isSelection.2

theorem effective_cases (ha : a ∈ (w.resolution codec input sel).effective) :
    a ∈ sel ∨ a ∈ w.canonicalAssignments := by
  unfold resolution at ha
  split at ha
  · rcases mem_effective.mp ha with hready | ⟨_, _, _, hrecorded, _⟩
    · obtain ⟨_, hgroup, _, hin⟩ := mem_ready.mp hready
      exact .inl ((mem_group hgroup).mp hin).1
    · exact .inr hrecorded
  · exact .inl ha

theorem effective_perm_selected (h : (w.resolution codec input sel).failures = []) :
    (w.resolution codec input sel).effective.Perm sel := by
  unfold resolution at h ⊢
  split at h
  · next hdiff =>
    rw [if_pos hdiff]
    exact effective_perm h
  · next hsame =>
    rw [if_neg hsame]

/-! ## The records -/

/-- **The rows on record** were admitted together. -/
structure Recorded (codec : RouteCodec Digest) (w : RouteWorker Digest) : Prop where
  sorted : Sorted w.canonicalAssignments
  valid : ∀ a ∈ w.canonicalAssignments, Valid codec.sha256 a
  admissible : ∀ a ∈ w.canonicalAssignments, Admissible codec.sha256 w.durableAdmissions a
  compatible : CompatibleRows w.canonicalAssignments

variable {w' : RouteWorker Digest}

omit [DecidableEq Digest] in
theorem Recorded.congr (h : Recorded codec w) (hrows : w'.canonicalAssignments = w.canonicalAssignments)
    (hedge : SameEdge w.durableAdmissions w'.durableAdmissions) : Recorded codec w' := by
  refine ⟨hrows ▸ h.sorted, hrows ▸ h.valid, fun a ha => ?_, hrows ▸ h.compatible⟩
  exact hedge.admissible (h.admissible a (hrows ▸ ha))

/-- A promotion puts rows on record that were selected now or before, and that the registry has accepted. -/
theorem Recorded.promoted (h : Recorded codec w) (hsel : Selects codec w input des sel)
    {r : DurableAdmissionRegistry} {adms : List DurableAdmission}
    (hrows : w'.canonicalAssignments = (w.resolution codec input sel).effective)
    (hadmissions : canonicalDurableAdmissions codec.sha256 (w.resolution codec input sel).effective = .ok adms)
    (hreplace : r.replace codec.sha256 adms now = (w'.durableAdmissions, none)) : Recorded codec w' := by
  obtain ⟨_, rfl⟩ := canonicalDurableAdmissions_ok.mp hadmissions
  obtain ⟨_, hacceptable, _⟩ := replace_ok hreplace
  constructor
  · rw [hrows]
    exact hsel.sorted_effective
  · rw [hrows]
    intro a ha
    rcases effective_cases ha with hin | hin
    · exact hsel.isSelection.1.mem_valid hin
    · exact h.valid a hin
  · rw [hrows]
    intro a ha now
    refine (SameEdge.of_replace hreplace).admissible (fun now => ?_) now
    exact (validate_now a now _).trans (hacceptable.valid _ (mem_map_of_mem ha))
  · rw [hrows]
    exact pairwise_map.mp hacceptable.compatible

/-- **Every reconcile keeps the records admissible.** -/
theorem Recorded.effect (h : Recorded codec w) (heff : Effect codec w input r) : Recorded codec r.worker := by
  have hedge := heff.sameEdge.1
  cases heff with
  | idle => exact h
  | blocked _ hadm => exact h.congr (by rw [hadm.frame]) hedge
  | staged _ hadm | activated _ hadm => exact h.congr (by rw [hadm.frame]; rfl) hedge
  | promoted hsel _ hres _ _ _ _ _ hadmissions hreplace hflushed =>
    subst hflushed hres
    rw [flush_frame]
    exact h.promoted hsel rfl hadmissions hreplace
  | refreshed _ hadm _ _ _ hrefreshed hflushed =>
    refine h.congr ?_ hedge
    subst hflushed
    rw [flush_frame, hrefreshed.frame, hadm.frame]

variable [Inhabited Digest] {cfg : RouteWorkerConfig} {maxRoutes : Int}
  {durable : DurableAdmissionRegistry} {tr : Trace (RouteWorker Digest) ReconcileInput}

/-- **Over a whole run** the rows on record stay admissible on the edge the worker was built for. -/
theorem recorded_run (hrun : Run (RouteWorker.step codec) (RouteWorker.new cfg maxRoutes durable) tr w) :
    Recorded codec w ∧ SameEdge durable w.durableAdmissions ∧ w.config = cfg := by
  refine hrun.invariant (I := fun w => Recorded codec w ∧ SameEdge durable w.durableAdmissions ∧ w.config = cfg) ?_ ?_
  · rintro w input w' ⟨h, hedge, hconfig⟩ hstep
    obtain ⟨heff, rfl⟩ := effect_of_step hstep
    exact ⟨h.effect heff, hedge.trans heff.sameEdge.1, heff.sameEdge.2.trans hconfig⟩
  refine ⟨⟨rfl, ?_, ?_, Pairwise.nil⟩, SameEdge.refl _, rfl⟩
  · intro a ha
    cases ha
  · intro a ha
    cases ha

/-- **Induction over a run**: before each reconcile the records are coherent and admissible. -/
theorem run_induction {I : List RouteEvent → RouteWorker Digest → Prop} {C : RouteWorker Digest → ReconcileInput → Prop}
    (hrun : Run (RouteWorker.step codec) (RouteWorker.new cfg maxRoutes durable) tr w)
    (hok : ∀ t ∈ tr, C t.pre t.label)
    (hstep : ∀ events w input r, Coherent codec w (activeAfter [] events) → Recorded codec w →
      SameEdge durable w.durableAdmissions → C w input → Effect codec w input r → I events w →
      I (events ++ r.events) r.worker)
    (h0 : I [] (RouteWorker.new cfg maxRoutes durable)) : I (history codec tr) w := by
  induction hrun with
  | refl => exact h0
  | tail hrun hs ih =>
    obtain ⟨heff, rfl⟩ := effect_of_step hs
    obtain ⟨hrecorded, hedge, _⟩ := recorded_run hrun
    rw [history_snoc]
    exact hstep _ _ _ _ (coherent_run hrun) hrecorded hedge (hok _ (mem_append_right _ mem_cons_self)) heff
      (ih (fun t ht => hok t (mem_append_left _ ht)))

end RouteWorker

end PaperboatTunnel.Runtime
