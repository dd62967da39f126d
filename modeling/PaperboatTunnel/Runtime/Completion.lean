import PaperboatTunnel.Runtime.FinalAdmission
import PaperboatTunnel.Runtime.Published

/-!
# `Completion` — a reconcile that goes through

The opposite direction of `Runtime.RouteStep`: `Unhindered` says what has to hold before a reconcile so that each of
its calls succeeds, and under it the canonical part returns no error (`reconcileCanonical_completes`).
-/

namespace PaperboatTunnel.Runtime.RouteWorker

open Datacarrier Route TransitionSystem GenerationRegistry List

variable {Digest : Type} [DecidableEq Digest] {generation : UInt64}

/-! ## The counter of local generations -/

theorem lt_add_one {n : UInt64} (h : n + 1 ≠ 0) : n < n + 1 := by
  grind

variable {g : GenerationRegistry}

theorem active_le_top (ho : g.Ordered) {s : GenerationState} (hs : g.active = some s) : s.generation ≤ g.top := by
  unfold top
  cases hp : g.pending with
  | some p => exact UInt64.le_of_lt (ho.order s p hs hp)
  | none =>
    rw [hs]
    exact UInt64.le_refl _

theorem top_of_pending {p : GenerationState} (hp : g.pending = some p) : g.top = p.generation := by
  unfold top
  rw [hp]

theorem active_of_lt {n : UInt64} (h : n < g.generation) : ∃ s, g.active = some s := by
  cases hs : g.active with
  | none =>
    unfold generation at h
    rw [hs] at h
    exact absurd h UInt64.not_lt_zero
  | some s => exact ⟨s, rfl⟩

theorem generation_le_top (ho : g.Ordered) : g.generation ≤ g.top := by
  cases hs : g.active with
  | none =>
    unfold generation
    rw [hs]
    exact UInt64.zero_le
  | some =>
    rw [ho.generation_eq hs]
    exact active_le_top ho hs

/-- The worker remembers the latest generation of the matcher, until the counter is used up. -/
def RemembersLatest (w : RouteWorker Digest) : Prop :=
  w.registry.top + 1 ≠ 0 → w.canonicalPendingGeneration = w.registry.top

variable {codec : RouteCodec Digest} {w w₁ : RouteWorker Digest} {rows : Rows} {input : ReconcileInput} {hash : Digest}

/-- **The local generation** of a set is the latest one if it was staged before, and the next one otherwise. -/
theorem Coherent.localGeneration_cases (h : Coherent codec w rows) (hash : Digest)
    (hlatest : w.canonicalPendingGeneration = w.registry.top) (hcounter : w.registry.top + 1 ≠ 0) :
    (w.canonicalPendingSet = true ∧ hash = w.canonicalPendingHash ∧ w.localGeneration hash = w.registry.top) ∨
    (w.localGeneration hash = w.registry.top + 1) := by
  unfold localGeneration
  dsimp only
  by_cases hretry : w.canonicalPendingSet = true ∧ hash = w.canonicalPendingHash
  · left
    refine ⟨hretry.1, hretry.2, ?_⟩
    rw [if_pos hretry, hlatest, if_neg]
    -- a staged set has a generation
    intro hzero
    cases hp : w.registry.pending with
    | some p => exact h.ordered.pending p hp ((top_of_pending hp).symm.trans hzero)
    | none =>
      have hlt := h.ahead hp hretry.1
      have hle := generation_le_top h.ordered
      rw [hzero] at hle
      exact absurd (UInt64.lt_of_lt_of_le hlt hle) UInt64.not_lt_zero
  · right
    have hmax : (if w.canonicalPendingGeneration > w.canonicalGeneration then w.canonicalPendingGeneration
        else w.canonicalGeneration) = w.registry.top := by
      have hle := UInt64.le_trans h.recorded (generation_le_top h.ordered)
      split
      · exact hlatest
      · next hnot =>
        rw [hlatest] at hnot
        exact UInt64.le_antisymm hle (UInt64.not_lt.mp hnot)
    rw [if_neg hretry, hmax, if_neg hcounter]

theorem Coherent.top_staged (h : Coherent codec w rows) (hlatest : w.RemembersLatest) {norm : List RouteRule}
    {g₁ : GenerationRegistry} (hgen : generation = w.localGeneration hash)
    (hstaged : StagedAs w.registry generation norm g₁) (hcounter : g₁.top + 1 ≠ 0) :
    g₁.top = generation := by
  cases hstaged with
  | added => rfl
  | pending hp hp' => exact (top_of_pending hp).trans hp'
  | @active _ hs hs' =>
    rcases h.localGeneration_cases hash (hlatest hcounter) hcounter with ⟨_, _, htop⟩ | hnext
    · exact htop.symm.trans hgen.symm
    -- the active generation is not later than the latest one
    have hle := active_le_top h.ordered hs
    rw [hs', hgen, hnext] at hle
    exact absurd (lt_add_one hcounter) (UInt64.not_lt.mpr hle)

theorem top_marked {g g' : GenerationRegistry} (h : MarkedAs g g') : g'.top = g.top := by
  cases h with
  | same => rfl
  | @ready _ hp => exact (top_of_pending hp).symm

/-- **Every reconcile keeps the latest generation in mind.** -/
theorem RemembersLatest.effect (hlatest : w.RemembersLatest) (h : Coherent codec w rows)
    {r : Reconciled Digest} (heff : Effect codec w input r) : r.worker.RemembersLatest := by
  cases heff with
  | idle => exact hlatest
  | blocked _ hadm =>
    rw [hadm.frame]
    exact hlatest
  | @staged _ _ _ _ _ _ _ g₂ _ _ _ hadm _ _ hgen hstage hmark =>
    obtain ⟨_, _, _, hstaged⟩ := stageGeneration_ok hstage
    rw [hadm.frame]
    intro hcounter
    change g₂.top + 1 ≠ 0 at hcounter
    show _ = g₂.top
    rw [top_marked hmark] at hcounter ⊢
    exact (h.top_staged hlatest hgen hstaged hcounter).symm
  | activated _ _ _ _ _ _ hpromote =>
    obtain ⟨_, _, _, _, _, _, _, htop⟩ := hpromote.active_rules h.ordered
    exact fun _ => htop.symm
  | promoted _ _ _ _ _ _ _ hpromote _ _ hflushed =>
    subst hflushed
    rw [flush_frame]
    obtain ⟨_, _, _, _, _, _, _, htop⟩ := hpromote.active_rules h.ordered
    exact fun _ => htop.symm
  | refreshed _ hadm _ _ _ hrefreshed hflushed =>
    subst hflushed
    rw [flush_frame]
    rw [hrefreshed.frame, hadm.frame]
    exact hlatest

/-! ## The conditions -/

/-- The rows that are to be admitted while the tunnels are probed. -/
def pendingRows (w : RouteWorker Digest) (selected desired : Rows) : Rows :=
  canonicalPendingAdmissionAssignments selected w.canonicalAssignments desired

/-- What lets the registry take the pending set. -/
@[mk_iff]
structure PendingFits (w : RouteWorker Digest) (desired selected : Rows) : Prop where
  compatible : CompatibleRows (w.pendingRows selected desired)
  room : (w.pendingRows selected desired).length ≤ w.durableAdmissions.maximum
  current : ∀ a ∈ w.pendingRows selected desired, ∀ b ∈ w.durableAdmissions.admissions,
                 b.fence = (durableAdmission a).fence → b.assignmentGeneration ≤ a.assignmentGeneration

instance (w : RouteWorker Digest) (desired selected : Rows) : Decidable (PendingFits w desired selected) :=
  decidable_of_iff' _ (pendingFits_iff ..)

structure Configured (config : RouteWorkerConfig) : Prop where
  processEpoch : config.processEpoch ≠ ""
  carrier : config.hasCarrier = true ∨ config.hasReady = true
  observer : config.hasObserver = true
  admissions : config.hasDurableAdmissions = true

/-- The answers from outside are positive: the observer accepts the reports, and the context does not end. -/
structure Accepting (input : ReconcileInput) : Prop where
  canceled : input.canceled = false
  ready : input.readyAccepted = true
  detached : input.detachedAccepted = true
  drain : input.drain ≠ .canceled

variable (codec w input)

/-- The matcher takes the rules of these rows, under the generation given. -/
def TakesRules (rows : Rows) (generation : UInt64) (rules : List RouteRule) : Prop :=
  normalizeRules codec.toASCII generation (generationRules rows generation) w.registry.maximumRoutes = .ok rules

/-- **Nothing stands in the way of the reconcile**: the worker has local generations left, the registry takes the
    pending and the final admissions, and the matcher takes the rules of the expected rows. If the set was staged
    before, its rules have not changed since. -/
structure Unhindered (desired selected : Rows) : Prop where
  counter : w.registry.top + 1 ≠ 0
  install : w.canonicalPendingAdmissions = false → PendingFits w desired selected
  final : FinalFits codec w input desired selected
  rules : ∃ rules, TakesRules codec w (w.expectedRows input selected) 1 rules
  repeated : w.canonicalPendingSet = true →
               canonicalRouteHash codec (w.expectedRows input selected) = w.canonicalPendingHash →
               ∀ s ∈ w.registry.pending.or w.registry.active,
                 TakesRules codec w (w.expectedRows input selected) s.generation s.rules

/-- The selection is probed, and a tunnel of it is ready. -/
def ProbesReady (selected : Rows) : Prop :=
  w.differs codec selected = true ∧ ∃ group ∈ canonicalAssignmentGroups selected, Ready w.config input group

instance (selected : Rows) : Decidable (ProbesReady codec w input selected) := by
  unfold ProbesReady; infer_instance

variable {codec w input} {des sel : Rows}

omit [DecidableEq Digest] in
theorem flush_completes (w : RouteWorker Digest) (h : input.detachedAccepted) :
    (flushCanonicalDetached w input).err = none := by
  unfold flushCanonicalDetached
  split
  · rfl
  · rfl

/-- **The pending set is installed.** -/
theorem installPending_completes (hrecorded : Recorded codec w) (hopen : w.durableAdmissions.closed = false)
    (hsel : Selects codec w input des sel)
    (hadmissible : ∀ a ∈ sel, Admissible codec.sha256 w.durableAdmissions a)
    (hfits : w.canonicalPendingAdmissions = false → PendingFits w des sel) :
    ∃ w₁, w.installPending codec input sel des = (w₁, none) ∧ Admitted codec w input sel des w₁ := by
  unfold installPending
  split
  · next hidle => exact ⟨w, rfl, .kept (fun _ => hidle)⟩
  next hnew =>
  rw [not_or] at hnew
  have hflag : w.canonicalPendingAdmissions = false := Bool.eq_false_of_not_eq_true hnew.2
  obtain ⟨hcompat, hroom, hcur⟩ := hfits hflag
  have hval (a : RouteAssignment) (ha : a ∈ w.pendingRows sel des) :
      Valid codec.sha256 a ∧ Admissible codec.sha256 w.durableAdmissions a := by
    rcases mem_append.mp ha with hin | hin
    · exact ⟨hsel.isSelection.1.mem_valid hin, hadmissible a hin⟩
    · have hold := retainPrevious_sublist.subset hin
      exact ⟨hrecorded.valid a hold, hrecorded.admissible a hold⟩
  obtain ⟨_, _, hadmissions, hreplace⟩ := admissions_taken hval hcompat hcur hroom hopen input.pendingNow
  unfold pendingRows at hadmissions
  rw [hadmissions]
  dsimp only
  rw [hreplace]
  exact ⟨_, rfl, .installed hnew.1 hflag hadmissions hreplace⟩

omit [DecidableEq Digest] in
theorem TakesRules.other {rules : List RouteRule} (h : TakesRules codec w rows generation rules)
    (generation' : UInt64) :
    ∃ rules', TakesRules codec w rows generation' rules' := by
  unfold TakesRules generationRules at h ⊢
  refine ⟨_, (normalizeRules_stamp generation' generation _ _).trans (congrArg _ h)⟩

/-- **The three calls of the matcher succeed**; only the wait for the old generation can end with an error. -/
theorem Unhindered.promotes (h : Unhindered codec w input des sel) (hcoherent : Coherent codec w rows)
    (hlatest : w.RemembersLatest) :
    let generation := w.localGeneration (canonicalRouteHash codec (w.expectedRows input sel))
    ∃ g₁ g₂ g₃ err, w.registry.stageGeneration codec.toASCII generation
        (generationRules (w.expectedRows input sel) generation) = (g₁, none)
      ∧ g₁.markGenerationReady generation = (g₂, none)
      ∧ g₂.activateGeneration generation input.drain = (g₃, err) ∧ (err = none ∨ err = input.drain.error) := by
  intro generation
  rcases hcoherent.localGeneration_cases (canonicalRouteHash codec (w.expectedRows input sel))
      (hlatest h.counter) h.counter with ⟨hset, hhash, htop⟩ | hnext
  · have hrepeated := h.repeated hset hhash
    cases hp : w.registry.pending with
    | some p =>
      -- the set is pending, and the stage is repeated
      have hgen : p.generation = generation := (top_of_pending hp).symm.trans htop.symm
      have hrules := hrepeated p (by rw [hp]; rfl)
      rw [hgen] at hrules
      refine promotion_accepts hcoherent.isOpen ?_ hrules ?_ ?_
      · rw [← hgen]
        exact hcoherent.ordered.pending p hp
      · intro s hs
        rw [← hgen]
        exact hcoherent.ordered.order s p hs hp
      · intro p' hp'
        obtain rfl := Option.mem_unique hp hp'
        exact .inr ⟨hgen, rfl⟩
    | none =>
      -- the set is active, and only the record of its promotion is missing
      obtain ⟨s, hs⟩ := active_of_lt (hcoherent.ahead hp hset)
      have hgen : s.generation = generation := (htop.trans (by rw [top, hp, hs])).symm
      have hrules := hrepeated s (by rw [hp, hs]; rfl)
      rw [hgen] at hrules
      obtain ⟨hstage, hmark, hact⟩ := promotion_repeats hcoherent.isOpen hs hp hgen
        (hgen ▸ (hcoherent.ordered.accepting s hs).2) hrules
      exact ⟨_, _, _, _, hstage, hmark, hact, .inl rfl⟩
  · obtain ⟨_, htaken⟩ := h.rules
    obtain ⟨_, hnorm⟩ := htaken.other generation
    have hlt : w.registry.top < generation := by
      show w.registry.top < w.localGeneration _
      rw [hnext]
      exact lt_add_one h.counter
    refine promotion_accepts hcoherent.isOpen ?_ hnorm ?_ ?_
    · intro hzero
      rw [hzero] at hlt
      exact UInt64.not_lt_zero hlt
    · intro s hs
      exact UInt64.lt_of_le_of_lt (active_le_top hcoherent.ordered hs) hlt
    · intro p hp
      rw [top_of_pending hp] at hlt
      exact .inl hlt

theorem ProbesReady.ready_ne_nil (h : ProbesReady codec w input sel) :
    (w.resolution codec input sel).ready ≠ [] ∧ (w.resolution codec input sel).effective ≠ [] := by
  obtain ⟨hdiff, group, hgroup, hready⟩ := h
  obtain ⟨a, ha, hkey⟩ := (mem_groups.mp hgroup).1
  have hrow : a ∈ (resolveCanonicalGroups w.config input sel w.canonicalAssignments).ready :=
    mem_ready.mpr ⟨group, hgroup, hready, (mem_group hgroup).mpr ⟨ha, hkey⟩⟩
  rw [resolution, if_pos hdiff]
  exact ⟨ne_nil_of_mem hrow, ne_nil_of_mem (mem_effective.mpr (.inl hrow))⟩

variable (h : Unhindered codec w input des sel) (hrecorded : Recorded codec w)
  (hopen : w.durableAdmissions.closed = false) (haccepting : Accepting input) (hsel : Selects codec w input des sel)

include h hrecorded hopen haccepting hsel

variable (hadm : Admitted codec w input sel des w₁)

include hadm

/-- **The branch of an unchanged set** goes through, if a tunnel is ready. -/
theorem refresh_completes (hdiff : w.differs codec sel)
    (hready : (w.resolution codec input sel).ready ≠ []) (sup : Rows) :
    (w₁.refresh codec input sel des (w.resolution codec input sel) sup).err = none := by
  unfold refresh
  extract_lets admitted
  have hadmitted : ∃ w₂, admitted = (w₂, none) := by
    by_cases hfails : (w.resolution codec input sel).failures = []
    · obtain ⟨_, _, hadmissions, hreplace⟩ := h.final.accepted hrecorded hopen hsel hadm hdiff
      have hadmitted' : admitted = _ := if_neg (not_not.mpr hfails)
      rw [hadmitted', hadmissions]
      dsimp only
      rw [hreplace]
      exact ⟨_, rfl⟩
    · have hadmitted' : admitted = _ := if_pos hfails
      rw [hadmitted', hadm.installPending_idle hdiff w₁ rfl]
      exact ⟨w₁, rfl⟩
  clear_value admitted
  obtain ⟨_, rfl⟩ := hadmitted
  dsimp only
  rw [flush_completes _ haccepting.detached]
  unfold reportReady
  rw [if_neg (fun hnone => hready hnone.2), if_pos haccepting.ready]

variable (hcoherent : Coherent codec w rows) (hlatest : w.RemembersLatest)

include hcoherent hlatest

/-- **The branch of a changed set** goes through. -/
theorem promote_completes (hdiff : w.differs codec sel) (sup : Rows) :
    (w₁.promote codec input sel des (w.resolution codec input sel) sup).err = none := by
  have hpromotes := h.promotes hcoherent hlatest
  rw [← resolution_effective hdiff] at hpromotes
  obtain ⟨g₁, g₂, g₃, _, hstage, hmark, hactivate, hend⟩ := hpromotes
  obtain ⟨adms, r', hadmissions, hreplace⟩ := h.final.accepted hrecorded hopen hsel hadm hdiff
  have hreg : w₁.registry = w.registry := by rw [hadm.frame]
  have hlocal (hash : Digest) : w₁.localGeneration hash = w.localGeneration hash := by rw [hadm.frame]; rfl
  rw [← hlocal] at hstage hmark hactivate
  rw [← hreg] at hstage
  unfold promote
  extract_lets hash generation rules observations
  change w₁.registry.stageGeneration codec.toASCII generation rules = (g₁, none) at hstage
  rw [hstage]
  dsimp only
  have hidle := hadm.installPending_idle hdiff (w₁.withStaged g₁ hash generation) rfl
  unfold withStaged at hidle
  rw [hidle]
  dsimp only
  rw [if_neg (not_not.mpr haccepting.ready)]
  change g₁.markGenerationReady generation = (g₂, none) at hmark
  rw [hmark]
  dsimp only
  change g₂.activateGeneration generation input.drain = _ at hactivate
  rw [hactivate]
  -- the wait ends well or is given up, and the promotion is recorded
  have hrec : ((w₁.withStaged g₃ hash generation).recordPromotion codec input generation hash
      (w.resolution codec input sel).effective sup).err = none := by
    unfold recordPromotion
    rw [hadmissions]
    dsimp only
    change w₁.durableAdmissions.replace codec.sha256 adms input.finalNow = (r', none) at hreplace
    rw [show (w₁.withStaged g₃ hash generation).durableAdmissions = w₁.durableAdmissions from rfl, hreplace]
    exact flush_completes _ haccepting.detached
  rcases hend with rfl | rfl
  · exact hrec
  · cases hdrain : input.drain with
    | drained | timedOut => exact hrec
    | canceled => exact absurd hdrain haccepting.drain

theorem settle_completes (hready : ProbesReady codec w input sel) : (w₁.settle codec input sel des).err = none := by
  have hconfig : w₁.config = w.config := by rw [hadm.frame]
  obtain ⟨hrows, heffective⟩ := hready.ready_ne_nil
  obtain ⟨sup, hsuperseded⟩ := superseded_ok
    ((w.resolution codec input sel).effective ++ (w.resolution codec input sel).failed) hsel.selection
  unfold settle
  rw [hadm.resolution_eq, hconfig]
  extract_lets probing res
  rw [if_neg (by rw [haccepting.canceled]; simp), if_neg (fun hnone => heffective hnone.2.2.1), hsuperseded]
  dsimp only
  split
  · exact promote_completes h hrecorded hopen haccepting hsel hadm hcoherent hlatest hready.1 sup
  · exact refresh_completes h hrecorded hopen haccepting hsel hadm hready.1 hrows sup

omit hadm

/-- **The canonical part of an unhindered reconcile reports no error.** -/
theorem reconcileCanonical_completes (hconfigured : Configured w.config) (hready : ProbesReady codec w input sel) :
    (w.reconcileCanonical codec input des).err = none := by
  obtain ⟨w₁, hinstalled, hadm⟩ := installPending_completes hrecorded hopen hsel h.final.admissible h.install
  have hcollaborators : ¬ (w.config.processEpoch = "" ∨ (¬ w.config.hasCarrier ∧ ¬ w.config.hasReady)
      ∨ ¬ w.config.hasObserver) := by
    rintro (hepoch | ⟨hcarrier, hnoReady⟩ | hobserver)
    · exact hconfigured.processEpoch hepoch
    · exact hconfigured.carrier.elim hcarrier hnoReady
    · exact hobserver hconfigured.observer
  unfold reconcileCanonical
  rw [if_neg hcollaborators, hsel.selection]
  dsimp only
  rw [if_neg (not_not.mpr hconfigured.admissions), if_pos hready.1, hinstalled]
  exact settle_completes h hrecorded hopen haccepting hsel hadm hcoherent hlatest hready

end PaperboatTunnel.Runtime.RouteWorker
