import PaperboatTunnel.Runtime.Recorded

/-!
# `FinalAdmission` — when the final admissions of a promotion are taken

A promotion ends with the admissions of the rows it has activated: those of the ready tunnels and, for a tunnel whose
probe failed, the rows on record. The registry still holds the pending set then. `FinalFits` says when it takes the
final set all the same.
-/

namespace PaperboatTunnel.Runtime

open GoStrings GoTime Datacarrier List

/-! ## Compatible rows -/

theorem compatibleRows_perm {rows rows' : Rows} (h : rows.Perm rows') : CompatibleRows rows ↔ CompatibleRows rows' :=
  h.pairwise_iff (fun hc => hc.symm)

variable {rows : Rows}

theorem CompatibleRows.tunnelRows (h : CompatibleRows rows) (key : String) :
    CompatibleRows (sortAssignments (tunnelRows rows key)) :=
  (compatibleRows_perm (sortAssignments_perm _)).mpr (Pairwise.filter _ h)

theorem CompatibleRows.previousRows (h : CompatibleRows rows) (key : String) :
    CompatibleRows (previousRows rows key) := by
  unfold Runtime.previousRows
  cases hfind : (canonicalAssignmentGroups rows).find? (fun p => p.key == key) with
  | none => exact Pairwise.nil
  | some =>
    rw [Option.map_some, Option.getD_some, (mem_groups.mp (mem_of_find?_eq_some hfind)).2]
    exact h.tunnelRows _

theorem compatible_of_key {a b : RouteAssignment}
    (h : canonicalAssignmentGroupKey a ≠ canonicalAssignmentGroupKey b) :
    (durableAdmission a).Compatible (durableAdmission b) := by
  intro hid
  have haccount : a.accountID = b.accountID := congrArg Identity.accountID hid
  have htunnel : a.tunnelID = b.tunnelID := congrArg Identity.tunnelID hid
  refine absurd ?_ h
  unfold canonicalAssignmentGroupKey
  rw [haccount, htunnel]

theorem groups_pairwise (rows : Rows) : (canonicalAssignmentGroups rows).Pairwise (fun g g' => g.key ≠ g'.key) := by
  have hkeys : ((canonicalAssignmentGroups rows).map CanonicalAssignmentGroup.key).Nodup := by
    unfold canonicalAssignmentGroups
    rw [((sortBy_perm _ _).map _).nodup_iff, map_map]
    exact (nodup_dedup _).map (fun _ _ h => h)
  exact pairwise_map.mp hkeys

/-- **The effective rows are compatible** if the selected ones and the ones on record are. -/
theorem compatible_effective {cfg : RouteWorkerConfig} {input : ReconcileInput}
    {cands prev : Rows} (hc : CompatibleRows cands)
    (hp : CompatibleRows prev) :
    CompatibleRows (resolveCanonicalGroups cfg input cands prev).effective := by
  unfold resolveCanonicalGroups
  rw [foldl_resolveGroup]
  refine (compatibleRows_perm (sortAssignments_perm _)).mpr ?_
  rw [nil_append]
  unfold CompatibleRows
  rw [pairwise_flatMap]
  constructor
  · intro group hgroup
    split
    · rw [(mem_groups.mp hgroup).2]
      exact hc.tunnelRows _
    · exact hp.previousRows _
  · refine Pairwise.imp_of_mem ?_ (groups_pairwise cands)
    intro g g' hg hg' hne a ha b hb
    have hkey {g : CanonicalAssignmentGroup} (hg : g ∈ canonicalAssignmentGroups cands) {a : RouteAssignment}
        (ha : a ∈ if Ready cfg input g then g.assignments else previousRows prev g.key) :
        canonicalAssignmentGroupKey a = g.key := by
      split at ha
      · exact ((mem_group hg).mp ha).2
      · exact (mem_previousRows.mp ha).2
    refine compatible_of_key ?_
    rw [hkey hg ha, hkey hg' hb]
    exact hne

/-- **An open registry with room takes the admissions of compatible rows** that are valid for it and not behind its
    fence. -/
theorem admissions_taken {sha256 : List UInt8 → List UInt8} {r : DurableAdmissionRegistry}
    (hval : ∀ a ∈ rows, Valid sha256 a ∧ Admissible sha256 r a) (hcompat : CompatibleRows rows)
    (hcur : ∀ a ∈ rows, ∀ b ∈ r.admissions, b.fence = (durableAdmission a).fence →
      b.assignmentGeneration ≤ a.assignmentGeneration)
    (hroom : rows.length ≤ r.maximum) (hopen : r.closed = false) (now : Time) :
    ∃ admissions r', canonicalDurableAdmissions sha256 rows = .ok admissions
      ∧ r.replace sha256 admissions now = (r', none) := by
  have hacceptable : DurableAdmissionRegistry.Acceptable sha256 r (rows.map durableAdmission) now :=
    { valid := forall_mem_map.mpr (fun a ha => (hval a ha).2 now)
      current := forall_mem_map.mpr hcur
      compatible := pairwise_map.mpr hcompat }
  obtain ⟨r', hreplace⟩ := DurableAdmissionRegistry.replace_accepts hacceptable (by rwa [length_map]) hopen
  exact ⟨_, r', canonicalDurableAdmissions_ok.mpr ⟨fun a ha => (hval a ha).1.check, rfl⟩, hreplace⟩

namespace RouteWorker

variable {Digest : Type} (codec : RouteCodec Digest) (w : RouteWorker Digest) (input : ReconcileInput)

/-! ## The final set -/

/-- The rows that are to be active after the probes: of each ready tunnel the selected ones, of each other one
    those on record. -/
def expectedRows (selected : Rows) : Rows :=
  (resolveCanonicalGroups w.config input selected w.canonicalAssignments).effective

/-- The admissions in force while the reconcile probes: those left pending by an earlier one, or its own. -/
def probeAdmissions (selected desired : Rows) : List DurableAdmission :=
  if w.canonicalPendingAdmissions then w.durableAdmissions.admissions
  else (canonicalPendingAdmissionAssignments selected w.canonicalAssignments desired).map durableAdmission

/-- **What lets the registry take the final set.** The fence compares the expected rows with all admissions that
    are in force while the tunnels are probed. -/
@[mk_iff]
structure FinalFits (desired selected : Rows) : Prop where
  admissible : ∀ a ∈ selected, Admissible codec.sha256 w.durableAdmissions a
  compatible : CompatibleRows selected
  room : (w.expectedRows input selected).length ≤ w.durableAdmissions.maximum
  current : ∀ a ∈ w.expectedRows input selected, ∀ b ∈ w.probeAdmissions selected desired,
                 b.fence = (durableAdmission a).fence → b.assignmentGeneration ≤ a.assignmentGeneration

instance (desired selected : Rows) : Decidable (FinalFits codec w input desired selected) :=
  decidable_of_iff' _ (finalFits_iff ..)

variable {codec w input} {w₁ : RouteWorker Digest} {des sel : Rows} {a : RouteAssignment}

theorem selected_ne_nil (ha : a ∈ w.expectedRows input sel) : sel ≠ [] := by
  rintro rfl
  cases ha

variable [DecidableEq Digest]

theorem resolution_effective (hdiff : w.differs codec sel) :
    (w.resolution codec input sel).effective = w.expectedRows input sel := by
  rw [resolution, if_pos hdiff]
  rfl

theorem Admitted.probeAdmissions_eq (hadm : Admitted codec w input sel des w₁)
    (hdiff : w.differs codec sel) (hne : sel ≠ []) :
    ∀ b, b ∈ w₁.durableAdmissions.admissions ↔ b ∈ w.probeAdmissions sel des := by
  unfold probeAdmissions
  cases hadm with
  | kept hidle =>
    have hflag := (hidle hdiff).resolve_left hne
    rw [if_pos hflag]
    exact fun _ => Iff.rfl
  | installed _ hflag hadmissions hreplace =>
    obtain ⟨_, rfl⟩ := canonicalDurableAdmissions_ok.mp hadmissions
    rw [hflag]
    exact (DurableAdmissionRegistry.replace_ok hreplace).1.mem

theorem effective_admissible (hrecorded : Recorded codec w) (hsel : Selects codec w input des sel)
    (hadmissible : ∀ a ∈ sel, Admissible codec.sha256 w.durableAdmissions a)
    (ha : a ∈ (w.resolution codec input sel).effective) :
    Valid codec.sha256 a ∧ Admissible codec.sha256 w.durableAdmissions a := by
  rcases effective_cases ha with hin | hin
  · exact ⟨hsel.isSelection.1.mem_valid hin, hadmissible a hin⟩
  · exact ⟨hrecorded.valid a hin, hrecorded.admissible a hin⟩

/-- **The registry takes the final set.** -/
theorem FinalFits.accepted (hfits : FinalFits codec w input des sel) (hrecorded : Recorded codec w)
    (hopen : w.durableAdmissions.closed = false) (hsel : Selects codec w input des sel)
    (hadm : Admitted codec w input sel des w₁)
    (hdiff : w.differs codec sel) :
    FinalAccepted codec input w₁.durableAdmissions (w.resolution codec input sel).effective := by
  have hedge := hadm.sameEdge
  have hval (a : RouteAssignment) (ha : a ∈ (w.resolution codec input sel).effective) :=
    effective_admissible hrecorded hsel hfits.admissible ha
  rw [resolution_effective hdiff] at hval ⊢
  refine admissions_taken (fun a ha => ⟨(hval a ha).1, hedge.admissible (hval a ha).2⟩)
    (compatible_effective hfits.compatible hrecorded.compatible) (fun a ha b hb => hfits.current a ha b ?_)
    (hfits.room.trans_eq hedge.maximum.symm) (hedge.closed.trans hopen) _
  exact (hadm.probeAdmissions_eq hdiff (selected_ne_nil ha) b).mp hb

end RouteWorker

end PaperboatTunnel.Runtime
