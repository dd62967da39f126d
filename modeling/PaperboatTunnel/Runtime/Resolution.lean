import PaperboatTunnel.Runtime.RouteRecords

/-!
# `Resolution` — what the probes leave of a selection

`resolveCanonicalGroups` keeps the rows of every group that is ready and the previous rows of every group that
is not. The lemmas of this module say so by membership, without the loop, the groups' order or the sorting.
-/

namespace PaperboatTunnel.Runtime

open GoStrings List Option

/-! ## Groups -/

variable {a : RouteAssignment} {rows : Rows} {group : CanonicalAssignmentGroup}

theorem mem_sortAssignments : a ∈ sortAssignments rows ↔ a ∈ rows := mem_sortBy

theorem sortAssignments_perm (rows : Rows) : (sortAssignments rows).Perm rows := sortBy_perm _ rows

theorem mem_groups : group ∈ canonicalAssignmentGroups rows ↔ (∃ a ∈ rows, canonicalAssignmentGroupKey a = group.key)
        ∧ group.assignments = sortAssignments (tunnelRows rows group.key) := by
  unfold canonicalAssignmentGroups
  rw [mem_sortBy, List.mem_map]
  constructor
  · rintro ⟨key, hkey, rfl⟩
    rw [List.mem_dedup, List.mem_map] at hkey
    exact ⟨hkey, rfl⟩
  rintro ⟨hkey, hrows⟩
  refine ⟨group.key, ?_, ?_⟩
  · rw [List.mem_dedup, List.mem_map]
    exact hkey
  · rw [← hrows]

theorem mem_group (h : group ∈ canonicalAssignmentGroups rows) :
    a ∈ group.assignments ↔ a ∈ rows ∧ canonicalAssignmentGroupKey a = group.key := by
  rw [(mem_groups.mp h).2, mem_sortAssignments, tunnelRows, mem_filter]
  simp

def previousRows (previous : Rows) (key : String) : Rows :=
  (((canonicalAssignmentGroups previous).find? (fun p => p.key == key)).map
    CanonicalAssignmentGroup.assignments).getD []

theorem mem_previousRows {prev : Rows} {key : String} :
    a ∈ previousRows prev key ↔ a ∈ prev ∧ canonicalAssignmentGroupKey a = key := by
  unfold previousRows
  cases hfind : (canonicalAssignmentGroups prev).find? (fun p => p.key == key) with
  | some group =>
    have hkey : group.key = key := by simpa using find?_some hfind
    rw [map_some, getD_some, mem_group (mem_of_find?_eq_some hfind), hkey]
  | none =>
    simp only [map_none, getD_none, not_mem_nil, false_iff, not_and]
    intro ha hkey
    -- the group of the tunnel of the row
    have hno := find?_eq_none.mp hfind ⟨key, sortAssignments (tunnelRows prev key)⟩
      (mem_groups.mpr ⟨⟨a, ha, hkey⟩, rfl⟩)
    simp at hno

theorem groups_perm (rows : Rows) :
    ((canonicalAssignmentGroups rows).flatMap CanonicalAssignmentGroup.assignments).Perm rows := by
  have hkeys : ((rows.map canonicalAssignmentGroupKey).dedup.flatMap
      (fun key => rows.filter (fun a => canonicalAssignmentGroupKey a == key))).Perm rows :=
    Grouping.flatMap_filter_perm (nodup_dedup _) (fun a ha => by
      rw [mem_dedup]
      exact mem_map_of_mem ha)
  refine Perm.trans ?_ hkeys
  unfold canonicalAssignmentGroups
  refine ((sortBy_perm _ _).flatMap_right _).trans ?_
  rw [flatMap_map]
  exact Perm.flatMap_left _ (fun key _ => sortAssignments_perm _)

/-! ## The loop -/

variable {config : RouteWorkerConfig} {input : ReconcileInput}

def Ready (config : RouteWorkerConfig) (input : ReconcileInput) (group : CanonicalAssignmentGroup) : Prop :=
  probeCanonicalGroup config input group.assignments = none

instance (group : CanonicalAssignmentGroup) : Decidable (Ready config input group) := by
  unfold Ready; infer_instance

theorem foldl_resolveGroup (prev : Rows) :
    ∀ (groups : List CanonicalAssignmentGroup) (res : Resolution),
      groups.foldl (resolveGroup config input (canonicalAssignmentGroups prev)) res =
        { effective := res.effective ++ groups.flatMap (fun group =>
            if Ready config input group then group.assignments else previousRows prev group.key),
          ready := res.ready ++ groups.flatMap (fun group =>
            if Ready config input group then group.assignments else []),
          failures := res.failures ++ groups.filterMap (fun group =>
            probeCanonicalGroup config input group.assignments),
          failed := res.failed ++ groups.flatMap (fun group =>
            if Ready config input group then [] else group.assignments) }
  | [], res => by simp
  | group :: groups, res => by
      rw [foldl_cons, foldl_resolveGroup prev groups]
      unfold resolveGroup
      cases hprobe : probeCanonicalGroup config input group.assignments with
      | none =>
        have hready : Ready config input group := hprobe
        simp [hprobe, hready]
      | some =>
        have hready : ¬ Ready config input group := by
          unfold Ready
          rw [hprobe]
          simp
        simp [hprobe, hready, previousRows]

variable {cands prev : Rows}

theorem mem_ready : a ∈ (resolveCanonicalGroups config input cands prev).ready ↔
      ∃ group ∈ canonicalAssignmentGroups cands, Ready config input group ∧ a ∈ group.assignments := by
  unfold resolveCanonicalGroups
  rw [foldl_resolveGroup]
  simp only [mem_sortAssignments, nil_append, mem_flatMap]
  refine exists_congr (fun group => and_congr_right (fun _ => ?_))
  by_cases h : Ready config input group <;> simp [h]

/-- **The effective rows**: those of the ready groups, and the previous ones of the tunnels that failed. -/
theorem mem_effective : a ∈ (resolveCanonicalGroups config input cands prev).effective ↔
      a ∈ (resolveCanonicalGroups config input cands prev).ready ∨
      ∃ group ∈ canonicalAssignmentGroups cands, ¬ Ready config input group
        ∧ a ∈ prev ∧ canonicalAssignmentGroupKey a = group.key := by
  rw [mem_ready]
  unfold resolveCanonicalGroups
  rw [foldl_resolveGroup]
  simp only [mem_sortAssignments, nil_append, mem_flatMap]
  constructor
  · rintro ⟨group, hgroup, ha⟩
    by_cases h : Ready config input group
    · rw [if_pos h] at ha
      exact .inl ⟨group, hgroup, h, ha⟩
    · rw [if_neg h, mem_previousRows] at ha
      exact .inr ⟨group, hgroup, h, ha⟩
  · rintro (⟨group, hgroup, h, ha⟩ | ⟨group, hgroup, h, ha⟩)
    · exact ⟨group, hgroup, by rw [if_pos h]; exact ha⟩
    · exact ⟨group, hgroup, by rw [if_neg h, mem_previousRows]; exact ha⟩

theorem failures_eq_nil : (resolveCanonicalGroups config input cands prev).failures = [] ↔
      ∀ group ∈ canonicalAssignmentGroups cands, Ready config input group := by
  unfold resolveCanonicalGroups
  rw [foldl_resolveGroup]
  simp only [nil_append, filterMap_eq_nil_iff]
  exact Iff.rfl

theorem effective_perm (h : (resolveCanonicalGroups config input cands prev).failures = []) :
    (resolveCanonicalGroups config input cands prev).effective.Perm cands := by
  have hready := failures_eq_nil.mp h
  refine Perm.trans ?_ (groups_perm cands)
  unfold resolveCanonicalGroups
  rw [foldl_resolveGroup]
  refine (sortAssignments_perm _).trans ?_
  rw [nil_append]
  refine Perm.of_eq (flatMap_congr (fun group hgroup => ?_))
  rw [if_pos (hready group hgroup)]

end PaperboatTunnel.Runtime
