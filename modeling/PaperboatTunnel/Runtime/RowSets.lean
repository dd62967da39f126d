import PaperboatTunnel.Lib.Election
import PaperboatTunnel.Runtime.Resolution

/-!
# `RowSets` — the sets of rows of a reconcile, by membership

What the pure functions of `Runtime.CanonicalSets` put into their results: the selection, the pending set, the
superseded, detached and merged rows, and what equal content hashes say.
-/

namespace PaperboatTunnel.Runtime

open GoStrings Datacarrier List Checks

section Rules

variable (sha256 : List UInt8 → List UInt8) (nodeID processEpoch : String) (selected : Rows) (a : RouteAssignment)

/-- A row that may be published: its state admits streams and it passes the check under its own binding. -/
structure Valid : Prop where
  check : validateCanonicalAssignment sha256 a a.nodeID a.edgeProcessEpoch = none
  state : effectiveState a = .staged ∨ effectiveState a = .active

/-! ## Selection -/

def OneForEach (rows : Rows) : Prop := (rows.map (fun a => (a.routeID, a.connectorID))).Nodup

/-- What the selection holds at any time: valid rows, one for each route and connector. -/
structure Selection : Prop where
  valid : ∀ a ∈ selected, validateCanonicalAssignment sha256 a nodeID processEpoch = none
            ∧ (effectiveState a = .staged ∨ effectiveState a = .active)
  keys : OneForEach selected

/-- The route and the connector that a row is selected for. -/
def selectionKey : String × String := (a.routeID, a.connectorID)

/-- A staged row is preferred. -/
def stateRank : Nat := if effectiveState a = .active then 1 else 0

def Live : Prop :=
  isCanonicalAssignment a = true ∧ (effectiveState a = .staged ∨ effectiveState a = .active)

/-- The selection goes on after the row. -/
def Passes : Prop :=
  isCanonicalAssignment a = true → validateCanonicalAssignment sha256 a nodeID processEpoch = none
    ∧ (effectiveState a = .draining ∨ effectiveState a = .detached ∨ Live a)

/-- The turn among the live rows. -/
def electRow : Option Rows :=
  Election.tryElect selectionKey stateRank RouteAssignment.assignmentID selected a

/-- **What one turn of the loop does.** -/
inductive Turn : Except Route.Error Rows → Prop
  | skipped (hpasses : Passes sha256 nodeID processEpoch a) (hlive : ¬ Live a) : Turn (.ok selected)
  | elected {next} (hpasses : Passes sha256 nodeID processEpoch a) (hlive : Live a)
      (helect : electRow selected a = some next) : Turn (.ok next)
  | refused {err} (hpasses : ¬ Passes sha256 nodeID processEpoch a) : Turn (.error err)
  | clashed {err} (hlive : Live a) (hclash : (∀ b ∈ selected, Live b) → electRow selected a = none) :
      Turn (.error err)

end Rules

variable {a : RouteAssignment} {nodeID epoch : String} {sha256 : List UInt8 → List UInt8}
  {r : DurableAdmissionRegistry} {prev des sel right left sup : Rows}

theorem selectAssignment_turn : Turn sha256 nodeID epoch sel a (selectAssignment sha256 nodeID epoch sel a) := by
  unfold selectAssignment
  split
  · next hcan => exact .skipped (hcan.elim) (fun h => hcan h.1)
  next hcan =>
  rw [not_not] at hcan
  split
  · next herr => exact .refused (fun h => Option.some_ne_none _ (herr.symm.trans (h hcan).1))
  next hval =>
  extract_lets state sameKey put
  split
  · next hend =>
    refine .skipped (fun _ => ⟨hval, ?_⟩) ?_
    · exact or_assoc.mp (.inl hend)
    · rintro ⟨_, hlive⟩
      grind
  next hend =>
  split
  · next hother =>
    refine .refused (fun h => ?_)
    rcases (h hcan).2 with heq | heq | ⟨_, heq⟩ <;> grind
  next hother =>
  have hlive : Live a := ⟨hcan, by grind⟩
  have hpass : Passes sha256 nodeID epoch a := fun _ => ⟨hval, .inr (.inr hlive)⟩
  have hturn : electRow sel a = _ :=
    Election.tryElect_find (p := sameKey) (fun b => by simp [sameKey, selectionKey])
  split
  · next hfind =>
    rw [hfind] at hturn
    exact .elected hpass hlive hturn
  next cur hfind =>
  rw [hfind] at hturn
  dsimp only at hturn
  have hrank : stateRank a < stateRank cur ↔ effectiveState cur = .active ∧ state = .staged := by
    unfold stateRank
    grind
  extract_lets currentState
  split
  next hid =>
    rw [if_neg (fun h => h.2 hid)] at hturn
    split
    · next hup => exact .elected hpass hlive (by rw [hturn, if_pos (hrank.mpr hup)])
    · next hup => exact .elected hpass hlive (by rw [hturn, if_neg (fun h => hup (hrank.mp h))])
  next hid =>
  split
  next hup =>
    have hlt := hrank.mpr hup
    rw [if_neg (fun h => hlt.ne' h.1), if_pos hlt] at hturn
    exact .elected hpass hlive hturn
  next hup =>
  split
  next hdown =>
    have hne : stateRank cur ≠ stateRank a := by
      unfold stateRank
      grind
    rw [if_neg (fun h => hne h.1), if_neg (fun h => hup (hrank.mp h))] at hturn
    exact .elected hpass hlive hturn
  next hdown =>
    refine .clashed hlive (fun hsel => hturn.trans (if_pos ⟨?_, hid⟩))
    obtain ⟨_, hcurrent⟩ := hsel cur (mem_of_find?_eq_some hfind)
    unfold stateRank
    grind

theorem Selection.turn {res : Rows} (h : Selection sha256 nodeID epoch sel)
    (hturn : selectAssignment sha256 nodeID epoch sel a = .ok res) :
    Passes sha256 nodeID epoch a ∧ Selection sha256 nodeID epoch res := by
  have hdone : Turn sha256 nodeID epoch sel a _ := selectAssignment_turn
  rw [hturn] at hdone
  cases hdone with
  | skipped hpass => exact ⟨hpass, h⟩
  | elected hpass hlive helect =>
    obtain rfl := Election.eq_of_tryElect helect
    refine ⟨hpass, fun b hb => ?_, Election.nodup_elect h.keys⟩
    rcases Election.mem_elect hb with hold | rfl
    · exact h.valid b hold
    · exact ⟨(hpass hlive.1).1, hlive.2⟩

/-- **What a selection consists of**; it has passed every row. -/
theorem selection_of_select (h : selectCanonicalAssignments sha256 des nodeID epoch = .ok sel) :
    Selection sha256 nodeID epoch sel ∧ (∃ rows, sel = sortAssignments rows)
      ∧ ∀ a ∈ des, Passes sha256 nodeID epoch a := by
  obtain ⟨rows, hfold, rfl⟩ := map_ok_iff.mp h
  have hnone : Selection sha256 nodeID epoch [] := ⟨by simp, nodup_nil⟩
  obtain ⟨hpass, hrows⟩ := foldlM_ok hfold hnone (fun _ _ _ => Selection.turn)
  refine ⟨⟨fun a ha => hrows.valid a (mem_sortAssignments.mp ha), ?_⟩, ⟨rows, rfl⟩, hpass⟩
  exact ((sortAssignments_perm rows).map _).nodup_iff.mpr hrows.keys

theorem Selection.mem_valid (h : Selection sha256 nodeID epoch sel) (ha : a ∈ sel) : Valid sha256 a := by
  obtain ⟨hcheck, hst⟩ := h.valid a ha
  -- the row names the node and the process epoch it was checked for
  obtain ⟨hnode, hepoch⟩ : a.nodeID = nodeID ∧ a.edgeProcessEpoch = epoch := by
    unfold validateCanonicalAssignment at hcheck
    split at hcheck
    · cases hcheck
    next hfields =>
    push Not at hfields
    exact ⟨hfields.2.2.2.2.2.2.2.2.2.1, hfields.2.2.2.2.2.2.2.2.2.2.1⟩
  refine ⟨?_, hst⟩
  rw [hnode, hepoch]
  exact hcheck

/-! ## Hashed content -/

variable (rows : Rows) {Digest : Type} {codec : RouteCodec Digest}

/-- The rows are in the order in which the worker keeps them. -/
def Sorted (rows : Rows) : Prop := sortAssignments rows = rows

theorem sorted_sortAssignments : Sorted (sortAssignments rows) :=
  Pairwise.insertionSort_eq (pairwise_sortBy isStrictTotalOrder_strings _ rows)

variable {rows rows' : Rows}

theorem canonicalRouteHash_sorted (h : Sorted rows) :
    canonicalRouteHash codec rows = codec.digest (rows.map immutableAssignment) := by
  unfold canonicalRouteHash
  rw [sortBy_map]
  exact congrArg (fun rows => codec.digest (map immutableAssignment rows)) h

theorem ids_eq_content : ids rows = (rows.map immutableAssignment).map ImmutableAssignment.assignmentID := by
  rw [map_map]
  rfl

def SameContent (rows rows' : Rows) : Prop :=
  (rows.map immutableAssignment).Perm (rows'.map immutableAssignment)

instance (rows rows' : Rows) : Decidable (SameContent rows rows') := by
  unfold SameContent; infer_instance

/-! ## Admissions in force -/

/-- The admission of a row with this content and state. -/
def admissionOf (i : ImmutableAssignment) (state : AssignmentState) : DurableAdmission :=
  { identity :=
      { accountID := i.accountID, hostID := i.hostID, tunnelID := i.tunnelID, connectorID := i.connectorID,
        sessionID := i.connectorSessionID, processGeneration := i.connectorProcessGeneration,
        generation := i.configGeneration },
    edgeNodeID := i.edgeNodeID, edgeProcessEpoch := i.edgeProcessEpoch, assignmentID := i.assignmentID,
    routeID := i.routeID, assignmentGeneration := i.assignmentGeneration, routeGeneration := i.routeRevision,
    configContentHash := i.configContentHash, machineIdentityPublicKey := i.machineIdentityPublicKey,
    machineIdentityThumbprint := i.machineIdentityThumbprint, state }

/-- The registry has an admission for the row, whatever state it was admitted in. -/
def Admits (r : DurableAdmissionRegistry) (a : RouteAssignment) : Prop :=
  ∃ b ∈ r.admissions, b = { durableAdmission a with state := b.state }

instance (r : DurableAdmissionRegistry) (a : RouteAssignment) : Decidable (Admits r a) := by
  unfold Admits; infer_instance

theorem admits_of_mem (h : durableAdmission a ∈ r.admissions) : Admits r a := ⟨durableAdmission a, h, rfl⟩

theorem Admits.congr {a' : RouteAssignment} (h : Admits r a) (heq : immutableAssignment a' = immutableAssignment a) :
    Admits r a' := by
  obtain ⟨b, hb, hbeq⟩ := h
  refine ⟨b, hb, ?_⟩
  show b = { admissionOf (immutableAssignment a') b.state with state := b.state }
  rw [heq]
  exact hbeq

theorem admits_of_sameContent {rows rows' : Rows} (h : ∀ a ∈ rows, Admits r a)
    (hsame : SameContent rows rows') : ∀ a ∈ rows', Admits r a := by
  intro a ha
  have hin : immutableAssignment a ∈ rows.map immutableAssignment := hsame.mem_iff.mpr (mem_map_of_mem ha)
  obtain ⟨b, hb, heq⟩ := mem_map.mp hin
  exact (h b hb).congr heq.symm

/-! ## Detached, superseded and merged rows -/

theorem mem_detached {cur : Rows} :
    a ∈ detachedCanonicalAssignments prev cur ↔ a ∈ prev ∧ a.assignmentID ∉ ids cur := by
  unfold detachedCanonicalAssignments
  rw [mem_filter]
  simp

theorem superseded_not_selected {selectedIDs seen : List String}
    (h : collectSuperseded sha256 nodeID epoch selectedIDs seen des = .ok sup) :
    ∀ a ∈ sup, a.assignmentID ∉ selectedIDs := by
  induction des generalizing seen sup with
  | nil =>
    cases h
    exact fun a ha => absurd ha not_mem_nil
  | cons b des ih =>
    unfold collectSuperseded at h
    split at h
    · exact ih h
    split at h
    · cases h
    split at h
    · exact ih h
    next hnew =>
    obtain ⟨rest, hrest, rfl⟩ := map_ok_iff.mp h
    refine forall_mem_cons.mpr ⟨fun hsel => ?_, ih hrest⟩
    exact hnew (.inr (.inl (contains_iff_mem.mpr hsel)))

theorem not_mem_of_superseded (h : canonicalSupersededAssignments sha256 des sel nodeID epoch = .ok sup) :
    ∀ a ∈ sup, a.assignmentID ∉ ids sel := by
  obtain ⟨rows, hcollect, rfl⟩ := map_ok_iff.mp h
  exact fun a ha => superseded_not_selected hcollect a (mem_sortBy.mp ha)

theorem collectSuperseded_ok (selectedIDs : List String) : ∀ {des : Rows} (seen : List String),
      (∀ a ∈ des, Passes sha256 nodeID epoch a) →
      ∃ sup, collectSuperseded sha256 nodeID epoch selectedIDs seen des = .ok sup
  | [], _, _ => ⟨[], rfl⟩
  | a :: des, seen, h => by
      rw [forall_mem_cons] at h
      have ih (seen : List String) := collectSuperseded_ok selectedIDs seen h.2
      unfold collectSuperseded
      split
      · exact ih seen
      next hcan =>
      rw [(h.1 (not_not.mp hcan)).1]
      dsimp only
      split
      · exact ih seen
      · obtain ⟨rest, hrest⟩ := ih (a.assignmentID :: seen)
        exact ⟨_, map_ok_iff.mpr ⟨rest, hrest, rfl⟩⟩

theorem superseded_ok (rows : Rows) (h : selectCanonicalAssignments sha256 des nodeID epoch = .ok sel) :
    ∃ sup, canonicalSupersededAssignments sha256 des rows nodeID epoch = .ok sup := by
  -- the selection has checked every canonical row
  obtain ⟨_, hcollect⟩ := collectSuperseded_ok (ids rows) [] (selection_of_select h).2.2
  exact ⟨_, map_ok_iff.mpr ⟨_, hcollect, rfl⟩⟩

theorem retainPrevious_sublist {taken : List String} : (retainPrevious des taken prev).Sublist prev := by
  induction prev generalizing taken with
  | nil => exact .slnil
  | cons _ _ ih =>
    unfold retainPrevious
    split
    · exact .cons _ ih
    split
    · exact .cons_cons _ ih
    · exact .cons_cons _ ih
    · exact .cons _ ih

theorem unseen_sublist {seen : List String} : (unseen seen right).Sublist right := by
  induction right generalizing seen with
  | nil => exact .slnil
  | cons _ _ ih =>
    unfold unseen
    split
    · exact .cons _ ih
    · exact .cons_cons _ ih

theorem mem_of_merge (h : a ∈ mergeCanonicalAssignments left right) : a ∈ left ∨ a ∈ right := by
  unfold mergeCanonicalAssignments at h
  split at h
  · exact .inl h
  · rw [mem_sortBy, mem_append] at h
    exact h.imp_right (unseen_sublist.subset ·)

theorem merge_left (h : a ∈ left) : a ∈ mergeCanonicalAssignments left right := by
  unfold mergeCanonicalAssignments
  split
  · exact h
  · rw [mem_sortBy]
    exact mem_append_left _ h

end PaperboatTunnel.Runtime
