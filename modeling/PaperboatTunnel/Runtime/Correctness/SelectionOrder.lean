import PaperboatTunnel.Runtime.RowSets

/-!
# `SelectionOrder` — when what is selected does not depend on the order of the rows

For each route and connector the selection prefers a staged row to an active one. Two active rows with different
assignments are a conflict only if the loop comes to both before it comes to a staged one, and of two rows with one
assignment the first is kept. The loop is an election among the live rows that refuses some of them.
-/

namespace PaperboatTunnel.Runtime

open Datacarrier List

variable {sha256 : List UInt8 → List UInt8} {nodeID epoch : String} {des des' sel : Rows}

instance : DecidablePred Live := fun a => by unfold Live; infer_instance

/-- Two of the rows that may be selected for a route and connector have different assignments. -/
def Contested (rows : Rows) : Prop :=
  Election.Contested selectionKey stateRank RouteAssignment.assignmentID (rows.filter Live)

/-- One row may be selected for each route and connector, and live rows of one state have one assignment. -/
def Settled (rows : Rows) : Prop :=
  Election.Settled selectionKey stateRank RouteAssignment.assignmentID (rows.filter Live)

/-- What is elected among the live rows, before it is sorted. -/
def electRows (rows : Rows) : Option Rows :=
  Election.run selectionKey stateRank RouteAssignment.assignmentID (rows.filter Live)

/-- **The loop elects among the live rows.** -/
theorem foldlM_elects (hlive : ∀ a ∈ sel, Live a) (hpass : ∀ a ∈ des, Passes sha256 nodeID epoch a) :
    (des.foldlM (selectAssignment sha256 nodeID epoch) sel).toOption = (des.filter Live).foldlM electRow sel := by
  induction des generalizing sel with
  | nil => rfl
  | cons a des ih =>
    rw [forall_mem_cons] at hpass
    have hturn : Turn sha256 nodeID epoch sel a _ := selectAssignment_turn
    rw [foldlM_cons]
    revert hturn
    generalize selectAssignment sha256 nodeID epoch sel a = outcome
    intro hturn
    cases hturn with
    | refused hno => exact absurd hpass.1 hno
    | skipped _ hnot =>
      rw [filter_cons_of_neg (by simpa using hnot)]
      exact ih hlive hpass.2
    | elected _ hyes helect =>
      rw [filter_cons_of_pos (by simpa using hyes), foldlM_cons, helect]
      refine ih (fun b hb => ?_) hpass.2
      rw [Election.eq_of_tryElect helect] at hb
      rcases Election.mem_elect hb with hold | rfl
      · exact hlive b hold
      · exact hyes
    | clashed hyes hclash =>
      rw [filter_cons_of_pos (by simpa using hyes), foldlM_cons, hclash hlive]
      rfl

theorem select_eq_none (h : ∃ a ∈ des, ¬ Passes sha256 nodeID epoch a) :
    (selectCanonicalAssignments sha256 des nodeID epoch).toOption = none := by
  obtain ⟨a, ha, hno⟩ := h
  cases hselect : selectCanonicalAssignments sha256 des nodeID epoch with
  | error => rfl
  | ok => exact absurd ((selection_of_select hselect).2.2 a ha) hno

theorem select_eq_elect (hpass : ∀ a ∈ des, Passes sha256 nodeID epoch a) :
    (selectCanonicalAssignments sha256 des nodeID epoch).toOption = (electRows des).map sortAssignments := by
  have hloop : _ = electRows des := foldlM_elects (fun _ ha => absurd ha not_mem_nil) hpass
  unfold selectCanonicalAssignments
  rw [← hloop]
  cases des.foldlM (selectAssignment sha256 nodeID epoch) [] <;> rfl

theorem select_rel (hpass : ∀ a ∈ des, Passes sha256 nodeID epoch a) (hperm : des.Perm des') :
    Option.Rel Perm (selectCanonicalAssignments sha256 des nodeID epoch).toOption
      (selectCanonicalAssignments sha256 des' nodeID epoch).toOption ↔
    Option.Rel Perm (electRows des) (electRows des') := by
  rw [select_eq_elect hpass, select_eq_elect (fun a ha => hpass a (hperm.mem_iff.mpr ha))]
  have hsorted := sortAssignments_perm
  cases electRows des <;> cases electRows des' <;> constructor <;> intro h <;> cases h <;> constructor
  · next h => exact ((hsorted _).symm.trans h).trans (hsorted _)
  · next h => exact ((hsorted _).trans h).trans (hsorted _).symm

/-- **Assignment selection does not depend on the order of the rows** exactly if some row is refused by itself, or the
    rows are contested, or they are settled: two orders are both refused or have the same rows selected. -/
theorem selection_order_irrelevant (sha256 : List UInt8 → List UInt8) (nodeID processEpoch : String)
    (desired : Rows) :
    (∀ desired', desired.Perm desired' →
      Option.Rel List.Perm (selectCanonicalAssignments sha256 desired nodeID processEpoch).toOption
        (selectCanonicalAssignments sha256 desired' nodeID processEpoch).toOption) ↔
    (∃ a ∈ desired, ¬ Passes sha256 nodeID processEpoch a) ∨ Contested desired ∨ Settled desired := by
  by_cases hrefused : ∃ a ∈ desired, ¬ Passes sha256 nodeID processEpoch a
  · refine iff_of_true (fun desired' hperm => ?_) (.inl hrefused)
    obtain ⟨a, ha, hno⟩ := hrefused
    rw [select_eq_none ⟨a, ha, hno⟩, select_eq_none ⟨a, hperm.mem_iff.mp ha, hno⟩]
    exact .none
  rw [or_iff_right hrefused]
  have hpass : ∀ a ∈ desired, Passes sha256 nodeID processEpoch a := by simpa using hrefused
  refine Iff.trans ⟨fun h rows hrows => ?_, fun h desired' hperm => ?_⟩ Election.run_perm_iff
  · -- the other rows after the live ones in this order
    have hperm : desired.Perm (rows ++ desired.filter (fun a => !decide (Live a))) :=
      (filter_append_perm _ desired).symm.trans (hrows.append_right _)
    have hlive : (rows ++ desired.filter (fun a => !decide (Live a))).filter Live = rows := by
      rw [filter_append, filter_filter, filter_eq_self.mpr (fun a ha => (mem_filter.mp (hrows.mem_iff.mpr ha)).2)]
      simp
    have hrel := (select_rel hpass hperm).mp (h _ hperm)
    rwa [electRows, electRows, hlive] at hrel
  · exact (select_rel hpass hperm).mpr (h _ (hperm.filter _))

open RouteSample

/-- A row of one route and connector, with an assignment of its own. -/
def rival (assignment : String) (state : AssignmentState) : RouteAssignment :=
  { row "a" "a1" 1 state with assignmentID := assignment }

/-- Two active rows are refused if both come before the staged one; between them, the staged one is selected. -/
theorem selection_order_matters :
    let select (rows : Rows) := selectCanonicalAssignments codec.sha256 rows "edge_1" "edge_epoch_1"
    let rows := [rival "a1" .active, rival "a2" .active, rival "a3" .staged]
    let rows' := [rival "a1" .active, rival "a3" .staged, rival "a2" .active]
    rows.Perm rows' ∧ (select rows).toOption = none ∧ (select rows').toOption = some [rival "a3" .staged] := by
  decide +kernel

end PaperboatTunnel.Runtime
