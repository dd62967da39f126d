import PaperboatTunnel.Lib.GoMap
import PaperboatTunnel.Lib.Table

/-!
# `RefCount` — entries counted by the references to them

A keyed table whose rows live on a heap. A reference names its key and its row, and is live until it is dropped. Rows
that nobody refers to may leave the table at any time, and the next reference under the same key gets a new row.

The counter of every entry is the number of live references under its key (`Exact`), so a live reference finds its row
in the table as long as it lives.
-/

namespace RefCount

open Table List Option AList

variable {κ α : Type} [DecidableEq κ]

structure Ref (κ : Type) where
  key : κ
  row : Nat
  live : Bool

/-- The number of live references under a key. -/
def held (k : κ) (refs : List (Ref κ)) : Nat := refs.countP (fun r => r.live && decide (r.key = k))

/-- The counter under a key, and `0` when there is no entry. -/
def counter (count : α → Int) (table : GoMap κ Nat) (rows : List α) (k : κ) : Int :=
  ((table.lookup k).bind (fun i => rows[i]?)).elim 0 count

/-- **Every counter is exact.** -/
structure Exact (count : α → Int) (table : GoMap κ Nat) (rows : List α) (refs : List (Ref κ)) : Prop where
  counts : ∀ k i, table.lookup k = some i → ∃ a, rows[i]? = some a ∧ count a = held k refs
  found : ∀ r ∈ refs, r.live = true → table.lookup r.key = some r.row
  apart : ∀ k k' i, table.lookup k = some i → table.lookup k' = some i → k = k'

variable {count : α → Int} {table : GoMap κ Nat} {rows : List α} {refs : List (Ref κ)} {k : κ} {i : Nat} {a b : α}

theorem held_snoc (k' : κ) (live : Bool) :
    held k' (refs ++ [⟨k, i, live⟩]) = held k' refs + if live && decide (k = k') then 1 else 0 :=
  countP_snoc

theorem held_drop {j : Nat} {r : Ref κ} (hj : refs[j]? = some r) (hlive : r.live) (k' : κ) :
    held k' (refs.set j { r with live := false }) + (if r.key = k' then 1 else 0) = held k' refs := by
  have hcount := countP_set (p := fun r : Ref κ => r.live && decide (r.key = k')) (b := { r with live := false }) hj
  unfold held
  simpa [hlive] using hcount

theorem Exact.empty : Exact count (∅ : GoMap κ Nat) rows [] where
  counts k i h := by simp at h
  found r hr := by cases hr
  apart k k' i h := by simp at h

variable (h : Exact count table rows refs)

include h

theorem Exact.held_eq_zero (hk : table.lookup k = none) : held k refs = 0 := by
  apply countP_eq_zero.mpr
  intro r hr hlive
  rw [Bool.and_eq_true, decide_eq_true_eq] at hlive
  have hfound := h.found r hr hlive.1
  rw [hlive.2, hk] at hfound
  cases hfound

/-- **The counter under every key** is the number of its live references. -/
theorem Exact.counter_eq (k : κ) : counter count table rows k = held k refs := by
  unfold counter
  cases hk : table.lookup k with
  | none =>
    rw [h.held_eq_zero hk]
    rfl
  | some i =>
    obtain ⟨_, hrow, hcount⟩ := h.counts k i hk
    rw [bind_some, hrow]
    exact hcount

theorem Exact.write (hi : rows[i]? = some a) (hcount : count b = count a) :
    Exact count table (rows.set i b) refs := by
  refine ⟨fun k j hk => ?_, h.found, h.apart⟩
  obtain ⟨x, hx, hheld⟩ := h.counts k j hk
  by_cases hj : j = i
  · subst hj
    obtain rfl : a = x := mem_unique hi hx
    exact ⟨b, get_set_self hi, hcount.trans hheld⟩
  · exact ⟨x, (get_set_ne hj).trans hx, hheld⟩

/-- The references to one entry change, and its counter with them. -/
theorem Exact.update {refs' : List (Ref κ)} (hk : table.lookup k = some i) (hi : rows[i]? = some a)
    (hcount : count b = held k refs') (hothers : ∀ k' ≠ k, held k' refs' = held k' refs)
    (hfound : ∀ r ∈ refs', r.live → table.lookup r.key = some r.row) : Exact count table (rows.set i b) refs' := by
  refine ⟨fun k' j hk' => ?_, hfound, h.apart⟩
  by_cases hj : j = i
  · subst hj
    obtain rfl := h.apart k k' j hk hk'
    exact ⟨b, get_set_self hi, hcount⟩
  · obtain ⟨x, hx, hheld⟩ := h.counts k' j hk'
    have hne : k' ≠ k := by
      rintro rfl
      exact hj (mem_unique hk' hk)
    exact ⟨x, (get_set_ne hj).trans hx, by rw [hheld, hothers k' hne]⟩

/-- **One more reference to an entry.** -/
theorem Exact.hold (hk : table.lookup k = some i) (hi : rows[i]? = some a) (hcount : count b = count a + 1) :
    Exact count table (rows.set i b) (refs ++ [⟨k, i, true⟩]) := by
  obtain ⟨_, hx, hheld⟩ := h.counts k i hk
  obtain rfl := mem_unique hi hx
  refine h.update hk hi ?_ (fun k' hne => ?_) (forall_mem_snoc h.found (fun _ => hk))
  · simp [held_snoc, hcount, hheld]
  · simp [held_snoc, hne.symm]

/-- **The first reference under a key** makes an entry. -/
theorem Exact.enter (hk : table.lookup k = none) (hcount : count b = 1) :
    Exact count (table.insert k rows.length) (rows ++ [b]) (refs ++ [⟨k, rows.length, true⟩]) := by
  -- the rows of the other entries are older than the new one
  have hold : ∀ {k' j}, k' ≠ k → (table.insert k rows.length).lookup k' = some j →
      table.lookup k' = some j ∧ j < rows.length := by
    intro k' j hne hk'
    rw [lookup_insert_ne hne] at hk'
    obtain ⟨_, hx, _⟩ := h.counts k' j hk'
    exact ⟨hk', lt_of_get hx⟩
  constructor
  case counts =>
    intro k' j hk'
    rw [held_snoc]
    by_cases hne : k' = k
    · subst hne
      rw [lookup_insert] at hk'
      cases hk'
      refine ⟨b, get_snoc_new, ?_⟩
      have hzero := h.held_eq_zero hk
      simp [hzero, hcount]
    · obtain ⟨x, hx, hheld⟩ := h.counts k' j (hold hne hk').1
      refine ⟨x, get_snoc_old hx, ?_⟩
      have hne' : k ≠ k' := fun heq => hne heq.symm
      simpa [hne'] using hheld
  case found =>
    refine forall_mem_snoc (fun r hin hlive => ?_) (fun _ => lookup_insert _)
    have hfound := h.found r hin hlive
    have hne : r.key ≠ k := by
      intro heq
      rw [heq, hk] at hfound
      cases hfound
    rw [lookup_insert_ne hne]
    exact hfound
  case apart =>
    have hnew {k' : κ} (hk' : (table.insert k rows.length).lookup k' = some rows.length) : k' = k := by
      by_contra hne
      exact Nat.lt_irrefl _ (hold hne hk').2
    intro k₁ k₂ j h₁ h₂
    by_cases hk₁ : k₁ = k
    · rw [hk₁, lookup_insert] at h₁
      cases h₁
      exact hk₁.trans (hnew h₂).symm
    by_cases hk₂ : k₂ = k
    · rw [hk₂, lookup_insert] at h₂
      cases h₂
      exact absurd (hnew h₁) hk₁
    · exact h.apart k₁ k₂ j (hold hk₁ h₁).1 (hold hk₂ h₂).1

/-- **A live reference is dropped.** -/
theorem Exact.drop {j : Nat} {r : Ref κ} (hj : refs[j]? = some r) (hlive : r.live)
    (hi : rows[r.row]? = some a) (hcount : count b = count a - 1) :
    Exact count table (rows.set r.row b) (refs.set j { r with live := false }) := by
  have hr : table.lookup r.key = some r.row := h.found r (mem_of_getElem? hj) hlive
  obtain ⟨_, hx, hheld⟩ := h.counts r.key r.row hr
  obtain rfl := mem_unique hi hx
  have hdrop (k' : κ) := held_drop hj hlive k'
  refine h.update hr hi ?_ (fun k' hne => ?_) (forall_mem_set h.found nofun)
  · have hone := hdrop r.key
    rw [if_pos rfl] at hone
    omega
  · have hnone := hdrop k'
    rwa [if_neg hne.symm] at hnone

/-- **Entries leave the table** when their counter is zero. -/
theorem Exact.evict {table' : GoMap κ Nat} (hsub : ∀ k i, table'.lookup k = some i → table.lookup k = some i)
    (hidle : ∀ k i a, table.lookup k = some i → table'.lookup k = none → rows[i]? = some a → count a = 0) :
    Exact count table' rows refs := by
  refine ⟨fun k i hk => h.counts k i (hsub k i hk), fun r hr hlive => ?_,
    fun k k' i hk hk' => h.apart k k' i (hsub k i hk) (hsub k' i hk')⟩
  have hfound := h.found r hr hlive
  cases hk : table'.lookup r.key with
  | some => rw [← hfound, hsub _ _ hk]
  | none =>
    -- the reference itself is counted, so its entry was not idle
    obtain ⟨a, ha, _⟩ := h.counts _ _ hfound
    have hzero := hidle _ _ a hfound hk ha
    have hpos : 0 < held r.key refs := by
      apply countP_pos_iff.mpr
      exact ⟨r, hr, by simp [hlive]⟩
    omega

end RefCount
