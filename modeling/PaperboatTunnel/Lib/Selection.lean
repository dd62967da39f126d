import Mathlib.Data.Option.Basic

/-!
# `Selection` — one selected row for each slot

Rows of a table, some of which are selected for a slot, and a second table that says for each slot which row that is.
If the two agree (`Points`), a slot has at most one selected row. Rows and slots are given by their lookups.
-/

namespace Selection

open Option

variable {κ ι ε : Type} {slot : ε → Option ι} {rows rows' : κ → Option ε} {table table' : ι → Option κ}

/-- The table points from each slot to the row that is selected for it, and to nothing else. -/
def Points (slot : ε → Option ι) (rows : κ → Option ε) (table : ι → Option κ) : Prop :=
  ∀ i k, table i = some k ↔ (rows k).bind slot = some i

variable (h : Points slot rows table)

include h

theorem Points.row {i : ι} {k : κ} (hk : table i = some k) : ∃ e, rows k = some e ∧ slot e = some i :=
  bind_eq_some_iff.mp ((h i k).mp hk)

theorem Points.of_row {i : ι} {k : κ} {e : ε} (he : rows k = some e) (hslot : slot e = some i) : table i = some k :=
  (h i k).mpr (bind_eq_some_iff.mpr ⟨e, he, hslot⟩)

/-- Rows change, and none of them its slot. -/
theorem Points.congr (hsame : ∀ k, (rows' k).bind slot = (rows k).bind slot) : Points slot rows' table := by
  intro i k
  rw [hsame k]
  exact h i k

/-- **Some rows lose their slots**, and the table no longer points to them. -/
theorem Points.release (gone : κ → Prop) (hgone : ∀ k, gone k → (rows' k).bind slot = none)
    (hrest : ∀ k, ¬ gone k → (rows' k).bind slot = (rows k).bind slot)
    (htable : ∀ i k, table' i = some k ↔ table i = some k ∧ ¬ gone k) : Points slot rows' table' := by
  intro i k
  rw [htable, h i k]
  by_cases hk : gone k
  · rw [hgone k hk]
    simp [hk]
  · rw [hrest k hk]
    exact and_iff_left hk

/-- **A row is selected** that had no slot, in place of the row that had it. -/
theorem Points.select {k : κ} {i : ι} (hfree : (rows k).bind slot = none) (hnew : (rows' k).bind slot = some i)
    (hprev : ∀ k', k' ≠ k → table i = some k' → (rows' k').bind slot = none)
    (hrest : ∀ k', k' ≠ k → table i ≠ some k' → (rows' k').bind slot = (rows k').bind slot)
    (htable : table' i = some k) (htable' : ∀ i', i' ≠ i → table' i' = table i') : Points slot rows' table' := by
  intro i' k'
  by_cases hi : i' = i
  · subst hi
    rw [htable]
    by_cases hk : k' = k
    · simp [hk, hnew]
    -- no other row has the slot now
    have hnone : (rows' k').bind slot ≠ some i' := by
      by_cases hpoints : table i' = some k'
      · rw [hprev k' hk hpoints]
        nofun
      · rw [hrest k' hk hpoints]
        exact fun heq => hpoints ((h i' k').mpr heq)
    exact ⟨fun heq => absurd (some.inj heq).symm hk, hnone.elim⟩
  · rw [htable' i' hi, h i' k']
    by_cases hk : k' = k
    · subst hk
      rw [hnew, hfree]
      exact ⟨nofun, fun heq => absurd (some.inj heq).symm hi⟩
    by_cases hpoints : table i = some k'
    · rw [hprev k' hk hpoints, (h i k').mp hpoints]
      exact ⟨fun heq => absurd (some.inj heq).symm hi, nofun⟩
    · rw [hrest k' hk hpoints]

end Selection
