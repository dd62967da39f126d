import Mathlib.Data.List.Induction
import PaperboatTunnel.Lib.GoMap
import PaperboatTunnel.Lib.Table

/-!
# `Heap` — a map of pointers to the live rows of a heap

Rows are allocated on a heap and never move. A row is live as long as it has a key, and the map holds exactly the
pointers to the live rows, each under its key (`Indexed`). So what a loop over the map counts is what the heap has of
live rows (`Indexed.countP`), and two live rows with one key are the same row (`Indexed.unique`).
-/

namespace Heap

open List Option Table GoMap

variable {κ α : Type} [DecidableEq κ]

/-- **The map holds the pointers to the live rows.** -/
def Indexed (key : α → Option κ) (table : GoMap κ Nat) (rows : List α) : Prop :=
  ∀ k i, table.lookup k = some i ↔ ∃ a, rows[i]? = some a ∧ key a = some k

variable {key : α → Option κ} {table : GoMap κ Nat} {rows : List α} {k : κ} {i j : Nat} {a b : α}

theorem Indexed.empty : Indexed key (∅ : GoMap κ Nat) [] := by
  intro k i
  simp

variable (h : Indexed key table rows)

include h

theorem Indexed.lookup (hi : rows[i]? = some a) (ha : key a = some k) : table.lookup k = some i :=
  (h k i).mpr ⟨a, hi, ha⟩

theorem Indexed.row (hk : table.lookup k = some i) : ∃ a, rows[i]? = some a ∧ key a = some k := (h k i).mp hk

theorem Indexed.key_of_row (hk : table.lookup k = some i) (hi : rows[i]? = some a) : key a = some k := by
  obtain ⟨_, hb, hkey⟩ := h.row hk
  obtain rfl := mem_unique hi hb
  exact hkey

theorem Indexed.unique (hi : rows[i]? = some a) (hj : rows[j]? = some b) (ha : key a = some k) (hb : key b = some k) :
    i = j :=
  mem_unique (h.lookup hi ha) (h.lookup hj hb)

theorem Indexed.write (hi : rows[i]? = some a) (hkey : key b = key a) : Indexed key table (rows.set i b) := by
  intro k j
  rw [h k j]
  by_cases hj : j = i
  · subst hj
    rw [get_set_self hi, hi]
    simp [hkey]
  · rw [get_set_ne hj]

/-- **A row is allocated** under a key that is free. -/
theorem Indexed.insert (hfree : table.lookup k = none) (ha : key a = some k) :
    Indexed key (table.insert k rows.length) (rows ++ [a]) := by
  intro k' j
  rw [lookup_insert_eq]
  constructor
  · intro hk'
    split at hk'
    case isTrue heq =>
      cases hk'
      exact ⟨a, get_snoc_new, heq ▸ ha⟩
    case isFalse =>
      obtain ⟨b, hb, hkey⟩ := h.row hk'
      exact ⟨b, get_snoc_old hb, hkey⟩
  · rintro ⟨b, hb, hkey⟩
    rcases get_snoc hb with hold | ⟨hj, rfl⟩
    · have hlookup := h.lookup hold hkey
      have hne : k' ≠ k := by
        rintro rfl
        rw [hfree] at hlookup
        cases hlookup
      rw [if_neg hne]
      exact hlookup
    · obtain rfl := mem_unique ha hkey
      rw [if_pos rfl, hj]

/-- **A row dies** and leaves the map. -/
theorem Indexed.erase (hi : rows[i]? = some a) (ha : key a = some k) (hb : key b = none) :
    Indexed key (table.erase k) (rows.set i b) := by
  intro k' j
  rw [lookup_erase_eq]
  constructor
  · intro hk'
    split at hk'
    · cases hk'
    next hne =>
    obtain ⟨c, hc, hkey⟩ := h.row hk'
    have hji : j ≠ i := by
      rintro rfl
      obtain rfl := mem_unique hi hc
      exact hne (mem_unique hkey ha)
    exact ⟨c, (get_set_ne hji).trans hc, hkey⟩
  · rintro ⟨c, hc, hkey⟩
    rcases get_set hc with ⟨_, rfl⟩ | ⟨hji, hold⟩
    · rw [hb] at hkey
      cases hkey
    have hne : k' ≠ k := by
      rintro rfl
      exact hji (h.unique hold hi hkey ha)
    rw [if_neg hne]
    exact h.lookup hold hkey

/-! ## Counting the live rows -/

omit h in
theorem countP_range (p : α → Bool) (rows : List α) :
    (range rows.length).countP (fun i => (rows[i]?).any p) = rows.countP p := by
  induction rows using reverseRecOn with
  | nil => rfl
  | append_singleton rows a ih =>
    have hold : (range rows.length).countP (fun i => ((rows ++ [a])[i]?).any p)
        = (range rows.length).countP (fun i => (rows[i]?).any p) := by
      apply countP_congr
      intro i hi
      rw [getElem?_append_left (mem_range.mp hi)]
    rw [length_append, length_singleton, range_succ, countP_append, hold, ih, countP_append]
    simp

theorem Indexed.nodup_values : table.values.Nodup := by
  unfold values
  apply Nodup.map_on
  · rintro ⟨k, i⟩ hk ⟨k', j⟩ hk' heq
    obtain rfl : i = j := heq
    obtain ⟨_, ha, hkey⟩ := h.row (mem_entries_iff.mp hk)
    have hkey' := h.key_of_row (mem_entries_iff.mp hk') ha
    obtain rfl := mem_unique hkey hkey'
    rfl
  · exact NodupKeys.nodup table.nodupKeys

/-- **A loop over the map** counts the live rows. -/
theorem Indexed.countP (p : α → Bool) :
    table.values.countP (fun i => (rows[i]?).any p) = rows.countP (fun a => (key a).isSome && p a) := by
  have hperm : table.values.Perm
      ((range rows.length).filter (fun i => (rows[i]?).any (fun a => (key a).isSome))) := by
    apply (perm_ext_iff_of_nodup h.nodup_values (nodup_range.filter _)).mpr
    intro i
    rw [mem_values_iff, mem_filter, mem_range]
    constructor
    · rintro ⟨k, hk⟩
      obtain ⟨_, ha, hkey⟩ := h.row hk
      exact ⟨lt_of_get ha, by simp [ha, hkey]⟩
    · rintro ⟨hlt, hlive⟩
      obtain ⟨k, hk⟩ := isSome_iff_exists.mp (by simpa [getElem?_eq_getElem hlt] using hlive)
      exact ⟨k, h.lookup (getElem?_eq_getElem hlt) hk⟩
  rw [hperm.countP_eq, countP_filter, ← countP_range _ rows]
  apply countP_congr
  intro i _
  cases rows[i]? with
  | none => simp
  | some => simp [and_comm]

theorem Indexed.length : table.entries.length = rows.countP (fun a => (key a).isSome) := by
  have hall : table.values.countP (fun i => (rows[i]?).any (fun _ => true)) = table.values.length := by
    apply countP_eq_length.mpr
    intro i hi
    obtain ⟨_, hk⟩ := mem_values_iff.mp hi
    obtain ⟨_, ha, _⟩ := h.row hk
    simp [ha]
  have hcount := h.countP (fun _ => true)
  rw [hall] at hcount
  simpa [values] using hcount

end Heap
