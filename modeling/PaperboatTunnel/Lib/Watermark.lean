import Mathlib.Data.List.Basic
import Mathlib.Order.Lattice

/-!
# `Watermark` — the largest value reported for a key

A receiver that keeps the largest absolute value per key (`mark`) does not care how often or in which order reports
come: the mark depends on which reports there are (`mark_congr`), and a report above all others is the mark
(`mark_eq_of_top`).
-/

namespace Watermark

open List Nat

variable {α κ : Type} [DecidableEq κ] {key : α → κ} {value : α → Nat} {k : κ} {l l' : List α} {n : Nat}

/-- The largest value of the elements with the key, and `0` without any. -/
def mark (key : α → κ) (value : α → Nat) (k : κ) : List α → Nat
  | [] => 0
  | a :: l => if key a = k then max (value a) (mark key value k l) else mark key value k l

theorem mark_le_iff : mark key value k l ≤ n ↔ ∀ a ∈ l, key a = k → value a ≤ n := by
  induction l with
  | nil => simp [mark]
  | cons a _ ih =>
    rw [forall_mem_cons, ← ih, mark]
    by_cases h : key a = k
    · rw [if_pos h, Nat.max_le, imp_iff_right h]
    · rw [if_neg h]
      exact ⟨fun hle => ⟨h.elim, hle⟩, And.right⟩

theorem le_mark {a : α} (ha : a ∈ l) (hkey : key a = k) : value a ≤ mark key value k l :=
  mark_le_iff.mp (le_refl _) a ha hkey

theorem exists_mark_eq (h : mark key value k l ≠ 0) : ∃ a ∈ l, key a = k ∧ value a = mark key value k l := by
  induction l with
  | nil => exact absurd rfl h
  | cons a l ih =>
    unfold mark at h ⊢
    split at h
    case isFalse hne =>
      obtain ⟨b, hb, hkey, hvalue⟩ := ih h
      rw [if_neg hne]
      exact ⟨b, mem_cons_of_mem _ hb, hkey, hvalue⟩
    case isTrue heq =>
      rw [if_pos heq]
      by_cases hle : mark key value k l ≤ value a
      · exact ⟨a, mem_cons_self, heq, (max_eq_left hle).symm⟩
      · have hlt : value a < mark key value k l := Nat.lt_of_not_le hle
        obtain ⟨b, hb, hkey, hvalue⟩ := ih (by omega)
        exact ⟨b, mem_cons_of_mem _ hb, hkey, hvalue.trans (max_eq_right (le_of_lt hlt)).symm⟩

theorem mark_mono (h : ∀ a ∈ l, key a = k → a ∈ l') : mark key value k l ≤ mark key value k l' :=
  mark_le_iff.mpr (fun a ha hkey => le_mark (h a ha hkey) hkey)

/-- **The mark depends on which elements there are** for the key. -/
theorem mark_congr (h : ∀ a, key a = k → (a ∈ l ↔ a ∈ l')) : mark key value k l = mark key value k l' :=
  le_antisymm (mark_mono (fun a ha hkey => (h a hkey).mp ha)) (mark_mono (fun a ha hkey => (h a hkey).mpr ha))

/-- **An element that no other exceeds** is the mark. -/
theorem mark_eq_of_top {a : α} (ha : a ∈ l) (hkey : key a = k) (htop : ∀ b ∈ l, key b = k → value b ≤ value a) :
    mark key value k l = value a :=
  le_antisymm (mark_le_iff.mpr htop) (le_mark ha hkey)

theorem mark_eq_zero (h : ∀ a ∈ l, key a ≠ k) : mark key value k l = 0 :=
  le_zero.mp (mark_le_iff.mpr (fun a ha hkey => absurd hkey (h a ha)))

end Watermark
