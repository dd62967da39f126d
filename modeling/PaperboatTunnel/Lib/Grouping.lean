import Mathlib.Data.List.Dedup
import Mathlib.Data.List.Perm.Basic

/-!
# `Grouping` — a list cut into groups by a key
-/

namespace Grouping

open List

variable {α κ : Type} [DecidableEq κ] {key : α → κ}

/-- **The groups of a list together are the list**, if each key is taken once. By induction over the keys: the
    group of the first key is split off, and the other groups do not see it. -/
theorem flatMap_filter_perm : ∀ {keys : List κ} {l : List α}, keys.Nodup → (∀ a ∈ l, key a ∈ keys) →
    (keys.flatMap (fun k => l.filter (fun a => key a == k))).Perm l
  | [], l, _, hkeys => by
      have hnil : l = [] := eq_nil_iff_forall_not_mem.mpr (fun a ha => by cases hkeys a ha)
      rw [hnil]
      exact Perm.refl _
  | k :: keys, l, hnodup, hkeys => by
      obtain ⟨hk, hnodup⟩ := nodup_cons.mp hnodup
      have hrest : (keys.flatMap (fun k' => (l.filter (fun a => !(key a == k))).filter
          (fun a => key a == k'))).Perm (l.filter (fun a => !(key a == k))) := by
        refine flatMap_filter_perm hnodup (fun a ha => ?_)
        obtain ⟨hal, hne⟩ := mem_filter.mp ha
        rcases mem_cons.mp (hkeys a hal) with heq | hin
        · simp [heq] at hne
        · exact hin
      have hsame : keys.flatMap (fun k' => (l.filter (fun a => !(key a == k))).filter (fun a => key a == k'))
          = keys.flatMap (fun k' => l.filter (fun a => key a == k')) := by
        refine flatMap_congr (fun k' hk' => ?_)
        rw [filter_filter]
        refine filter_congr (fun a _ => ?_)
        by_cases hak : key a = k'
        · have hne : k' ≠ k := fun heq => hk (heq ▸ hk')
          simp [hak, hne]
        · simp [hak]
      rw [hsame] at hrest
      rw [flatMap_cons]
      exact (hrest.append_left _).trans (filter_append_perm _ l)

end Grouping
