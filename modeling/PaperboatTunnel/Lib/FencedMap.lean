import Mathlib.Data.List.AList

/-!
# `FencedMap` — one holder per key, removed by exact match only

A map from keys to tokens in which every token knows its own key. `claim` makes a token the holder of its key,
displacing whoever held it; `release` removes a token only if it *is* the holder. So a displaced token can neither
remove its successor nor come back, unless it is claimed again.
-/

namespace Fencing

open AList

variable {K T : Type} [DecidableEq K]

/-- A map from keys to tokens, each filed under its own key. -/
structure FencedMap (key : T → K) where
  entries : AList (fun _ : K => T)
  keyed : ∀ {k t}, entries.lookup k = some t → key t = k

namespace FencedMap

variable {key : T → K} {m : FencedMap key} {k : K}

def empty : FencedMap key := ⟨∅, fun h => by simp at h⟩

def holder (m : FencedMap key) (k : K) : Option T := m.entries.lookup k

def claim (m : FencedMap key) (t : T) : FencedMap key where
  entries := m.entries.insert (key t) t
  keyed := by
    intro k u h
    by_cases hk : k = key t
    · subst hk
      rw [AList.lookup_insert] at h
      rw [← Option.some.inj h]
    · rw [AList.lookup_insert_ne hk] at h
      exact m.keyed h

def release [DecidableEq T] (m : FencedMap key) (t : T) : FencedMap key :=
  if m.holder (key t) = some t then
    { entries := m.entries.erase (key t)
      keyed := by
        intro k u h
        by_cases hk : k = key t
        · subst hk; simp at h
        · rw [AList.lookup_erase_ne hk] at h
          exact m.keyed h }
  else m

theorem key_of_holder {t : T} (h : m.holder k = some t) : key t = k := m.keyed h

theorem holder_claim (m : FencedMap key) (t : T) (k : K) :
    (m.claim t).holder k = if k = key t then some t else m.holder k := by
  unfold holder claim
  by_cases hk : k = key t
  · subst hk; rw [if_pos rfl, lookup_insert]
  · rw [if_neg hk, lookup_insert_ne hk]

section Release

variable [DecidableEq T]

/-- After a release, exactly the released token has stopped holding. -/
theorem holder_release (m : FencedMap key) (t : T) (k : K) :
    (m.release t).holder k = if m.holder k = some t then none else m.holder k := by
  unfold release
  by_cases hheld : m.holder (key t) = some t
  · rw [if_pos hheld]
    by_cases hk : k = key t
    · subst hk
      rw [if_pos hheld]
      exact lookup_erase _ _
    · have hne : m.holder k ≠ some t := fun h => hk (key_of_holder h).symm
      rw [if_neg hne]
      exact lookup_erase_ne hk
  · rw [if_neg hheld]
    have hne : m.holder k ≠ some t := by
      intro h
      rw [key_of_holder h] at hheld
      exact hheld h
    rw [if_neg hne]

/-- **A stale release is harmless**: it never removes another token. -/
theorem holder_release_of_ne {t u : T} (h : m.holder k = some u) (hne : u ≠ t) : (m.release t).holder k = some u := by
  rw [holder_release, if_neg (fun hc => hne (Option.some.inj (h.symm.trans hc)))]
  exact h

theorem holder_of_release {t u : T} (h : (m.release t).holder k = some u) : m.holder k = some u := by
  rw [holder_release] at h
  split at h
  · exact absurd h (by simp)
  · exact h

end Release

theorem holder_of_claim {t u : T} (h : (m.claim t).holder k = some u) (hne : u ≠ t) : m.holder k = some u := by
  rw [holder_claim] at h
  split at h
  · exact absurd (Option.some.inj h).symm hne
  · exact h

end FencedMap

end Fencing
