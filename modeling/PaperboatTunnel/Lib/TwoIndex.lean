import PaperboatTunnel.Lib.GoMap

/-!
# `TwoIndex` — two indexes over the same entries

Entries that are found under either of two keys. The two maps are `Coherent` when each entry is filed under its own
keys and stands in both; inserting an entry whose keys are new and erasing an entry from both keep that.
-/

namespace TwoIndex

open GoMap Option

variable {κ κ' ε : Type} [DecidableEq κ] [DecidableEq κ']

structure Coherent (left : ε → κ) (right : ε → κ') (m : GoMap κ ε) (m' : GoMap κ' ε) : Prop where
  left_key : ∀ k e, m.lookup k = some e → left e = k
  right_key : ∀ k e, m'.lookup k = some e → right e = k
  same : ∀ e, m.lookup (left e) = some e ↔ m'.lookup (right e) = some e

variable {left : ε → κ} {right : ε → κ'} {m : GoMap κ ε} {m' : GoMap κ' ε} {k : κ} {e : ε}

theorem Coherent.empty : Coherent left right (∅ : GoMap κ ε) (∅ : GoMap κ' ε) where
  left_key _ _ h := by simp at h
  right_key _ _ h := by simp at h
  same _ := by simp

variable (h : Coherent left right m m')

include h

/-- **An entry with two new keys** goes into both indexes. -/
theorem Coherent.insert (hleft : m.lookup (left e) = none) (hright : m'.lookup (right e) = none) :
    Coherent left right (m.insert (left e) e) (m'.insert (right e) e) where
  left_key := forall_insert h.left_key rfl
  right_key := forall_insert h.right_key rfl
  same x := by
    rw [lookup_insert_eq, lookup_insert_eq]
    by_cases hx : x = e
    · rw [hx, if_pos rfl, if_pos rfl]
    -- another entry with one of the two keys would have been found before
    have hne : some e ≠ some x := fun heq => hx (some.inj heq).symm
    have hl : left x = left e → m.lookup (left x) ≠ some x := by
      intro heq hin
      rw [heq, hleft] at hin
      cases hin
    have hr : right x = right e → m'.lookup (right x) ≠ some x := by
      intro heq hin
      rw [heq, hright] at hin
      cases hin
    split <;> split <;> simp_all [h.same x]

/-- **An entry taken out of one index** is taken out of the other under its other key. -/
theorem Coherent.erase (he : m.lookup k = some e) : Coherent left right (m.erase k) (m'.erase (right e)) where
  left_key k' x hx := h.left_key k' x (lookup_of_erase hx).2
  right_key k' x hx := h.right_key k' x (lookup_of_erase hx).2
  same x := by
    have hk : left e = k := h.left_key k e he
    rw [lookup_erase_eq, lookup_erase_eq]
    by_cases hx : x = e
    · rw [hx, if_pos hk, if_pos rfl]
    -- the keys of another entry are not those of the erased one
    have hl : m.lookup (left x) = some x → left x ≠ k := by
      intro hin heq
      rw [heq, he] at hin
      exact hx (some.inj hin).symm
    have hr : m'.lookup (right x) = some x → right x ≠ right e := by
      intro hin heq
      rw [heq, (h.same e).mp (hk ▸ he)] at hin
      exact hx (some.inj hin).symm
    have hsame := h.same x
    split <;> split <;> simp_all

/-- The second index is determined by the first one. -/
theorem Coherent.right_congr {n : GoMap κ ε} {n' : GoMap κ' ε} (hn : Coherent left right n n')
    (heq : ∀ k, m.lookup k = n.lookup k) (k : κ') : m'.lookup k = n'.lookup k := by
  apply ext
  intro e
  constructor
  · intro he
    obtain rfl := h.right_key k e he
    exact (hn.same e).mp (heq (left e) ▸ (h.same e).mpr he)
  · intro he
    obtain rfl := hn.right_key k e he
    exact (h.same e).mp (heq (left e) ▸ (hn.same e).mpr he)

/-- **Coherent indexes have the same entries.** -/
theorem Coherent.values_perm : m.values.Perm m'.values := by
  refine (List.perm_ext_iff_of_nodup (nodup_values h.left_key) (nodup_values h.right_key)).mpr ?_
  intro e
  rw [mem_values_iff, mem_values_iff]
  constructor
  · rintro ⟨k, hk⟩
    exact ⟨right e, (h.same e).mp (h.left_key k e hk ▸ hk)⟩
  · rintro ⟨k, hk⟩
    exact ⟨left e, (h.same e).mpr (h.right_key k e hk ▸ hk)⟩

end TwoIndex
