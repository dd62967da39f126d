import Mathlib.Data.List.Nodup

/-!
# `Table` — tables of numbered rows

Objects on a heap, and calls in progress, are rows of a table: a row gets the next free number when it is made,
it can change, and it is never removed. This module reads rows after such a change, counts them, and keeps a set of
keys that rows reserve (`Keyed`).
-/

namespace Table

open List Option

variable {α : Type}

/-! ## Reading -/

variable {a row b : α} {i k : Nat} {table : List α} {β : Type} {p : α → Bool}

theorem get_set (h : (table.set i a)[k]? = some row) : (k = i ∧ row = a) ∨ (k ≠ i ∧ table[k]? = some row) := by
  by_cases hk : i = k
  · left
    rw [hk, getElem?_set_self'] at h
    obtain ⟨_, _, rfl⟩ := map_eq_some_iff.mp h
    exact ⟨hk.symm, rfl⟩
  · right
    rw [getElem?_set_ne hk] at h
    exact ⟨fun heq => hk heq.symm, h⟩

theorem get_set_self (h : table[i]? = some a) : (table.set i b)[i]? = some b := by
  rw [getElem?_set_self', h]
  rfl

theorem get_set_ne (h : k ≠ i) : (table.set i a)[k]? = table[k]? := getElem?_set_ne (fun heq => h heq.symm)

variable {f : α → β} {P : Nat → α → Prop}

/-- **A row splits the table**; to set or to erase it keeps both parts. -/
theorem split_at (h : table[i]? = some a) :
    ∃ front back, table = front ++ a :: back ∧ (∀ b, table.set i b = front ++ b :: back)
      ∧ table.eraseIdx i = front ++ back := by
  obtain ⟨hlt, rfl⟩ := List.getElem?_eq_some_iff.mp h
  refine ⟨table.take i, table.drop (i + 1), ?_, fun b => ?_, eraseIdx_eq_take_drop_succ ..⟩
  · rw [getElem_cons_drop, take_append_drop]
  · rw [set_eq_take_append_cons_drop, if_pos hlt]

theorem map_set_of_eq (h : table[i]? = some a) (hf : f b = f a) : (table.set i b).map f = table.map f := by
  obtain ⟨front, back, heq, hset, _⟩ := split_at h
  rw [hset, heq, map_append, map_append, map_cons, map_cons, hf]

/-- What is read of the core of each row. -/
theorem map_eq_of_core {core : α → α} {table' : List α} (h : table'.map core = table.map core)
    (hf : ∀ a, f (core a) = f a) : table'.map f = table.map f := by
  have hcore (l : List α) : l.map f = (l.map core).map f := by simp [Function.comp_def, hf]
  rw [hcore, h, ← hcore]

/-- Tables that read alike have their rows in the same places. -/
theorem get_of_map_eq {table' : List α} (h : table'.map f = table.map f) (ha : table[i]? = some a) :
    ∃ b, table'[i]? = some b ∧ f b = f a := by
  have hrow : (table'.map f)[i]? = (table.map f)[i]? := by rw [h]
  rw [getElem?_map, getElem?_map, ha, map_some] at hrow
  exact map_eq_some_iff.mp hrow

/-- **A row is found by its key**, when no two rows have one key. -/
theorem find_iff {κ : Type} [DecidableEq κ] {key : α → κ} {x : κ} (h : (table.map key).Nodup) :
    table.find? (fun row => key row == x) = some a ↔ a ∈ table ∧ key a = x := by
  constructor
  · intro hfind
    exact ⟨mem_of_find?_eq_some hfind, by simpa using find?_some hfind⟩
  rintro ⟨ha, rfl⟩
  cases hfind : table.find? (fun row => key row == key a) with
  | none => simpa using find?_eq_none.mp hfind a ha
  | some b =>
    have hkey : key b = key a := by simpa using find?_some hfind
    rw [inj_on_of_nodup_map h (mem_of_find?_eq_some hfind) ha hkey]

theorem get_snoc (h : (table ++ [a])[k]? = some row) : table[k]? = some row ∨ (k = table.length ∧ row = a) := by
  rcases Nat.lt_trichotomy k table.length with hlt | heq | hgt
  · left
    rw [getElem?_append_left hlt] at h
    exact h
  · right
    rw [heq, getElem?_concat_length] at h
    exact ⟨heq, (some.inj h).symm⟩
  · rw [getElem?_eq_none (by simp; omega)] at h
    cases h

theorem mem_snoc (h : row ∈ table ++ [a]) : row ∈ table ∨ row = a :=
  (mem_append.mp h).imp_right mem_singleton.mp

theorem forall_mem_snoc {P : α → Prop} (h : ∀ row ∈ table, P row) (ha : P a) : ∀ row ∈ table ++ [a], P row :=
  forall_mem_append.mpr ⟨h, forall_mem_singleton.mpr ha⟩

theorem forall_mem_set {P : α → Prop} (h : ∀ row ∈ table, P row) (ha : P a) : ∀ row ∈ table.set i a, P row := by
  intro row hrow
  rcases mem_or_eq_of_mem_set hrow with hold | rfl
  · exact h row hold
  · exact ha

theorem nodup_map_snoc (h : (table.map f).Nodup) (hnew : ∀ row ∈ table, f row ≠ f a) :
    ((table ++ [a]).map f).Nodup := by
  rw [map_append, nodup_append]
  refine ⟨h, pairwise_singleton .., fun k hk k' hk' => ?_⟩
  obtain ⟨row, hrow, rfl⟩ := mem_map.mp hk
  rw [mem_singleton.mp hk']
  exact hnew row hrow

theorem get_snoc_old (h : table[k]? = some row) : (table ++ [a])[k]? = some row := by
  obtain ⟨hlt, _⟩ := List.getElem?_eq_some_iff.mp h
  rw [getElem?_append_left hlt]
  exact h

theorem get_snoc_new : (table ++ [a])[table.length]? = some a := getElem?_concat_length

/-- **What every row has**, it has after a row was replaced by one that has it. -/
theorem forall_set (h : ∀ k row, table[k]? = some row → P k row) (ha : P i a) :
    ∀ k row, (table.set i a)[k]? = some row → P k row := by
  intro k row hrow
  rcases get_set hrow with ⟨rfl, rfl⟩ | ⟨_, hold⟩
  · exact ha
  · exact h k row hold

/-- **What every row has**, it has after a row was added that has it. -/
theorem forall_snoc (h : ∀ k row, table[k]? = some row → P k row) (ha : P table.length a) :
    ∀ k row, (table ++ [a])[k]? = some row → P k row := by
  intro k row hrow
  rcases get_snoc hrow with hold | ⟨rfl, rfl⟩
  · exact h k row hold
  · exact ha

theorem lt_of_get (h : table[k]? = some row) : k < table.length := (List.getElem?_eq_some_iff.mp h).1

/-! ## Counting -/

/-- **Replacing a row** takes the old one out of the count and puts the new one in. -/
theorem countP_set (h : table[i]? = some a) :
    (table.set i b).countP p + (if p a then 1 else 0) = table.countP p + (if p b then 1 else 0) := by
  obtain ⟨front, back, heq, hset, _⟩ := split_at h
  rw [hset, heq, countP_append, countP_append, countP_cons, countP_cons]
  omega

theorem countP_set_of_eq (h : table[i]? = some a) (hp : p b = p a) : (table.set i b).countP p = table.countP p := by
  have hcount := countP_set (p := p) (b := b) h
  rw [hp] at hcount
  omega

theorem countP_snoc : (table ++ [a]).countP p = table.countP p + (if p a then 1 else 0) := by
  rw [countP_append, countP_singleton]

/-! ## Reserved keys -/

/-- The keys are those that rows have reserved, and no two rows reserve the same one. -/
structure Keyed {κ : Type} (key : α → Option κ) (table : List α) (keys : List κ) : Prop where
  perm : keys.Perm (table.filterMap key)
  nodup : keys.Nodup

variable {κ : Type} {key : α → Option κ} {keys : List κ} {x : κ}

theorem Keyed.nil : Keyed key [] [] := ⟨.nil, nodup_nil⟩

variable (h : Keyed key table keys)

include h

theorem Keyed.reserved : x ∈ keys ↔ ∃ (i : Nat) (row : α), table[i]? = some row ∧ key row = some x := by
  rw [h.perm.mem_iff, mem_filterMap, exists_comm]
  simp only [mem_iff_getElem?, exists_and_right]

theorem Keyed.unique (hi : table[i]? = some a) (hk : table[k]? = some b) (ha : key a = some x) (hb : key b = some x) :
    i = k := by
  have hapart : (table.filterMap key).Nodup := h.perm.nodup_iff.mp h.nodup
  rw [Nodup, pairwise_filterMap, pairwise_iff_getElem] at hapart
  obtain ⟨hilt, rfl⟩ := List.getElem?_eq_some_iff.mp hi
  obtain ⟨hklt, rfl⟩ := List.getElem?_eq_some_iff.mp hk
  rcases Nat.lt_trichotomy i k with hlt | heq | hgt
  · exact absurd rfl (hapart i k hilt hklt hlt x ha x hb)
  · exact heq
  · exact absurd rfl (hapart k i hklt hilt hgt x hb x ha)

theorem Keyed.set (hi : table[i]? = some a) (hkey : key b = key a) : Keyed key (table.set i b) keys := by
  obtain ⟨front, back, heq, hset, _⟩ := split_at hi
  refine ⟨?_, h.nodup⟩
  rw [hset, filterMap_append, filterMap_cons, hkey, ← filterMap_cons, ← filterMap_append, ← heq]
  exact h.perm

theorem Keyed.snoc_none (ha : key a = none) : Keyed key (table ++ [a]) keys :=
  ⟨by simpa [ha] using h.perm, h.nodup⟩

/-- **A new row with a key that is free.** -/
theorem Keyed.snoc (ha : key a = some x) (hfree : x ∉ keys) : Keyed key (table ++ [a]) (keys ++ [x]) := by
  refine ⟨by simpa [ha] using h.perm.append_right [x], ?_⟩
  rw [← concat_eq_append]
  exact h.nodup.concat hfree

/-- **A row gives its key up.** -/
theorem Keyed.drop [DecidableEq κ] (hi : table[i]? = some a) (ha : key a = some x) (hb : key b = none) :
    Keyed key (table.set i b) (keys.filter (· != x)) := by
  obtain ⟨front, back, rfl, hset, _⟩ := split_at hi
  have hperm : keys.Perm (x :: (front.filterMap key ++ back.filterMap key)) := by
    have hkeys := h.perm
    rw [filterMap_append, filterMap_cons, ha] at hkeys
    exact hkeys.trans perm_middle
  have hgone : x ∉ front.filterMap key ++ back.filterMap key := (nodup_cons.mp (hperm.nodup_iff.mp h.nodup)).1
  refine ⟨?_, h.nodup.filter _⟩
  rw [hset, filterMap_append, filterMap_cons, hb]
  -- only the first key is the one that is given up
  refine (hperm.filter _).trans ?_
  rw [filter_cons_of_neg (by simp), filter_eq_self.mpr]
  exact fun y hy => bne_iff_ne.mpr (ne_of_mem_of_not_mem hy hgone)

end Table
