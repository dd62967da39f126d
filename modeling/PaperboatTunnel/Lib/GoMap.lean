import Mathlib.Data.List.AList

/-!
# `GoMap` — Go's maps with one type of values

A Go map is an `AList`: its entries in some order, no key twice. Everything is stated by `lookup`, which does not
depend on the order; two maps with the same lookups have the same entries up to the order (`perm_of_lookup`).
-/

/-- `map[κ]ε`. -/
abbrev GoMap (κ ε : Type) : Type := AList (fun _ : κ => ε)

namespace GoMap

open List Option AList

variable {κ ε : Type} [DecidableEq κ] {m n : GoMap κ ε} {k k' : κ} {e : ε} {keep : κ → ε → Bool}

def values (m : GoMap κ ε) : List ε := m.entries.map Sigma.snd

theorem mem_entries_iff : (⟨k, e⟩ : Sigma (fun _ : κ => ε)) ∈ m.entries ↔ m.lookup k = some e :=
  mem_lookup_iff.symm

theorem mem_values_iff : e ∈ m.values ↔ ∃ k, m.lookup k = some e := by
  constructor
  · intro h
    obtain ⟨⟨k, _⟩, hin, rfl⟩ := mem_map.mp h
    exact ⟨k, mem_entries_iff.mp hin⟩
  · rintro ⟨k, h⟩
    exact mem_map.mpr ⟨⟨k, e⟩, mem_entries_iff.mpr h, rfl⟩

theorem lookup_insert_eq : (m.insert k e).lookup k' = if k' = k then some e else m.lookup k' := by
  split
  case isTrue h => rw [h, lookup_insert]
  case isFalse h => exact lookup_insert_ne h

theorem lookup_erase_eq : (m.erase k).lookup k' = if k' = k then none else m.lookup k' := by
  split
  case isTrue h => rw [h, lookup_erase]
  case isFalse h => exact lookup_erase_ne h

theorem lookup_of_erase (h : (m.erase k).lookup k' = some e) : k' ≠ k ∧ m.lookup k' = some e := by
  rw [lookup_erase_eq] at h
  exact ite_none_left_eq_some.mp h

/-- **What every entry has**, it has after an insertion of one that has it. -/
theorem forall_insert {P : κ → ε → Prop} (h : ∀ k e, m.lookup k = some e → P k e) (hk : P k e) :
    ∀ k' e', (m.insert k e).lookup k' = some e' → P k' e' := by
  intro k' e' he'
  rw [lookup_insert_eq] at he'
  split at he'
  case isTrue heq =>
    rw [heq, ← some.inj he']
    exact hk
  case isFalse => exact h k' e' he'

theorem length_insert (h : m.lookup k = none) : (m.insert k e).entries.length = m.entries.length + 1 := by
  rw [entries_insert_of_notMem (lookup_eq_none.mp h), length_cons]

theorem length_insert_le : (m.insert k e).entries.length ≤ m.entries.length + 1 :=
  Nat.succ_le_succ (kerase_sublist k m.entries).length_le

/-- **Maps with the same lookups** have the same entries, up to the order. -/
theorem perm_of_lookup (h : ∀ k, m.lookup k = n.lookup k) : m.entries.Perm n.entries :=
  lookup_ext m.nodupKeys n.nodupKeys (fun k e => by
    have hk : m.entries.dlookup k = n.entries.dlookup k := h k
    rw [hk])

theorem length_le_of_lookup (h : ∀ k e, m.lookup k = some e → n.lookup k = some e) :
    m.entries.length ≤ n.entries.length := by
  refine (subperm_of_subset m.nodupKeys.nodup ?_).length_le
  rintro ⟨k, e⟩ hk
  exact mem_entries_iff.mpr (h k e (mem_entries_iff.mp hk))

omit [DecidableEq κ] in
theorem length_le_of_keys {l : List κ} (h : ∀ k ∈ m, k ∈ l) : m.entries.length ≤ l.length := by
  have hkeys : m.keys.length = m.entries.length := length_map _
  rw [← hkeys]
  exact (subperm_of_subset m.nodupKeys (fun k hk => h k (mem_keys.mp hk))).length_le

/-- The values of a map are distinct when each tells its key. -/
theorem nodup_values {key : ε → κ} (h : ∀ k e, m.lookup k = some e → key e = k) : m.values.Nodup := by
  refine Nodup.map_on ?_ m.nodupKeys.nodup
  rintro ⟨k, e⟩ hk ⟨k', e'⟩ hk' heq
  obtain rfl : e = e' := heq
  rw [← h k e (mem_entries_iff.mp hk), ← h k' e (mem_entries_iff.mp hk')]

/-- The keys that the values tell are the keys of the map. -/
theorem map_values {key : ε → κ} (h : ∀ k e, m.lookup k = some e → key e = k) : m.values.map key = m.keys := by
  unfold values AList.keys List.keys
  rw [List.map_map]
  refine map_congr_left ?_
  rintro ⟨k, e⟩ hk
  exact h k e (mem_entries_iff.mp hk)

/-! ## Deleting in a loop -/

/-- The map after a loop over it that deletes the entries for which `keep` does not hold. -/
def filter (keep : κ → ε → Bool) (m : GoMap κ ε) : GoMap κ ε where
  entries := m.entries.filter (fun e => keep e.1 e.2)
  nodupKeys := m.nodupKeys.sublist List.filter_sublist

theorem lookup_filter : (m.filter keep).lookup k = (m.lookup k).filter (keep k) := by
  apply Option.ext
  intro e
  have hmem : (⟨k, e⟩ : Sigma (fun _ : κ => ε)) ∈ (m.filter keep).entries ↔
      (⟨k, e⟩ : Sigma (fun _ : κ => ε)) ∈ m.entries ∧ keep k e = true := mem_filter
  rw [← mem_entries_iff, hmem, mem_entries_iff, filter_eq_some_iff]

omit [DecidableEq κ] in
theorem length_filter_le : (m.filter keep).entries.length ≤ m.entries.length := List.length_filter_le _ _

/-- The map after a loop over it that writes to every value. -/
def mapValues {ε' : Type} (f : ε → ε') (m : GoMap κ ε) : GoMap κ ε' where
  entries := m.entries.map (fun e => ⟨e.1, f e.2⟩)
  nodupKeys := by
    have hkeys : (m.entries.map (fun e => (⟨e.1, f e.2⟩ : Sigma (fun _ : κ => ε')))).keys = m.entries.keys := by
      simp [List.keys]
    unfold List.NodupKeys
    rw [hkeys]
    exact m.nodupKeys

theorem lookup_mapValues {ε' : Type} {f : ε → ε'} : (m.mapValues f).lookup k = (m.lookup k).map f := by
  apply Option.ext
  intro e
  rw [← mem_entries_iff, map_eq_some_iff]
  constructor
  · intro hmem
    obtain ⟨⟨_, e'⟩, hin, heq⟩ := mem_map.mp hmem
    obtain ⟨rfl, hval⟩ := Sigma.mk.inj heq
    exact ⟨e', mem_entries_iff.mp hin, eq_of_heq hval⟩
  · rintro ⟨e', hlookup, rfl⟩
    exact mem_map.mpr ⟨⟨k, e'⟩, mem_entries_iff.mpr hlookup, rfl⟩

/-! ## Maps built from lists -/

variable {α : Type} {key : α → κ} {value : α → ε} {l : List α} {a : α}

/-- The map has the value of each element under its key, and nothing else. -/
def Collects (key : α → κ) (value : α → ε) (l : List α) (m : GoMap κ ε) : Prop :=
  ∀ k e, m.lookup k = some e ↔ ∃ a ∈ l, key a = k ∧ value a = e

theorem Collects.nil : Collects key value [] (∅ : GoMap κ ε) := by
  intro k e
  simp

theorem Collects.lookup_eq_none (h : Collects key value l m) (hnew : ∀ b ∈ l, key b ≠ k) : m.lookup k = none := by
  by_contra hsome
  obtain ⟨e, he⟩ := ne_none_iff_exists'.mp hsome
  obtain ⟨b, hb, hkey, _⟩ := (h k e).mp he
  exact hnew b hb hkey

/-- **One more element**, with a new key. -/
theorem Collects.snoc (h : Collects key value l m) (hnew : ∀ b ∈ l, key b ≠ key a) :
    Collects key value (l ++ [a]) (m.insert (key a) (value a)) := by
  intro k e
  simp only [lookup_insert_eq, mem_append, mem_singleton]
  split
  case isTrue hk =>
    subst hk
    constructor
    · intro heq
      exact ⟨a, .inr rfl, rfl, some.inj heq⟩
    · rintro ⟨b, hb | rfl, hkey, hvalue⟩
      · exact absurd hkey (hnew b hb)
      · rw [hvalue]
  case isFalse hk =>
    rw [h]
    constructor
    · rintro ⟨b, hb, hrest⟩
      exact ⟨b, .inl hb, hrest⟩
    · rintro ⟨b, hb | rfl, hkey, hvalue⟩
      · exact ⟨b, hb, hkey, hvalue⟩
      · exact absurd hkey.symm hk

/-- A map collected from the entries of a collected map is one of the list. -/
theorem Collects.trans {κ' ε' : Type} [DecidableEq κ'] {n : GoMap κ' ε'} {f : κ → κ'} {g : κ → ε → ε'}
    {entries : List (Sigma (fun _ : κ => ε))} (h : Collects key value l m) (hperm : entries.Perm m.entries)
    (hn : Collects (fun e => f e.1) (fun e => g e.1 e.2) entries n) :
    Collects (fun a => f (key a)) (fun a => g (key a) (value a)) l n := by
  intro k e
  rw [hn]
  constructor
  · rintro ⟨⟨k', e'⟩, hin, hk, he⟩
    obtain ⟨a, ha, rfl, rfl⟩ := (h k' e').mp (mem_entries_iff.mp (hperm.mem_iff.mp hin))
    exact ⟨a, ha, hk, he⟩
  · rintro ⟨a, ha, hk, he⟩
    have hin := mem_entries_iff.mpr ((h _ _).mpr ⟨a, ha, rfl, rfl⟩)
    exact ⟨⟨key a, value a⟩, hperm.mem_iff.mpr hin, hk, he⟩

end GoMap
