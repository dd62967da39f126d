import PaperboatTunnel.Lib.GoMap
import Mathlib.Algebra.Ring.Nat
import Mathlib.Data.List.Induction

/-!
# `Counters` — absolute byte counters

The counters of `internal/usage/counter.go`. The server knows a counter by node, epoch, environment, route and
direction; the route revision of a key is metadata of a report, and a counter goes on over all revisions. Totals are
saturated at the largest `uint64`.

`RestoreCounters` goes over a map, whose order makes no difference: it adds up and takes maxima.
-/

namespace PaperboatTunnel.Usage

open GoMap List Option UInt64 Nat

/-- The direction of a counter; a stored record may have another text. -/
inductive Direction where
  | ingress | egress | other (text : String)
deriving DecidableEq

structure Key where
  (node epoch environment route : String := "")
  direction : Direction := .other ""
  revision : UInt64 := 0
deriving DecidableEq

/-- The key without the revision. -/
def Key.counterIdentity (k : Key) : Key := { k with revision := 0 }

@[simp] theorem Key.counterIdentity_epoch (k : Key) : k.counterIdentity.epoch = k.epoch := rfl

/-- `RestoreCounters` skips the other keys. -/
def Key.complete (k : Key) : Bool := k.node != "" && k.epoch != "" && k.environment != "" && k.route != ""
    && (k.direction == .ingress || k.direction == .egress)

structure CounterRecord where
  key : Key := {}
  bytes : UInt64 := 0
deriving DecidableEq

structure Counters where
  values : GoMap Key CounterRecord := ∅
  restoredBaseline : GoMap Key UInt64 := ∅

def maxUint64 : UInt64 := 18446744073709551615

/-- `uint64` addition that stops at the largest value. -/
def addBytes (total bytes : UInt64) : UInt64 := if bytes > maxUint64 - total then maxUint64 else total + bytes

namespace Counters

variable (c : Counters)

/-- `update` with `add`; `Observe` and `Reconcile`, which call it without, are not used by the edge. -/
def add (k : Key) (bytes : UInt64) : Counters :=
  let identity := k.counterIdentity
  let record := (c.values.lookup identity).getD {}
  let key := if record.key.revision ≤ k.revision then k else record.key
  { c with values := c.values.insert identity { key, bytes := addBytes record.bytes bytes } }

def get (k : Key) : UInt64 := ((c.values.lookup k.counterIdentity).getD {}).bytes

def snapshot : List CounterRecord := c.values.values

/-- The largest value stored under each key. -/
def partitions (records : List CounterRecord) : GoMap Key UInt64 := records.foldl (fun partitions record =>
    if !record.key.complete then partitions
    else if record.bytes > (partitions.lookup record.key).getD 0 then partitions.insert record.key record.bytes
    else partitions) ∅

def restorePartition (key : Key) (bytes : UInt64) : Counters :=
  let added := c.add key bytes
  let identity := key.counterIdentity
  if bytes > (added.restoredBaseline.lookup identity).getD 0 then
    { added with restoredBaseline := added.restoredBaseline.insert identity bytes }
  else added

end Counters

def restoreCounters (records : List CounterRecord) : Counters :=
  (Counters.partitions records).entries.foldl (fun c partition => c.restorePartition partition.1 partition.2) {}

/-- What of a record counts as reported after a restart. -/
def Counters.baseline (c : Counters) (record : CounterRecord) : UInt64 :=
  (c.restoredBaseline.lookup record.key.counterIdentity).getD record.bytes

/-! ## Totals -/

@[simp] theorem toNat_maxUint64 : maxUint64.toNat = 2 ^ 64 - 1 := rfl

theorem toNat_addBytes (total bytes : UInt64) :
    (addBytes total bytes).toNat = min (total.toNat + bytes.toNat) (2 ^ 64 - 1) := by
  have htot : total.toNat < 2 ^ 64 := total.toNat_lt
  have hbytes : bytes.toNat < 2 ^ 64 := bytes.toNat_lt
  have hle : total ≤ maxUint64 := by
    rw [le_iff_toNat_le, toNat_maxUint64]
    omega
  have hroom : (maxUint64 - total).toNat = 2 ^ 64 - 1 - total.toNat := by
    rw [UInt64.toNat_sub_of_le _ _ hle, toNat_maxUint64]
  unfold addBytes
  split
  case isTrue h =>
    rw [gt_iff_lt, lt_iff_toNat_lt, hroom] at h
    rw [toNat_maxUint64]
    omega
  case isFalse h =>
    rw [gt_iff_lt, lt_iff_toNat_lt, hroom] at h
    rw [UInt64.toNat_add, Nat.mod_eq_of_lt (by omega)]
    omega

@[simp] theorem zero_addBytes (bytes : UInt64) : addBytes 0 bytes = bytes := by
  apply UInt64.toNat_inj.mp
  have hbytes : bytes.toNat < 2 ^ 64 := bytes.toNat_lt
  rw [toNat_addBytes, UInt64.toNat_zero]
  omega

variable {recs : List CounterRecord} {parts : List (Sigma (fun _ : Key => UInt64))}

namespace Counters

variable {c : Counters} {k id : Key} {bytes : UInt64} {rcd : CounterRecord}

/-- Each record stands under the identity of its key, and its key is complete. -/
def Keyed (c : Counters) : Prop :=
  ∀ id record, c.values.lookup id = some record → record.key.counterIdentity = id ∧ record.key.complete = true

theorem get_add (c : Counters) (k id : Key) (bytes : UInt64) : (c.add k bytes).get id =
      if id.counterIdentity = k.counterIdentity then addBytes (c.get k) bytes else c.get id := by
  simp only [get, add, lookup_insert_eq]
  split <;> rfl

/-- The key of a record after `Add` is the one of the call, or that of the record. -/
theorem forall_add {P : Key → Key → Prop} (h : ∀ id rcd, c.values.lookup id = some rcd → P id rcd.key)
    (hk : P k.counterIdentity k) (id : Key) (rcd : CounterRecord)
    (hrec : (c.add k bytes).values.lookup id = some rcd) : P id rcd.key := by
  refine forall_insert (P := fun id rcd => P id rcd.key) h ?_ id rcd hrec
  -- a revision above the new one can only be that of a record that was there
  split
  · exact hk
  next hrev =>
  cases hold : c.values.lookup k.counterIdentity with
  | none =>
    rw [hold] at hrev
    exact absurd (le_iff_toNat_le.mpr (zero_le _)) hrev
  | some old => exact h _ old hold

theorem Keyed.add (h : c.Keyed) (hk : k.complete) (bytes : UInt64) : (c.add k bytes).Keyed :=
  forall_add (P := fun id key => key.counterIdentity = id ∧ key.complete = true) h ⟨rfl, hk⟩

/-! ### Restoring -/

variable (records : List CounterRecord)

/-- The records of a store: complete keys, and one record for each counter. -/
structure Storable : Prop where
  distinct : (records.map (fun record => record.key.counterIdentity)).Nodup
  complete : ∀ record ∈ records, record.key.complete = true

/-- Each record stands under the identity of its key. -/
def Named (c : Counters) : Prop := ∀ id record, c.values.lookup id = some record → record.key.counterIdentity = id

theorem Keyed.named (h : c.Keyed) : c.Named := fun id rcd hrec => (h id rcd hrec).1

theorem Named.mem (h : c.Named) : rcd ∈ c.snapshot ↔ c.values.lookup rcd.key.counterIdentity = some rcd := by
  refine mem_values_iff.trans ⟨?_, fun hrec => ⟨_, hrec⟩⟩
  rintro ⟨id, hid⟩
  rw [h id rcd hid]
  exact hid

theorem Keyed.storable (h : c.Keyed) : Storable c.snapshot where
  distinct := by
    show (c.values.values.map (fun rcd => rcd.key.counterIdentity)).Nodup
    rw [map_values (fun id rcd hrec => (h id rcd hrec).1)]
    exact AList.keys_nodup _
  complete rcd hrec := (h _ rcd (h.named.mem.mp hrec)).2

/-- Records of one counter are the same record, which may come several times. -/
def Consistent : Prop :=
  ∀ r ∈ records, ∀ r' ∈ records, r.key.counterIdentity = r'.key.counterIdentity → r = r'

theorem Storable.consistent (h : Storable recs) : Consistent recs :=
  fun _ hr _ hr' heq => inj_on_of_nodup_map h.distinct hr hr' heq

/-- The records with some bytes, which are those that are restored. -/
def counted : List CounterRecord := records.filter (fun record => 0 < record.bytes)

/-- Those of them that have a complete key. -/
def restorable : List CounterRecord :=
  counted (records.filter (fun record => record.key.complete))

theorem mem_restorable : rcd ∈ restorable recs ↔ rcd ∈ recs ∧ rcd.key.complete = true ∧ 0 < rcd.bytes := by
  simp [restorable, counted, and_comm]

/-- **The partitions of a store** are its records with some bytes. By induction from the last record. -/
theorem partitions_collects (h : Consistent recs) :
    Collects CounterRecord.key CounterRecord.bytes (restorable recs) (partitions recs) := by
  induction recs using reverseRecOn with
  | nil => exact GoMap.Collects.nil
  | append_singleton recs last ih =>
    have hinit := ih (fun r hr r' hr' => h r (mem_append_left _ hr) r' (mem_append_left _ hr'))
    have hstep : partitions (recs ++ [last]) = if !last.key.complete then partitions recs
        else if last.bytes > ((partitions recs).lookup last.key).getD 0 then
          (partitions recs).insert last.key last.bytes
        else partitions recs := by
      unfold partitions
      rw [foldl_append]
      rfl
    -- a record under the same key is the same record
    have hold : ∀ bytes, (partitions recs).lookup last.key = some bytes → bytes = last.bytes := by
      intro bytes hbytes
      obtain ⟨r, hr, hkey, rfl⟩ := (hinit _ _).mp hbytes
      rw [h r (mem_append_left _ (mem_restorable.mp hr).1) last (by simp) (by rw [hkey])]
    intro k bytes
    have hk := hinit k bytes
    simp only [mem_restorable] at hk ⊢
    rw [hstep]
    cases hlookup : (partitions recs).lookup last.key with
    | none => grind [lookup_insert_eq]
    | some old => grind [lookup_insert_eq]

/-- What the counters are after partitions of distinct counters. -/
structure Restored (parts : List (Sigma (fun _ : Key => UInt64))) (c : Counters) : Prop where
  values : Collects (fun part => part.1.counterIdentity)
    (fun part => ({ key := part.1, bytes := part.2 } : CounterRecord)) parts c.values
  baseline : Collects (fun part => part.1.counterIdentity) (fun part => part.2) parts c.restoredBaseline

theorem Restored.snoc {part : Sigma (fun _ : Key => UInt64)} (h : Restored parts c)
    (hnew : ∀ p ∈ parts, p.1.counterIdentity ≠ part.1.counterIdentity) (hpos : 0 < part.2) :
    Restored (parts ++ [part]) (c.restorePartition part.1 part.2) := by
  have hrev : (0 : UInt64) ≤ part.1.revision := le_iff_toNat_le.mpr (zero_le _)
  have hturn : c.restorePartition part.1 part.2 =
      { values := c.values.insert part.1.counterIdentity { key := part.1, bytes := part.2 },
        restoredBaseline := c.restoredBaseline.insert part.1.counterIdentity part.2 } := by
    simp only [restorePartition, Counters.add, h.values.lookup_eq_none hnew, h.baseline.lookup_eq_none hnew,
      getD_none, hrev, if_true, zero_addBytes]
    exact if_pos hpos
  rw [hturn]
  exact ⟨h.values.snoc hnew, h.baseline.snoc hnew⟩

theorem restored_foldl (hdist : parts.Pairwise (fun p p' => p.1.counterIdentity ≠ p'.1.counterIdentity))
    (hpos : ∀ p ∈ parts, 0 < p.2) :
    Restored parts (parts.foldl (fun c part => c.restorePartition part.1 part.2) {}) := by
  induction parts using reverseRecOn with
  | nil => exact ⟨GoMap.Collects.nil, GoMap.Collects.nil⟩
  | append_singleton _ last ih =>
    rw [pairwise_append] at hdist
    rw [foldl_append]
    have hinit := ih hdist.1 (fun p hp => hpos p (mem_append_left _ hp))
    exact hinit.snoc (fun p hp => hdist.2.2 p hp last (by simp)) (hpos last (by simp))

end Counters

/-- The second loop of `RestoreCounters`, over the partitions in some order. -/
def restoreParts (parts : List (Sigma (fun _ : Key => UInt64))) : Counters :=
  parts.foldl (fun c part => c.restorePartition part.1 part.2) {}

/-- **Restored counters** have the records of the store that have some bytes, and each of them is its own baseline. -/
theorem restoreParts_collects (h : Counters.Consistent recs) (hperm : parts.Perm (Counters.partitions recs).entries) :
    Collects (fun rcd => rcd.key.counterIdentity) id (Counters.restorable recs) (restoreParts parts).values
      ∧ Collects (fun rcd => rcd.key.counterIdentity) CounterRecord.bytes (Counters.restorable recs)
        (restoreParts parts).restoredBaseline := by
  have hparts := Counters.partitions_collects h
  have hmem : ∀ part ∈ parts, ∃ rcd ∈ Counters.restorable recs, rcd.key = part.1 ∧ rcd.bytes = part.2 := by
    rintro ⟨k, bytes⟩ hpart
    exact (hparts k bytes).mp (mem_entries_iff.mp (hperm.mem_iff.mp hpart))
  have hrestored : Counters.Restored parts (restoreParts parts) := by
    refine Counters.restored_foldl ?_ ?_
    · -- two partitions of one counter would come from one record
      have hkeys : parts.NodupKeys := (perm_nodupKeys hperm).mpr (Counters.partitions recs).nodupKeys
      refine Pairwise.imp_of_mem ?_ hkeys.pairwise_ne
      intro p p' hp hp' hne heq
      obtain ⟨r, hr, hkey, _⟩ := hmem p hp
      obtain ⟨r', hr', hkey', _⟩ := hmem p' hp'
      rw [← hkey, ← hkey'] at heq
      have hsame := h r (Counters.mem_restorable.mp hr).1 r' (Counters.mem_restorable.mp hr').1 heq
      exact hne (by rw [← hkey, ← hkey', hsame])
    · intro p hp
      obtain ⟨_, hr, _, hbytes⟩ := hmem p hp
      exact hbytes ▸ (Counters.mem_restorable.mp hr).2.2
  exact ⟨hparts.trans hperm hrestored.values, hparts.trans (g := fun _ bytes => bytes) hperm hrestored.baseline⟩

theorem restoreCounters_keyed (h : Counters.Storable recs) : (restoreCounters recs).Keyed := by
  intro id rcd hrec
  obtain ⟨_, hr, hid, rfl⟩ := ((restoreParts_collects h.consistent (.refl _)).1 id rcd).mp hrec
  exact ⟨hid, (Counters.mem_restorable.mp hr).2.1⟩

theorem baseline_restoreCounters (h : Counters.Storable recs) {rcd : CounterRecord}
    (hrec : rcd ∈ (restoreCounters recs).snapshot) :
    (restoreCounters recs).baseline rcd = rcd.bytes := by
  obtain ⟨id, hid⟩ := mem_values_iff.mp hrec
  obtain ⟨r, hr, _, heq⟩ := ((restoreParts_collects h.consistent (.refl _)).1 id rcd).mp hid
  obtain rfl : r = rcd := heq
  have hbaseline := ((restoreParts_collects h.consistent (.refl _)).2 _ r.bytes).mpr ⟨r, hr, rfl, rfl⟩
  exact congrArg (fun baseline => baseline.getD r.bytes) hbaseline

/-- **The totals of a snapshot are restored**, those under complete keys. -/
theorem get_restoreParts {c : Counters} {k : Key} (hnamed : c.Named) (hsame : ∀ r, r ∈ recs ↔ r ∈ c.snapshot)
    (hperm : parts.Perm (Counters.partitions recs).entries)
    (hcomplete : ∀ r, c.values.lookup k.counterIdentity = some r → r.key.complete = true) :
    (restoreParts parts).get k = c.get k := by
  have hin : ∀ r, r ∈ recs ↔ c.values.lookup r.key.counterIdentity = some r := fun r => (hsame r).trans hnamed.mem
  have hconsistent : Counters.Consistent recs := by
    intro r hr r' hr' heq
    rw [hin, heq, (hin r').mp hr'] at hr
    exact (some.inj hr).symm
  have hvalues : (restoreParts parts).values.lookup k.counterIdentity
      = (c.values.lookup k.counterIdentity).filter (fun r => 0 < r.bytes) := by
    ext rcd
    rw [(restoreParts_collects hconsistent hperm).1, filter_eq_some_iff]
    constructor
    · rintro ⟨r, hr, hid, rfl⟩
      obtain ⟨hmem, _, hpos⟩ := Counters.mem_restorable.mp hr
      exact ⟨hid ▸ (hin r).mp hmem, decide_eq_true hpos⟩
    rintro ⟨hrec, hpos⟩
    have hid := hnamed _ rcd hrec
    have hmem := (hin rcd).mpr (hid ▸ hrec)
    exact ⟨rcd, Counters.mem_restorable.mpr ⟨hmem, hcomplete rcd hrec, of_decide_eq_true hpos⟩, hid, rfl⟩
  unfold Counters.get
  rw [hvalues]
  cases c.values.lookup k.counterIdentity with
  | none => rfl
  | some rcd =>
    rw [filter_some]
    split
    case isTrue => rfl
    case isFalse hzero =>
      -- a record without bytes is not restored, which leaves its total at zero
      exact Eq.symm (by simpa using hzero)

/-! ## Sequences of `Add` -/

def added (calls : List (Key × UInt64)) : Counters := calls.foldl (fun c call => c.add call.1 call.2) {}

def total (calls : List (Key × UInt64)) (k : Key) : Nat :=
  ((calls.filter (fun call => call.1.counterIdentity = k.counterIdentity)).map (fun call => call.2.toNat)).sum

variable (calls : List (Key × UInt64))

theorem added_snoc (call : Key × UInt64) : added (calls ++ [call]) = (added calls).add call.1 call.2 := by
  unfold added
  rw [foldl_append]
  rfl

theorem get_added (k : Key) : ((added calls).get k).toNat = min (total calls k) (2 ^ 64 - 1) := by
  induction calls using reverseRecOn with
  | nil => rfl
  | append_singleton calls call ih =>
    have htot : total (calls ++ [call]) k
        = total calls k + if call.1.counterIdentity = k.counterIdentity then call.2.toNat else 0 := by
      simp only [total, List.filter_append, List.map_append, List.sum_append, List.filter_singleton]
      split <;> simp_all
    rw [added_snoc, Counters.get_add, htot]
    by_cases hid : call.1.counterIdentity = k.counterIdentity
    · have hget : (added calls).get call.1 = (added calls).get k := by
        unfold Counters.get
        rw [hid]
      rw [if_pos hid.symm, if_pos hid, toNat_addBytes, hget, ih]
      omega
    · rw [if_neg (Ne.symm hid), if_neg hid, ih, add_zero]

theorem named_added : (added calls).Named := by
  induction calls using reverseRecOn with
  | nil => exact nofun
  | append_singleton calls call ih =>
    rw [added_snoc]
    exact Counters.forall_add (P := fun id key => key.counterIdentity = id) ih rfl

/-- **Counters are saturating sums.** The total of a counter is the sum of the bytes added to it, up to the largest
    `uint64`, in whatever order they are added, and it never decreases. The totals under complete keys are restored
    from a snapshot whose records are reordered and repeated. -/
theorem counters_saturate (calls : List (Key × UInt64)) (k : Key) :
    ((added calls).get k).toNat = min (total calls k) (2 ^ 64 - 1)
    ∧ (∀ calls', calls'.Perm calls → (added calls').get k = (added calls).get k)
    ∧ (∀ more, (added calls).get k ≤ (added (calls ++ more)).get k)
    ∧ ∀ records, (∀ r, r ∈ records ↔ r ∈ (added calls).snapshot) →
      ∀ parts, parts.Perm (Counters.partitions records).entries → k.complete = true →
        (restoreParts parts).get k = (added calls).get k := by
  refine ⟨get_added calls k, fun calls' hperm => ?_, fun more => ?_, fun records hsame parts hperm hcomplete => ?_⟩
  · apply UInt64.toNat_inj.mp
    rw [get_added, get_added, total, ((hperm.filter _).map _).sum_nat]
    rfl
  · rw [le_iff_toNat_le, get_added, get_added, total, total, filter_append, map_append, List.sum_append]
    omega
  · refine get_restoreParts (named_added calls) hsame hperm (fun r hr => ?_)
    exact (congrArg Key.complete (named_added calls _ r hr)).trans hcomplete

/-- `RestoreCounters` skips a key without a node. -/
theorem counters_saturate_incomplete :
    (restoreCounters (added [({}, 5)]).snapshot).get {} = 0 ∧ (added [({}, 5)]).get {} = 5 := by
  decide

end PaperboatTunnel.Usage
