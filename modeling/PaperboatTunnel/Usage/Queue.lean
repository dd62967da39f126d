import PaperboatTunnel.Lib.GoTime
import PaperboatTunnel.Usage.Counters

/-!
# `Queue` — the queue of reports that wait for their acknowledgement

`Queue` of `internal/usage/counter.go`, with `RestoreQueue`. The pending reports are filed under their operation ids,
and `order` has the ids in the order of delivery; `Ack` leaves the id of the report in `order`.

`EnqueueLatest` takes the first pending report of the counter that its loop over the map meets; a queue that it has
filled has no two of them.
-/

namespace PaperboatTunnel.Usage

open GoTime GoMap List Option

inductive Error where
  | queueFull | meterInvalid | signature | encoding | persist
deriving DecidableEq

structure Report where
  operationID : String
  key : Key
  bytes : UInt64
  interval : Time × Time
  payload : List UInt8
deriving DecidableEq

structure Queue where
  (maxReports maxBytes : Int)
  bytes : Int := 0
  pending : GoMap String Report := ∅
  order : List String := []

namespace Queue

variable (q : Queue) (report : Report)

/-- `NewQueue`. -/
def new (maxReports maxBytes : Int) : Except Error Queue :=
  if maxReports < 1 ∨ maxBytes < 1 then .error .queueFull else .ok { maxReports, maxBytes }

/-- Both ways to enqueue refuse such a report. -/
def refuses : Bool :=
  report.operationID == "" || report.payload.length == 0 || decide (q.maxBytes < report.payload.length)

def full : Bool :=
  decide (q.maxReports ≤ q.pending.entries.length) || decide (q.maxBytes - report.payload.length < q.bytes)

/-- Files the report as the last one. -/
def push : Queue :=
  { q with pending := q.pending.insert report.operationID report,
           order := q.order ++ [report.operationID],
           bytes := q.bytes + report.payload.length }

def enqueue : Queue × Option Error :=
  if q.refuses report then (q, some .queueFull)
  else
    match q.pending.lookup report.operationID with
    | some existing =>
      if existing.key = report.key ∧ existing.bytes = report.bytes ∧ existing.payload = report.payload then (q, none)
      else (q, some .queueFull)
    | none => if q.full report then (q, some .queueFull) else (q.push report, none)

def enqueueLatest : Queue × Option Error :=
  if q.refuses report then (q, some .queueFull)
  else
    match q.pending.entries.find? (fun entry => entry.2.key.counterIdentity = report.key.counterIdentity) with
    | some ⟨id, current⟩ =>
      if report.bytes ≤ current.bytes then (q, none)
      else
        let baseBytes := q.bytes - current.payload.length
        if baseBytes < 0 ∨ baseBytes > q.maxBytes - report.payload.length then (q, some .queueFull)
        else
          ({ q with pending := (q.pending.erase id).insert report.operationID report,
                    bytes := baseBytes + report.payload.length,
                    order := q.order.replace id report.operationID }, none)
    | none => if q.full report then (q, some .queueFull) else (q.push report, none)

def next : Option Report := q.order.findSome? (fun id => q.pending.lookup id)

def ack (operationID : String) : Queue × Bool :=
  match q.pending.lookup operationID with
  | none => (q, false)
  | some report =>
    ({ q with pending := q.pending.erase operationID, bytes := q.bytes - report.payload.length }, true)

/-- The reports of `QueueState`. -/
def snapshot : List Report := q.order.filterMap (fun id => q.pending.lookup id)

def restoreLoop : List Report → Queue → Except Error Queue
  | [], q => .ok q
  | report :: rest, q =>
    match q.enqueue report with
    | (_, some err) => .error err
    | (q', none) => restoreLoop rest q'

end Queue

def restoreQueue (reports : List Report) (maxReports maxBytes : Int) : Except Error Queue :=
  match Queue.new maxReports maxBytes with
  | .error err => .error err
  | .ok q => Queue.restoreLoop reports q

/-! ## What the operations do -/

theorem mem_replace_self {α : Type} [DecidableEq α] {a b : α} {l : List α} (h : a ∈ l) : b ∈ l.replace a b := by
  have hpos := count_pos_iff.mpr h
  rw [← count_pos_iff, count_replace, if_pos (contains_iff_mem.mpr h)]
  by_cases hab : a = b
  · rw [hab] at hpos
    simpa [hab] using hpos
  · simp [hab]

theorem mem_replace_of_ne {α : Type} [DecidableEq α] {a b c : α} {l : List α} (h : c ∈ l) (hne : c ≠ a) :
    c ∈ l.replace a b := by
  have hpos := count_pos_iff.mpr h
  rw [← count_pos_iff, count_replace, beq_eq_false_iff_ne.mpr hne.symm]
  split
  · exact Nat.add_pos_left hpos _
  · exact hpos

variable {maxReports maxBytes : Int} {reports : List Report}

namespace Queue

variable {q q' : Queue} {report r : Report} {id : String}

/-- Each report stands under its own operation id, and its id is in the order of delivery. -/
structure Filed (q : Queue) : Prop where
  own : ∀ id r, q.pending.lookup id = some r → r.operationID = id
  listed : ∀ id r, q.pending.lookup id = some r → id ∈ q.order

theorem Filed.of_new (h : new maxReports maxBytes = .ok q) : q.Filed ∧ ∀ id, q.pending.lookup id = none := by
  unfold new at h
  split at h
  · cases h
  · cases h
    exact ⟨⟨nofun, nofun⟩, fun _ => rfl⟩

theorem Filed.lookup_of_mem (h : q.Filed) (hr : r ∈ q.pending.values) : q.pending.lookup r.operationID = some r := by
  obtain ⟨id, hid⟩ := mem_values_iff.mp hr
  obtain rfl := h.own id r hid
  exact hid

theorem Filed.push (h : q.Filed) : (q.push report).Filed := by
  refine ⟨forall_insert h.own rfl, forall_insert (fun id r hr => ?_) ?_⟩
  · exact mem_append_left _ (h.listed id r hr)
  · simp [Queue.push]

/-- What `EnqueueLatest` does when it returns no error. -/
inductive Latest (q : Queue) (report : Report) : Queue → Prop where
  | stale {id : String} {current : Report} (found : q.pending.lookup id = some current)
      (counter : current.key.counterIdentity = report.key.counterIdentity) (above : report.bytes ≤ current.bytes) :
      Latest q report q
  | replaced {id : String} {current : Report} {bytes : Int} (found : q.pending.lookup id = some current)
      (counter : current.key.counterIdentity = report.key.counterIdentity) :
      Latest q report
        { q with pending := (q.pending.erase id).insert report.operationID report, bytes,
                 order := q.order.replace id report.operationID }
  | pushed : Latest q report (q.push report)

theorem enqueueLatest_latest (h : q.enqueueLatest report = (q', none)) : q.Latest report q' := by
  revert h
  fun_cases enqueueLatest q report <;> intro h
  case case2 id current hfind habove =>
    obtain rfl := (Prod.mk.inj h).1
    exact Latest.stale (mem_entries_iff.mp (mem_of_find?_eq_some hfind)) (by simpa using find?_some hfind) habove
  case case4 id current hfind _ _ _ =>
    obtain rfl := (Prod.mk.inj h).1
    exact Latest.replaced (mem_entries_iff.mp (mem_of_find?_eq_some hfind)) (by simpa using find?_some hfind)
  case case6 =>
    obtain rfl := (Prod.mk.inj h).1
    exact Latest.pushed
  all_goals cases h

variable (h : q.Latest report q')

include h

theorem Latest.filed (hq : q.Filed) : q'.Filed := by
  cases h with
  | stale => exact hq
  | pushed => exact hq.push
  | @replaced id current _ found =>
    refine ⟨forall_insert (fun id' r hr => hq.own id' r (lookup_of_erase hr).2) rfl,
      forall_insert (fun id' r hr => ?_) ?_⟩
    · obtain ⟨hne, hr⟩ := lookup_of_erase hr
      exact mem_replace_of_ne (hq.listed id' r hr) hne
    · -- the id of the report stands where the id of the replaced one stood
      exact mem_replace_self (hq.listed id current found)

theorem Latest.mem_of_mem (hr : r ∈ q'.pending.values) : r = report ∨ r ∈ q.pending.values := by
  obtain ⟨id', hid⟩ := mem_values_iff.mp hr
  cases h with
  | stale => exact .inr hr
  | pushed =>
    refine forall_insert (P := fun _ r => r = report ∨ r ∈ q.pending.values) (fun id r hr => ?_) (.inl rfl) _ _ hid
    exact .inr (mem_values_iff.mpr ⟨id, hr⟩)
  | replaced =>
    refine forall_insert (P := fun _ r => r = report ∨ r ∈ q.pending.values) (fun id r hr => ?_) (.inl rfl) _ _ hid
    exact .inr (mem_values_iff.mpr ⟨id, (lookup_of_erase hr).2⟩)

/-- **The reports of other counters stay**, when no other counter has the operation id of the report. -/
theorem Latest.mem_other (hq : q.Filed)
    (hname : r.operationID = report.operationID → r.key.counterIdentity = report.key.counterIdentity)
    (hr : r ∈ q.pending.values) (hne : r.key.counterIdentity ≠ report.key.counterIdentity) :
    r ∈ q'.pending.values := by
  have hlookup := hq.lookup_of_mem hr
  have hid : r.operationID ≠ report.operationID := fun heq => hne (hname heq)
  cases h with
  | stale => exact hr
  | pushed =>
    refine mem_values_iff.mpr ⟨r.operationID, ?_⟩
    simp only [push, lookup_insert_eq, if_neg hid, hlookup]
  | @replaced id current _ found counter =>
    have hgone : r.operationID ≠ id := by
      rintro rfl
      obtain rfl : r = current := mem_unique hlookup found
      exact hne counter
    refine mem_values_iff.mpr ⟨r.operationID, ?_⟩
    simp only [lookup_insert_eq, if_neg hid, lookup_erase_eq, if_neg hgone, hlookup]

/-- **The value of the report is covered**, by itself or by a report that was there. -/
theorem Latest.covered :
    ∃ r ∈ q'.pending.values, r.key.counterIdentity = report.key.counterIdentity ∧ report.bytes ≤ r.bytes := by
  cases h with
  | stale found counter above => exact ⟨_, mem_values_iff.mpr ⟨_, found⟩, counter, above⟩
  | pushed | replaced => exact ⟨report, mem_values_iff.mpr ⟨_, AList.lookup_insert _⟩, rfl, UInt64.le_refl _⟩

omit h

/-! ### Delivery -/

theorem mem_of_next (h : q.next = some r) : r ∈ q.pending.values := by
  obtain ⟨id, _, hid⟩ := exists_of_findSome?_eq_some h
  exact mem_values_iff.mpr ⟨id, hid⟩

@[simp] theorem ack_order : (q.ack id).1.order = q.order := by
  unfold ack
  split <;> rfl

theorem ack_lookup (id' : String) :
    (q.ack id).1.pending.lookup id' = if id' = id then none else q.pending.lookup id' := by
  unfold ack
  split
  case h_1 hnone =>
    split
    case isTrue hid => rw [hid, hnone]
    case isFalse => rfl
  case h_2 => exact lookup_erase_eq

theorem Filed.ack (hq : q.Filed) : (q.ack id).1.Filed := by
  constructor
  · intro id' r hr
    rw [ack_lookup] at hr
    split at hr
    · cases hr
    · exact hq.own id' r hr
  · intro id' r hr
    rw [ack_lookup] at hr
    split at hr
    · cases hr
    · rw [ack_order]
      exact hq.listed id' r hr

/-- **What is acknowledged is gone**, and nothing else. -/
theorem mem_ack (hq : q.Filed) (hrep : report ∈ q.pending.values) :
    r ∈ (q.ack report.operationID).1.pending.values ↔ r ∈ q.pending.values ∧ r ≠ report := by
  constructor
  · intro hr
    have hfiled : (q.ack report.operationID).1.Filed := hq.ack
    have hlookup := hfiled.lookup_of_mem hr
    rw [ack_lookup] at hlookup
    split at hlookup
    · cases hlookup
    next hne =>
    refine ⟨mem_values_iff.mpr ⟨_, hlookup⟩, ?_⟩
    rintro rfl
    exact hne rfl
  · rintro ⟨hr, hne⟩
    have hlookup := hq.lookup_of_mem hr
    have hid : r.operationID ≠ report.operationID := by
      intro heq
      rw [heq, hq.lookup_of_mem hrep] at hlookup
      exact hne (some.inj hlookup).symm
    exact mem_values_iff.mpr ⟨r.operationID, by rw [ack_lookup, if_neg hid, hlookup]⟩

/-! ### Snapshot and restore -/

theorem mem_snapshot (hq : q.Filed) : r ∈ q.snapshot ↔ r ∈ q.pending.values := by
  unfold snapshot
  rw [mem_filterMap, mem_values_iff]
  constructor
  · rintro ⟨id, _, hid⟩
    exact ⟨id, hid⟩
  · rintro ⟨id, hid⟩
    exact ⟨id, hq.listed id r hid, hid⟩

/-- An id names one report. -/
def Distinct (reports : List Report) : Prop := ∀ r ∈ reports, ∀ r' ∈ reports, r.operationID = r'.operationID → r = r'

theorem Filed.distinct_snapshot (hq : q.Filed) : Distinct q.snapshot := by
  intro r hr r' hr' heq
  have hlookup := hq.lookup_of_mem ((mem_snapshot hq).mp hr)
  rw [heq, hq.lookup_of_mem ((mem_snapshot hq).mp hr')] at hlookup
  exact (some.inj hlookup).symm

/-- What `Enqueue` does when it returns no error. -/
theorem enqueue_cases (h : q.enqueue report = (q', none)) : (q' = q ∧ (q.pending.lookup report.operationID).isSome)
      ∨ q.pending.lookup report.operationID = none ∧ q' = q.push report := by
  revert h
  fun_cases enqueue q report <;> intro h
  case case2 existing hexisting _ =>
    obtain rfl := (Prod.mk.inj h).1
    exact .inl ⟨rfl, by rw [hexisting]; rfl⟩
  case case5 hnone _ => exact .inr ⟨hnone, (Prod.mk.inj h).1.symm⟩
  all_goals cases h

theorem enqueue_restores (h : q.enqueue report = (q', none)) (hq : q.Filed)
    (hdist : Distinct (report :: reports ++ q.pending.values)) :
    q'.Filed ∧ ∀ r, r ∈ q'.pending.values ↔ r = report ∨ r ∈ q.pending.values := by
  have hhere : report ∈ report :: reports ++ q.pending.values := mem_append_left _ mem_cons_self
  obtain ⟨rfl, hsome⟩ | ⟨hnone, rfl⟩ := enqueue_cases h
  · -- the report with this id is the same one
    obtain ⟨existing, hexisting⟩ := isSome_iff_exists.mp hsome
    have hin : existing ∈ q'.pending.values := mem_values_iff.mpr ⟨_, hexisting⟩
    obtain rfl : existing = report := hdist _ (mem_append_right _ hin) _ hhere (hq.own _ _ hexisting)
    refine ⟨hq, fun r => ⟨.inr, ?_⟩⟩
    rintro (rfl | hr)
    · exact hin
    · exact hr
  · refine ⟨hq.push, fun r => ?_⟩
    constructor
    · intro hr
      exact Latest.pushed.mem_of_mem hr
    rintro (rfl | hr)
    · exact mem_values_iff.mpr ⟨_, AList.lookup_insert _⟩
    have hlookup := hq.lookup_of_mem hr
    have hne : r.operationID ≠ report.operationID := by
      intro heq
      rw [heq, hnone] at hlookup
      cases hlookup
    refine mem_values_iff.mpr ⟨r.operationID, ?_⟩
    simp only [push, lookup_insert_eq, if_neg hne, hlookup]

/-- **`RestoreQueue` takes the reports over**, by induction on those that are still to come. -/
theorem restoreLoop_spec : ∀ {reports : List Report} {q q' : Queue}, restoreLoop reports q = .ok q' → q.Filed →
    Distinct (reports ++ q.pending.values) →
    q'.Filed ∧ ∀ r, r ∈ q'.pending.values ↔ r ∈ reports ∨ r ∈ q.pending.values
  | [], q, q', h, hq, _ => by
      cases h
      exact ⟨hq, by simp⟩
  | report :: rest, q, q', h, hq, hdist => by
      unfold restoreLoop at h
      split at h
      · cases h
      rename_i q₁ henqueue
      obtain ⟨hq₁, hmem⟩ := enqueue_restores henqueue hq hdist
      have hin : ∀ r ∈ rest ++ q₁.pending.values, r ∈ report :: rest ++ q.pending.values := by
        intro r hr
        rw [mem_append, hmem] at hr
        rw [cons_append, mem_cons, mem_append]
        tauto
      obtain ⟨hq', hmem'⟩ := restoreLoop_spec h hq₁ (fun r hr r' hr' => hdist r (hin r hr) r' (hin r' hr'))
      refine ⟨hq', fun r => ?_⟩
      rw [hmem', hmem, mem_cons]
      tauto

end Queue

/-- **A restored queue** has the reports of the snapshot. -/
theorem restoreQueue_spec {q : Queue} (h : restoreQueue reports maxReports maxBytes = .ok q)
    (hdist : Queue.Distinct reports) :
    q.Filed ∧ ∀ r, r ∈ q.pending.values ↔ r ∈ reports := by
  unfold restoreQueue at h
  split at h
  · cases h
  rename_i empty hnew
  obtain ⟨hfiled, hnone⟩ := Queue.Filed.of_new hnew
  have hvalues : ∀ r, r ∉ empty.pending.values := by
    intro r hr
    obtain ⟨_, hid⟩ := mem_values_iff.mp hr
    rw [hnone] at hid
    cases hid
  have hnil : empty.pending.values = [] := eq_nil_iff_forall_not_mem.mpr hvalues
  obtain ⟨hq, hmem⟩ := Queue.restoreLoop_spec h hfiled (by rwa [hnil, append_nil])
  refine ⟨hq, fun r => ?_⟩
  rw [hmem, hnil]
  simp

end PaperboatTunnel.Usage
