import PaperboatTunnel.Usage.Queue

/-!
# `Meter` — from recorded bytes to signed reports

`internal/usage/meter.go` and `NewSignedReport` of `sign.go`. `Record` adds to the counters; `Flush` makes a signed
report of every total above the last reported one, and `RestoreBaseline` sets the last reported totals of the counters
that a restart found in the store.

The digest that names a report and the signed envelope are parameters (`Externals`). `Flush` ends with a call of
`Persist`, which is left to the machine of `Usage.Edge`; so is the order of the snapshot, an argument here.
-/

namespace PaperboatTunnel.Usage

open GoTime List UInt64 Bool

structure SignedDocument where
  operationID : String
  key : Key
  bytes : UInt64
  (start finish : Time)
deriving DecidableEq

/-- `meterOperationID`, and the JSON envelope with the Ed25519 signature, which fails for times that have no JSON
    form. -/
structure Externals where
  meterOperationID : Key → UInt64 → String
  envelope : String → List UInt8 → SignedDocument → Option (List UInt8)

/-- The operation id of a report names its counter: the digests of different counters differ. -/
def Externals.Distinct (ext : Externals) : Prop :=
  ∀ k bytes k' bytes', ext.meterOperationID k bytes = ext.meterOperationID k' bytes' →
    k.counterIdentity = k'.counterIdentity

def privateKeySize : Nat := 64

def validateDocument (document : SignedDocument) : Option Error :=
  if document.operationID = "" ∨ document.key.node = "" ∨ document.key.epoch = "" ∨ document.key.environment = ""
      ∨ document.key.route = "" ∨ document.key.revision = 0
      ∨ (document.key.direction ≠ .ingress ∧ document.key.direction ≠ .egress)
      ∨ document.start.isZero ∨ document.finish.before document.start then some .signature
  else none

def newSignedReport (ext : Externals) (keyID : String) (privateKey : List UInt8) (document : SignedDocument) :
    Except Error Report :=
  if keyID = "" ∨ keyID.utf8ByteSize > 128 ∨ privateKey.length ≠ privateKeySize then .error .signature
  else
    let document := { document with start := document.start.utc, finish := document.finish.utc }
    match validateDocument document with
    | some err => .error err
    | none =>
      match ext.envelope keyID privateKey document with
      | none => .error .encoding
      | some payload =>
        .ok { operationID := document.operationID, key := document.key, bytes := document.bytes,
              interval := (document.start, document.finish), payload }

/-- The meter; `start` has the ends of the intervals that were reported. -/
structure Meter where
  (node epoch keyID : String)
  privateKey : List UInt8
  counters : Counters
  queue : Queue
  start : GoMap Key Time := ∅
  last : GoMap Key UInt64 := ∅

namespace Meter

variable (ext : Externals) (m : Meter)

/-- The total of a counter that was reported last. -/
def reported (identity : Key) : UInt64 := (m.last.lookup identity).getD 0

/-- One turn of the loop of `RestoreBaseline`; the second part is `correction`. -/
def restoreRecord (acc : Meter × Bool) (record : CounterRecord) : Meter × Bool :=
  let baseline := acc.1.counters.baseline record
  ({ acc.1 with last := acc.1.last.insert record.key.counterIdentity baseline },
    acc.2 || decide (baseline < record.bytes))

/-- `RestoreBaseline` up to its `Flush`: the meter, and whether there is something to correct. -/
def restoreBaseline : Meter × Bool := m.counters.snapshot.foldl restoreRecord (m, false)

variable (environment route : String) (revision : UInt64)

/-- `Record` refuses a call without changing anything. -/
def refuses : Bool :=
  m.node == "" || m.epoch == "" || environment == "" || route == "" || revision == 0 || m.keyID == ""
    || m.privateKey.length != privateKeySize

def key (direction : Direction) : Key :=
  { node := m.node, epoch := m.epoch, environment, route, revision, direction }

def count (direction : Direction) (bytes : UInt64) : Meter :=
  if bytes = 0 then m else { m with counters := m.counters.add (m.key environment route revision direction) bytes }

/-- `Record`. Another goroutine may come between the two directions; that is a run of two calls here, with one
    direction each. -/
def record (environment route : String) (revision ingress egress : UInt64) : Meter × Option Error :=
  if m.refuses environment route revision then (m, some .meterInvalid)
  else
    ((m.count environment route revision .ingress ingress).count environment route revision .egress egress, none)

/-- The report that `Flush` makes of a record. -/
def report (now : Time) (record : CounterRecord) : Except Error Report :=
  let start := (m.start.lookup record.key.counterIdentity).getD {}
  newSignedReport ext m.keyID m.privateKey
    { operationID := ext.meterOperationID record.key record.bytes, key := record.key, bytes := record.bytes,
      start := if start.isZero then now else start, finish := now }

/-- The loop of `Flush` over the snapshot of the counters. -/
def flushLoop (ext : Externals) (now : Time) : List CounterRecord → Meter → Meter × Option Error
  | [], m => (m, none)
  | record :: rest, m =>
    let identity := record.key.counterIdentity
    if record.bytes = 0 ∨ record.bytes ≤ m.reported identity then flushLoop ext now rest m
    else
      match m.report ext now record with
      | .error err => (m, some err)
      | .ok report =>
        match m.queue.enqueueLatest report with
        | (_, some err) => (m, some err)
        | (queue, none) =>
          flushLoop ext now rest
            { m with queue, last := m.last.insert identity record.bytes, start := m.start.insert identity now }

/-- `Flush` up to its call of `Persist`; `now` is in UTC. -/
def flush (now : Time) (records : List CounterRecord) : Meter × Option Error := flushLoop ext now.utc records m

/-! ## What `Record` does -/

variable {m m' : Meter} {env route : String} {rev bytes ingress egress : UInt64} {dir : Direction}

theorem record_eq (m : Meter) (env route : String) (rev ingress egress : UInt64) :
    (m.record env route rev ingress egress).1 =
      { m with counters := (m.record env route rev ingress egress).1.counters } := by
  simp only [record, count]
  split
  · rfl
  · split <;> split <;> rfl

@[simp] theorem key_count (m : Meter) (dir' : Direction) :
    (m.count env route rev dir bytes).key env route rev dir' = m.key env route rev dir' := by
  unfold count
  split <;> rfl

/-- What `Record` can do to the counters, in the order of its additions. -/
theorem record_counters {P : Counters → Prop} (h : P m.counters)
    (hadd : ∀ c dir bytes, dir = .ingress ∨ dir = .egress → m.refuses env route rev = false →
      P c → P (c.add (m.key env route rev dir) bytes)) :
    P (m.record env route rev ingress egress).1.counters := by
  unfold record
  split
  · exact h
  rename_i hok
  have hok' : m.refuses env route rev = false := by simpa using hok
  have hfirst : P (m.count env route rev .ingress ingress).counters := by
    unfold count
    split
    · exact h
    · exact hadd _ _ _ (.inl rfl) hok' h
  have hkey : (m.count env route rev .ingress ingress).key env route rev .egress
      = m.key env route rev .egress := key_count m .egress
  generalize m.count env route rev .ingress ingress = first at hfirst hkey
  show P (first.count env route rev .egress egress).counters
  unfold count
  split
  · exact hfirst
  · rw [hkey]
    exact hadd _ _ _ (.inr rfl) hok' hfirst

theorem complete_key (hok : m.refuses env route rev = false) (hdir : dir = .ingress ∨ dir = .egress) :
    (m.key env route rev dir).complete = true := by
  simp only [refuses, or_eq_false_iff, beq_eq_false_iff_ne] at hok
  simp only [Key.complete, key, and_eq_true, bne_iff_ne, or_eq_true, beq_iff_eq]
  exact ⟨⟨⟨⟨hok.1.1.1.1.1.1, hok.1.1.1.1.1.2⟩, hok.1.1.1.1.2⟩, hok.1.1.1.2⟩, hdir⟩

/-- The bytes that a call of `Record` has for a counter. -/
def recorded (m : Meter) (environment route : String) (revision ingress egress : UInt64) (id : Key) : Nat :=
  if m.refuses environment route revision then 0
  else
    (if id = (m.key environment route revision .ingress).counterIdentity then ingress.toNat else 0)
      + (if id = (m.key environment route revision .egress).counterIdentity then egress.toNat else 0)

theorem get_count (m : Meter) {id : Key} (hid : id.counterIdentity = id) :
    ((m.count env route rev dir bytes).counters.get id).toNat = min ((m.counters.get id).toNat
        + if id = (m.key env route rev dir).counterIdentity then bytes.toNat else 0)
        (2 ^ 64 - 1) := by
  have hbound : (m.counters.get id).toNat < 2 ^ 64 := toNat_lt _
  unfold count
  split
  case isTrue hzero =>
    rw [hzero, UInt64.toNat_zero, ite_self]
    omega
  case isFalse =>
    rw [Counters.get_add, hid]
    split
    case isTrue heq =>
      have hget : m.counters.get (m.key env route rev dir) = m.counters.get id := by
        unfold Counters.get
        rw [hid, heq]
      rw [toNat_addBytes, hget]
    case isFalse => omega

/-- **`Record` adds its bytes**, up to the largest `uint64`. -/
theorem get_record (m : Meter) {id : Key} (hid : id.counterIdentity = id) :
    ((m.record env route rev ingress egress).1.counters.get id).toNat =
      min ((m.counters.get id).toNat + m.recorded env route rev ingress egress id) (2 ^ 64 - 1) := by
  have hbound : (m.counters.get id).toNat < 2 ^ 64 := toNat_lt _
  unfold record recorded
  split
  case isTrue =>
    show (m.counters.get id).toNat = _
    omega
  case isFalse =>
    show (((m.count env route rev .ingress ingress).count env route rev .egress egress).counters.get id).toNat = _
    rw [get_count _ hid, get_count _ hid, key_count]
    omega

/-! ## What `RestoreBaseline` does -/

variable {recs : List CounterRecord} {ext : Externals} {now : Time}

/-- **`RestoreBaseline`** of a new meter: the last reported total of a counter is the baseline of its record, and there
    is something to correct when a baseline is below its record. -/
theorem restoreBaseline_spec (m : Meter) (hlast : m.last = ∅) (hkeyed : m.counters.Keyed) :
    ∃ last, m.restoreBaseline = ({ m with last }, m.counters.snapshot.any
        (fun rcd => m.counters.baseline rcd < rcd.bytes))
      ∧ GoMap.Collects (fun rcd => rcd.key.counterIdentity) m.counters.baseline m.counters.snapshot last := by
  have hdist := hkeyed.storable.distinct
  unfold restoreBaseline
  generalize m.counters.snapshot = recs at hdist ⊢
  -- the loop, by induction from the last record
  induction recs using reverseRecOn with
  | nil => exact ⟨∅, by rw [← hlast]; rfl, GoMap.Collects.nil⟩
  | append_singleton _ rcd ih =>
    rw [map_append, nodup_append] at hdist
    obtain ⟨last, hfold, hcollects⟩ := ih hdist.1
    refine ⟨last.insert rcd.key.counterIdentity (m.counters.baseline rcd), ?_, ?_⟩
    · rw [foldl_append, hfold, any_append]
      simp [restoreRecord]
    · refine hcollects.snoc (fun other hother => ?_)
      exact hdist.2.2 _ (mem_map_of_mem hother) _ (by simp)

/-! ## What `Flush` does -/

theorem newSignedReport_spec {keyID : String} {privateKey : List UInt8} {document : SignedDocument} {rep : Report}
    (h : newSignedReport ext keyID privateKey document = .ok rep) :
    rep.operationID = document.operationID ∧ rep.key = document.key ∧ rep.bytes = document.bytes := by
  unfold newSignedReport at h
  split at h
  · cases h
  dsimp only at h
  split at h
  · cases h
  split at h
  · cases h
  · cases h
    exact ⟨rfl, rfl, rfl⟩

/-- One turn of `Flush` that makes a report. -/
structure Turn (ext : Externals) (record : CounterRecord) (m m' : Meter) : Prop where
  above : m.reported record.key.counterIdentity < record.bytes
  queue : ∃ report, report.operationID = ext.meterOperationID record.key record.bytes ∧ report.key = record.key
    ∧ report.bytes = record.bytes ∧ m.queue.Latest report m'.queue
  last : m'.last = m.last.insert record.key.counterIdentity record.bytes
  frame : m' = { m with queue := m'.queue, last := m'.last, start := m'.start }

theorem Turn.reported {rcd : CounterRecord} (h : Turn ext rcd m m') (id : Key) :
    m'.reported id = if id = rcd.key.counterIdentity then rcd.bytes else m.reported id := by
  unfold Meter.reported
  rw [h.last, GoMap.lookup_insert_eq]
  split <;> rfl

/-- **The rule of `Flush`**: what every turn keeps is kept by the loop, also when it stops with an error. -/
theorem flushLoop_rule {I : Meter → Prop} : ∀ {recs : List CounterRecord} {m : Meter},
    (∀ record ∈ recs, ∀ m m', Turn ext record m m' → I m → I m') → I m → I (flushLoop ext now recs m).1
  | [], _, _, h => h
  | record :: rest, m, hturn, h => by
      have hrest : ∀ r ∈ rest, ∀ m m', Turn ext r m m' → I m → I m' :=
        fun r hr => hturn r (mem_cons_of_mem _ hr)
      unfold flushLoop
      dsimp only
      split
      · exact flushLoop_rule hrest h
      rename_i habove
      split
      · exact h
      rename_i report hrep
      split
      · exact h
      rename_i queue henqueue
      obtain ⟨hid, hkey, hbytes⟩ := newSignedReport_spec hrep
      refine flushLoop_rule hrest (hturn record mem_cons_self m _ ?_ h)
      exact ⟨UInt64.not_le.mp (not_or.mp habove).2,
        ⟨report, hid, hkey, hbytes, Queue.enqueueLatest_latest henqueue⟩, rfl, rfl⟩

theorem flush_eq (ext : Externals) (m : Meter) (now : Time) (recs : List CounterRecord) :
    (m.flush ext now recs).1 =
      { m with queue := (m.flush ext now recs).1.queue, last := (m.flush ext now recs).1.last,
               start := (m.flush ext now recs).1.start } := by
  refine flushLoop_rule (I := fun x => x = { m with queue := x.queue, last := x.last, start := x.start }) ?_ rfl
  intro rcd _ x x' hturn hx
  rw [hturn.frame, hx]

theorem reported_le_flushLoop (id : Key) (hbytes : bytes ≤ m.reported id) :
    bytes ≤ (flushLoop ext now recs m).1.reported id := by
  refine flushLoop_rule (I := fun x => bytes ≤ x.reported id) ?_ hbytes
  intro rcd _ x x' hturn hx
  rw [hturn.reported]
  split
  case isTrue hid => exact UInt64.le_trans hx (UInt64.le_of_lt (hid ▸ hturn.above))
  case isFalse => exact hx

/-- **After a `Flush` without an error every total has been reported.** -/
theorem flushLoop_covers : ∀ {recs : List CounterRecord} {m : Meter},
    (flushLoop ext now recs m).2 = none → ∀ record ∈ recs,
      record.bytes ≤ (flushLoop ext now recs m).1.reported record.key.counterIdentity
  | [], _, _ => nofun
  | record :: rest, m, h => by
      intro r hr
      unfold flushLoop at h ⊢
      dsimp only at h ⊢
      split at h
      case isTrue hskip =>
        rw [if_pos hskip]
        rcases mem_cons.mp hr with rfl | hin
        · refine reported_le_flushLoop _ ?_
          rcases hskip with hzero | hle
          · rw [hzero]
            exact le_iff_toNat_le.mpr (Nat.zero_le _)
          · exact hle
        · exact flushLoop_covers h r hin
      case isFalse hskip =>
        rw [if_neg hskip]
        split at h
        · cases h
        split at h
        · cases h
        rcases mem_cons.mp hr with rfl | hin
        · refine reported_le_flushLoop _ ?_
          simp [Meter.reported]
        · exact flushLoop_covers h r hin

end Meter

end PaperboatTunnel.Usage
