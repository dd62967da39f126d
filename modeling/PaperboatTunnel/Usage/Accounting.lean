import PaperboatTunnel.Lib.Checks
import PaperboatTunnel.Lib.Watermark
import PaperboatTunnel.Usage.Edge

/-!
# `Accounting` — what an edge knows to be reported

The server keeps the largest absolute value it was told of a counter, so what matters is the largest value that is
pending or acknowledged (`Edge.largest`). For a counter of the running process this is the total that `Flush` reported
last (`Sound.mark`).
-/

namespace PaperboatTunnel.Usage

open GoTime TransitionSystem Watermark List

/-- The largest value for a counter among the pending reports and those of a list. -/
def Meter.largest (m : Meter) (delivered : List Report) (id : Key) : Nat :=
  mark (fun r => r.key.counterIdentity) (fun r => r.bytes.toNat) id (m.queue.pending.values ++ delivered)

/-- The largest value for a counter that is pending or was acknowledged. -/
def Edge.largest (e : Edge) (id : Key) : Nat := e.meter.largest e.delivered id

/-! ## The queue -/

namespace Meter

variable {ext : Externals} {m m' : Meter} {record : CounterRecord} {delivered : List Report} {id : Key}

/-- The pending reports are filed and named as `Flush` does it. -/
structure Honest (ext : Externals) (m : Meter) : Prop where
  filed : m.queue.Filed
  named : ∀ r ∈ m.queue.pending.values, r.operationID = ext.meterOperationID r.key r.bytes

theorem Honest.turn (h : m.Honest ext) (hturn : Turn ext record m m') : m'.Honest ext := by
  obtain ⟨_, hname, hkey, hbytes, hlatest⟩ := hturn.queue
  refine ⟨hlatest.filed h.filed, fun r hr => ?_⟩
  rcases hlatest.mem_of_mem hr with rfl | hin
  · rw [hname, hkey, hbytes]
  · exact h.named r hin

theorem Honest.largest_other (h : m.Honest ext) (hdist : ext.Distinct) (hturn : Turn ext record m m')
    (hne : id ≠ record.key.counterIdentity) : m'.largest delivered id = m.largest delivered id := by
  obtain ⟨rep, hname, hkey, _, hlatest⟩ := hturn.queue
  refine mark_congr (fun r hr => ?_)
  have hcounter : r.key.counterIdentity ≠ rep.key.counterIdentity := by
    rw [hr, hkey]
    exact hne
  rw [mem_append, mem_append]
  constructor
  · rintro (hin | hin)
    · rcases hlatest.mem_of_mem hin with rfl | hold
      · exact absurd rfl hcounter
      · exact .inl hold
    · exact .inr hin
  · rintro (hin | hin)
    · refine .inl (hlatest.mem_other h.filed (fun heq => ?_) hin hcounter)
      rw [h.named r hin, hname] at heq
      rw [hdist _ _ _ _ heq, hkey]
    · exact .inr hin

/-- A turn makes the total of the record the mark, when the mark was the total reported before. -/
theorem largest_self (hturn : Turn ext record m m')
    (hmark : m.largest delivered record.key.counterIdentity = (m.reported record.key.counterIdentity).toNat) :
    m'.largest delivered record.key.counterIdentity = record.bytes.toNat := by
  obtain ⟨rep, _, hkey, hbytes, hlatest⟩ := hturn.queue
  have habove := UInt64.lt_iff_toNat_lt.mp hturn.above
  have hold : ∀ r ∈ m.queue.pending.values ++ delivered, r.key.counterIdentity = record.key.counterIdentity →
      r.bytes.toNat < record.bytes.toNat :=
    fun r hr hcounter => lt_of_le_of_lt (hmark ▸ mark_le_iff.mp (le_refl (m.largest delivered _)) r hr hcounter) habove
  -- the report that covers the value is the new one: those that were there are below it
  obtain ⟨r, hr, hcounter, hcovers⟩ := hlatest.covered
  obtain rfl : r = rep := by
    rcases hlatest.mem_of_mem hr with heq | hin
    · exact heq
    have hlt := hold r (mem_append_left _ hin) (by rw [hcounter, hkey])
    have hle := UInt64.le_iff_toNat_le.mp hcovers
    rw [hbytes] at hle
    omega
  rw [← hbytes]
  refine mark_eq_of_top (mem_append_left _ hr) (by rw [hkey]) (fun x hx hxcounter => ?_)
  rcases mem_append.mp hx with hin | hin
  · rcases hlatest.mem_of_mem hin with rfl | hbefore
    · exact le_refl _
    · rw [hbytes]
      exact le_of_lt (hold x (mem_append_left _ hbefore) hxcounter)
  · rw [hbytes]
    exact le_of_lt (hold x (mem_append_right _ hin) hxcounter)

end Meter

/-! ## The invariant -/

/-- A store whose counters and reports come from processes of these epochs. -/
structure Saved.Sound (ext : Externals) (epochs : List String) (saved : Saved) : Prop where
  storable : Counters.Storable saved.counters
  distinct : Queue.Distinct saved.pending
  named : ∀ r ∈ saved.pending, r.operationID = ext.meterOperationID r.key r.bytes
  counters : ∀ record ∈ saved.counters, record.key.epoch ∈ epochs
  pending : ∀ r ∈ saved.pending, r.key.epoch ∈ epochs

theorem Saved.Sound.empty (ext : Externals) (epochs : List String) : Saved.Sound ext epochs ⟨[], []⟩ :=
  ⟨⟨nodup_nil, nofun⟩, nofun, nofun, nofun, nofun⟩

theorem Saved.Sound.mono {ext : Externals} {epochs epochs' : List String} {saved : Saved}
    (h : saved.Sound ext epochs) (hsub : epochs ⊆ epochs') : saved.Sound ext epochs' :=
  { h with
    counters := fun record hrec => hsub (h.counters record hrec)
    pending := fun r hr => hsub (h.pending r hr) }

variable {recs : List CounterRecord}

namespace Edge

variable {ext : Externals} {cfg : Config} {e e' : Edge} {action : Action}

structure Sound (ext : Externals) (e : Edge) : Prop where
  keyed : e.meter.counters.Keyed
  honest : e.meter.Honest ext
  mark : ∀ k : Key, k.epoch = e.meter.epoch → e.largest k.counterIdentity = (e.meter.reported k.counterIdentity).toNat
  epoch : e.meter.epoch ∈ e.epochs
  counters : ∀ id record, e.meter.counters.values.lookup id = some record → id.epoch ∈ e.epochs
  pending : ∀ r ∈ e.meter.queue.pending.values, r.key.epoch ∈ e.epochs
  delivered : ∀ r ∈ e.delivered, r.key.epoch ∈ e.epochs
  disk : ∀ saved, e.disk = some saved → saved.Sound ext e.epochs

theorem Sound.saved (h : e.Sound ext) : e.meter.saved.Sound ext e.epochs where
  storable := h.keyed.storable
  distinct := h.honest.filed.distinct_snapshot
  named r hr := h.honest.named r ((Queue.mem_snapshot h.honest.filed).mp hr)
  counters record hrec := h.counters record.key.counterIdentity record (h.keyed.named.mem.mp hrec)
  pending r hr := h.pending r ((Queue.mem_snapshot h.honest.filed).mp hr)

theorem Sound.record (h : e.Sound ext) (env route : String) (rev ingress egress : UInt64) :
    (e.record env route rev ingress egress).Sound ext := by
  have hkeyed : (e.meter.record env route rev ingress egress).1.counters.Keyed :=
    Meter.record_counters h.keyed (fun c dir bytes hdir hok hc => hc.add (Meter.complete_key hok hdir) bytes)
  have hcounters : ∀ id record,
      (e.meter.record env route rev ingress egress).1.counters.values.lookup id = some record →
      id.epoch ∈ e.epochs := by
    refine Meter.record_counters (P := fun c => ∀ id record, c.values.lookup id = some record → id.epoch ∈ e.epochs)
      h.counters (fun c dir bytes _ _ hc => GoMap.forall_insert hc h.epoch)
  unfold Edge.record
  rw [Meter.record_eq]
  exact { h with keyed := hkeyed, honest := ⟨h.honest.filed, h.honest.named⟩, counters := hcounters }

/-- **`Flush` keeps the mark** at the total that was reported last. -/
theorem Sound.flush (h : e.Sound ext) (hdist : ext.Distinct) {now : Time}
    (hord : recs.Perm e.meter.counters.snapshot) :
    (e.flush ext now recs).Sound ext := by
  have hrecords : ∀ record ∈ recs, record.key.epoch ∈ e.epochs := by
    intro record hrec
    exact h.saved.counters record (hord.mem_iff.mp hrec)
  obtain ⟨hhonest, hmark, hpend⟩ : (e.meter.flush ext now recs).1.Honest ext
      ∧ (∀ k : Key, k.epoch = e.meter.epoch → (e.meter.flush ext now recs).1.largest e.delivered k.counterIdentity
            = ((e.meter.flush ext now recs).1.reported k.counterIdentity).toNat)
      ∧ ∀ r ∈ (e.meter.flush ext now recs).1.queue.pending.values, r.key.epoch ∈ e.epochs := by
    refine Meter.flushLoop_rule (I := fun m => m.Honest ext ∧ (∀ k : Key, k.epoch = e.meter.epoch →
          m.largest e.delivered k.counterIdentity = (m.reported k.counterIdentity).toNat)
      ∧ ∀ r ∈ m.queue.pending.values, r.key.epoch ∈ e.epochs) ?_ ⟨h.honest, h.mark, h.pending⟩
    intro record hrec m m' hturn ⟨hm, hmark, hpend⟩
    refine ⟨hm.turn hturn, fun k hk => ?_, fun r hr => ?_⟩
    · rw [hturn.reported]
      split
      case isTrue hid =>
        rw [hid]
        exact Meter.largest_self hturn (hid ▸ hmark k hk)
      case isFalse hid => rw [hm.largest_other hdist hturn hid, hmark k hk]
    · obtain ⟨_, _, hkey, _, hlatest⟩ := hturn.queue
      rcases hlatest.mem_of_mem hr with rfl | hin
      · rw [hkey]
        exact hrecords record hrec
      · exact hpend r hin
  unfold Edge.flush
  rw [Meter.flush_eq]
  exact { h with honest := ⟨hhonest.filed, hhonest.named⟩, mark := hmark, pending := hpend }

theorem Sound.persist (h : e.Sound ext) : e.persist.Sound ext :=
  { h with disk := fun _ hsaved => Option.some.inj hsaved ▸ h.saved }

/-- Nothing is lost by an acknowledgement: the report goes from the queue to the acknowledged ones. -/
theorem largest_acknowledge (h : e.meter.Honest ext) {rep : Report} (hnext : e.meter.queue.next = some rep)
    (id : Key) : (e.acknowledge rep).largest id = e.largest id := by
  have hrep := Queue.mem_of_next hnext
  refine mark_congr (fun r _ => ?_)
  simp only [acknowledge, mem_append, mem_singleton, Queue.mem_ack h.filed hrep]
  constructor
  · rintro (⟨hin, _⟩ | hin | rfl)
    · exact .inl hin
    · exact .inr hin
    · exact .inl hrep
  · rintro (hin | hin)
    · by_cases heq : r = rep
      · exact .inr (.inr heq)
      · exact .inl ⟨hin, heq⟩
    · exact .inr (.inl hin)

theorem Sound.acknowledge (h : e.Sound ext) {rep : Report} (hnext : e.meter.queue.next = some rep) :
    (e.acknowledge rep).Sound ext := by
  have hrep := Queue.mem_of_next hnext
  have hmem : ∀ r ∈ (e.meter.queue.ack rep.operationID).1.pending.values, r ∈ e.meter.queue.pending.values :=
    fun r hr => ((Queue.mem_ack h.honest.filed hrep).mp hr).1
  exact { h with
      honest := ⟨h.honest.filed.ack, fun r hr => h.honest.named r (hmem r hr)⟩
      mark := fun k hk => (largest_acknowledge h.honest hnext _).trans (h.mark k hk)
      pending := fun r hr => h.pending r (hmem r hr)
      delivered := fun r hr => by
        rcases mem_append.mp hr with hin | hin
        · exact h.delivered r hin
        · rw [mem_singleton.mp hin]
          exact h.pending rep hrep }

end Edge

/-! ## Restart -/

/-- The meter of a process that starts from a store. -/
structure Booted (saved : Saved) (epoch : String) (m : Meter) : Prop where
  counters : m.counters = restoreCounters saved.counters
  epoch : m.epoch = epoch
  filed : m.queue.Filed
  pending : ∀ r, r ∈ m.queue.pending.values ↔ r ∈ saved.pending
  reported : ∀ id, m.reported id = ((m.counters.values.lookup id).getD {}).bytes

theorem boot_getD (cfg : Config) (disk : Option Saved) (epoch : String) :
    boot cfg disk epoch = boot cfg (some (disk.getD ⟨[], []⟩)) epoch := by
  cases disk with
  | none =>
    unfold boot restoreQueue
    cases Queue.new cfg.maxReports cfg.maxBytes <;> rfl
  | some => rfl

variable {epoch : String} {epochs : List String}

/-- **A restart takes every saved total as reported**, and has nothing to correct. -/
theorem boot_spec {ext : Externals} {cfg : Config} {saved : Saved} {meter : Meter} (hsaved : saved.Sound ext epochs)
    (h : boot cfg (some saved) epoch = .ok meter) :
    meter.restoreBaseline.2 = false ∧ Booted saved epoch meter.restoreBaseline.1 := by
  unfold boot at h
  cases hqueue : restoreQueue saved.pending cfg.maxReports cfg.maxBytes with
  | error => simp [hqueue, Except.map] at h
  | ok queue =>
    obtain ⟨hfiled, hpend⟩ := restoreQueue_spec hqueue hsaved.distinct
    simp only [hqueue, Except.map, Except.ok.injEq] at h
    subst h
    obtain ⟨last, hbaseline, hcollects⟩ := Meter.restoreBaseline_spec
      { node := cfg.node, epoch, keyID := cfg.keyID, privateKey := cfg.privateKey,
        counters := restoreCounters saved.counters, queue } rfl (restoreCounters_keyed hsaved.storable)
    rw [hbaseline]
    refine ⟨?_, rfl, rfl, hfiled, hpend, fun id => ?_⟩
    · refine any_eq_false.mpr (fun record hrec => ?_)
      rw [baseline_restoreCounters hsaved.storable hrec]
      simp
    show (last.lookup id).getD 0 = (((restoreCounters saved.counters).values.lookup id).getD {}).bytes
    cases hrec : (restoreCounters saved.counters).values.lookup id with
    | none =>
      rw [hcollects.lookup_eq_none]
      · rfl
      intro r hr hid
      have hlookup := (restoreCounters_keyed hsaved.storable).named.mem.mp hr
      rw [hid, hrec] at hlookup
      cases hlookup
    | some record =>
      have hin : record ∈ (restoreCounters saved.counters).snapshot := GoMap.mem_values_iff.mpr ⟨id, hrec⟩
      have hidentity := (restoreCounters_keyed hsaved.storable id record hrec).1
      rw [(hcollects id record.bytes).mpr ⟨record, hin, hidentity, baseline_restoreCounters hsaved.storable hin⟩]
      rfl

namespace Edge

variable {ext : Externals} {cfg : Config} {e e' : Edge} {action : Action}

/-- The store from which the next process starts. -/
def store (e : Edge) : Saved := e.disk.getD ⟨[], []⟩

theorem Sound.store (h : e.Sound ext) : e.store.Sound ext e.epochs := by
  unfold Edge.store
  cases hdisk : e.disk with
  | none => exact Saved.Sound.empty ext e.epochs
  | some saved => exact h.disk saved hdisk

/-- What a restart does: the next process has the counters and the reports of the store, under a new epoch. -/
theorem Sound.of_restart (h : e.Sound ext) {now : Time} (hmove : Move ext cfg e (.restart epoch now recs) e') :
    epoch ∉ e.epochs ∧ Booted e.store epoch e'.meter ∧ e'.epochs = epoch :: e.epochs
      ∧ e'.delivered = e.delivered ∧ e'.disk = e.disk := by
  have hboot : ∀ meter, boot cfg e.disk epoch = .ok meter →
      meter.restoreBaseline.2 = false ∧ Booted e.store epoch meter.restoreBaseline.1 :=
    fun meter hmeter => boot_spec h.store ((boot_getD ..).symm.trans hmeter)
  generalize haction : Action.restart epoch now recs = action at hmove
  cases hmove with
  | unchanged quiet => rcases quiet with rfl | ⟨_, rfl⟩ <;> cases haction
  | restart _ fresh booted =>
    cases haction
    exact ⟨fresh, (hboot _ booted).2, rfl, rfl, rfl⟩
  | correct _ _ booted correction =>
    cases haction
    rw [(hboot _ booted).1] at correction
    cases correction
  | _ => cases haction

/-- **A process that starts is sound**: it has no report of its own epoch yet. -/
theorem sound_of_booted {saved : Saved} (hsaved : saved.Sound ext epochs) (hfresh : epoch ∉ epochs)
    (hboot : Booted saved epoch e.meter) (hepochs : e.epochs = epoch :: epochs)
    (hdelivered : ∀ r ∈ e.delivered, r.key.epoch ∈ epochs)
    (hdisk : ∀ saved, e.disk = some saved → saved.Sound ext epochs) : e.Sound ext := by
  have hkeyed : e.meter.counters.Keyed := hboot.counters ▸ restoreCounters_keyed hsaved.storable
  have hcounters : ∀ id record, e.meter.counters.values.lookup id = some record → id.epoch ∈ epochs := by
    intro id record hrec
    rw [hboot.counters] at hrec
    obtain ⟨r, hr, rfl, _⟩ := ((restoreParts_collects hsaved.storable.consistent (.refl _)).1 id record).mp hrec
    exact hsaved.counters r (Counters.mem_restorable.mp hr).1
  have hpend : ∀ r ∈ e.meter.queue.pending.values, r.key.epoch ∈ epochs :=
    fun r hr => hsaved.pending r ((hboot.pending r).mp hr)
  have hmark : ∀ k : Key, k.epoch = e.meter.epoch →
      e.largest k.counterIdentity = (e.meter.reported k.counterIdentity).toNat := by
    intro k hk
    rw [hboot.epoch] at hk
    have hnone : e.meter.counters.values.lookup k.counterIdentity = none := by
      by_contra hsome
      obtain ⟨record, hrec⟩ := Option.ne_none_iff_exists'.mp hsome
      have hin := hcounters _ record hrec
      rw [Key.counterIdentity_epoch, hk] at hin
      exact hfresh hin
    rw [hboot.reported, hnone]
    refine mark_eq_zero (fun r hr hcounter => hfresh ?_)
    have hepoch : r.key.epoch = epoch := by rw [← Key.counterIdentity_epoch, hcounter, Key.counterIdentity_epoch, hk]
    rw [← hepoch]
    rcases mem_append.mp hr with hin | hin
    · exact hpend r hin
    · exact hdelivered r hin
  have hearlier : epochs ⊆ e.epochs := hepochs ▸ subset_cons_self _ _
  exact
    { keyed := hkeyed
      honest := ⟨hboot.filed, fun r hr => hsaved.named r ((hboot.pending r).mp hr)⟩
      mark := hmark
      epoch := by
        rw [hboot.epoch, hepochs]
        exact mem_cons_self
      counters := fun id record hrec => hearlier (hcounters id record hrec)
      pending := fun r hr => hearlier (hpend r hr)
      delivered := fun r hr => hearlier (hdelivered r hr)
      disk := fun saved' hsaved' => (hdisk saved' hsaved').mono hearlier }

theorem Sound.of_first (h : first cfg epoch = .ok e) : e.Sound ext := by
  obtain ⟨_, hboot, rfl⟩ := Checks.map_ok_iff.mp h
  rw [boot_getD] at hboot
  have hspec := (boot_spec (Saved.Sound.empty ext []) hboot).2
  exact sound_of_booted (Saved.Sound.empty ext []) (by simp) hspec rfl nofun nofun

/-- **Every step keeps an edge sound.** -/
theorem Sound.step (hdist : ext.Distinct) (h : e.Sound ext) (hstep : e.step ext cfg action = some e') :
    e'.Sound ext := by
  have hmove := step_move hstep
  cases hmove with
  | record => exact h.record _ _ _ _ _
  | flush order => exact h.flush hdist order
  | persist => exact h.persist
  | unchanged => exact h
  | deliver _ next => exact h.acknowledge next
  | restart | correct =>
    obtain ⟨hfresh, hboot, hepochs, hdelivered, hdisk⟩ := h.of_restart (step_move hstep)
    exact sound_of_booted h.store hfresh hboot hepochs (hdelivered ▸ h.delivered) (hdisk ▸ h.disk)

end Edge

end PaperboatTunnel.Usage
