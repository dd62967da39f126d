import PaperboatTunnel.Usage.Accounting

/-!
# `CrashRecovery` — what a restart makes of the bytes in the store

A restart takes the saved total of a counter as reported, whether it was or not, and the next process does not come
back to it (`Frozen`). So the saved bytes are accounted for exactly when they had been turned into a report before the
save. `Bounded` holds the reports of all processes below what was recorded.
-/

namespace PaperboatTunnel.Usage

open GoTime TransitionSystem Watermark List Option

namespace Edge

variable {ext : Externals} {cfg : Config} {e e' : Edge} {action : Action} {recs : List CounterRecord}

/-- Since the state `p` was saved nothing was saved again: the acknowledged reports are those of `p` and some of those
    that are in the store. -/
structure Window (p e : Edge) : Prop where
  epochs : e.epochs = p.epochs
  disk : e.disk = some p.meter.saved
  synced : e.synced = true → ∀ r ∈ e.meter.queue.pending.values, r ∈ p.meter.queue.pending.values
  delivered : ∀ r ∈ e.delivered, r ∈ p.meter.queue.pending.values ∨ r ∈ p.delivered
  kept : ∀ r ∈ p.delivered, r ∈ e.delivered

theorem Window.step {p : Edge} (h : Window p e) (hhonest : e.meter.Honest ext) (hsave : action ≠ .persist true)
    (hrestart : action.restarts = false) (hstep : e.step ext cfg action = some e') : Window p e' := by
  cases step_move hstep with
  | record =>
    unfold Edge.record
    rw [Meter.record_eq]
    exact ⟨h.epochs, h.disk, h.synced, h.delivered, h.kept⟩
  | flush => exact ⟨h.epochs, h.disk, nofun, h.delivered, h.kept⟩
  | persist => exact absurd rfl hsave
  | unchanged => exact h
  | @deliver report synced next =>
    have hrep := Queue.mem_of_next next
    refine ⟨h.epochs, h.disk, fun _ r hr => ?_, fun r hr => ?_, fun r hr => mem_append_left _ (h.kept r hr)⟩
    · exact h.synced synced r ((Queue.mem_ack hhonest.filed hrep).mp hr).1
    rcases mem_append.mp hr with hin | hin
    · exact h.delivered r hin
    · rw [mem_singleton.mp hin]
      exact .inl (h.synced synced report hrep)
  | restart | correct => cases hrestart

/-! ## After the restart -/

/-- A counter of an earlier process: its total, which counts as reported, and its mark do not change any more. -/
structure Frozen (k : Key) (bytes : UInt64) (top : Nat) (e : Edge) : Prop where
  foreign : k.epoch ≠ e.meter.epoch
  total : e.meter.counters.get k = bytes
  reported : e.meter.reported k.counterIdentity = bytes
  largest : e.largest k.counterIdentity = top

theorem Frozen.flush {k : Key} {bytes : UInt64} {top : Nat} (h : Frozen k bytes top e) (hsound : e.Sound ext)
    (hdist : ext.Distinct) {now : Time}
    (hord : recs.Perm e.meter.counters.snapshot) :
    Frozen k bytes top (e.flush ext now recs) := by
  obtain ⟨_, hreported, hlargest⟩ : (e.meter.flush ext now recs).1.Honest ext
      ∧ (e.meter.flush ext now recs).1.reported k.counterIdentity = bytes
      ∧ (e.meter.flush ext now recs).1.largest e.delivered k.counterIdentity = top := by
    refine Meter.flushLoop_rule (I := fun m => m.Honest ext ∧ m.reported k.counterIdentity = bytes
      ∧ m.largest e.delivered k.counterIdentity = top) ?_ ⟨hsound.honest, h.reported, h.largest⟩
    intro rcd hrec m m' hturn ⟨hm, hreported, hlargest⟩
    have hne : k.counterIdentity ≠ rcd.key.counterIdentity := by
      intro heq
      -- the record of this counter is not above the total that counts as reported
      have hlookup := hsound.keyed.named.mem.mp (hord.mem_iff.mp hrec)
      have htot : rcd.bytes = bytes := by
        rw [← h.total, Counters.get, heq, hlookup]
        rfl
      have habove := hturn.above
      rw [← heq, hreported, htot] at habove
      exact UInt64.lt_irrefl _ habove
    refine ⟨hm.turn hturn, ?_, ?_⟩
    · rw [hturn.reported, if_neg hne, hreported]
    · rw [hm.largest_other hdist hturn hne, hlargest]
  unfold Edge.flush
  rw [Meter.flush_eq]
  exact ⟨h.foreign, h.total, hreported, hlargest⟩

theorem Frozen.step {k : Key} {bytes : UInt64} {top : Nat} (h : Frozen k bytes top e) (hsound : e.Sound ext)
    (hdist : ext.Distinct) (hrestart : action.restarts = false) (hstep : e.step ext cfg action = some e') :
    Frozen k bytes top e' := by
  cases step_move hstep with
  | @record environment route revision ingress egress =>
    have htot : (e.meter.record environment route revision ingress egress).1.counters.get k = bytes := by
      refine Meter.record_counters (P := fun c => c.get k = bytes) h.total (fun c dir added _ _ hc => ?_)
      rw [Counters.get_add, if_neg, hc]
      intro heq
      have hepoch := congrArg Key.epoch heq
      exact h.foreign hepoch
    unfold Edge.record
    rw [Meter.record_eq]
    exact ⟨h.foreign, htot, h.reported, h.largest⟩
  | flush order => exact h.flush hsound hdist order
  | persist => exact ⟨h.foreign, h.total, h.reported, h.largest⟩
  | unchanged => exact h
  | deliver _ next => exact ⟨h.foreign, h.total, h.reported, (largest_acknowledge hsound.honest next _).trans h.largest⟩
  | restart | correct => cases hrestart

/-- **The restart**: the next process has the totals that were saved and takes them as reported; the mark is what it
    was at the save. -/
theorem Window.restart {p : Edge} (h : Window p e) (hp : p.Sound ext) (hsound : e.Sound ext) {epoch : String}
    {now : Time} (hstep : e.step ext cfg (.restart epoch now recs) = some e')
    {k : Key} (hk : k.epoch = p.meter.epoch) :
    Frozen k (p.meter.counters.get k) (p.largest k.counterIdentity) e' := by
  obtain ⟨hfresh, hboot, _, hdelivered, _⟩ := hsound.of_restart (step_move hstep)
  have hstore : e.store = p.meter.saved := by
    unfold Edge.store
    rw [h.disk, getD_some]
  rw [hstore] at hboot
  have htot : e'.meter.counters.get k = p.meter.counters.get k := by
    rw [hboot.counters]
    exact get_restoreParts hp.keyed.named (fun _ => .rfl) (.refl _) (fun r hr => (hp.keyed _ r hr).2)
  refine ⟨?_, htot, (hboot.reported _).trans htot, ?_⟩
  · rw [hk, hboot.epoch]
    rintro rfl
    exact hfresh (h.epochs ▸ hp.epoch)
  refine mark_congr (fun r _ => ?_)
  rw [mem_append, mem_append, hboot.pending, hdelivered]
  show r ∈ p.meter.queue.snapshot ∨ _ ↔ _
  rw [Queue.mem_snapshot hp.honest.filed]
  constructor
  · rintro (hin | hin)
    · exact .inl hin
    · exact h.delivered r hin
  · rintro (hin | hin)
    · exact .inl hin
    · exact .inr (h.kept r hin)

/-- **What crash recovery does with the saved bytes.** A run up to a successful `Persist`, some steps without another
    save, a crash, and a run of the next process. For every counter of the epoch that crashed: the next process has the
    total that was saved; and the largest value that is pending or acknowledged is this total exactly when the total
    had been turned into a report before the save. A `Flush` of the next process makes no difference. -/
theorem crash_recovery (ext : Externals) (hdistinct : ext.Distinct) (cfg : Config) (epoch : String) (e₀ : Edge)
    (hfirst : first cfg epoch = .ok e₀) (tr₁ tr₂ tr₃ : Trace Edge Action) (a p e s q : Edge)
    (hbefore : Run (step ext cfg) e₀ tr₁ a) (hsave : a.step ext cfg (.persist true) = some p)
    (hafter : Run (step ext cfg) p tr₂ e)
    (hunsaved : ∀ t ∈ tr₂, t.label ≠ .persist true ∧ t.label.restarts = false)
    (epoch' : String) (now : Time) (records : List CounterRecord)
    (hcrash : e.step ext cfg (.restart epoch' now records) = some s)
    (hprocess : Run (step ext cfg) s tr₃ q) (honce : ∀ t ∈ tr₃, t.label.restarts = false)
    (k : Key) (hk : k.epoch = p.meter.epoch) :
    q.meter.counters.get k = p.meter.counters.get k ∧
    (q.largest k.counterIdentity = (q.meter.counters.get k).toNat ↔
      p.meter.reported k.counterIdentity = p.meter.counters.get k) := by
  have ha : a.Sound ext := hbefore.invariant (fun h hs => h.step hdistinct hs) (Sound.of_first hfirst)
  have hp : p.Sound ext := ha.step hdistinct hsave
  have hsaved : Window p p := by
    cases hsave
    exact ⟨rfl, rfl, fun _ _ hr => hr, fun _ hr => .inr hr, fun _ hr => hr⟩
  -- up to the crash the acknowledged reports are in the store, or were acknowledged before the save
  obtain ⟨hwindow, he⟩ : Window p e ∧ e.Sound ext := by
    refine hafter.invariant_on (I := fun x => Window p x ∧ x.Sound ext)
      (C := fun t => t.label ≠ .persist true ∧ t.label.restarts = false) ?_ hunsaved ⟨hsaved, hp⟩
    intro x l x' hl ⟨hx, hsound⟩ hs
    exact ⟨hx.step hsound.honest hl.1 hl.2 hs, hsound.step hdistinct hs⟩
  -- from the restart on nothing changes for the counter
  obtain ⟨hfrozen, _⟩ : Frozen k (p.meter.counters.get k) (p.largest k.counterIdentity) q ∧ q.Sound ext := by
    refine hprocess.invariant_on
      (I := fun x => Frozen k (p.meter.counters.get k) (p.largest k.counterIdentity) x ∧ x.Sound ext)
      (C := fun t => t.label.restarts = false) ?_ honce
      ⟨hwindow.restart hp he hcrash hk, he.step hdistinct hcrash⟩
    intro x l x' hl ⟨hx, hsound⟩ hs
    exact ⟨hx.step hsound hdistinct hl hs, hsound.step hdistinct hs⟩
  refine ⟨hfrozen.total, ?_⟩
  rw [hfrozen.largest, hfrozen.total, hp.mark k hk, UInt64.toNat_inj]

/-! ### Bytes that were reported before the save, and bytes that were not -/

def traffic : List Action := [.record "environment" "route" 1 10 0]

/-- The ten bytes are reported, saved and delivered. -/
def reportTraffic : List Action := [.flush moment [tenBytes "first"], .persist true, .deliver true]

def nextReports : List Action := [.flush moment [tenBytes "first"], .persist true]

/-- With the ten bytes reported before the save, the acknowledged value is the total of the next process. -/
theorem crash_recovery_reported :
    ∃ p q, exec (step smallExternals smallConfig) smallEdge (traffic ++ reportTraffic ++ [.persist true]) = some p
      ∧ exec (step smallExternals smallConfig) p (.restart "second" moment [] :: nextReports) = some q
      ∧ q.largest (ingressKey "first").counterIdentity = (q.meter.counters.get (ingressKey "first")).toNat := by
  obtain ⟨a, ha, p, hp, hepoch, hreported, s, hs, hsome⟩ :
      ∃ a, exec (step smallExternals smallConfig) smallEdge (traffic ++ reportTraffic) = some a
      ∧ ∃ p, step smallExternals smallConfig a (.persist true) = some p ∧ p.meter.epoch = "first"
        ∧ p.meter.reported (ingressKey "first").counterIdentity = p.meter.counters.get (ingressKey "first")
        ∧ ∃ s, step smallExternals smallConfig p (.restart "second" moment []) = some s
          ∧ (exec (step smallExternals smallConfig) s nextReports).isSome = true := by
    decide +kernel
  obtain ⟨q, hq⟩ := isSome_iff_exists.mp hsome
  have honce : ∀ t ∈ trace (step smallExternals smallConfig) s nextReports, t.label.restarts = false := by
    intro t ht
    have hlabels : ∀ l ∈ nextReports, l.restarts = false := by decide
    exact hlabels _ (label_mem_of_mem_trace ht)
  have h := crash_recovery smallExternals smallExternals_distinct smallConfig "first" smallEdge rfl _ [] _ a p p s q
    (exec_run ha) hp Run.refl (by simp) "second" moment [] hs (exec_run hq) honce (ingressKey "first") hepoch.symm
  refine ⟨p, q, ?_, ?_, h.2.mpr hreported⟩
  · rw [exec_append, ha, bind_some, exec, hp, bind_some, exec]
  · rw [exec, hs, bind_some, hq]

/-- **Saved bytes that no process reports**: the ten bytes are saved before a `Flush`, and the next process takes them
    as reported. -/
theorem saved_bytes_lost :
    ∃ s q, exec (step smallExternals smallConfig) smallEdge (traffic ++ [.persist true, .restart "second" moment []])
        = some s
      ∧ (s.meter.flush smallExternals moment [tenBytes "first"]).2 = none
      ∧ exec (step smallExternals smallConfig) s nextReports = some q
      ∧ q.meter.counters.get (ingressKey "first") = 10
      ∧ q.largest (ingressKey "first").counterIdentity = 0 := by
  simp only [exists_and_left]
  decide +kernel

/-! ## No byte is reported that was not recorded -/

def counts (id : Key) (t : Transition Edge Action) : Nat :=
  match t.label with
  | .record environment route revision ingress egress =>
    t.pre.meter.recorded environment route revision ingress egress id
  | _ => 0

/-- The bytes that a run records for a counter, in all its processes. -/
def counted (id : Key) (tr : Trace Edge Action) : Nat := (tr.map (counts id)).sum

/-- The totals and the reports, also those in the store, are bounded. -/
structure Bounded (b : Key → Nat) (e : Edge) : Prop where
  totals : ∀ k, (e.meter.counters.get k).toNat ≤ b k.counterIdentity
  reports : ∀ r ∈ e.meter.queue.pending.values ++ e.delivered ++ e.store.pending,
    r.bytes.toNat ≤ b r.key.counterIdentity
  saved : ∀ record ∈ e.store.counters, record.bytes.toNat ≤ b record.key.counterIdentity

variable {b : Key → Nat}

theorem Bounded.mono {b' : Key → Nat} (h : e.Bounded b) (hle : ∀ id, b id ≤ b' id) : e.Bounded b' :=
  ⟨fun k => (h.totals k).trans (hle _), fun r hr => (h.reports r hr).trans (hle _),
    fun record hrec => (h.saved record hrec).trans (hle _)⟩

theorem Bounded.record_le (h : e.Bounded b) (hnamed : e.meter.counters.Named) {record : CounterRecord}
    (hrec : record ∈ e.meter.counters.snapshot) : record.bytes.toNat ≤ b record.key.counterIdentity := by
  have htot := h.totals record.key
  rw [Counters.get, hnamed.mem.mp hrec] at htot
  exact htot

theorem Bounded.flush (h : e.Bounded b) (hnamed : e.meter.counters.Named) {now : Time}
    (hord : recs.Perm e.meter.counters.snapshot) : (e.flush ext now recs).Bounded b := by
  have hpend : ∀ r ∈ (e.meter.flush ext now recs).1.queue.pending.values,
      r.bytes.toNat ≤ b r.key.counterIdentity := by
    refine Meter.flushLoop_rule (I := fun m => ∀ r ∈ m.queue.pending.values,
      r.bytes.toNat ≤ b r.key.counterIdentity) ?_ (fun r hr => h.reports r (by simp [hr]))
    intro record hrec m m' hturn hm r hr
    obtain ⟨_, _, hkey, hbytes, hlatest⟩ := hturn.queue
    rcases hlatest.mem_of_mem hr with rfl | hin
    · rw [hkey, hbytes]
      exact h.record_le hnamed (hord.mem_iff.mp hrec)
    · exact hm r hin
  unfold Edge.flush
  rw [Meter.flush_eq]
  refine ⟨h.totals, fun r hr => ?_, h.saved⟩
  rw [append_assoc, mem_append] at hr
  exact hr.elim (hpend r) (fun hin => h.reports r (append_assoc .. ▸ mem_append_right _ hin))

theorem get_le_of_booted {saved : Saved} {epoch : String} {m : Meter} (h : Booted saved epoch m)
    (hstorable : Counters.Storable saved.counters)
    (hsaved : ∀ record ∈ saved.counters, record.bytes.toNat ≤ b record.key.counterIdentity) (k : Key) :
    (m.counters.get k).toNat ≤ b k.counterIdentity := by
  rw [h.counters, Counters.get]
  cases hrec : (restoreCounters saved.counters).values.lookup k.counterIdentity with
  | none => exact Nat.zero_le _
  | some record =>
    obtain ⟨_, hr, hid, rfl⟩ := ((restoreParts_collects hstorable.consistent (.refl _)).1 _ _).mp hrec
    exact hid ▸ hsaved _ (Counters.mem_restorable.mp hr).1

/-- **Only `Record` raises a bound**, by its bytes. -/
theorem Bounded.step (h : e.Bounded b) (hsound : e.Sound ext) (hstep : e.step ext cfg action = some e') :
    e'.Bounded (fun id => b id + counts id ⟨e, action, e'⟩) := by
  have hmono : e.Bounded (fun id => b id + counts id ⟨e, action, e'⟩) := h.mono (fun id => Nat.le_add_right ..)
  cases step_move hstep with
  | record =>
    refine ⟨fun k => ?_, ?_, hmono.saved⟩
    · show (Counters.get _ k.counterIdentity).toNat ≤ _
      rw [Edge.record, Meter.get_record e.meter rfl]
      exact (min_le_left _ _).trans (Nat.add_le_add_right (h.totals k) _)
    have hreports := hmono.reports
    unfold Edge.record
    rw [Meter.record_eq]
    exact hreports
  | flush order => exact h.flush hsound.keyed.named order
  | persist =>
    refine ⟨h.totals, fun r hr => h.reports r ?_, fun record hrec => h.record_le hsound.keyed.named hrec⟩
    simp only [Edge.persist, Edge.store, getD_some, Meter.saved, mem_append, Queue.mem_snapshot hsound.honest.filed]
      at hr ⊢
    tauto
  | unchanged => exact hmono
  | deliver _ next =>
    have hrep := Queue.mem_of_next next
    refine ⟨h.totals, fun r hr => h.reports r ?_, h.saved⟩
    simp only [Edge.acknowledge, Edge.store, mem_append, Queue.mem_ack hsound.honest.filed hrep, mem_singleton] at hr ⊢
    rcases hr with (hr | hr | rfl) | hr
    all_goals tauto
  | restart | correct =>
    obtain ⟨_, hboot, _, hdelivered, hdisk⟩ := hsound.of_restart (step_move hstep)
    have hstore : Edge.store _ = e.store := congrArg (·.getD ⟨[], []⟩) hdisk
    refine ⟨get_le_of_booted hboot hsound.store.storable hmono.saved, fun r hr => hmono.reports r ?_, hstore ▸ hmono.saved⟩
    rw [hstore, hdelivered] at hr
    simp only [mem_append, hboot.pending] at hr ⊢
    tauto

/-- **No byte is reported that was not recorded.** After every run of an edge, with any number of crashes: no value
    that is pending or acknowledged, and no total, is above the bytes recorded for its counter. -/
theorem largest_le_counted (ext : Externals) (hdistinct : ext.Distinct) (cfg : Config) (epoch : String) (e₀ q : Edge)
    (hfirst : first cfg epoch = .ok e₀) (tr : Trace Edge Action) (hrun : Run (step ext cfg) e₀ tr q)
    (k : Key) : q.largest k.counterIdentity ≤ counted k.counterIdentity tr
      ∧ (q.meter.counters.get k).toNat ≤ counted k.counterIdentity tr := by
  have hbounded : q.Bounded (counted · tr) ∧ q.Sound ext := by
    refine hrun.trace_invariant (I := fun tr e => e.Bounded (counted · tr) ∧ e.Sound ext) ⟨?_, Sound.of_first hfirst⟩ ?_
    · obtain ⟨_, hboot, rfl⟩ := Checks.map_ok_iff.mp hfirst
      have hspec := (boot_spec (Saved.Sound.empty ext []) (boot_getD cfg none epoch ▸ hboot)).2
      exact ⟨get_le_of_booted (b := (counted · [])) hspec ⟨nodup_nil, nofun⟩ nofun,
        fun r hr => by simp [Edge.store, hspec.pending] at hr, nofun⟩
    · intro tr e l e' ⟨h, hsound⟩ hstep
      refine ⟨?_, hsound.step hdistinct hstep⟩
      simpa [counted] using h.step hsound hstep
  exact ⟨mark_le_iff.mpr (fun r hr hid => hid ▸ hbounded.1.reports r (mem_append_left _ hr)), hbounded.1.totals k⟩

/-- Ten bytes come in and are reported, and the process after a crash has nothing to add. -/
theorem largest_le_counted_restarted :
    let calls := traffic ++ reportTraffic ++ .restart "second" moment [] :: nextReports
    let id := (ingressKey "first").counterIdentity
    ∃ q, exec (step smallExternals smallConfig) smallEdge calls = some q
      ∧ q.largest id ≤ counted id (trace (step smallExternals smallConfig) smallEdge calls)
      ∧ counted id (trace (step smallExternals smallConfig) smallEdge calls) = 10 := by
  intro calls id
  have hsome : (exec (step smallExternals smallConfig) smallEdge calls).isSome = true := by decide +kernel
  have h := largest_le_counted smallExternals smallExternals_distinct smallConfig "first" smallEdge _ rfl _
    (exec_getD_run hsome) (ingressKey "first")
  exact ⟨_, exec_getD hsome, h.1, by decide +kernel⟩

end Edge

end PaperboatTunnel.Usage
