import PaperboatTunnel.Runtime.DataPlane
import PaperboatTunnel.Usage.Accounting

/-!
# `FinalAccounting` — what a shutdown accounts for

`DataPlane.Shutdown` stops the usage worker first, and the worker makes its last `Flush` while the other components
still forward traffic. Bytes that are recorded after this `Flush` are in no report; bytes that were recorded before it
are in one that was delivered or that the final save has.
-/

namespace PaperboatTunnel.Runtime

open GoTime TransitionSystem Usage Watermark List Option UInt64 Nat

namespace DataPlane

variable {ext : Externals} {spec : DataPlaneSpec} {d d' : DataPlane} {action : Action} {c : Component} {success : Bool}

/-! ## Counting -/

variable (spec)

/-- Some of the public ingress, the routes, the carrier and the gateway has not finished its `Shutdown`. -/
def forwarding (d : DataPlane) : Bool :=
  (shutdownOrder spec).any (fun c => c.forwards && !d.finished.contains c)

/-- The bytes that a step records for a counter while there is forwarding. -/
def counts (id : Key) (t : Transition DataPlane Action) : Nat :=
  match t.label with
  | .record environment route revision ingress egress =>
    if t.pre.forwarding spec then t.pre.edge.meter.recorded environment route revision ingress egress id else 0
  | _ => 0

def counted (id : Key) (tr : Trace DataPlane Action) : Nat := (tr.map (counts spec id)).sum

def Action.records : Action → Bool
  | .record .. => true
  | _ => false

variable {spec} {t : Transition DataPlane Action} {egress ingress rev : UInt64} {env route : String}

theorem counts_eq_zero (h : t.label.records = false) (id : Key) : counts spec id t = 0 := by
  unfold counts
  split
  case h_1 hlabel =>
    rw [hlabel] at h
    cases h
  case h_2 => rfl

theorem counted_snoc (id : Key) (tr : Trace DataPlane Action) (t : Transition DataPlane Action) :
    counted spec id (tr ++ [t]) = counted spec id tr + counts spec id t := by
  simp [counted]

/-- `Shutdown` of the worker has made its last `Flush`: there is nothing left to deliver. -/
def PastLastFlush (d : DataPlane) : Prop := d.mode = .stopped
    ∨ d.mode = .draining ∧ (d.stage = .enqueued ∨ d.stage = .flushed) ∧ d.edge.meter.queue.next = none

/-- The bytes that the step records while there is forwarding come before the last `Flush`, and their counter has room
    for them. -/
def Timely (spec : DataPlaneSpec) (t : Transition DataPlane Action) : Prop := ∀ id, counts spec id t ≠ 0 →
    ¬ t.pre.PastLastFlush ∧ (t.pre.edge.meter.counters.get id).toNat + counts spec id t < 2 ^ 64

/-! ## Order -/

/-- The components stop in their order. The final save, when it worked, has the reports of the queue. -/
structure Orderly (spec : DataPlaneSpec) (d : DataPlane) : Prop where
  serving : d.remaining = none → d.finished = []
  order : ∀ l, d.remaining = some l → d.finished.reverse ++ l = shutdownOrder spec
  draining : d.mode = .draining → d.current = some .usage
  stopped : .usage ∈ d.finished → .usage ∉ d.failures → d.mode = .stopped
  saved : .persistence ∈ d.finished → .persistence ∉ d.failures → .usage ∉ d.failures →
    d.mode = .stopped ∧ ∃ saved, d.edge.disk = some saved
      ∧ ∀ r, r ∈ saved.pending ↔ r ∈ d.edge.meter.queue.pending.values

theorem remaining_of_current (h : d.current = some c) : ∃ rest, d.remaining = some (c :: rest) := by
  unfold current at h
  obtain ⟨l, hl, hhead⟩ := bind_eq_some_iff.mp h
  cases l with
  | nil => cases hhead
  | cons _ rest => exact ⟨rest, by rw [hl, some.inj hhead]⟩

variable (h : d.Orderly spec)

include h

/-- A worker that is active may do anything: nothing is said of the final save yet. -/
theorem Orderly.work (hact : d.mode ≠ .stopped) (edge : Edge) (stage : Stage) : Orderly spec { d with edge, stage } :=
  { h with saved := fun hin hok husage => absurd (h.saved hin hok husage).1 hact }

/-- **A component returns.** -/
theorem Orderly.returns (hcur : d.current = some c) (hmode : d.mode ≠ .draining)
    (husage : c = .usage → success = true → d.mode = .stopped)
    (hsaved : c = .persistence → success = true → .usage ∉ d.failures → d.mode = .stopped
      ∧ ∃ saved, d.edge.disk = some saved ∧ ∀ r, r ∈ saved.pending ↔ r ∈ d.edge.meter.queue.pending.values) :
    (d.returns c success).Orderly spec := by
  obtain ⟨_, hrest⟩ := remaining_of_current hcur
  have hfails : ∀ x, x ∉ (d.returns c success).failures → x ∉ d.failures ∧ (x = c → success = true) := by
    intro x hx
    cases success with
    | true => exact ⟨hx, fun _ => rfl⟩
    | false => exact ⟨fun hin => hx (mem_cons_of_mem _ hin), fun heq => absurd (heq ▸ mem_cons_self) hx⟩
  constructor
  case serving =>
    intro hnone
    simp [DataPlane.returns, hrest] at hnone
  case order =>
    intro l hl
    simp only [DataPlane.returns, hrest, map_some, tail_cons, some.injEq] at hl
    subst hl
    simpa [DataPlane.returns] using h.order _ hrest
  case draining => exact hmode.elim
  case stopped =>
    intro hin hok
    obtain ⟨hbefore, hsucc⟩ := hfails _ hok
    rcases mem_cons.mp hin with heq | hold
    · exact husage heq.symm (hsucc heq)
    · exact h.stopped hold hbefore
  case saved =>
    intro hin hok husageOk
    obtain ⟨hbefore, hsucc⟩ := hfails _ hok
    obtain ⟨husageBefore, _⟩ := hfails _ husageOk
    rcases mem_cons.mp hin with heq | hold
    · exact hsaved heq.symm (hsucc heq) husageBefore
    · exact h.saved hold hbefore husageBefore

theorem Orderly.stop (hdraining : d.mode = .draining) :
    (DataPlane.returns { d with mode := .stopped, stage := .idle } .usage success).Orderly spec := by
  have hstopped : Orderly spec { d with mode := .stopped, stage := .idle } := { h with
      draining := nofun
      stopped := fun _ _ => rfl
      saved := fun hin hok husage => ⟨rfl, (h.saved hin hok husage).2⟩ }
  exact hstopped.returns (h.draining hdraining) nofun (fun _ _ => rfl) nofun

theorem Orderly.failed (hact : d.mode ≠ .stopped) : d.failed.Orderly spec := by
  unfold DataPlane.failed
  split
  case isTrue hdraining => exact h.stop hdraining
  case isFalse => exact h.work hact d.edge .idle

theorem Orderly.drained (hact : d.mode ≠ .stopped) : d.drained.Orderly spec := by
  unfold DataPlane.drained
  split
  case isTrue hdraining => exact h.stop hdraining
  case isFalse => exact h.work hact d.edge .idle

/-- The worker is the first to stop, so it has stopped when the final save comes. -/
theorem Orderly.usage_finished (hcur : d.current = some c) (hne : c ≠ .usage) : .usage ∈ d.finished := by
  obtain ⟨_, hrest⟩ := remaining_of_current hcur
  have hord := h.order _ hrest
  cases hfinished : d.finished.reverse with
  | nil =>
    rw [hfinished] at hord
    exact absurd (cons.inj hord).1 hne
  | cons x =>
    rw [hfinished] at hord
    have hx : x = .usage := (cons.inj hord).1
    exact mem_reverse.mp (by rw [hfinished, hx]; exact mem_cons_self)

/-- **Every step keeps the order.** -/
theorem Orderly.step (hfiled : d.edge.meter.queue.Filed) (hstep : d.step ext spec action = some d') :
    d'.Orderly spec := by
  cases step_move hstep with
  | record =>
    refine { h with saved := fun hin hok husage => ?_ }
    obtain ⟨hmode, saved, hdisk, hpend⟩ := h.saved hin hok husage
    refine ⟨hmode, saved, hdisk, fun r => ?_⟩
    rw [hpend, Edge.record, Meter.record_eq]
  | flush active | persist active | settle active | deliver active => exact h.work active _ _
  | flushError active => exact (h.work active _ d.stage).failed active
  | error active => exact h.failed active
  | drained active => exact h.drained active
  | shutdown serving =>
    have hnone := h.serving serving
    refine { h with serving := nofun, order := ?_, draining := ?_ }
    · rintro l hl
      cases hl
      rw [hnone]
      rfl
    · intro hdraining
      have hcur := h.draining hdraining
      simp [current, serving] at hcur
  | drain waiting running =>
    refine { h with draining := fun _ => waiting, stopped := ?_, saved := ?_ }
    · intro hin hok
      rw [h.stopped hin hok] at running
      cases running
    · intro hin hok husage
      rw [(h.saved hin hok husage).1] at running
      cases running
  | abandon waiting running => exact h.returns waiting (by simp [running]) nofun nofun
  | save waiting =>
    have husage := h.usage_finished waiting (by decide)
    have hdraining : d.mode ≠ .draining := by
      intro hdraining
      rw [h.draining hdraining] at waiting
      cases waiting
    have hpersist : Orderly spec { d with edge := d.edge.persist } := { h with
        saved := fun hin hok hno => ⟨(h.saved hin hok hno).1, _, rfl, fun r => Queue.mem_snapshot hfiled⟩ }
    refine hpersist.returns waiting hdraining nofun (fun _ _ hok => ?_)
    exact ⟨h.stopped husage hok, _, rfl, fun r => Queue.mem_snapshot hfiled⟩
  | finish waiting other unsaved =>
    have hdraining : d.mode ≠ .draining := by
      intro hdraining
      rw [h.draining hdraining] at waiting
      exact other (some.inj waiting).symm
    refine h.returns waiting hdraining (fun heq => absurd heq other) (fun heq hsucc => ?_)
    rw [unsaved heq] at hsucc
    cases hsucc

omit h

/-! ## Accounting -/

/-- After a `Flush` without an error the totals have all been reported. -/
theorem get_le_reported {m : Meter} (hkeyed : m.counters.Keyed) {now : Time} {recs : List CounterRecord}
    (hord : recs.Perm m.counters.snapshot) (hok : (m.flush ext now recs).2 = none) {id : Key}
    (hid : id.counterIdentity = id) : m.counters.get id ≤ (m.flush ext now recs).1.reported id := by
  unfold Counters.get
  rw [hid]
  cases hrec : m.counters.values.lookup id with
  | none => exact le_iff_toNat_le.mpr (zero_le _)
  | some record =>
    have hin : record ∈ recs := hord.mem_iff.mpr (GoMap.mem_values_iff.mpr ⟨id, hrec⟩)
    have hcovers := Meter.flushLoop_covers hok record hin
    rw [(hkeyed id record hrec).1] at hcovers
    exact hcovers

/-- The counted bytes are in the counters, on top of what these had at first; after the last `Flush` they have been
    reported. -/
structure Accounted (spec : DataPlaneSpec) (base : Key → Nat) (tr : Trace DataPlane Action) (d : DataPlane) :
    Prop where
  own : ∀ id, counted spec id tr ≠ 0 → id.counterIdentity = id ∧ id.epoch = d.edge.meter.epoch
  total : ∀ id : Key, id.counterIdentity = id → base id + counted spec id tr ≤ (d.edge.meter.counters.get id).toNat
  final : d.PastLastFlush → .usage ∉ d.failures → ∀ id : Key, id.counterIdentity = id →
    base id + counted spec id tr ≤ (d.edge.meter.reported id).toNat

variable {base : Key → Nat} {tr : Trace DataPlane Action}

theorem own_of_recorded {m : Meter} {id : Key} (h : m.recorded env route rev ingress egress id ≠ 0) :
    id.counterIdentity = id ∧ id.epoch = m.epoch := by
  unfold Meter.recorded at h
  split at h
  · exact absurd rfl h
  by_cases hingress : id = (m.key env route rev .ingress).counterIdentity
  · rw [hingress]
    exact ⟨rfl, rfl⟩
  by_cases hegress : id = (m.key env route rev .egress).counterIdentity
  · rw [hegress]
    exact ⟨rfl, rfl⟩
  · rw [if_neg hingress, if_neg hegress] at h
    exact absurd rfl h

theorem counts_le (hlabel : t.label = .record env route rev ingress egress) (id : Key) :
    counts spec id t ≤ t.pre.edge.meter.recorded env route rev ingress egress id := by
  unfold counts
  rw [hlabel]
  dsimp only
  split
  · exact le_refl _
  · exact zero_le _

/-- Bytes are recorded before the last `Flush`, or do not count. -/
theorem Accounted.record (h : Accounted spec base tr t.pre) (htimely : Timely spec t)
    (hlabel : t.label = .record env route rev ingress egress)
    (hd' : d' = { t.pre with edge := t.pre.edge.record env route rev ingress egress }) :
    Accounted spec base (tr ++ [t]) d' := by
  have hle : ∀ id, counts spec id t ≤ _ := counts_le hlabel
  have hmeter : d'.edge.meter = { t.pre.edge.meter with
      counters := (t.pre.edge.meter.record env route rev ingress egress).1.counters } := by
    rw [hd']
    exact Meter.record_eq _ _ _ _ _ _
  constructor
  case own =>
    intro id hid
    rw [counted_snoc] at hid
    rw [hmeter]
    by_cases hbefore : counted spec id tr = 0
    · have hadded := hle id
      have hne : t.pre.edge.meter.recorded env route rev ingress egress id ≠ 0 := by omega
      exact own_of_recorded hne
    · exact h.own id hbefore
  case total =>
    intro id hid
    have hbefore := h.total id hid
    have hadded := hle id
    have hbound : (t.pre.edge.meter.counters.get id).toNat < 2 ^ 64 := toNat_lt _
    rw [hmeter, counted_snoc, Meter.get_record t.pre.edge.meter hid]
    by_cases hcounts : counts spec id t = 0
    · omega
    · have hroom := (htimely id hcounts).2
      omega
  case final =>
    intro hpast hok id hid
    -- the step does not change what comes after the last `Flush`, so its bytes do not count
    have hbefore : t.pre.PastLastFlush := by
      rw [PastLastFlush, hmeter, hd'] at hpast
      exact hpast
    have hnone : counts spec id t = 0 := by
      by_contra hcounts
      exact (htimely id hcounts).1 hbefore
    rw [counted_snoc, hnone, add_zero, Meter.reported, hmeter]
    rw [hd'] at hok
    exact h.final hbefore hok id hid

theorem Accounted.quiet (h : Accounted spec base tr d) (hsilent : t.label.records = false)
    (hkept : (d'.edge.meter.epoch, d'.edge.meter.counters) = (d.edge.meter.epoch, d.edge.meter.counters))
    (hfin : d'.PastLastFlush → .usage ∉ d'.failures → ∀ id : Key, id.counterIdentity = id →
      base id + counted spec id tr ≤ (d'.edge.meter.reported id).toNat) :
    Accounted spec base (tr ++ [t]) d' := by
  have hsame : ∀ id, counted spec id (tr ++ [t]) = counted spec id tr := by
    intro id
    rw [counted_snoc, counts_eq_zero hsilent, add_zero]
  obtain ⟨hepoch, hcounters⟩ := Prod.mk.inj hkept
  constructor
  case own =>
    intro id hid
    rw [hsame] at hid
    rw [hepoch]
    exact h.own id hid
  case total =>
    intro id hid
    rw [hsame, hcounters]
    exact h.total id hid
  case final =>
    intro hpast hok id hid
    rw [hsame]
    exact hfin hpast hok id hid

/-- When `deliver` returns an error, the last `Flush` is still to come or the worker has failed. -/
theorem usage_of_failed (hact : d.mode ≠ .stopped) (hpast : d.failed.PastLastFlush) : .usage ∈ d.failed.failures := by
  unfold failed at hpast ⊢
  split at hpast
  case isTrue hdraining =>
    rw [if_pos hdraining]
    exact mem_cons_self
  case isFalse hrunning => exact absurd (Or.resolve_left hpast hact).1 hrunning

theorem edge_failed (d : DataPlane) : d.failed.edge = d.edge := by
  unfold failed
  split <;> rfl

theorem edge_drained (d : DataPlane) : d.drained.edge = d.edge := by
  unfold drained
  split <;> rfl

/-- **Every step keeps the account.** -/
theorem Accounted.step (h : Accounted spec base tr d) (hkeyed : d.edge.meter.counters.Keyed)
    (htimely : Timely spec ⟨d, action, d'⟩) (hstep : d.step ext spec action = some d') :
    Accounted spec base (tr ++ [⟨d, action, d'⟩]) d' := by
  cases step_move hstep with
  | record => exact h.record htimely rfl rfl
  | flush _ order ok =>
    refine h.quiet rfl (by rw [Edge.flush, Meter.flush_eq]) (fun _ _ id hid => ?_)
    exact le_trans (h.total id hid) (le_iff_toNat_le.mp (get_le_reported hkeyed order ok hid))
  | flushError active =>
    refine h.quiet rfl ?_ (fun hpast hok => absurd (usage_of_failed (by exact active) hpast) hok)
    rw [edge_failed, Edge.flush, Meter.flush_eq]
  | persist active stage =>
    refine h.quiet rfl rfl (fun hpast hok => h.final ?_ hok)
    obtain ⟨hdraining, _, hnext⟩ := Or.resolve_left hpast active
    exact .inr ⟨hdraining, .inl stage, hnext⟩
  | settle active | deliver active =>
    refine h.quiet rfl rfl (fun hpast => ?_)
    obtain ⟨_, hstage, _⟩ := Or.resolve_left hpast active
    simp at hstage
  | error active cause =>
    refine h.quiet ?_ (by rw [edge_failed]) (fun hpast hok => absurd (usage_of_failed active hpast) hok)
    rcases cause with rfl | rfl <;> rfl
  | drained active stage next =>
    refine h.quiet rfl (by rw [edge_drained]) (fun hpast hok => ?_)
    rw [edge_drained]
    unfold drained at hpast hok
    split at hpast
    case isTrue hdraining =>
      rw [if_pos hdraining] at hok
      exact h.final (.inr ⟨hdraining, .inr stage, next⟩) hok
    case isFalse hrunning => exact absurd (Or.resolve_left hpast active).1 hrunning
  | shutdown | save => exact h.quiet rfl rfl (fun hpast hok => h.final hpast hok)
  | drain _ _ stage =>
    refine h.quiet rfl rfl (fun hpast => ?_)
    obtain ⟨_, hstage, _⟩ := Or.resolve_left hpast nofun
    simp [stage] at hstage
  | abandon => exact h.quiet rfl rfl (fun _ hok => absurd mem_cons_self hok)
  | @finish _ success =>
    refine h.quiet rfl rfl (fun hpast hok => h.final hpast (fun husage => hok ?_))
    cases success with
    | true => exact husage
    | false => exact mem_cons_of_mem _ husage

theorem sound_step (hdist : ext.Distinct) (h : d.edge.Sound ext) (hstep : d.step ext spec action = some d') :
    d'.edge.Sound ext := by
  cases step_move hstep with
  | record => exact h.record _ _ _ _ _
  | flush _ order => exact h.flush hdist order
  | flushError _ order =>
    rw [edge_failed]
    exact h.flush hdist order
  | persist | settle | save => exact h.persist
  | error =>
    rw [edge_failed]
    exact h
  | deliver _ _ next => exact h.acknowledge next
  | drained =>
    rw [edge_drained]
    exact h
  | shutdown | drain | abandon | finish => exact h

/-- When `Shutdown` has returned without an error, every component has finished. -/
theorem Orderly.complete (h : d.Orderly spec) (hdone : d.remaining = some []) (hc : c ∈ shutdownOrder spec) :
    c ∈ d.finished := by
  have hord := h.order _ hdone
  rw [append_nil] at hord
  rw [← hord] at hc
  exact mem_reverse.mp hc

/-- **What a shutdown accounts for.** A data plane with the usage of any edge runs, and its `Shutdown` returns without
    an error. If the bytes that were recorded while the public ingress, the routes, the carrier or the gateway had not
    finished came before the last `Flush` of the usage worker, and their counters had room for them, then for every
    such counter there is a report, delivered or in the final save, whose absolute value has all these bytes and those
    that the counter had before. -/
theorem shutdown_accounts (ext : Externals) (hdistinct : ext.Distinct) (cfg : Config) (epoch : String) (e₀ e : Edge)
    (hfirst : Edge.first cfg epoch = .ok e₀) (tr₀ : Trace Edge Edge.Action)
    (hedge : Run (Edge.step ext cfg) e₀ tr₀ e) (spec : DataPlaneSpec) (tr : Trace DataPlane Action)
    (q : DataPlane) (hrun : Run (step ext spec) { edge := e } tr q) (htimely : ∀ t ∈ tr, Timely spec t)
    (hdone : q.remaining = some []) (hok : q.failures = []) :
    ∃ saved, q.edge.disk = some saved ∧ ∀ id : Key, counted spec id tr ≠ 0 →
      ∃ r ∈ saved.pending ++ q.edge.delivered, r.key.counterIdentity = id ∧
        (e.meter.counters.get id).toNat + counted spec id tr ≤ r.bytes.toNat := by
  have he : e.Sound ext := hedge.invariant (fun h hs => h.step hdistinct hs) (Edge.Sound.of_first hfirst)
  have hinitial : Accounted spec (fun id => (e.meter.counters.get id).toNat) [] { edge := e } := by
    refine ⟨fun id hid => absurd rfl hid, fun id _ => le_refl _, fun hpast => ?_⟩
    rcases hpast with hstopped | ⟨hdraining, _⟩
    · cases hstopped
    · cases hdraining
  have horderly : Orderly spec { edge := e } := ⟨fun _ => rfl, nofun, nofun, nofun, nofun⟩
  obtain ⟨hsound, hord, haccount⟩ : q.edge.Sound ext ∧ q.Orderly spec
      ∧ Accounted spec (fun id => (e.meter.counters.get id).toNat) tr q := by
    refine hrun.trace_invariant_on (C := Timely spec) (I := fun tr d => d.edge.Sound ext ∧ d.Orderly spec
        ∧ Accounted spec (fun id => (e.meter.counters.get id).toNat) tr d) ?_ htimely ⟨he, horderly, hinitial⟩
    intro tr d action d' ht ⟨hsound, hord, haccount⟩ hstep
    exact ⟨sound_step hdistinct hsound hstep, hord.step hsound.honest.filed hstep,
      haccount.step hsound.keyed ht hstep⟩
  have hfails : ∀ c, c ∉ q.failures := by simp [hok]
  have hpersistence : .persistence ∈ q.finished := hord.complete hdone (by simp [shutdownOrder])
  obtain ⟨hstopped, saved, hdisk, hpend⟩ := hord.saved hpersistence (hfails _) (hfails _)
  refine ⟨saved, hdisk, fun id hcounted => ?_⟩
  obtain ⟨hid, hepoch⟩ := haccount.own id hcounted
  have hfin := haccount.final (.inl hstopped) (hfails _) id hid
  -- the total that was reported last is the largest value that is pending or acknowledged
  have hmark : mark (fun r : Report => r.key.counterIdentity) (fun r => r.bytes.toNat) id
      (saved.pending ++ q.edge.delivered) = (q.edge.meter.reported id).toNat := by
    rw [← hid, ← hsound.mark id hepoch]
    refine mark_congr (fun r _ => ?_)
    rw [mem_append, mem_append, hpend]
  have hpos : mark (fun r : Report => r.key.counterIdentity) (fun r => r.bytes.toNat) id
      (saved.pending ++ q.edge.delivered) ≠ 0 := by
    rw [hmark]
    omega
  obtain ⟨r, hr, hkey, hvalue⟩ := exists_mark_eq hpos
  refine ⟨r, hr, hkey, ?_⟩
  rw [hvalue, hmark]
  exact hfin

/-! ### Bytes before the last `Flush`, and bytes after it -/

def traffic : Action := .record "environment" "route" 1 10 0

def stopOthers : List Action := List.replicate 7 (.finish true)

/-- The usage worker delivers a report of the ten bytes, and a second `deliver` finds nothing. -/
def drainReports : List Action :=
  [.shutdown, .drain, .flush moment [tenBytes "first"], .persist true, .deliver true, .persist true,
    .flush moment [tenBytes "first"], .persist true, .deliver true]

theorem timely_traffic (d' : DataPlane) : Timely {} ⟨{ edge := smallEdge }, traffic, d'⟩ := by
  intro id _
  have hle : counts {} id ⟨{ edge := smallEdge }, traffic, d'⟩
      ≤ smallEdge.meter.recorded "environment" "route" 1 10 0 id := counts_le rfl id
  have hten : smallEdge.meter.recorded "environment" "route" 1 10 0 id ≤ 10 := by
    unfold Meter.recorded
    split
    · omega
    · split <;> split <;> decide
  have hempty : (smallEdge.meter.counters.get id).toNat = 0 := rfl
  refine ⟨?_, ?_⟩
  · rintro (hstopped | ⟨hdraining, _⟩)
    · cases hstopped
    · cases hdraining
  · show (smallEdge.meter.counters.get id).toNat + _ < _
    omega

/-- With the ten bytes recorded before the `Shutdown`, a report has them. -/
theorem shutdown_accounts_traffic :
    ∃ q saved, exec (step smallExternals {}) { edge := smallEdge } (traffic :: (drainReports ++ stopOthers)) = some q
      ∧ q.edge.disk = some saved
      ∧ ∃ r ∈ saved.pending ++ q.edge.delivered, r.key.counterIdentity = (ingressKey "first").counterIdentity
        ∧ 10 ≤ r.bytes.toNat := by
  let labels := traffic :: (drainReports ++ stopOthers)
  let tr := trace (step smallExternals {}) { edge := smallEdge } labels
  have hcounted : counted {} (ingressKey "first").counterIdentity tr = 10 := by decide +kernel
  have h : (exec (step smallExternals {}) { edge := smallEdge } labels).isSome = true := by decide +kernel
  have htimely : ∀ t ∈ tr, Timely {} t := by
    unfold tr labels
    rw [trace]
    intro t ht
    rcases mem_cons.mp ht with rfl | hrest
    · exact timely_traffic _
    -- the other steps record nothing
    have hsilent : ∀ l ∈ drainReports ++ stopOthers, l.records = false := by decide
    intro id hcounts
    exact absurd (counts_eq_zero (hsilent _ (label_mem_of_mem_trace hrest)) id) hcounts
  obtain ⟨saved, hdisk, hreports⟩ := shutdown_accounts smallExternals smallExternals_distinct smallConfig "first"
    smallEdge smallEdge rfl [] Run.refl {} _ _ (exec_getD_run h) htimely (by decide +kernel) (by decide +kernel)
  obtain ⟨r, hr, hkey, hbytes⟩ := hreports (ingressKey "first").counterIdentity (by rw [hcounted]; decide)
  rw [hcounted] at hbytes
  exact ⟨_, saved, exec_getD h, hdisk, r, hr, hkey, le_trans (le_add_left _ _) hbytes⟩

/-- The usage worker has nothing to report and stops, then the ten bytes come in, and the other components stop. -/
def lateTraffic : List Action :=
  [.shutdown, .drain, .flush moment [], .persist true, .deliver true, traffic] ++ stopOthers

/-- **Bytes that no report has**: they come after the usage worker has stopped, while the gateway still forwards. -/
theorem late_bytes_lost : ∃ q, exec (step smallExternals {}) { edge := smallEdge } lateTraffic = some q
      ∧ q.remaining = some [] ∧ q.failures = []
      ∧ counted {} (ingressKey "first").counterIdentity
          (trace (step smallExternals {}) { edge := smallEdge } lateTraffic) = 10
      ∧ q.edge.disk.map Saved.pending = some [] ∧ q.edge.delivered = [] := by
  decide +kernel

end DataPlane

end PaperboatTunnel.Runtime
