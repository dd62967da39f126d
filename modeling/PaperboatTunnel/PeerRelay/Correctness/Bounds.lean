import PaperboatTunnel.PeerRelay.Moves

/-!
# `Bounds` — the limits of the relay manager, and its reports

The table points to the relays that have not been finalized, so these are what `countLocked` counts. A relay is counted
as pending when it is created, moves to the active ones when it is paired, and is given up by `finalize`, which puts at
most one entry into the consumed table for it. Each bound is checked where its number grows.

`finalize` reads whether the relay was started where it takes it out of the table; nobody can start it afterwards.
-/

namespace PaperboatTunnel.PeerRelay

open GoTime TransitionSystem Table Relay Bool

namespace Manager

variable {m m' : Manager} {a : Action}

/-! ## Counting relays on the heap -/

theorem pending_eq (h : m.Indexed) : m.pending = m.heap.countP (fun r => (liveKey r).isSome && !r.started) :=
  Heap.Indexed.countP h _

theorem active_eq (h : m.Indexed) : m.active = m.heap.countP (fun r => (liveKey r).isSome && r.started) :=
  Heap.Indexed.countP h _

theorem length_eq (h : m.Indexed) : m.relays.entries.length = m.heap.countP (fun r => (liveKey r).isSome) :=
  Heap.Indexed.length h

structure Bounded (config : Config) (heap : List Relay) (consumed : GoMap StreamKey Time) : Prop where
  pending_le : (heap.countP (fun r => (liveKey r).isSome && !r.started) : Int) ≤ config.maximumPending
  active_le : (heap.countP (fun r => (liveKey r).isSome && r.started) : Int) ≤ config.maximumActive
  consumed_le : (consumed.entries.length + heap.countP (fun r => (liveKey r).isSome) : Int) ≤ config.maximumConsumed

section Bounded

variable {cfg : Config} {heap : List Relay} {used : GoMap StreamKey Time} {i : Nat} {r r' : Relay}
  (h : Bounded cfg heap used)

include h

theorem Bounded.write (hr : heap[i]? = some r) (hlive : (liveKey r').isSome = (liveKey r).isSome)
    (hstarted : r'.started = r.started) :
    Bounded cfg (heap.set i r') used := by
  constructor
  · rw [countP_set_of_eq hr (by rw [hlive, hstarted])]
    exact h.pending_le
  · rw [countP_set_of_eq hr (by rw [hlive, hstarted])]
    exact h.active_le
  · rw [countP_set_of_eq hr hlive]
    exact h.consumed_le

theorem Bounded.prune (keep : StreamKey → Time → Bool) : Bounded cfg heap (used.filter keep) := by
  refine ⟨h.pending_le, h.active_le, ?_⟩
  have hle : (used.filter keep).entries.length ≤ used.entries.length := GoMap.length_filter_le
  have hbound := h.consumed_le
  omega

/-- **A new relay** is pending, and takes a place that was free. -/
theorem Bounded.create (hlive : (liveKey r).isSome) (hstarted : r.started = false)
    (hcons : (used.entries.length + heap.countP (fun r => (liveKey r).isSome) : Int) < cfg.maximumConsumed)
    (hpend : (heap.countP (fun r => (liveKey r).isSome && !r.started) : Int) < cfg.maximumPending) :
    Bounded cfg (heap ++ [r]) used := by
  constructor
  · rw [countP_snoc, hlive, hstarted]
    simp only [Bool.not_false, Bool.and_self, if_true]
    omega
  · rw [countP_snoc, hstarted]
    simpa using h.active_le
  · rw [countP_snoc, hlive, if_pos rfl]
    omega

/-- **A started relay** moves from the pending ones to the active ones. -/
theorem Bounded.start (hr : heap[i]? = some r) (hlive : (liveKey r).isSome)
    (hlive' : (liveKey r').isSome) (hstarted : r.started = false)
    (hstarted' : r'.started)
    (hroom : (heap.countP (fun r => (liveKey r).isSome && r.started) : Int) < cfg.maximumActive) :
    Bounded cfg (heap.set i r') used := by
  have hwait := countP_set (p := fun r => (liveKey r).isSome && !r.started) (b := r') hr
  have hrunning := countP_set (p := fun r => (liveKey r).isSome && r.started) (b := r') hr
  simp only [hlive, hlive', hstarted, hstarted', Bool.and_self, Bool.not_false, Bool.not_true, Bool.and_false,
    if_true, Bool.false_eq_true, if_false, Nat.add_zero] at hwait hrunning
  have hpend := h.pending_le
  constructor
  · omega
  · omega
  · rw [countP_set_of_eq hr (hlive'.trans hlive.symm)]
    exact h.consumed_le

/-- **A finalized relay** leaves its place to what it has consumed. -/
theorem Bounded.finalize {key : StreamKey} {expiresAt : Time} (hr : heap[i]? = some r)
    (hlive : (liveKey r).isSome) (hdead : (liveKey r').isSome = false) :
    Bounded cfg (heap.set i r') (used.insert key expiresAt) := by
  have hwait := countP_set (p := fun r => (liveKey r).isSome && !r.started) (b := r') hr
  have hrunning := countP_set (p := fun r => (liveKey r).isSome && r.started) (b := r') hr
  have hall := countP_set (p := fun r => (liveKey r).isSome) (b := r') hr
  simp only [hdead, hlive, Bool.false_and, Bool.false_eq_true, if_false, if_true, Nat.add_zero] at hwait hrunning hall
  have hinsert : (used.insert key expiresAt).entries.length ≤ used.entries.length + 1 := GoMap.length_insert_le
  obtain ⟨_, _, _⟩ := h
  exact ⟨by omega, by omega, by omega⟩

end Bounded

theorem isSome_liveKey {r : Relay} : (liveKey r).isSome = decide (r.final = .pending) := by
  by_cases h : r.final = .pending
  · simp [liveKey_of_pending h, h]
  · simp [liveKey_of_ne h, h]

/-- What a second leg does to a relay: it may start it, and then the other leg was there. -/
theorem started_join (r : Relay) (role : Role) (l : Leg) (now : Time) :
    ((r.setLeg role l).start now).started = r.started
      ∨ r.started = false ∧ (r.initiator.isSome || r.host.isSome) = true
        ∧ ((r.setLeg role l).start now).started = true := by
  rcases start_cases (r.setLeg role l) now with hsame | ⟨hstarted, ⟨hinit, hhost⟩, _, _, hstart⟩
  · rw [hsame]
    exact .inl setLeg_started
  refine .inr ⟨setLeg_started.symm.trans hstarted, ?_, by rw [hstart]⟩
  -- the role that was free is one of the two, so the other one was there
  cases role with
  | host => exact or_eq_true_iff.mpr (.inl hinit)
  | initiator | unknown => exact or_eq_true_iff.mpr (.inr hhost)

theorem bounded_step (h : Bounded m.config m.heap m.consumed) (hidx : m.Indexed) (hstep : m.step a = some m') :
    Bounded m'.config m'.heap m'.consumed := by
  have hpruned : ∀ now, Bounded m.config m.heap (m.pruneConsumedLocked now).consumed :=
    fun now => h.prune (fun _ expiresAt => expiresAt.after now)
  cases step_effect hidx hstep with
  | quiet | called | rejected | finished => exact h
  | refused _ _ now => exact hpruned now
  | created _ _ _ now _ _ _ _ _ hcons hpend =>
    rw [length_eq hidx] at hcons
    rw [pending_eq hidx] at hpend
    exact (hpruned now).create (by simp [isSome_liveKey, new]) (by simp [new]) hcons hpend
  | joined _ call stream now startedAt _ r _ _ _ hi hr _ _ hact =>
    have hfin := (hidx.pending_of_lookup hi hr).1
    have hlive : (liveKey r).isSome = true := by simp [isSome_liveKey, hfin]
    have hlive' : (liveKey ((r.setLeg call.admission.role ⟨stream, call.admission.carrier⟩).start startedAt)).isSome
        = true := by simp [isSome_liveKey, hfin]
    rcases started_join r call.admission.role ⟨stream, call.admission.carrier⟩ startedAt with
      hsame | ⟨hstarted, hother, hstarted'⟩
    · exact (hpruned now).write hr (hlive'.trans hlive.symm) hsame
    · have hroom := hact hstarted hother
      rw [active_eq hidx] at hroom
      exact (hpruned now).start hr hlive hlive' hstarted hstarted' hroom
  | expired _ _ hr | terminated _ _ _ _ hr => exact h.write hr rfl rfl
  | moved _ _ _ _ _ hr hmove =>
    exact h.write hr (by simp [isSome_liveKey, final_pending_iff hmove]) hmove.framed.started
  | finalized _ _ _ _ hr hfin => exact h.finalize hr (by simp [isSome_liveKey, hfin]) (by simp [isSome_liveKey])
  | recorded _ _ _ _ _ _ hr hfin => exact h.write hr (by simp [isSome_liveKey, hfin]) rfl

end Manager

/-! ## Reports -/

def reports (recorded : List (Nat × Usage)) (i : Nat) : Nat := recorded.countP (fun e => e.1 == i)

/-- `finalize` is past the report. -/
def Relay.reported (r : Relay) : Bool :=
  match r.final with
  | .recorded | .done => true
  | _ => false

/-- **A relay is reported once, when it was started**, and not before `finalize` has come to the report. -/
structure Metered (heap : List Relay) (recorded : List (Nat × Usage)) : Prop where
  reports_eq : ∀ i r, heap[i]? = some r → reports recorded i = if r.started && r.reported then 1 else 0
  fresh : ∀ i, heap.length ≤ i → reports recorded i = 0
  read : ∀ (i : Nat) (r : Relay) started cause, heap[i]? = some r → r.final = .unlocked started cause →
    started = r.started

variable {heap : List Relay} {recorded : List (Nat × Usage)} {i : Nat} {r r' : Relay}

theorem Metered.write (h : Metered heap recorded) (hr : heap[i]? = some r)
    (hsame : (r'.started && r'.reported) = (r.started && r.reported))
    (hread : ∀ started cause, r'.final = .unlocked started cause → started = r'.started) :
    Metered (heap.set i r') recorded := by
  refine ⟨forall_set h.reports_eq ?_, fun j hj => ?_, fun j s started cause => ?_⟩
  · rw [hsame]
    exact h.reports_eq i r hr
  · apply h.fresh
    simpa using hj
  · exact forall_set (fun j s => h.read j s started cause) (hread started cause) j s

theorem not_reported (h : r.final = .pending) : (r.started && r.reported) = false := by
  simp [reported, h]

theorem Metered.create (h : Metered heap recorded) (hfin : r.final = .pending) : Metered (heap ++ [r]) recorded := by
  refine ⟨forall_snoc h.reports_eq ?_, fun i hi => ?_, fun i s started cause => ?_⟩
  · rw [not_reported hfin]
    exact h.fresh _ (Nat.le_refl _)
  · apply h.fresh
    rw [List.length_append] at hi
    omega
  · refine forall_snoc (fun i s => h.read i s started cause) (fun hunlinked => ?_) i s
    rw [hfin] at hunlinked
    cases hunlinked

/-- **The report.** -/
theorem Metered.record (h : Metered heap recorded) {started : Bool} {cause : List RelayError} {usage : Usage}
    (hr : heap[i]? = some r) (hfin : r.final = .unlocked started cause) (hstarted : r'.started = r.started)
    (hfin' : r'.final = .recorded) :
    Metered (heap.set i r') (if started then recorded ++ [(i, usage)] else recorded) := by
  obtain rfl := h.read i r started cause hr hfin
  have hbefore : reports recorded i = 0 := by
    rw [h.reports_eq i r hr]
    simp [reported, hfin]
  -- what the report adds for each relay
  have hadd : ∀ j, reports (if r.started then recorded ++ [(i, usage)] else recorded) j
      = reports recorded j + if r.started && decide (i = j) then 1 else 0 := by
    intro j
    cases hs : r.started with
    | false => simp
    | true => simp [reports]
  refine ⟨fun j s hs => ?_, fun j hj => ?_, fun j s started cause => ?_⟩
  · rw [hadd j]
    rcases get_set hs with ⟨rfl, rfl⟩ | ⟨hne, hold⟩
    · rw [hbefore]
      simp [reported, hfin', hstarted]
    · rw [h.reports_eq j s hold]
      simp [Ne.symm hne]
  · have hlt := lt_of_get hr
    rw [List.length_set] at hj
    have hne : i ≠ j := by omega
    rw [hadd j, h.fresh j hj]
    simp [hne]
  · refine forall_set (fun j s => h.read j s started cause) (fun hunlinked => ?_) j s
    rw [hfin'] at hunlinked
    cases hunlinked

namespace Manager

variable {m m' : Manager} {a : Action}

theorem metered_step (h : Metered m.heap m.recorded) (hidx : m.Indexed) (hstep : m.step a = some m') :
    Metered m'.heap m'.recorded := by
  cases step_effect hidx hstep with
  | quiet | called | rejected | refused | finished => exact h
  | created =>
    refine h.create ?_
    simp [new]
  | joined _ _ _ _ _ _ _ _ _ _ hi hr =>
    have hpend := (hidx.pending_of_lookup hi hr).1
    refine h.write hr ((not_reported (by simp [hpend])).trans (not_reported hpend).symm)
      (fun started cause hunlinked => ?_)
    rw [start_final, setLeg_final, hpend] at hunlinked
    cases hunlinked
  | expired i r hr | terminated _ i _ r hr => exact h.write hr rfl (fun _ _ => h.read i r _ _ hr)
  | moved i r _ _ _ hr hmove =>
    have hstarted := hmove.framed.started
    rcases hmove.final with hsame | ⟨hrecorded, hdone⟩
    · refine h.write hr (by simp [reported, hsame, hstarted]) (fun started cause hunlinked => ?_)
      rw [hstarted]
      exact h.read i r started cause hr (hsame ▸ hunlinked)
    · refine h.write hr (by simp [reported, hrecorded, hdone, hstarted]) (fun started cause hunlinked => ?_)
      rw [hdone] at hunlinked
      cases hunlinked
  | finalized _ _ _ _ hr hfin =>
    refine h.write hr (by simp [reported, hfin]) (fun started cause' hunlinked => ?_)
    cases hunlinked
    rfl
  | recorded _ _ _ _ _ _ hr hfin => exact h.record hr hfin rfl rfl

/-! ## Every run -/

theorem config_step (hidx : m.Indexed) (hstep : m.step a = some m') : m'.config = m.config := by
  cases step_effect hidx hstep <;> rfl

structure Kept (config : Config) (m : Manager) : Prop where
  indexed : m.Indexed
  bounded : Bounded m.config m.heap m.consumed
  metered : Metered m.heap m.recorded
  config_eq : m.config = config

theorem kept_of_run {cfg : Config} {now : Time} {q : Manager} {tr : Trace Manager Action}
    (hnew : newManager cfg now = .ok m) (hrun : Run step m tr q) : Kept m.config q := by
  refine hrun.invariant (I := Kept m.config) (fun {s a s'} hs hstep => ?_) ?_
  · exact ⟨hs.indexed.step hstep, bounded_step hs.bounded hs.indexed hstep, metered_step hs.metered hs.indexed hstep,
      (config_step hs.indexed hstep).trans hs.config_eq⟩
  obtain ⟨hval, heq⟩ := eq_of_newManager hnew
  simp only [Config.valid, and_eq_true, decide_eq_true_eq] at hval
  refine ⟨indexed_new hnew, ?_, ?_, rfl⟩
  · rw [heq]
    constructor
    · show (0 : Int) ≤ m.config.maximumPending
      omega
    · show (0 : Int) ≤ m.config.maximumActive
      omega
    · show (0 + 0 : Int) ≤ m.config.maximumConsumed
      omega
  · rw [heq]
    exact ⟨fun i r hr => by simp at hr, fun i _ => rfl, fun i r _ _ hr => by simp at hr⟩

/-- **Relay bounds and exactly-once metering.** In every run of a new manager the pending and the active relays, and the
    consumed entries together with the relays of the table, are within their bounds. No relay is ever reported twice,
    one that never started not at all, and one that started has been reported when its `done` channel is closed. -/
theorem relay_bounds (config : Config) (now : Time) (m q : Manager) (tr : Trace Manager Action)
    (hnew : newManager config now = .ok m) (hrun : Run step m tr q) :
    (q.pending : Int) ≤ m.config.maximumPending ∧ (q.active : Int) ≤ m.config.maximumActive
    ∧ (q.consumed.entries.length + q.relays.entries.length : Int) ≤ m.config.maximumConsumed
    ∧ ∀ i r, q.heap[i]? = some r → reports q.recorded i ≤ 1 ∧ (r.started = false → reports q.recorded i = 0)
        ∧ (r.started = true → r.final = .done → reports q.recorded i = 1) := by
  obtain ⟨hidx, hbounded, hmetered, hconfig⟩ := kept_of_run hnew hrun
  rw [pending_eq hidx, active_eq hidx, length_eq hidx, ← hconfig]
  refine ⟨hbounded.pending_le, hbounded.active_le, hbounded.consumed_le, fun i r hr => ?_⟩
  rw [hmetered.reports_eq i r hr]
  refine ⟨by split <;> omega, fun hstarted => by simp [hstarted], fun hstarted hdone => ?_⟩
  simp [hstarted, reported, hdone]

/-- Two endpoints are paired, five bytes pass, both sides end, and both calls return. -/
def fiveBytes : List Action := attachAt (sampleBinding ⟨Duration.hour, 0⟩) .initiator 0 0 ⟨0, 0⟩
    ++ attachAt (sampleBinding ⟨Duration.hour, 0⟩) .host 1 1 ⟨0, 0⟩
    ++ [.move 0 (.read .toHost 5 none), .move 0 (.write .toHost 5 none), .move 0 (.read .toHost 0 (some .eof)),
        .move 0 (.read .toInitiator 0 (some .eof)), .move 0 .advanceRun, .move 0 .advanceRun, .move 0 .advanceRun,
        .finalize 0 .run, .record 0 ⟨Duration.second, 0⟩ none, .move 0 .closeDone, .finish 0, .finish 1]

theorem relay_bounds_five_bytes : ∃ (m q : Manager) (r : Relay), newManager developmentConfig ⟨0, 0⟩ = .ok m
    ∧ exec step m fiveBytes = some q ∧ q.heap[0]? = some r ∧ r.started = true ∧ r.final = .done
    ∧ r.usage.bytesToHost = 5 ∧ reports q.recorded 0 = 1 := by
  let m : Manager := { config := developmentConfig, clock := ⟨0, 0⟩ }
  obtain ⟨q, hq, r, hr, hstarted, hdone, hbytes⟩ : ∃ q, exec step m fiveBytes = some q
      ∧ ∃ r, q.heap[0]? = some r ∧ r.started = true ∧ r.final = .done ∧ r.usage.bytesToHost = 5 := by
    decide +kernel
  have hnew : newManager developmentConfig ⟨0, 0⟩ = .ok m := rfl
  have hmetered := (relay_bounds developmentConfig ⟨0, 0⟩ m q _ hnew (exec_run hq)).2.2.2 0 r hr
  exact ⟨m, q, r, hnew, hq, hr, hstarted, hdone, hbytes, hmetered.2.2 hstarted hdone⟩

end Manager

end PaperboatTunnel.PeerRelay
