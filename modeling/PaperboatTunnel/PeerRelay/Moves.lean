import PaperboatTunnel.PeerRelay.Manager
import PaperboatTunnel.Lib.Heap

/-!
# `Moves` — what a step of the relay manager can do

Inversion of the two step functions, `Relay.Stepped` for the goroutines of one relay and `Manager.Effect` for the
manager, and what follows for every invariant: which fields of a relay change, and that the table points to the relays
that have not been finalized (`Manager.Indexed`).
-/

namespace PaperboatTunnel.PeerRelay

open GoTime TransitionSystem Heap.Indexed Relay Option

namespace Relay

variable {r r' : Relay} {a : Move} {closed : List Nat}

/-! ## The goroutines of a relay -/

/-- **The steps of one relay.** -/
inductive Stepped (r : Relay) : Move → Relay → List Nat → Prop where
  | stopStored (s : Stop) (hs : r.stop = some s) (hstage : s.stage = .read) :
      Stepped r .advanceStop { r with stop := some { s with stage := .stored } } []
  | stopInitiator (s : Stop) (hs : r.stop = some s) (hstage : s.stage = .stored) :
      Stepped r .advanceStop { r with stop := some { s with stage := .initiatorClosed } } (streamOf s.initiator)
  | stopHost (s : Stop) (hs : r.stop = some s) (hstage : s.stage = .initiatorClosed) :
      Stepped r .advanceStop { r with stop := some { s with stage := .hostClosed } } (streamOf s.host)
  | copied (a : Move) (direction : Direction) (c : Copier) (hrun : r.run ≠ .idle)
      (hcopying : ∀ e, (r.copier direction).stage ≠ .finished e) : Stepped r a (r.afterCopy direction c) []
  | runInitiator (hrun : r.run = .copying) (hresults : r.results.length = 2) :
      Stepped r .advanceRun { r with run := .initiatorClosed } (streamOf r.initiator)
  | runHost (hrun : r.run = .initiatorClosed) : Stepped r .advanceRun { r with run := .hostClosed } (streamOf r.host)
  | runFinishing (hrun : r.run = .hostClosed) : Stepped r .advanceRun { r with run := .finishing r.runError } []
  | doneClosed (hfinal : r.final = .recorded) : Stepped r .closeDone { r with final := .done } []

theorem stepped_of_step {s : Relay × List Nat} (h : r.step a = some s) : Stepped r a s.1 s.2 := by
  cases a with
  | advanceStop =>
    obtain ⟨s', hs', hadvance⟩ := bind_eq_some_iff.mp h
    unfold advanceStop at hadvance
    split at hadvance
    case h_1 hstage =>
      cases hadvance
      exact .stopStored s' hs' hstage
    case h_2 hstage =>
      cases hadvance
      exact .stopInitiator s' hs' hstage
    case h_3 hstage =>
      cases hadvance
      exact .stopHost s' hs' hstage
    case h_4 => cases hadvance
  | read direction _ e =>
    simp only [step, ite_none_left_eq_some] at h
    obtain ⟨c, hc, rfl⟩ := map_eq_some_iff.mp h.2
    refine .copied _ direction c h.1 (fun e hfinished => ?_)
    simp [Copier.read, hfinished] at hc
  | write direction _ e =>
    simp only [step, ite_none_left_eq_some] at h
    obtain ⟨c, hc, rfl⟩ := map_eq_some_iff.mp h.2
    refine .copied _ direction c h.1 (fun e hfinished => ?_)
    simp [Copier.write, hfinished] at hc
  | advanceRun =>
    change r.advanceRun = some s at h
    unfold advanceRun at h
    split at h
    case h_1 hrun =>
      simp only [ite_none_right_eq_some, some.injEq] at h
      obtain ⟨hresults, rfl⟩ := h
      exact .runInitiator hrun hresults
    case h_2 hrun =>
      cases h
      exact .runHost hrun
    case h_3 hrun =>
      cases h
      exact .runFinishing hrun
    case h_4 => cases h
  | closeDone =>
    simp only [step, ite_none_right_eq_some, some.injEq] at h
    obtain ⟨hfin, rfl⟩ := h
    exact .doneClosed hfin

/-- What the goroutines of a relay do not touch. -/
structure Framed (r r' : Relay) : Prop where
  key : r'.key = r.key
  initiator : r'.initiator = r.initiator
  host : r'.host = r.host
  started : r'.started = r.started
  baseUsage : r'.baseUsage = r.baseUsage

@[simp] theorem afterCopy_final {dir : Direction} {c : Copier} : (r.afterCopy dir c).final = r.final := by
  unfold afterCopy
  split <;> cases dir <;> rfl

theorem framed_afterCopy (r : Relay) (dir : Direction) (c : Copier) : Framed r (r.afterCopy dir c) := by
  unfold afterCopy
  split <;> cases dir <;> exact ⟨rfl, rfl, rfl, rfl, rfl⟩

theorem Stepped.framed (h : Stepped r a r' closed) : Framed r r' := by
  cases h with
  | copied _ direction c => exact framed_afterCopy r direction c
  | _ => exact ⟨rfl, rfl, rfl, rfl, rfl⟩

/-- The only stage of `finalize` that a relay's own goroutines pass is closing `done`. -/
theorem Stepped.final (h : Stepped r a r' closed) : r'.final = r.final ∨ r.final = .recorded ∧ r'.final = .done := by
  cases h with
  | doneClosed hfin => exact .inr ⟨hfin, rfl⟩
  | copied => exact .inl afterCopy_final
  | _ => exact .inl rfl

/-! ## Legs -/

def legStreams (r : Relay) : List Nat := streamOf r.initiator ++ streamOf r.host

def Paired (r : Relay) : Prop := r.initiator.isSome = true ∧ r.host.isSome = true

variable {l : Leg} {role : Role}

@[simp] theorem setLeg_key : (r.setLeg role l).key = r.key := by
  cases role <;> rfl

@[simp] theorem setLeg_final : (r.setLeg role l).final = r.final := by
  cases role <;> rfl

@[simp] theorem setLeg_started : (r.setLeg role l).started = r.started := by
  cases role <;> rfl

@[simp] theorem setLeg_stop : (r.setLeg role l).stop = r.stop := by
  cases role <;> rfl

theorem start_cases (r : Relay) (now : Time) : r.start now = r ∨ r.started = false ∧ r.Paired ∧ ∃ initiator host,
      r.start now = { r with started := true, baseUsage := r.startUsage initiator host now, run := .copying } := by
  unfold start
  split
  case h_1 hinit hhost =>
    split
    · exact .inl rfl
    next hstarted =>
      exact .inr ⟨Bool.eq_false_iff.mpr hstarted, ⟨by rw [hinit]; rfl, by rw [hhost]; rfl⟩, _, _, rfl⟩
  case h_2 => exact .inl rfl

theorem start_framed (r : Relay) (now : Time) : (r.start now).key = r.key ∧ (r.start now).initiator = r.initiator
      ∧ (r.start now).host = r.host ∧ (r.start now).final = r.final := by
  rcases start_cases r now with hsame | ⟨_, _, _, _, hstart⟩
  · rw [hsame]
    exact ⟨rfl, rfl, rfl, rfl⟩
  · rw [hstart]
    exact ⟨rfl, rfl, rfl, rfl⟩

@[simp] theorem start_key {now : Time} : (r.start now).key = r.key := (start_framed r now).1

@[simp] theorem start_final {now : Time} : (r.start now).final = r.final := (start_framed r now).2.2.2

end Relay

/-! ## The manager -/

namespace Manager

variable {m m' : Manager} {a : Action} {now : Time} {r : Relay} {k : RelayKey} {i : Nat}

/-- **The effects of a step**, with what was checked before. -/
inductive Effect (m : Manager) : Action → Manager → Prop where
  | quiet (a : Action) (draining closed : Bool) (requests : List (Nat × RelayError)) :
      Effect m a { m with draining := draining, closed := closed, requests := requests }
  | called (admission : Admission) (stream : Option Nat) (context : Context) (now : Time) (call : Call)
      (hadmission : call.admission = { admission with binding := canonicalBinding admission.binding })
      (hstatus : call.status = .entering) :
      Effect m (.attach admission stream context now) { m with calls := m.calls ++ [call], clock := now }
  | rejected (admission : Admission) (context : Context) (now : Time) (call : Call) (e : RelayError)
      (hadmission : call.admission = { admission with binding := canonicalBinding admission.binding })
      (hstatus : call.status = .returned {} [e]) :
      Effect m (.attach admission call.stream context now)
        { m with calls := m.calls ++ [call], streams := m.streams ++ call.stream.toList, clock := now }
  | refused (c : Nat) (call : Call) (now startedAt : Time) (e : RelayError) (hcall : m.calls[c]? = some call) :
      Effect m (.enter c now startedAt) { (m.pruneConsumedLocked now).refuse c call e with clock := startedAt }
  | created (c : Nat) (call : Call) (stream : Nat) (now startedAt : Time) (hcall : m.calls[c]? = some call)
      (hstream : call.stream = some stream)
      (hunused : (m.pruneConsumedLocked now).consumed.lookup (keyFor call.key) = none)
      (hfree : m.relays.lookup call.key = none)
      (hconsumed : ((m.pruneConsumedLocked now).consumed.entries.length + m.relays.entries.length : Int)
        < m.config.maximumConsumed)
      (hpending : (m.pending : Int) < m.config.maximumPending) :
      Effect m (.enter c now startedAt)
        { (m.pruneConsumedLocked now).create c call ⟨stream, call.admission.carrier⟩ with clock := startedAt }
  | joined (c : Nat) (call : Call) (stream : Nat) (now startedAt : Time) (i : Nat) (r : Relay)
      (hcall : m.calls[c]? = some call) (hstream : call.stream = some stream)
      (hunused : (m.pruneConsumedLocked now).consumed.lookup (keyFor call.key) = none)
      (hi : m.relays.lookup call.key = some i) (hr : m.heap[i]? = some r) (hexpired : r.expired = false)
      (hleg : r.leg call.admission.role = none)
      (hactive : r.started = false → (r.initiator.isSome || r.host.isSome) = true →
        (m.active : Int) < m.config.maximumActive) :
      Effect m (.enter c now startedAt)
        { (m.pruneConsumedLocked now).join c call i r ⟨stream, call.admission.carrier⟩ startedAt with
          clock := startedAt }
  | finished (c : Nat) (call : Call) (i : Nat) (r : Relay) (hcall : m.calls[c]? = some call)
      (hstatus : call.status = .waiting i) (hr : m.heap[i]? = some r) (hdone : r.final = .done) :
      Effect m (.finish c) (m.setStatus c call (.returned r.usage r.err))
  | expired (i : Nat) (r : Relay) (hr : m.heap[i]? = some r) (hi : m.relays.lookup r.key = some i)
      (hstarted : r.started = false) :
      Effect m (.expirePending i) ({ m with heap := m.heap.set i { r with expired := true } }.request [i] .expired)
  | terminated (k i : Nat) (cause : RelayError) (r : Relay) (hr : m.heap[i]? = some r) (hstop : r.stop = none) :
      Effect m (.terminate k) { m with heap := m.heap.set i (r.readLegs cause) }
  | moved (i : Nat) (r r' : Relay) (a : Move) (closed : List Nat) (hr : m.heap[i]? = some r)
      (hmove : Stepped r a r' closed) :
      Effect m (.move i a) { m with heap := m.heap.set i r', streams := m.streams ++ closed }
  | finalized (i : Nat) (r : Relay) (finisher : Finisher) (cause : List RelayError)
      (hr : m.heap[i]? = some r) (hfinal : r.final = .pending) (hcause : r.finalCause finisher = some cause) :
      Effect m (.finalize i finisher) (m.finalize i r cause)
  | recorded (i : Nat) (r : Relay) (started : Bool) (cause : List RelayError) (now : Time) (e : Option RelayError)
      (hr : m.heap[i]? = some r) (hfinal : r.final = .unlocked started cause) :
      Effect m (.record i now e) { m.record i r started cause now e with clock := now }

theorem attach_effect {adm : Admission} {stream : Option Nat} {context : Context} :
    Effect m (.attach adm stream context now) { m.attach adm stream context now with clock := now } := by
  have hlast : ∀ call call' : Call, (m.calls ++ [call]).set m.calls.length call' = m.calls ++ [call'] := by
    intro call call'
    simp
  let call (status : CallStatus) : Call :=
    { admission := { adm with binding := canonicalBinding adm.binding }, stream, status }
  unfold attach
  dsimp only
  split
  · unfold refuse setStatus
    rw [hlast]
    exact .rejected adm context now (call (.returned {} [.invalid])) .invalid rfl rfl
  split
  · unfold refuse setStatus
    rw [hlast]
    exact .rejected adm context now (call (.returned {} [.context])) .context rfl rfl
  · exact .called adm stream context now (call .entering) rfl rfl

theorem enter_effect {c : Nat} {call : Call} {strm : Nat} {startd : Time} (hcall : m.calls[c]? = some call)
    (hstream : call.stream = some strm) (hrow : ∀ i, m.relays.lookup call.key = some i → m.heap[i]?.isSome = true) :
    Effect m (.enter c now startd) { m.enter c call strm now startd with clock := startd } := by
  have hrefused : ∀ e, Effect m (.enter c now startd)
      { (m.pruneConsumedLocked now).refuse c call e with clock := startd } :=
    fun e => .refused c call now startd e hcall
  fun_cases enter m c call strm now startd with
  | case6 _ _ _ _ hused hi hcons hpend =>
    exact .created c call strm now startd hcall hstream (not_isSome_iff_eq_none.mp hused) hi (Int.not_le.mp hcons)
      (Int.not_le.mp hpend)
  | case7 _ _ _ _ i hi hr =>
    have hnone : m.heap[i]? = none := hr
    have hsome := hrow i hi
    rw [hnone] at hsome
    cases hsome
  | case11 _ _ _ _ hused i hi r hr hexp hleg hfull =>
    refine .joined c call strm now startd i r hcall hstream (not_isSome_iff_eq_none.mp hused) hi hr
      (Bool.eq_false_iff.mpr hexp) (not_isSome_iff_eq_none.mp hleg) (fun hs hlegs => ?_)
    simp only [hs, hlegs, Bool.not_false, Bool.true_and, decide_eq_true_eq] at hfull
    exact Int.not_le.mp hfull
  | _ => exact hrefused _

/-! ## The table -/

/-- The key under which a relay is in the table. -/
def liveKey (r : Relay) : Option RelayKey := if r.final = .pending then some r.key else none

/-- **The table points to the relays that have not been finalized.** -/
def Indexed (m : Manager) : Prop := Heap.Indexed liveKey m.relays m.heap

theorem liveKey_of_pending (h : r.final = .pending) : liveKey r = some r.key := if_pos h

theorem liveKey_of_ne (h : r.final ≠ .pending) : liveKey r = none := if_neg h

theorem pending_of_liveKey (h : liveKey r = some k) : r.final = .pending ∧ r.key = k := by
  unfold liveKey at h
  split at h
  case isTrue hfin => exact ⟨hfin, some.inj h⟩
  case isFalse => cases h

theorem Indexed.row (h : m.Indexed) (hk : m.relays.lookup k = some i) :
    ∃ r, m.heap[i]? = some r ∧ r.final = .pending ∧ r.key = k := by
  obtain ⟨r, hr, hkey⟩ := Heap.Indexed.row h hk
  exact ⟨r, hr, pending_of_liveKey hkey⟩

theorem Indexed.pending_of_lookup (h : m.Indexed) (hk : m.relays.lookup k = some i) (hr : m.heap[i]? = some r) :
    r.final = .pending ∧ r.key = k :=
  pending_of_liveKey (key_of_row h hk hr)

theorem Indexed.lookup (h : m.Indexed) (hr : m.heap[i]? = some r) (hfin : r.final = .pending) :
    m.relays.lookup r.key = some i :=
  Heap.Indexed.lookup h hr (liveKey_of_pending hfin)

/-- **Every step is one of the effects.** -/
theorem step_effect (hidx : m.Indexed) (h : m.step a = some m') : Effect m a m' := by
  revert h
  fun_cases step m a <;> intro h
  case case1 =>
    cases h
    exact attach_effect
  case case2 call hcall strm hstream _ =>
    cases h
    refine enter_effect hcall hstream (fun i hi => ?_)
    obtain ⟨_, hr, _⟩ := hidx.row hi
    rw [hr]
    rfl
  case case5 =>
    cases h
    exact .quiet _ m.draining m.closed _
  case case8 c call hcall i hstatus r hr hdone =>
    cases h
    exact .finished c call i r hcall hstatus hr hdone
  case case13 =>
    cases h
    exact .quiet _ true m.closed m.requests
  case case14 =>
    cases h
    exact .quiet _ m.draining m.closed _
  case case15 =>
    cases h
    exact .quiet _ true true _
  case case16 =>
    cases h
    exact .quiet _ m.draining m.closed m.requests
  case case17 i r hr hlive =>
    cases h
    rw [not_or, not_not, Bool.not_eq_true] at hlive
    exact .expired i r hr hlive.1 hlive.2
  case case19 k i cause hk r hr hstop =>
    cases h
    exact .terminated k i cause r hr hstop
  case case23 i a r hr =>
    obtain ⟨s, hs, rfl⟩ := map_eq_some_iff.mp h
    exact .moved i r s.1 a s.2 hr (stepped_of_step hs)
  case case25 i finisher r hr hfin =>
    obtain ⟨cause, hcause, rfl⟩ := map_eq_some_iff.mp h
    exact .finalized i r finisher cause hr hfin hcause
  case case28 i now e r hr started cause hfin =>
    cases h
    exact .recorded i r started cause now e hr hfin
  -- the others are not enabled
  all_goals cases h

theorem Indexed.write (h : m.Indexed) {r' : Relay} (hr : m.heap[i]? = some r) (hkey : r'.key = r.key)
    (hfin : r'.final = .pending ↔ r.final = .pending) : Heap.Indexed liveKey m.relays (m.heap.set i r') := by
  apply Heap.Indexed.write h hr
  unfold liveKey
  rw [hkey]
  by_cases hp : r.final = .pending
  · rw [if_pos hp, if_pos (hfin.mpr hp)]
  · rw [if_neg hp, if_neg (fun hp' => hp (hfin.mp hp'))]

theorem final_pending_iff {r' : Relay} {a : Move} {closed : List Nat} (h : Stepped r a r' closed) :
    r'.final = .pending ↔ r.final = .pending := by
  rcases h.final with hsame | ⟨hrecorded, hdone⟩
  · rw [hsame]
  · rw [hrecorded, hdone]
    constructor <;> exact fun hp => by cases hp

/-- **Every step keeps the table in order.** -/
theorem Indexed.step (h : m.Indexed) (hstep : m.step a = some m') : m'.Indexed := by
  cases step_effect h hstep with
  | quiet | called | rejected | refused | finished => exact h
  | created _ _ _ _ _ _ _ _ hfree =>
    refine insert h hfree ?_
    rw [liveKey_of_pending] <;> simp [new]
  | joined _ _ _ _ _ _ _ _ _ _ _ hr => exact h.write hr (by simp) (by simp)
  | expired _ _ hr | terminated _ _ _ _ hr => exact h.write hr rfl Iff.rfl
  | moved _ _ _ _ _ hr hmove => exact h.write hr hmove.framed.key (final_pending_iff hmove)
  | finalized i r _ _ hr hfin =>
    have hi := h.lookup hr hfin
    show Heap.Indexed liveKey (if m.relays.lookup r.key = some i then m.relays.erase r.key else m.relays) _
    rw [if_pos hi]
    exact erase h hr (liveKey_of_pending hfin) (liveKey_of_ne (by simp))
  | recorded _ _ _ _ _ _ hr hfin => exact h.write hr rfl (by simp [hfin])

theorem eq_of_newManager {cfg : Config} (h : newManager cfg now = .ok m) :
    m.config.valid = true ∧ m = { config := m.config, clock := now } := by
  unfold newManager at h
  generalize (if cfg.maximumConsumed = 0 then _ else cfg) = effective at h
  dsimp only at h
  split at h
  · cases h
  next hval =>
  cases h
  exact ⟨by simpa using hval, rfl⟩

theorem indexed_new {cfg : Config} (h : newManager cfg now = .ok m) : m.Indexed := by
  rw [(eq_of_newManager h).2]
  exact empty

end Manager

/-- A binding that is good until the given time. -/
def sampleBinding (expiresAt : Time) : Binding where
  routeAllocation := Vector.replicate 16 1
  streamHandle := Vector.replicate 16 2
  environmentID := "env"
  routeID := "route"
  routeRevision := 1
  intentID := "intent"
  attempt := 1
  network := 1
  expiresAt := expiresAt
  maximumBytes := 1024

/-- An endpoint attaches over QUIC: the call checks its arguments and enters the table at once. -/
def attachAt (binding : Binding) (role : Role) (call stream : Nat) (now : Time) : List Action :=
  [.attach ⟨binding, role, .quic⟩ (some stream) .live now, .enter call now now]

end PaperboatTunnel.PeerRelay
