import PaperboatTunnel.Datacarrier.Server

/-!
# `ServerPermits` — the permits of the edge

The permits are out on behalf of the opens and accepts in progress, of the streams that are not closed, and of the
control streams that were accepted and closed (`Move.accounts`): the callback of an accepted control stream,
`clearControl`, does not give its permit back. As long as none is closed the permits are conserved.
-/

namespace PaperboatTunnel.Datacarrier

open TransitionSystem Datacarrier.Stream Carrier List Table Bool

/-! ## The books of the server -/

variable {cfg : Config}

namespace Server

variable {s s' : Server} {a : Action}

theorem owes_of_closing {strm : Stream} (h : strm.state = .closing) : strm.owes = true := by
  unfold owes
  rw [h]
  rfl

theorem Move.accounts (h : Move s a s') (ha : s.carrier.Accounts 0) : s'.carrier.Accounts 0 := by
  cases h with
  | carrier hmove => exact hmove.accounts ha
  | refused => exact ha.enter (.inr ⟨_, rfl⟩)
  | entered => exact ha.enter (.inl rfl)
  | settled hi hphase =>
    apply ha.setCall_same hi
    · simp [Call.holds, hphase]
    · simp [Call.occupies, hphase]
  | @dropped i call _ stream hi hphase hj =>
    have hcall : (s.carrier.setCall i { call with phase := .returned (.error .carrierClosed) }).Accounts 0 := by
      apply ha.setCall_same hi
      · simp [Call.holds, hphase]
      · simp [Call.occupies, hphase]
    apply hcall.setStream_same hj
    unfold owes
    cases stream.state <;> rfl
  | @stored i call j _ hi hphase hj =>
    have hcall : (s.carrier.setCall i { call with phase := .returned (.ok j) }).Accounts 0 := by
      apply ha.setCall_same hi
      · simp [Call.holds, hphase]
      · simp [Call.occupies, hphase]
    exact hcall.setStream_same hj rfl
  | @released _ stream hj hst hrel =>
    apply ha.setStream hj
    have hfree : ({ stream with state := .closed } : Stream).owes = false := by simp [owes, hrel]
    rw [hfree, owes_of_closing hst]
    rfl
  | cleared hj hst hrel =>
    -- the permit of the closed control stream stays out
    apply ha.setStream_same hj
    rw [owes_of_closing hst]
    simp [owes, hrel]

theorem new_carrier (h : new cfg = .ok s) : Carrier.new cfg = .ok s.carrier := by
  unfold new at h
  split at h
  · cases h
  next carrier hnew =>
    cases h
    exact hnew

/-! ## Accepted control streams -/

/-- The step does not close a stream that `AcceptControlStream` has wrapped. -/
def KeepsControl (s : Server) : Action → Prop
  | .release j => ∀ stream ∈ s.carrier.streams[j]?, stream.release ≠ .control
  | _ => True

instance (s : Server) : (a : Action) → Decidable (KeepsControl s a)
  | .release j => inferInstanceAs (Decidable (∀ stream ∈ s.carrier.streams[j]?, stream.release ≠ .control))
  | .carrier _ | .acceptControl | .settle _ | .store _ => .isTrue trivial

/-- No stream that `AcceptControlStream` has wrapped was closed. -/
def ControlsOpen (s : Server) : Prop := ∀ stream ∈ s.carrier.streams, stream.release = .control → stream.isOpen

theorem Move.controlsOpen (h : Move s a s') (hkeep : KeepsControl s a) (ho : ControlsOpen s) : ControlsOpen s' := by
  cases h with
  | carrier hmove =>
    intro strm hin hcontrol
    by_contra hcl
    have hst : strm.state = .closed := by simpa [isOpen] using hcl
    exact hcl (ho strm (hmove.closed_before hin hst) hcontrol)
  | refused | entered | settled => exact ho
  | @dropped _ _ _ wrapped _ _ hj =>
    exact forall_mem_set ho (fun hcontrol => isOpen_closing (ho wrapped (mem_of_getElem? hj) hcontrol))
  | @stored _ _ _ wrapped _ _ hj => exact forall_mem_set ho (ho wrapped (mem_of_getElem? hj))
  | released _ _ hrel =>
    refine forall_mem_set ho (fun hcontrol => ?_)
    rw [hrel] at hcontrol
    cases hcontrol
  | cleared hj _ hrel => exact absurd hrel (hkeep _ hj)

/-- Then the permits that are out on behalf of streams are out for those that are not closed. -/
theorem ControlsOpen.owed (h : ControlsOpen s) : s.carrier.owed = s.carrier.openStreams := by
  refine countP_congr (fun strm hin => ?_)
  have hopen := h strm hin
  unfold owes isOpen at *
  rw [or_eq_true, beq_iff_eq]
  exact ⟨fun howes => howes.elim id hopen, .inl⟩

end Server

/-! ## Opening again -/

namespace Carrier

variable {c : Carrier}

/-- The steps of a call, number `i`, that opens a stream without a failure. -/
def openActions (i : Nat) (kind : CallKind) : List Action :=
  [.start kind none, .admitCall i .taken, .queue i .taken, .answer i .delivered, .receive i .taken,
    .handOff i (.complete {})]

theorem handOff_written {kind : CallKind} (hkind : kind.opens) (i : Nat) :
    ∃ stream, stream.isOpen ∧ ∀ (c : Carrier) (call : Call), call.kind = kind →
      c.handOff i call (.complete {}) = c.wrap i call stream (fun j => .returned (.ok j)) := by
  cases kind with
  | openStream preface =>
    refine ⟨{ preface, release := .permit, context := some i }, rfl, fun c call hcall => ?_⟩
    unfold handOff
    rw [hcall]
    rfl
  | openControl =>
    refine ⟨{ release := .permit, context := some i }, rfl, fun c call hcall => ?_⟩
    unfold handOff
    rw [hcall]
  | acceptAccess | acceptControl => cases hkind

/-- **With a permit and a place left, the call returns a stream.** -/
theorem exec_openActions {kind : CallKind} (hkind : kind.opens) (hcheck : c.precheck kind none = none)
    (hpermits : c.permits < c.maximumStreams) (hopenings : c.openings < c.queueDepth) :
    ∃ call stream, stream.isOpen ∧ exec step c (openActions c.calls.length kind)
      = some { c with permits := c.permits + 1, calls := c.calls ++ [call], streams := c.streams ++ [stream] } := by
  obtain ⟨stream, hopen, hoff⟩ := handOff_written hkind c.calls.length
  have hne : kind ≠ .acceptControl := by
    rintro rfl
    cases hkind
  have hset (a b : Call) : (c.calls ++ [a]).set c.calls.length b = c.calls ++ [b] := by simp
  refine ⟨{ kind, phase := .returned (.ok c.streams.length) }, stream, hopen, ?_⟩
  simp [openActions, exec, step, start, hne, hcheck, enter, admitCall, takePermit, setCall, hkind, hpermits, queue,
    takeOpening, hopenings, receive, releaseOpening, hoff, wrap, hset]

/-- **A whole sequence of opens**, as long as there are permits. -/
theorem run_opens : ∀ {kinds : List CallKind} {c : Carrier}, (∀ kind ∈ kinds, kind.opens) →
    (∀ kind ∈ kinds, c.precheck kind none = none) → c.permits + kinds.length ≤ c.maximumStreams →
    c.openings < c.queueDepth →
    ∃ tr c', Run step c tr c' ∧ c'.openStreams = c.openStreams + kinds.length
  | [], c, _, _, _, _ => ⟨[], c, Run.refl, rfl⟩
  | kind :: kinds, c, hkinds, hchecks, hroom, hplace => by
      rw [length_cons] at hroom
      obtain ⟨call, stream, hopen, hexec⟩ := exec_openActions (hkinds kind mem_cons_self)
        (hchecks kind mem_cons_self) (by omega) hplace
      obtain ⟨_, c', hrun, hcount⟩ := run_opens
        (c := { c with permits := c.permits + 1, calls := c.calls ++ [call], streams := c.streams ++ [stream] })
        (fun kind hin => hkinds kind (mem_cons_of_mem _ hin))
        (fun kind hin => hchecks kind (mem_cons_of_mem _ hin)) (by dsimp only; omega) hplace
      refine ⟨_, c', (exec_run hexec).trans hrun, ?_⟩
      have hsnoc : (c.streams ++ [stream]).countP isOpen = c.streams.countP isOpen + 1 := by
        rw [countP_snoc, hopen]
        rfl
      rw [hcount, length_cons]
      show (c.streams ++ [stream]).countP isOpen + kinds.length = c.streams.countP isOpen + (kinds.length + 1)
      omega

end Carrier

namespace Server

theorem run_of_carrier {s : Server} {tr : Trace Carrier Carrier.Action} {c c' : Carrier}
    (h : Run Carrier.step c tr c') :
    ∃ tr', Run step { s with carrier := c } tr' { s with carrier := c' } := by
  induction h with
  | refl => exact ⟨[], Run.refl⟩
  | @tail u _ _ l _ hstep ih =>
    obtain ⟨_, hrun'⟩ := ih
    refine ⟨_, Run.tail hrun' (l := .carrier l) ?_⟩
    show (u.step l).map _ = _
    rw [hstep]
    rfl

end Server

theorem Config.queueDepth_pos (h : (cfg.withDefaults.validate false).isSome = false) :
    0 < cfg.withDefaults.queueDepth := by
  have hdepth : cfg.withDefaults.queueDepth ≠ 0 := by
    simp only [withDefaults]
    split
    · decide
    · assumption
  have htwice : cfg.withDefaults.withDefaults.queueDepth = cfg.withDefaults.queueDepth := if_neg hdepth
  by_contra hle
  have hbad : cfg.withDefaults.withDefaults.queueDepth ≤ 0
      ∨ cfg.withDefaults.withDefaults.queueDepth > maxQueueDepth := by
    left
    rw [htwice]
    omega
  unfold validate at h
  dsimp only at h
  split at h
  · cases h
  split at h
  · cases h
  cases h

theorem Carrier.new_spec {c : Carrier} (h : new cfg = .ok c) : 0 < c.queueDepth ∧ c.streams = [] := by
  unfold new at h
  split at h
  · cases h
  next hval =>
    cases h
    have hpos := Config.queueDepth_pos (eq_false_iff.mpr hval)
    refine ⟨?_, rfl⟩
    show 0 < cfg.withDefaults.queueDepth.toNat
    omega

theorem Carrier.occupied_le (c : Carrier) : c.occupied ≤ c.inProgress := by
  apply Nat.add_le_add
  · apply countP_mono_left
    intro call _ hoccupies
    unfold Call.occupies at hoccupies
    unfold Call.holds
    split at hoccupies
    next hphase => rw [hphase]
    · cases hoccupies
  · apply countP_mono_left
    intro finisher _ hoccupies
    exact (and_eq_true _ _ ▸ hoccupies).2

namespace Server

theorem Move.options {s s' : Server} {a : Action} (h : Move s a s') :
    s'.carrier.maximumStreams = s.carrier.maximumStreams ∧ s'.carrier.queueDepth = s.carrier.queueDepth := by
  cases h with
  | carrier hmove => exact hmove.options
  | _ => exact ⟨rfl, rfl⟩

/-- **The permits of a server are conserved** in every run that closes no accepted control stream: they are as many
    as the wrapped streams that are not closed and the opens and accepts in progress. In particular, once every
    stream is closed and nothing is in progress, an open server can open the configured number of streams again,
    by whatever calls. -/
theorem permits_conserved (config : Config) (s : Server) (hnew : new config = .ok s)
    (tr : Trace Server Action) (q : Server) (hrun : Run step s tr q)
    (hkeep : ∀ t ∈ tr, KeepsControl t.pre t.label) :
    q.carrier.permits = q.carrier.openStreams + q.carrier.inProgress ∧
    (q.carrier.openStreams = 0 → q.carrier.inProgress = 0 → q.carrier.done = false →
      ∀ kinds : List CallKind, kinds.length = s.carrier.maximumStreams → (∀ kind ∈ kinds, kind.opens) →
        (∀ kind ∈ kinds, q.carrier.precheck kind none = none) →
        ∃ tr' q', Run step q tr' q' ∧ q'.carrier.openStreams = s.carrier.maximumStreams) := by
  obtain ⟨_, hempty⟩ := new_spec (new_carrier hnew)
  have hbooks : q.carrier.Accounts 0 :=
    hrun.invariant (I := fun s => s.carrier.Accounts 0) (fun ha hs => (step_move hs).accounts ha)
      (Carrier.Accounts.of_new (new_carrier hnew))
  have hopen : ControlsOpen q := by
    refine hrun.invariant_of (fun hc ho hs => (step_move hs).controlsOpen hc ho) hkeep ?_
    intro stream hin
    rw [hempty] at hin
    cases hin
  have hpermits : q.carrier.permits = q.carrier.openStreams + q.carrier.inProgress := by
    have hp := hbooks.permits
    rw [hopen.owed] at hp
    omega
  refine ⟨hpermits, ?_⟩
  intro hcl hidle _ kinds hlen hkinds hchecks
  have hoptions : q.carrier.maximumStreams = s.carrier.maximumStreams
      ∧ q.carrier.queueDepth = s.carrier.queueDepth := by
    refine hrun.invariant (I := fun u => u.carrier.maximumStreams = s.carrier.maximumStreams
      ∧ u.carrier.queueDepth = s.carrier.queueDepth) (fun {u l u'} hu hs => ?_) ⟨rfl, rfl⟩
    have hkept := (step_move hs).options
    exact ⟨hkept.1.trans hu.1, hkept.2.trans hu.2⟩
  have hplace : q.carrier.openings < q.carrier.queueDepth := by
    have hoccupied := q.carrier.occupied_le
    rw [hbooks.openings, hoptions.2]
    omega
  obtain ⟨_, c', hrun', hcount⟩ := run_opens hkinds hchecks
    (by rw [hpermits, hcl, hidle, hlen, hoptions.1]; omega) hplace
  obtain ⟨tr'', hserver⟩ := run_of_carrier (s := q) hrun'
  refine ⟨tr'', { q with carrier := c' }, hserver, ?_⟩
  rw [hcount, hcl, hlen, Nat.zero_add]

/-! ## A control stream that is closed -/

def closeActions : List Action := [.carrier (.close 0 false), .release 0]

def openCloseActions : List Action :=
  (openActions 0 .openControl).map .carrier ++ [.carrier (.close 0 false), .release 0]

/-- An edge that has opened and closed a stream can open one again. -/
theorem permits_conserved_open_close :
    ∃ q q' : Server, exec step edgeServer openCloseActions = some q ∧ q.carrier.permits = 0
      ∧ (∃ tr', Run step q tr' q') ∧ q'.carrier.openStreams = 1 := by
  have h : (exec step edgeServer openCloseActions).isSome = true := by decide +kernel
  obtain ⟨hpermits, hagain⟩ :=
    permits_conserved edgeConfig edgeServer (by decide +kernel) _ _ (exec_getD_run h) (by decide +kernel)
  obtain ⟨tr', q', hrun, hcount⟩ := hagain (by decide +kernel) (by decide +kernel) (by decide +kernel) [.openControl]
    rfl (by decide) (by decide +kernel)
  exact ⟨_, q', exec_getD h, hpermits.trans (by decide +kernel), ⟨tr', hrun⟩, hcount⟩

/-- **The permit of a closed control stream is lost.** An edge for one stream accepts the control stream of the host,
    which is then closed: no stream is open and nothing is in progress, but the permit is out, and the next open is
    refused with `ErrStreamLimit`. -/
theorem permit_lost : ∃ q q' : Server, new edgeConfig = .ok edgeServer
      ∧ exec step edgeServer (acceptActions ++ closeActions) = some q
      ∧ q.carrier.openStreams = 0 ∧ q.carrier.inProgress = 0 ∧ q.carrier.done = false
      ∧ q.carrier.permits ≠ q.carrier.openStreams + q.carrier.inProgress
      ∧ exec step q [.carrier (.start .openControl none), .carrier (.admitCall 1 .full)] = some q'
      ∧ (q'.carrier.calls[1]?).map Call.phase = some (.returned (.error .streamLimit)) := by
  simp only [exists_and_left]
  decide +kernel

end Server

end PaperboatTunnel.Datacarrier
