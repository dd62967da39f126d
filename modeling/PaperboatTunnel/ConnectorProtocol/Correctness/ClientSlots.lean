import PaperboatTunnel.ConnectorProtocol.ClientStep

/-!
# `ClientSlots` — the configuration slots of a client session

`applyMu` serialises the calls that write `active`, `candidate`, `prepared` and `needsSnapshot`. `SlotStep` lists what
a step can do to these slots and to the mutex. `Coherent` says what the mutex gives: while a call is out to the
applier, the slots are as the call left them.
-/

namespace PaperboatTunnel.ConnectorProtocol

open GoTime ClientSession TransitionSystem

namespace ClientSession

structure SameSlots (c c' : ClientSession) : Prop where
  active : c'.active = c.active
  hasActive : c'.hasActive = c.hasActive
  candidate : c'.candidate = c.candidate
  hasCandidate : c'.hasCandidate = c.hasCandidate
  prepared : c'.prepared = c.prepared
  needsSnapshot : c'.needsSnapshot = c.needsSnapshot

/-- The candidate and its prepared configuration are those that the call activates. -/
structure Activates (c : ClientSession) (call : ReadyCall) : Prop where
  staged : c.hasCandidate = true
  candidate : c.candidate = call.candidate
  prepared : c.prepared = some call.prepared
  readiness : call.readiness.generation = call.candidate.generation
                ∧ call.readiness.contentHash = call.candidate.contentHash

variable {c c' : ClientSession}

theorem SameSlots.canApply {call : ApplyCall} (h : SameSlots c c') (hcan : c.CanApply call) : c'.CanApply call := by
  cases call with
  | snapshot =>
    show (c'.hasCandidate → _) ∧ (¬ c'.hasCandidate → c'.hasActive → _)
    rw [h.hasCandidate, h.hasActive, h.candidate, h.active]
    exact hcan
  | delta =>
    show c'.hasActive ∧ ¬ c'.needsSnapshot ∧ ¬ c'.hasCandidate ∧ _ ∧ _
    rw [h.hasActive, h.needsSnapshot, h.hasCandidate, h.active]
    exact hcan

theorem SameSlots.activates {call : ReadyCall} (h : SameSlots c c') (hact : c.Activates call) : c'.Activates call :=
  ⟨h.hasCandidate.trans hact.staged, h.candidate.trans hact.candidate, h.prepared.trans hact.prepared, hact.readiness⟩

end ClientSession

namespace ClientPoint

/-! ## What a step does to the slots -/

variable (codec : PayloadCodec) (p q : ClientPoint) in
/-- `SlotStep p op q`: from `p` to `q` the section `op` does this to the slots and to `applyMu`. -/
inductive SlotStep : ClientCall → Prop where
  | framed {op} (hslots : SameSlots p.session q.session) (hbusy : q.busy = none ∨ q.busy = p.busy) : SlotStep op
  | snapshotTaken {ctx snapshot clock} (hfree : p.busy = none)
      (hcan : p.session.CanApply (.snapshot snapshot)) (hs : q.session = p.session)
      (hbusy : q.busy = some (.applying (.snapshot snapshot))) :
      SlotStep (.applySnapshot ctx snapshot clock)
  | deltaTaken {ctx delta clock} (hfree : p.busy = none) (hcan : p.session.CanApply (.delta delta))
      (hs : q.session = p.session) (hbusy : q.busy = some (.applying (.delta delta))) :
      SlotStep (.applyDelta ctx delta clock)
  | gapFound {ctx delta clock} (hfree : p.busy = none) (hcand : ¬ p.session.hasCandidate)
      (hs : q.session = { p.session with needsSnapshot := true }) (hbusy : q.busy = none) :
      SlotStep (.applyDelta ctx delta clock)
  | staged {call o clock prepared} (hheld : p.busy = some (.applying call))
      (hunstaged : ¬ (p.session.hasCandidate ∧ p.session.prepared.isSome))
      (hs : q.session = p.session.stage call prepared) (hbusy : q.busy = none)
      (hret : ∃ ack, p.returned codec (.applyFinish call o clock) = .ack ack none ∧ ack.status = .applied) :
      SlotStep (.applyFinish call o clock)
  | activating {ctx clock prepared} (hfree : p.busy = none) (hcand : p.session.hasCandidate)
      (hprepared : p.session.prepared = some prepared) (hs : q.session = p.session)
      (hbusy : q.busy = some (.activating ⟨p.session.readinessFor true true true, prepared, p.session.candidate⟩)) :
      SlotStep (.markReady ctx true true true clock)
  | dropped {call o clock} (hheld : p.busy = some (.activating call))
      (hs : q.session = p.session.dropCandidate) (hbusy : q.busy = none) :
      SlotStep (.readyFinish call o clock)
  | promoted {call o clock} (hheld : p.busy = some (.activating call))
      (hs : q.session = p.session.promote) (hbusy : q.busy = none)
      (hret : p.returned codec (.readyFinish call o clock) = .readiness call.readiness none) :
      SlotStep (.readyFinish call o clock)
  | closed {reason abortErr} (hfree : p.busy = none) (hs : q.session = p.session.closeLocked reason)
      (hbusy : q.busy = none) : SlotStep (.close reason abortErr)

variable {codec : PayloadCodec} {p q : ClientPoint} {op : ClientCall} {reply : ClientReply}

/-- A section that does not go out to the applier keeps `applyMu` as it is, or gives it up. -/
theorem busyAfter_of_not_out (hp : ∀ call, reply ≠ .preparing call) (ha : ∀ call, reply ≠ .activating call) :
    p.busyAfter op reply = none ∨ p.busyAfter op reply = p.busy := by
  unfold busyAfter
  split
  · exact .inl rfl
  · exact .inl rfl
  · exact absurd rfl (hp _)
  · exact absurd rfl (ha _)
  · exact .inr rfl

theorem busyAfter_of_refusal (h : reply.Refusal ∨ reply.Quiet) :
    p.busyAfter op reply = none ∨ p.busyAfter op reply = p.busy := by
  refine busyAfter_of_not_out (fun call hr => ?_) (fun call hr => ?_)
  · rw [hr] at h; rcases h with h | h <;> exact h
  · rw [hr] at h; rcases h with h | h <;> exact h

theorem sameSlots_failDrain (c : ClientSession) (req : Drain) : SameSlots c (c.failDrain req) := by
  unfold failDrain restoreStateLocked
  split <;> exact ⟨rfl, rfl, rfl, rfl, rfl, rfl⟩

/-- **The list is complete.** -/
theorem step_slots (h : p.step codec op = some q) : SlotStep codec p q op := by
  obtain ⟨heff, henabled, hbusy⟩ := step_effect h
  -- the outcome is generalised so that the rules can be inverted
  generalize hs : q.session = session at heff
  generalize hr : p.returned codec op = reply at heff hbusy
  generalize p.settled codec op = settled at heff
  cases heff with
  | refused href | expired _ _ _ href =>
    exact .framed (hs ▸ ⟨rfl, rfl, rfl, rfl, rfl, rfl⟩) (hbusy ▸ busyAfter_of_refusal (.inl href))
  | kept hq => exact .framed (hs ▸ ⟨rfl, rfl, rfl, rfl, rfl, rfl⟩) (hbusy ▸ busyAfter_of_refusal (.inr hq))
  | drainCounted | progressed =>
    exact .framed (hs ▸ ⟨rfl, rfl, rfl, rfl, rfl, rfl⟩) (hbusy ▸ busyAfter_of_not_out (by simp) (by simp))
  | snapshotTaken hcan => exact .snapshotTaken (eq_of_beq henabled) hcan hs hbusy
  | deltaTaken _ hcan => exact .deltaTaken (eq_of_beq henabled) hcan hs hbusy
  | gapFound _ hcand =>
    have hfree : p.busy = none := eq_of_beq henabled
    exact .gapFound hfree hcand hs (hbusy.trans hfree)
  | staged _ _ hunstaged hack => exact .staged (eq_of_beq henabled) hunstaged hs hbusy ⟨_, hr, hack⟩
  | activating _ hcand hprepared => exact .activating (eq_of_beq henabled) hcand hprepared hs hbusy
  | activationFailed => exact .dropped (eq_of_beq henabled) hs hbusy
  | promoted => exact .promoted (eq_of_beq henabled) hs hbusy hr
  | drainFailed => exact .framed (hs ▸ sameSlots_failDrain _ _) (.inr hbusy)
  | closed =>
    have hfree : p.busy = none := eq_of_beq henabled
    exact .closed hfree hs (hbusy.trans hfree)
  | _ => exact .framed (hs ▸ ⟨rfl, rfl, rfl, rfl, rfl, rfl⟩) (.inr hbusy)

/-- `MarkReadyContext` returns without an error exactly when it has promoted the candidate. -/
theorem promoted_of_returned {r : Readiness} (h : p.step codec op = some q)
    (hret : p.returned codec op = .readiness r none) :
    q.session = p.session.promote ∧ ∃ call o clock, op = .readyFinish call o clock ∧ p.busy = some (.activating call)
        ∧ r = call.readiness := by
  obtain ⟨heff, henabled, _⟩ := step_effect h
  rw [hret] at heff
  generalize hs : q.session = session at heff
  generalize p.settled codec op = settled at heff
  cases heff with
  | refused href | expired _ _ _ href => cases href
  | kept hq => cases hq
  | promoted => exact ⟨rfl, _, _, _, rfl, eq_of_beq henabled, rfl⟩

/-! ## Coherence -/

/-- **Coherence** of a session with the call that holds `applyMu`. -/
structure Coherent (p : ClientPoint) : Prop where
  prepared : p.session.prepared.isSome = p.session.hasCandidate
  applying : ∀ call, p.busy = some (.applying call) → p.session.CanApply call
  activating : ∀ call, p.busy = some (.activating call) → p.session.Activates call

theorem Coherent.of_free (hbusy : q.busy = none)
    (hprepared : q.session.prepared.isSome = q.session.hasCandidate) : q.Coherent := by
  refine ⟨hprepared, fun call h => ?_, fun call h => ?_⟩
  · rw [hbusy] at h; cases h
  · rw [hbusy] at h; cases h

theorem Coherent.frame (h : p.Coherent) (hslots : SameSlots p.session q.session)
    (hbusy : q.busy = none ∨ q.busy = p.busy) : q.Coherent := by
  have hprepared : q.session.prepared.isSome = q.session.hasCandidate := by
    rw [hslots.prepared, hslots.hasCandidate]; exact h.prepared
  rcases hbusy with hb | hb
  · exact Coherent.of_free hb hprepared
  · refine ⟨hprepared, fun call hc => ?_, fun call hc => ?_⟩
    · exact hslots.canApply (h.applying call (hb ▸ hc))
    · exact hslots.activates (h.activating call (hb ▸ hc))

theorem Coherent.take {call : ApplyCall} (h : p.Coherent) (hs : q.session = p.session)
    (hbusy : q.busy = some (.applying call)) (hcan : p.session.CanApply call) : q.Coherent := by
  refine ⟨hs ▸ h.prepared, fun call' hc => ?_, fun call' hc => ?_⟩
  · rw [hbusy] at hc; cases hc; rw [hs]; exact hcan
  · rw [hbusy] at hc; cases hc

/-- **Every step keeps a point coherent.** -/
theorem Coherent.step (h : p.Coherent) (hstep : p.step codec op = some q) : q.Coherent := by
  cases step_slots hstep with
  | framed hslots hbusy => exact h.frame hslots hbusy
  | snapshotTaken _ hcan hs hbusy | deltaTaken _ hcan hs hbusy => exact h.take hs hbusy hcan
  | gapFound _ _ hs hbusy => exact Coherent.of_free hbusy (by rw [hs]; exact h.prepared)
  | staged _ _ hs hbusy | dropped _ hs hbusy | promoted _ hs hbusy | closed _ hs hbusy =>
    exact Coherent.of_free hbusy (by rw [hs]; rfl)
  | activating _ hcand hprepared hs hbusy =>
    refine ⟨hs ▸ h.prepared, fun call hc => ?_, fun call hc => ?_⟩
    · rw [hbusy] at hc; cases hc
    · rw [hbusy] at hc; cases hc; rw [hs]; exact ⟨hcand, rfl, hprepared, rfl, rfl⟩

theorem Start.coherent (h : p.Start) : p.Coherent := by
  obtain ⟨_, _, rfl⟩ := h.fresh
  exact Coherent.of_free rfl rfl

end ClientPoint

end PaperboatTunnel.ConnectorProtocol
