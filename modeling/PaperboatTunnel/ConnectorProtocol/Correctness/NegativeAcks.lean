import PaperboatTunnel.ConnectorProtocol.ServerStep

/-!
# `NegativeAcks` — which refusals may be made durable

Before a handler runs, the edge asks the session whether a negative acknowledgement may fail the durable operation it
belongs to. For snapshots and deltas predicate and handler agree on every live session (`negative_ack_exact`). For
drains the predicate does not look at whether the drain has ended: it is sound exactly on an unfinished one
(`negative_drain_ack_sound`, `rejection_of_completed_drain`).
-/

namespace PaperboatTunnel.ConnectorProtocol

open GoTime TransitionSystem

namespace ServerSession

variable {s : ServerSession} {reg : SessionRegistry} {now : Time}

instance : Decidable (s.Live reg now) := decidable_of_iff' _ (live_iff ..)

theorem whenActive_of_live {α : Type} (h : s.Live reg now) (body : ServerSession → ServerSession × Except Error α) :
    s.whenActive reg now body = (reg, body s) := by
  have hact : s.ensureActiveLocked reg now = (reg, s, none) := by
    unfold ensureActiveLocked
    rw [if_neg h.notClosed, if_neg (not_not.mpr h.current), if_neg (not_not.mpr h.credential),
      if_neg (not_not.mpr h.lease), if_neg h.heartbeat]
  unfold whenActive
  rw [hact]

/-! ## Snapshots and deltas -/

/-- What is on offer is withdrawn, and the next offer must be a full snapshot. -/
def withdrawOffer (s : ServerSession) : ServerSession :=
  if s.pendingSnapshot.isSome then restoreStateLocked { s with pendingSnapshot := none, needsSnapshot := true }
  else restoreStateLocked { s with pendingDelta := none, needsSnapshot := true }

/-- The transition of a refused offer: it is withdrawn, with the error for the status of the acknowledgement. -/
def RefusesOffer (s : ServerSession) (status : AckStatus) (o : ServerSession × Except Error Unit) : Prop :=
  (s.pendingSnapshot.isSome ∨ s.pendingDelta.isSome) ∧ o.1 = s.withdrawOffer ∧
    o.2 = .error (if status = .snapshotRequired then codeError .snapshotRequired .generationGap true
      else if s.pendingSnapshot.isSome then codeError .snapshotRejected .snapshotRejected
      else codeError .deltaRejected .snapshotRejected)

theorem not_refusesOffer {status : AckStatus} {r : Except Error Unit} : ¬ s.RefusesOffer status (s, r) := by
  rintro ⟨hoffer, heq, _⟩
  by_cases hp : s.pendingSnapshot.isSome
  · have hnone : s.pendingSnapshot = none := by
      rw [show s = s.withdrawOffer from heq, withdrawOffer, if_pos hp]; rfl
    rw [hnone] at hp
    cases hp
  · have hnone : s.pendingDelta = none := by
      rw [show s = s.withdrawOffer from heq, withdrawOffer, if_neg hp]; rfl
    rw [hnone] at hoffer
    exact hoffer.elim hp nofun

/-- The body of `HandleAck` refuses the offer exactly for the acknowledgements the predicate lets through. -/
theorem refusesOffer_iff {ack : Ack} (hval : ack.validate = none) :
    s.RefusesOffer ack.status (s.handleAckLocked ack) ↔ s.canPersistNegativeAck ack = true := by
  unfold handleAckLocked canPersistNegativeAck
  by_cases hid : s.matchesIdentity ack.accountID ack.tunnelID ack.connectorID ack.sessionID ack.processGeneration
  swap
  · simp [hid, not_refusesOffer]
  simp only [hid, hval, ne_eq, not_true_eq_false, or_false, if_false]
  cases hp : s.pendingSnapshot with
  | some pending =>
    dsimp only
    unfold ackSnapshot
    split
    · grind [not_refusesOffer]
    · cases hs : ack.status <;> simp_all [RefusesOffer, withdrawOffer]
  | none =>
    cases hd : s.pendingDelta with
    | none => simp [not_refusesOffer]
    | some pending =>
      dsimp only
      unfold ackDelta
      split
      · grind [not_refusesOffer]
      split
      · simp_all [RefusesOffer, withdrawOffer]
      split
      · simp_all [RefusesOffer, withdrawOffer]
      -- a positive acknowledgement stages the delta or drops it, with another error
      · split <;> simp_all [RefusesOffer, codeError]

/-- **The predicate is exact.** On a live session it is true of an acknowledgement if and only if `HandleAck` takes
    the transition that withdraws the offer and asks for a full snapshot. -/
theorem negative_ack_exact (s : ServerSession) (reg : SessionRegistry) (ctx : Context) (ack : Ack) (clock : Time)
    (hlive : s.Live reg clock.utc) : s.canPersistNegativeAck ack = true ↔
      s.RefusesOffer ack.status (s.handleAck reg (some ctx) ack clock).2 := by
  unfold handleAck
  cases hval : ack.validate with
  | none =>
    show _ ↔ s.RefusesOffer ack.status (s.whenActive reg clock.utc (fun s => s.handleAckLocked ack)).2
    rw [whenActive_of_live hlive]
    exact (refusesOffer_iff hval).symm
  | some err =>
    refine ⟨fun h => ?_, fun h => absurd h not_refusesOffer⟩
    unfold canPersistNegativeAck at h
    rw [if_pos (.inr (by rw [hval]; nofun))] at h
    cases h

def rejectDrain (s : ServerSession) (ack : DrainAck) : ServerSession :=
  restoreStateLocked { s with drainStatus := .rejected, drainCode := ack.code, drainCompleted := true }

/-- **The predicate is sound exactly for an unfinished drain.** On a live session, `HandleDrainAck` performs the
    rejection of the outstanding drain for an acknowledgement that passes the predicate if and only if the context is
    not done and the drain has not ended. -/
theorem negative_drain_ack_sound (s : ServerSession) (reg : SessionRegistry) (ctx : Context) (ack : DrainAck)
    (clock : Time) (hlive : s.Live reg clock.utc) (h : s.canPersistNegativeDrainAck ack = true) :
    s.handleDrainAck reg (some ctx) ack clock =
        (reg, s.rejectDrain ack, .error (codeError .drainRejected .snapshotRejected))
      ↔ doneContext (some ctx) = none ∧ s.drainCompleted = false := by
  unfold canPersistNegativeDrainAck at h
  split at h
  · cases h
  next hargs =>
  obtain ⟨hstatus, hvalid⟩ := not_or.mp hargs
  split at h
  · cases h
  next drain hdrain =>
  obtain ⟨hid, hdrainID, hgeneration, hhash⟩ := of_decide_eq_true h
  unfold handleDrainAck
  cases hctx : ctx.err with
  | some err => simp [doneContext, hctx, checked, codeError]
  | none =>
    simp only [doneContext, hctx, Option.map_none, not_not.mp hvalid, checked, whenActive_of_live hlive, true_and]
    unfold handleDrainAckLocked
    rw [if_neg (not_not.mpr hid), hdrain]
    dsimp only
    rw [if_neg (not_not.mpr hdrainID), if_neg (by simp [hgeneration, hhash])]
    cases hended : s.drainCompleted with
    | false =>
      rw [if_neg nofun, recordDrainAck, not_not.mp hstatus]
      exact iff_of_true rfl rfl
    -- a drain that has ended answers with its record, or with the error of a stale generation
    | true =>
      rw [if_pos rfl]
      split <;> simp [codeError]

end ServerSession

/-! ## Refusals of the sample session -/

open Sample

def Sample.refusal : Ack := { snapshotAck config1 with status := .rejected, code := .snapshotRejected }

def Sample.drainAck (status : DrainStatus) (code : Code) : DrainAck :=
  { accountID := "acct_1", tunnelID := "tunnel_1", connectorID := "connector_1", sessionID := "sess_1",
    processGeneration := 1, drainID := "drain_1", generation := 1, contentHash := config1.hash, status, code }

/-- The first snapshot is refused. -/
theorem negative_ack_exact_refused : (session config1).canPersistNegativeAck refusal = true ∧
    (session config1).RefusesOffer .rejected ((session config1).handleAck (reg config1) (some {}) refusal now).2 := by
  have hpred : (session config1).canPersistNegativeAck refusal = true := by decide +kernel
  exact ⟨hpred, (ServerSession.negative_ack_exact _ _ {} refusal now (by decide +kernel)).mp hpred⟩

/-- A drain that was just begun is rejected. -/
theorem negative_drain_ack_sound_begun : let s := { session config1 with drain := some (drainRequest config1) }
    s.handleDrainAck (reg config1) (some {}) (drainAck .rejected .drainRejected) now
      = (reg config1, s.rejectDrain (drainAck .rejected .drainRejected),
        .error (codeError .drainRejected .snapshotRejected)) :=
  (ServerSession.negative_drain_ack_sound _ _ {} _ now (by decide +kernel) (by decide +kernel)).mpr (by decide +kernel)

/-- **A rejection of a completed drain may be made durable.** The predicate accepts it, and `HandleDrainAck` refuses
    it as stale and leaves the session alone. -/
theorem rejection_of_completed_drain : ∃ (p q : ServerPoint) (tr : Trace ServerPoint ServerLabel)
      (reg : SessionRegistry) (ctx : Context) (ack : DrainAck) (clock : Time), p.Start sampleCodec ∧
      Run (ServerPoint.step sampleCodec) p tr q ∧ q.session.Live reg clock.utc ∧ doneContext (some ctx) = none ∧
      q.session.drainStatus = .completed ∧ q.session.canPersistNegativeDrainAck ack = true ∧
      (q.session.handleDrainAck reg (some ctx) ack clock).2
        = (q.session, .error (codeError .staleGeneration .staleGeneration)) := by
  let ops := applies config1 ++ [ServerCall.beginDrain (some {}) "drain_1" (at_ 30) false now now,
    .handleDrainAck (some {}) (drainAck .completed .unset) now]
  refine ⟨⟨session config1, []⟩, after config1 ⟨session config1, []⟩ ops, _, reg config1, {},
    drainAck .rejected .drainRejected, now, start config1 accepts1, exec_getD_run ?_, ?_⟩
  · decide +kernel
  · decide +kernel

end PaperboatTunnel.ConnectorProtocol
