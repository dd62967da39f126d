import PaperboatTunnel.Lib.Transition
import PaperboatTunnel.ConnectorProtocol.ClientSession

/-!
# `ClientStep` — what one lock-held section can do to a client session

`ClientSession.Effect` is the rule form of the sections: one rule per way the source writes the session, with the
guards under which it does. **`call_effect` says the rules are complete.** `activationFailed` and `drainFailed` have no
guard on the state, because their sections take the lock again without asking `ensureActiveLocked`.
-/

namespace PaperboatTunnel.ConnectorProtocol

open GoTime ClientSession List Option

/-! ## Calls and replies -/

/-- The lock-held sections of a client session, with their arguments and what the environment answers. -/
inductive ClientCall where
  | acceptWelcome (welcome : Welcome) (clock clock' : Time)
  | applySnapshot (ctx : Option Context) (snapshot : Snapshot) (clock : Time)
  | applyDelta (ctx : Option Context) (delta : Delta) (clock : Time)
  | applyFinish (call : ApplyCall) (outcome : PrepareOutcome) (clock : Time)
  | markReady (ctx : Option Context) (edgeReady routeReady originReady : Bool) (clock : Time)
  | readyFinish (call : ReadyCall) (outcome : ActivateOutcome) (clock : Time)
  | heartbeat (now clock : Time)
  | acceptHeartbeatAck (ack : HeartbeatAck) (clock : Time)
  | renewalRequest (now clock : Time) (nonce signedProof : String)
  | applyRenewal (result : AuthResult) (clock : Time)
  | handleDrain (ctx : Option Context) (request : Drain) (clock : Time)
  | drainFinish (request : Drain) (outcome : DrainOutcome)
  | drainProgress (ctx : Option Context) (activeStreams : UInt32) (forcedClose : Bool) (clock : Time)
  | completeDrain (ctx : Option Context) (force : Bool)
  | completeFinish (ctx : Option Context) (force : Bool) (outcome : Except Error UInt32) (clock : Time)
  | checkLease (now : Time)
  | close (reason : DisconnectReason) (abortErr : Option Error)

/-- What a section ends with: a result for the caller, or a call to the applier or the drainer. -/
inductive ClientReply where
  | done (err : Option Error)
  | ack (ack : Ack) (err : Option Error)
  | readiness (readiness : Readiness) (err : Option Error)
  | heartbeat (heartbeat : Heartbeat) (err : Option Error)
  | renewalRequest (request : RenewalRequest) (err : Option Error)
  | drainAck (ack : DrainAck) (err : Option Error)
  | preparing (call : ApplyCall)
  | activating (call : ReadyCall)
  | draining (request : Drain)
  | completing (force : Bool)
deriving DecidableEq

/-- The session after a section, its reply, and the prepared configurations it settled, that is, activated
    successfully or aborted. -/
structure ClientOutcome where
  session : ClientSession
  reply : ClientReply
  settled : List Handle := []
deriving DecidableEq

namespace ClientReply

/-- An error for the caller, without an acknowledgement to send. -/
def Refusal : ClientReply → Prop
  | .done (some _) | .readiness _ (some _) | .heartbeat _ (some _) | .renewalRequest _ (some _)
  | .drainAck _ (some _) => True
  | .ack a (some _) => a = {}
  | _ => False

/-- A success of a section that only looks at the session. -/
def Quiet : ClientReply → Prop
  | .done none | .heartbeat _ none | .renewalRequest _ none | .drainAck _ none | .completing _ => True
  | .ack a none => a.status = .duplicate
  | _ => False

end ClientReply

namespace ClientSession

variable {α β : Type}

def Finished.outcome (f : α → Option Error → ClientReply) (o : Finished α) : ClientOutcome :=
  ⟨o.session, f o.value o.err, o.activated ++ o.aborted⟩

/-- Wrap a section that may go out. -/
def began (f : α → Option Error → ClientReply) (g : β → ClientReply) (o : ClientSession × Began α β) :
    ClientOutcome :=
  match o.2 with
  | .returned value err => ⟨o.1, f value err, []⟩
  | .calling call => ⟨o.1, g call, []⟩

def ended (f : α → Option Error → ClientReply) (o : ClientSession × α × Option Error) : ClientOutcome :=
  ⟨o.1, f o.2.1 o.2.2, []⟩

def erred (o : ClientSession × Option Error) : ClientOutcome := ⟨o.1, .done o.2, []⟩

variable (codec : PayloadCodec) (c : ClientSession)

def call : ClientCall → ClientOutcome
  | .acceptWelcome w clock clock' => erred (c.acceptWelcome w clock clock')
  | .applySnapshot ctx snapshot clock => began .ack .preparing (c.applySnapshotBegin codec ctx snapshot clock)
  | .applyDelta ctx delta clock => began .ack .preparing (c.applyDeltaBegin codec ctx delta clock)
  | .applyFinish call o clock => (c.applyFinish call o clock).outcome .ack
  | .markReady ctx edge route origin clock =>
    began .readiness .activating (c.markReadyBegin ctx edge route origin clock)
  | .readyFinish call o clock => (c.markReadyFinish call o clock).outcome .readiness
  | .heartbeat now clock => ended .heartbeat (c.heartbeat now clock)
  | .acceptHeartbeatAck ack clock => erred (c.acceptHeartbeatAck ack clock)
  | .renewalRequest now clock nonce proof => ended .renewalRequest (c, c.renewalRequest now clock nonce proof)
  | .applyRenewal result clock => erred (c.applyRenewal result clock)
  | .handleDrain ctx request clock => began .drainAck .draining (c.handleDrainBegin ctx request clock)
  | .drainFinish request o => ended .drainAck (c.handleDrainFinish request o)
  | .drainProgress ctx n forced clock => ended .drainAck (c.drainProgress ctx n forced clock)
  | .completeDrain ctx force => began .drainAck .completing (c, c.completeDrainBegin ctx force)
  | .completeFinish ctx force o clock => ended .drainAck (c.completeDrainFinish ctx force o clock)
  | .checkLease now => erred (c.checkLease now)
  | .close reason abortErr => (c.close reason abortErr).outcome (fun _ err => .done err)

/-! ## The rules -/

/-- The session has been welcomed and not closed. -/
def Open : Prop := c.state ≠ .closed ∧ c.state ≠ .new

/-- The lease or the heartbeat of the session has run out at `now`. -/
def ExpiredAt (now : Time) : Prop := ¬ c.lease.expiresAt.after now ∨ c.heartbeatOverdue now

instance (now : Time) : Decidable (c.ExpiredAt now) := inferInstanceAs (Decidable (_ ∨ _))

/-- The session may go out to the applier with this call. -/
def CanApply : ApplyCall → Prop
  | .snapshot snapshot =>
    (c.hasCandidate → c.candidate.generation < snapshot.generation)
      ∧ (¬ c.hasCandidate → c.hasActive → c.active.generation < snapshot.generation)
  | .delta delta =>
    c.hasActive ∧ ¬ c.needsSnapshot ∧ ¬ c.hasCandidate
      ∧ delta.previousGeneration = c.active.generation ∧ delta.generation = c.active.generation + 1

/-- The drainer failed the request, or counted more streams than allowed. -/
def DrainOutcome.Failed (o : DrainOutcome) : Prop :=
  o.stopErr.isSome ∨ o.countErr.isSome ∨ o.activeStreams > maxActiveStreams

end ClientSession

/-- The prepared configuration a finishing section is about. -/
def ClientCall.handles : ClientCall → List Handle
  | .applyFinish _ o _ => o.prepared.toList
  | .readyFinish call _ _ => [call.prepared]
  | _ => []

/-- The time at which a section asks `ensureActiveLocked`, if it does. -/
def ClientCall.checkTime : ClientCall → Option Time
  | .applySnapshot _ _ clock | .applyDelta _ _ clock | .applyFinish _ _ clock | .markReady _ _ _ _ clock
  | .readyFinish _ _ clock | .acceptHeartbeatAck _ clock | .applyRenewal _ clock | .handleDrain _ _ clock
  | .drainProgress _ _ _ clock | .completeFinish _ _ _ clock => some clock.utc
  | .heartbeat now clock => some (if now.isZero then clock.utc else now)
  | .checkLease now => some now
  | _ => none

namespace ClientSession

variable (codec : PayloadCodec) (c : ClientSession) in
/-- `Effect c op o`: the section `op` takes the session `c` to the outcome `o`. -/
inductive Effect : ClientCall → ClientOutcome → Prop where
  | refused {op reply} (hr : reply.Refusal) : Effect op ⟨c, reply, op.handles⟩
  | kept {op reply} (hr : reply.Quiet) : Effect op ⟨c, reply, op.handles⟩
  | expired {op reply reason now} (hopen : c.Open) (hcheck : op.checkTime = some now)
      (hexp : c.ExpiredAt now) (hr : reply.Refusal) :
      Effect op ⟨c.expire reason, reply, op.handles⟩
  | welcomed {w clock clock'} (hnew : c.state = .new) : Effect (.acceptWelcome w clock clock')
        ⟨{ c with welcome := w, lease := w.lease, state := .awaitingSnapshot,
                  lastHeartbeatAck := clock'.utc }, .done none, []⟩
  | snapshotTaken {ctx snapshot clock} (hcan : c.CanApply (.snapshot snapshot)) :
      Effect (.applySnapshot ctx snapshot clock) ⟨c, .preparing (.snapshot snapshot), []⟩
  | deltaTaken {ctx delta clock} (hv : delta.validate codec = none) (hcan : c.CanApply (.delta delta)) :
      Effect (.applyDelta ctx delta clock) ⟨c, .preparing (.delta delta), []⟩
  | gapKept {ctx delta clock ack err} (hack : ack.status = .snapshotRequired)
      (hgap : ¬ c.hasActive ∨ c.needsSnapshot ∨ c.hasCandidate) :
      Effect (.applyDelta ctx delta clock) ⟨c, .ack ack (some err), []⟩
  | gapFound {ctx delta clock ack err} (hack : ack.status = .snapshotRequired) (hcand : ¬ c.hasCandidate) :
      Effect (.applyDelta ctx delta clock) ⟨{ c with needsSnapshot := true }, .ack ack (some err), []⟩
  | staged {call o clock prepared ack} (hopen : c.Open) (hprepared : o.prepared = some prepared)
      (hfree : ¬ (c.hasCandidate ∧ c.prepared.isSome)) (hack : ack.status = .applied) :
      Effect (.applyFinish call o clock) ⟨c.stage call prepared, .ack ack none, []⟩
  | activating {ctx clock prepared} (hopen : c.Open) (hcand : c.hasCandidate)
      (hprepared : c.prepared = some prepared) :
      Effect (.markReady ctx true true true clock)
        ⟨c, .activating ⟨c.readinessFor true true true, prepared, c.candidate⟩, []⟩
  | activationFailed {call o clock err} (hfail : o.err.isSome) (hstill : c.stillStaged call) :
      Effect (.readyFinish call o clock) ⟨c.dropCandidate, .readiness call.readiness (some err), [call.prepared]⟩
  | promoted {call o clock} (hopen : c.Open) (hok : o.err = none) (hstill : c.stillStaged call) :
      Effect (.readyFinish call o clock) ⟨c.promote, .readiness call.readiness none, [call.prepared]⟩
  | beatAcked {ack clock} (hopen : c.Open) : Effect (.acceptHeartbeatAck ack clock)
        ⟨{ c with lease := { c.lease with expiresAt := ack.leaseExpiresAt },
                  lastHeartbeatAck := clock.utc }, .done none, []⟩
  | renewed {result clock} (hopen : c.Open) :
      Effect (.applyRenewal result clock) ⟨c.renew result clock.utc, .done none, []⟩
  | drainRecorded {ctx request clock} (hopen : c.Open) (hdrain : c.drain = none) :
      Effect (.handleDrain ctx request clock) ⟨c.recordDrain request, .draining request, []⟩
  | drainFailed {request o ack err} (hfail : o.Failed) (hdrain : c.isDraining request) :
      Effect (.drainFinish request o) ⟨c.failDrain request, .drainAck ack (some err), []⟩
  | drainCounted {op n ack err} (hhandles : op.handles = []) :
      Effect op ⟨{ c with activeStreams := n }, .drainAck ack err, []⟩
  | progressed {op n status code completed ack} (hopen : c.Open) (hhandles : op.handles = [])
      (hcompleted : c.drainCompleted = false) (hstatus : status ≠ .rejected) :
      Effect op
        ⟨{ c with activeStreams := n, drainStatus := status, drainCode := code,
                  drainCompleted := completed }, .drainAck ack none, []⟩
  | closed {reason abortErr err} (hopen : c.state ≠ .closed) :
      Effect (.close reason abortErr) ⟨c.closeLocked reason, .done err, c.prepared.toList⟩

/-! ## Completeness of the rules -/

variable {codec : PayloadCodec} {c : ClientSession} {ctx : Option Context} {clock : Time} {snap : Snapshot}
  {req : Drain} {cur : Snapshot} {now : Time}

abbrev HasEffect (codec : PayloadCodec) (c : ClientSession) (op : ClientCall) : Prop :=
  Effect codec c op (c.call codec op)

/-- **`ensureActiveLocked`** passes an open session, refuses it without a change, or lets it expire. -/
@[elab_as_elim]
theorem ensureActiveLocked_elim {motive : ClientSession × Option Error → Prop} (c : ClientSession) (now : Time)
    (passed : c.Open → motive (c, none)) (refused : ∀ err, motive (c, some err))
    (expired : c.Open → c.ExpiredAt now → ∀ reason err, motive (c.expire reason, some err)) :
    motive (c.ensureActiveLocked now) := by
  unfold ensureActiveLocked
  split
  · exact refused _
  next hcl =>
  split
  · exact refused _
  next hnew =>
  split
  · next hlease => exact expired ⟨hcl, hnew⟩ (.inl hlease) _ _
  split
  · next hbeat => exact expired ⟨hcl, hnew⟩ (.inr hbeat) _ _
  · exact passed ⟨hcl, hnew⟩

theorem acceptWelcome_effect {w : Welcome} {clock' : Time} : HasEffect codec c (.acceptWelcome w clock clock') := by
  simp only [HasEffect, call]
  fun_cases acceptWelcome c w clock clock' with
  | case6 _ hnew => exact .welcomed (not_not.mp hnew)
  | _ => exact .refused trivial

/-! ### Applying -/

/-- A snapshot that the comparison lets through is newer than what it was compared with. -/
theorem lt_of_againstCurrent (h : c.againstCurrent snap cur = none) : cur.generation < snap.generation := by
  unfold againstCurrent at h
  split at h
  · cases h
  next hlt =>
  split at h
  · split at h <;> cases h
  next hne =>
  rw [UInt64.lt_iff_toNat_lt] at hlt ⊢
  rw [← UInt64.toNat_inj] at hne
  omega

/-- What the comparison answers itself: a duplicate, or an error without an acknowledgement. -/
theorem againstCurrent_answer {ack : Ack} {err : Option Error} (h : c.againstCurrent snap cur = some (ack, err)) :
    (ClientReply.ack ack err).Refusal ∨ (ClientReply.ack ack err).Quiet := by
  unfold againstCurrent at h
  split at h
  · cases h; exact .inl rfl
  split at h
  · split at h
    · cases h; exact .inr rfl
    · cases h; exact .inl rfl
  · cases h

theorem canApply_of_compareSnapshot (h : c.compareSnapshot snap = none) : c.CanApply (.snapshot snap) := by
  unfold compareSnapshot at h
  split at h
  · next hc => exact ⟨fun _ => lt_of_againstCurrent h, fun hn => absurd hc hn⟩
  next hc =>
  refine ⟨fun h' => absurd h' hc, fun _ ha => ?_⟩
  rw [if_pos ha] at h
  exact lt_of_againstCurrent h

theorem compareSnapshot_answer {ack : Ack} {err : Option Error} (h : c.compareSnapshot snap = some (ack, err)) :
    (ClientReply.ack ack err).Refusal ∨ (ClientReply.ack ack err).Quiet := by
  unfold compareSnapshot at h
  split at h
  · exact againstCurrent_answer h
  split at h
  · exact againstCurrent_answer h
  · cases h

theorem applySnapshot_effect : HasEffect codec c (.applySnapshot ctx snap clock) := by
  simp only [HasEffect, call, applySnapshotBegin]
  split
  · exact .refused rfl
  split
  · exact .refused rfl
  refine ensureActiveLocked_elim c clock.utc (fun _ => ?_) (fun _ => .refused rfl)
    (fun hopen hexp _ _ => .expired hopen rfl hexp rfl)
  dsimp only
  fun_cases applySnapshotLocked with
  | case3 _ _ _ _ hcmp =>
    rcases compareSnapshot_answer hcmp with hr | hq
    · exact .refused hr
    · exact .kept hq
  | case5 _ _ hcmp => exact .snapshotTaken (canApply_of_compareSnapshot hcmp)
  | _ => exact .refused rfl

theorem applyDelta_effect {delta : Delta} : HasEffect codec c (.applyDelta ctx delta clock) := by
  simp only [HasEffect, call, applyDeltaBegin]
  split
  · exact .refused rfl
  split
  · exact .refused rfl
  next hv =>
  refine ensureActiveLocked_elim c clock.utc (fun _ => ?_) (fun _ => .refused rfl)
    (fun hopen hexp _ _ => .expired hopen rfl hexp rfl)
  dsimp only
  fun_cases applyDeltaLocked with
  | case2 _ hgap => exact .gapKept rfl hgap
  | case3 _ hgap | case7 _ hgap =>
    simp only [not_or, not_not] at hgap
    exact .gapFound rfl hgap.2.2
  | case5 _ hgap hbase hgen =>
    -- the session has an active configuration to build on and no candidate
    simp only [not_or, not_not] at hgap
    exact .deltaTaken hv ⟨hgap.1, hgap.2.1, hgap.2.2, hbase.1, not_not.mp hgen⟩
  | _ => exact .refused rfl

theorem refusal_joinCleanup (err : Error) (cleanup : Option Error) :
    (ClientReply.ack {} (joinCleanup (some err) cleanup)).Refusal := by
  cases cleanup <;> rfl

theorem applyFinish_effect {call : ApplyCall} {o : PrepareOutcome} :
    HasEffect codec c (.applyFinish call o clock) := by
  simp only [HasEffect, ClientSession.call, applyFinish]
  split
  · exact .refused rfl
  · exact .refused rfl
  · next hprepared =>
    have hhandle : (ClientCall.applyFinish call o clock).handles = [] := by
      simp only [ClientCall.handles, hprepared, toList_none]
    simp only [Finished.outcome, nil_append]
    exact hhandle ▸ .refused rfl
  -- the applier succeeded; from here on every refusal aborts the one handle it returned
  next prepared _ _ hprepared =>
  have hhandle : (ClientCall.applyFinish call o clock).handles = [prepared] := by
    simp only [ClientCall.handles, hprepared, toList_some]
  refine ensureActiveLocked_elim c clock.utc (fun hopen => ?_) (fun err => ?_) (fun hopen hexp reason err => ?_)
  · dsimp only
    split
    · simp only [Finished.outcome, nil_append, ← hhandle]
      exact .refused (refusal_joinCleanup _ _)
    · next hfree => exact .staged hopen hprepared hfree rfl
  · simp only [Finished.outcome, nil_append, ← hhandle]
    exact .refused (refusal_joinCleanup _ _)
  · simp only [Finished.outcome, nil_append, ← hhandle]
    exact .expired hopen rfl hexp (refusal_joinCleanup _ _)

theorem markReady_effect {edge route origin : Bool} : HasEffect codec c (.markReady ctx edge route origin clock) := by
  simp only [HasEffect, call, markReadyBegin]
  split
  · exact .refused trivial
  refine ensureActiveLocked_elim c clock.utc (fun hopen => ?_) (fun _ => .refused trivial)
    (fun hopen hexp _ _ => .expired hopen rfl hexp trivial)
  dsimp only
  fun_cases markReadyLocked with
  | case5 hcand _ hready _ hprepared =>
    simp only [not_or, not_not] at hready
    obtain ⟨rfl, rfl, rfl⟩ := hready
    exact .activating hopen (not_not.mp hcand) hprepared
  | _ => exact .refused trivial

theorem readyFinish_effect {call : ReadyCall} {o : ActivateOutcome} :
    HasEffect codec c (.readyFinish call o clock) := by
  simp only [HasEffect, ClientSession.call, markReadyFinish]
  split
  · next err hfail =>
    simp only [Finished.outcome, nil_append]
    -- the error differs by `ctx.Err()`, the session only by whether the candidate is still there
    by_cases hstill : c.stillStaged call
    · rw [if_pos hstill]
      split <;> exact .activationFailed (by rw [hfail]; rfl) hstill
    · rw [if_neg hstill]
      split <;> exact .refused trivial
  next hok =>
  refine ensureActiveLocked_elim c clock.utc (fun hopen => ?_) (fun _ => .refused trivial)
    (fun hopen hexp _ _ => .expired hopen rfl hexp trivial)
  dsimp only
  split
  · exact .refused trivial
  · next hstill => exact .promoted hopen hok (not_not.mp hstill)

/-! ### Heartbeats and renewal -/

theorem heartbeat_effect : HasEffect codec c (.heartbeat now clock) := by
  simp only [HasEffect, call, heartbeat]
  refine ensureActiveLocked_elim c _ (fun _ => ?_) (fun _ => .refused trivial)
    (fun hopen hexp _ _ => .expired hopen rfl hexp trivial)
  dsimp only
  split
  · exact .refused trivial
  · exact .kept trivial

theorem acceptHeartbeatAck_effect {ack : HeartbeatAck} : HasEffect codec c (.acceptHeartbeatAck ack clock) := by
  simp only [HasEffect, call, acceptHeartbeatAck]
  split
  · exact .refused trivial
  refine ensureActiveLocked_elim c clock.utc (fun hopen => ?_) (fun _ => .refused trivial)
    (fun hopen hexp _ _ => .expired hopen rfl hexp trivial)
  dsimp only
  split
  · exact .refused trivial
  · exact .beatAcked hopen

theorem renewalRequest_effect {nonce proof : String} : HasEffect codec c (.renewalRequest now clock nonce proof) := by
  simp only [HasEffect, call, renewalRequest]
  split
  · exact .refused trivial
  split
  · exact .refused trivial
  · exact .kept trivial

theorem applyRenewal_effect {res : AuthResult} : HasEffect codec c (.applyRenewal res clock) := by
  simp only [HasEffect, call, applyRenewal]
  split
  · exact .refused trivial
  refine ensureActiveLocked_elim c clock.utc (fun hopen => ?_) (fun _ => .refused trivial)
    (fun hopen hexp _ _ => .expired hopen rfl hexp trivial)
  dsimp only
  split
  · exact .refused trivial
  split
  · exact .refused trivial
  split
  · exact .kept trivial
  · exact .renewed hopen

/-! ### Drain -/

theorem handleDrain_effect : HasEffect codec c (.handleDrain ctx req clock) := by
  simp only [HasEffect, call, handleDrainBegin]
  split
  · exact .refused trivial
  · exact .refused trivial
  refine ensureActiveLocked_elim c clock.utc (fun hopen => ?_) (fun _ => .refused trivial)
    (fun hopen hexp _ _ => .expired hopen rfl hexp trivial)
  dsimp only
  fun_cases handleDrainLocked with
  | case5 => exact .kept trivial
  | case8 _ _ hdrain => exact .drainRecorded hopen hdrain
  | _ => exact .refused trivial

theorem drainFailed_effect {o : DrainOutcome} (hfail : o.Failed) (ack : DrainAck) (err : Error) :
    Effect codec c (.drainFinish req o) ⟨c.failDrain req, .drainAck ack (some err), []⟩ := by
  by_cases hdrain : c.isDraining req
  · exact .drainFailed hfail hdrain
  · have hsame : c.failDrain req = c := by unfold failDrain; rw [if_neg hdrain]
    rw [hsame]
    exact .refused trivial

theorem drainFinish_effect {o : DrainOutcome} : HasEffect codec c (.drainFinish req o) := by
  simp only [HasEffect, call, handleDrainFinish]
  split
  · next err hstop => exact drainFailed_effect (.inl (by rw [hstop]; rfl)) _ _
  split
  · next hcount => exact drainFailed_effect (.inr hcount) _ _
  split
  · exact .refused trivial
  · exact .drainCounted rfl

theorem drainProgress_effect {op : ClientCall} (hhandle : op.handles = [])
    (hcheck : op.checkTime = some clock.utc) (ctx : Option Context) (n : UInt32) (forced : Bool) :
    Effect codec c op (ended .drainAck (c.drainProgress ctx n forced clock)) := by
  have refusal (ack : DrainAck) (err : Error) : Effect codec c op ⟨c, .drainAck ack (some err), []⟩ := by
    rw [← hhandle]; exact .refused trivial
  unfold drainProgress
  split
  · exact refusal _ _
  split
  · exact refusal _ _
  split
  · exact refusal _ _
  refine ensureActiveLocked_elim c clock.utc (fun hopen => ?_) (fun _ => refusal _ _) (fun hopen hexp _ _ => ?_)
  swap
  · simp only [ended, ← hhandle]
    exact .expired hopen hcheck hexp trivial
  dsimp only
  split
  · exact refusal _ _
  fun_cases drainProgressLocked with
  | case1 | case2 | case5 => exact .drainCounted hhandle
  | case3 _ hcompleted | case4 _ hcompleted | case6 _ hcompleted =>
    exact .progressed hopen hhandle (by simpa using hcompleted) (by simp)

theorem completeDrain_effect {force : Bool} : HasEffect codec c (.completeDrain ctx force) := by
  simp only [HasEffect, call, completeDrainBegin]
  split
  · exact .refused trivial
  split
  · exact .refused trivial
  split
  · exact .kept trivial
  · exact .kept trivial

theorem completeFinish_effect {force : Bool} {o : Except Error UInt32} :
    HasEffect codec c (.completeFinish ctx force o clock) := by
  simp only [HasEffect, call, completeDrainFinish]
  split
  · exact .refused trivial
  split
  · exact drainProgress_effect rfl rfl ctx _ _
  · exact drainProgress_effect rfl rfl ctx _ _

/-! ### Lease check and close -/

theorem checkLease_effect : HasEffect codec c (.checkLease now) := by
  simp only [HasEffect, call, checkLease]
  exact ensureActiveLocked_elim c now (fun _ => .kept trivial) (fun _ => .refused trivial)
    (fun hopen hexp _ _ => .expired hopen rfl hexp trivial)

theorem close_effect {reason : DisconnectReason} {abortErr : Option Error} :
    HasEffect codec c (.close reason abortErr) := by
  simp only [HasEffect, call, close]
  split
  · exact .refused trivial
  split
  · exact .kept trivial
  · next hopen => exact .closed hopen

/-- **The rules are complete.** Every section of a client session is an instance of one. -/
theorem call_effect (codec : PayloadCodec) (c : ClientSession) (op : ClientCall) : HasEffect codec c op := by
  cases op with
  | acceptWelcome => exact acceptWelcome_effect
  | applySnapshot => exact applySnapshot_effect
  | applyDelta => exact applyDelta_effect
  | applyFinish => exact applyFinish_effect
  | markReady => exact markReady_effect
  | readyFinish => exact readyFinish_effect
  | heartbeat => exact heartbeat_effect
  | acceptHeartbeatAck => exact acceptHeartbeatAck_effect
  | renewalRequest => exact renewalRequest_effect
  | applyRenewal => exact applyRenewal_effect
  | handleDrain => exact handleDrain_effect
  | drainFinish => exact drainFinish_effect
  | drainProgress => exact drainProgress_effect rfl rfl ..
  | completeDrain => exact completeDrain_effect
  | completeFinish => exact completeFinish_effect
  | checkLease => exact checkLease_effect
  | close => exact close_effect

end ClientSession

/-! ## Runs

A client session is called by any number of goroutines. The machine interleaves the lock-held sections: an
operation that goes out to the applier or to the drainer is remembered until its second section runs.

`ApplySnapshot`, `ApplyDelta`, `MarkReadyContext` and `Close` hold `applyMu` from start to end, so at most
one of them is under way and `busy` is both the mutex and the call it protects; the machine lets such a call
start only when the mutex is free. `HandleDrain` and `CompleteDrain` do not take it, and any number of them
may be out. `Close` holds it only to abort a configuration after its section, which touches no session
state, so `Close` is one step.
-/

open TransitionSystem

/-- The call that holds `applyMu` while it is out. -/
inductive Busy where
  | applying (call : ApplyCall)
  | activating (call : ReadyCall)
deriving DecidableEq

/-- A client session and its calls under way. -/
structure ClientPoint where
  session : ClientSession
  busy : Option Busy := none
  draining : List Drain := []
  completing : List Bool := []
deriving DecidableEq

namespace ClientPoint

variable (codec : PayloadCodec) (p : ClientPoint) (op : ClientCall)

/-- A call that needs `applyMu` starts when it is free; a second section runs for a call that is out. -/
def enabled : ClientCall → Bool
  | .applySnapshot .. | .applyDelta .. | .markReady .. | .close .. => p.busy == none
  | .applyFinish call _ _ => p.busy == some (.applying call)
  | .readyFinish call _ _ => p.busy == some (.activating call)
  | .drainFinish request _ => p.draining.contains request
  | .completeFinish _ force _ _ => p.completing.contains force
  | _ => true

/-- The holder of `applyMu` after a section. -/
def busyAfter (reply : ClientReply) : Option Busy :=
  match op, reply with
  | .applyFinish .., _ => none
  | .readyFinish .., _ => none
  | _, .preparing call => some (.applying call)
  | _, .activating call => some (.activating call)
  | _, _ => p.busy

def drainingAfter (reply : ClientReply) : List Drain :=
  match op, reply with
  | .drainFinish request _, _ => p.draining.erase request
  | _, .draining request => request :: p.draining
  | _, _ => p.draining

def completingAfter (reply : ClientReply) : List Bool :=
  match op, reply with
  | .completeFinish _ force _ _, _ => p.completing.erase force
  | _, .completing force => force :: p.completing
  | _, _ => p.completing

def returned : ClientReply := (p.session.call codec op).reply

def settled : List Handle := (p.session.call codec op).settled

def step : Option ClientPoint :=
  if p.enabled op then
    some { session := (p.session.call codec op).session
           busy := p.busyAfter op (p.returned codec op)
           draining := p.drainingAfter op (p.returned codec op)
           completing := p.completingAfter op (p.returned codec op) }
  else none

/-- A session as `NewClientSession` returns it, with nothing under way. -/
def Start : Prop :=
  ∃ config clock, newClientSession config clock = .ok p.session ∧ p.busy = none ∧ p.draining = [] ∧ p.completing = []

def Idle : Prop := p.busy = none ∧ p.draining = [] ∧ p.completing = []

instance : Decidable p.Idle := inferInstanceAs (Decidable (_ ∧ _))

theorem Start.fresh {p : ClientPoint} (h : p.Start) : ∃ config auth, p = { session := { config, auth } } := by
  obtain ⟨_, _, hnew, hbusy, hdraining, hcompleting⟩ := h
  obtain ⟨_, _, _, _⟩ := p
  simp only at hnew hbusy hdraining hcompleting
  subst hbusy hdraining hcompleting
  unfold newClientSession at hnew
  split at hnew
  · cases hnew
  split at hnew
  · cases hnew
  · cases hnew
    exact ⟨_, _, rfl⟩

variable {codec : PayloadCodec} {p q : ClientPoint} {op : ClientCall}

theorem step_session (h : p.step codec op = some q) : q.session = (p.session.call codec op).session := by
  unfold step at h
  split at h
  · rw [← some.inj h]
  · cases h

/-- What a step of the machine says about the session and about `applyMu`. -/
theorem step_effect (h : p.step codec op = some q) :
    Effect codec p.session op ⟨q.session, p.returned codec op, p.settled codec op⟩
      ∧ p.enabled op = true ∧ q.busy = p.busyAfter op (p.returned codec op) := by
  unfold step at h
  split at h
  · next henabled =>
    rw [← some.inj h]
    exact ⟨call_effect codec p.session op, henabled, rfl⟩
  · cases h

end ClientPoint

def ClientCall.isFinish : ClientCall → Bool
  | .applyFinish .. | .readyFinish .. | .drainFinish .. | .completeFinish .. => true
  | _ => false

/-- **Sequential runs**: an operation starts only when no other one is under way. -/
def Sequential (tr : Trace ClientPoint ClientCall) : Prop := ∀ t ∈ tr, t.label.isFinish = true ∨ t.pre.Idle

end PaperboatTunnel.ConnectorProtocol
