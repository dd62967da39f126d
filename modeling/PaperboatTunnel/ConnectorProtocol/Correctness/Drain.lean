import PaperboatTunnel.ConnectorProtocol.JointMachine

/-!
# `Drain` — a draining session is not ready

While a drain is open, the session must not be `Ready`. Two sections write `Ready` without looking at the drain:
`HandleReadiness` on the server and the promotion in `MarkReadyContext` on the client (`drain_forgotten`). And
`BeginDrain` and `HandleDrain` answer a repeated request on a session that is `Ready` again. Nothing else makes a
draining session ready (`drain_sticky`).
-/

namespace PaperboatTunnel.ConnectorProtocol

open GoTime TransitionSystem ServerPoint List

/-! ## The server -/

/-- The call hands over a rejection of the open drain. -/
def ServerCall.RejectsDrain (s : ServerSession) : ServerCall → Prop
  | .handleDrainAck _ ack _ => ack.status = .rejected ∧ ∃ d, s.DrainMatches d ack
  | _ => False

/-- The call hands over a readiness message that the session accepts. -/
def ServerCall.BringsReadiness (s : ServerSession) : ServerCall → Prop
  | .handleReadiness _ r _ => s.ReadinessMatches r
  | _ => False

namespace ServerSession

variable {codec : PayloadCodec} {s s' : ServerSession} {reg : SessionRegistry} {op : ServerCall}

theorem restoreStateLocked_not_ready (s : ServerSession) :
    (restoreStateLocked { s with needsSnapshot := true }).state ≠ .ready := by
  unfold restoreStateLocked
  simp

/-- **Only a readiness message or a rejected drain makes a session ready.** -/
theorem Effect.not_ready {r : Except Error ServerReply} (h : Effect codec s op s' r)
    (hready : ¬ op.BringsReadiness s) (hreject : ¬ op.RejectsDrain s) (hst : s.state ≠ .ready) :
    s'.state ≠ .ready := by
  cases h with
  | snapshotRefused => exact restoreStateLocked_not_ready { s with pendingSnapshot := none }
  | snapshotStaged | deltaStaged =>
    unfold awaitReady
    dsimp only
    split
    · exact hst
    · simp
  | deltaRefused => exact restoreStateLocked_not_ready { s with pendingDelta := none }
  | readied hr => exact absurd hr hready
  | snapshotOffered =>
    unfold putOnOffer
    dsimp only
    split
    · simp
    · exact hst
  | heartbeatMismatch =>
    unfold withdrawReadiness
    split
    · simp
    · exact hst
  | drainBegun => simp
  | drainRejected hm hstatus => exact absurd ⟨hstatus, _, hm⟩ hreject
  | _ => exact hst

theorem Step.not_ready {o : Outcome ServerReply} (h : Step codec reg s op o)
    (hready : ¬ op.BringsReadiness s) (hreject : ¬ op.RejectsDrain s) (hst : s.state ≠ .ready) :
    o.2.1.state ≠ .ready := by
  cases h with
  | ran _ heff => exact heff.not_ready hready hreject hst
  | shut | closed => simp [ServerSession.shut]
  | _ => exact hst

end ServerSession

/-! ## The client -/

/-- The section promotes the staged candidate: `Activate` has succeeded for it. -/
def ClientCall.Promotes (c : ClientSession) : ClientCall → Prop
  | .readyFinish call o _ => o.err = none ∧ c.stillStaged call
  | _ => False

/-- `HandleDrain` accepts: it goes out to the drainer, or repeats the answer of a drain not rejected. -/
def ClientReply.AcceptsDrain : ClientReply → Prop
  | .draining _ => True
  | .drainAck a none => a.status ≠ .rejected
  | _ => False

namespace ClientSession

/-- A drain is recorded, and the session is not ready unless the drain has ended in rejection. -/
structure DrainHeld (c : ClientSession) : Prop where
  recorded : c.drain.isSome
  ended : c.drainStatus = .rejected → c.drainCompleted
  held : c.drainStatus ≠ .rejected → c.state ≠ .ready

variable {codec : PayloadCodec} {c : ClientSession} {op : ClientCall} {o : ClientOutcome}

/-- **Only a promotion makes a session ready whose drain is open.** -/
theorem Effect.drainHeld (h : Effect codec c op o) (hpromotes : ¬ op.Promotes c) (hc : c.DrainHeld) :
    o.session.DrainHeld := by
  obtain ⟨hrecorded, hend, hheld⟩ := hc
  cases h with
  | expired => exact ⟨hrecorded, hend, fun _ => by simp [expire]⟩
  | welcomed => exact ⟨hrecorded, hend, fun _ => by simp⟩
  | staged => exact ⟨hrecorded, hend, fun _ => by simp [stage]⟩
  | activationFailed =>
    -- the session is left without a full snapshot
    exact ⟨hrecorded, hend, fun _ => by simp [dropCandidate, restoreStateLocked]⟩
  | promoted _ hok hstill => exact absurd ⟨hok, hstill⟩ hpromotes
  | drainRecorded => exact ⟨rfl, by simp [recordDrain], by simp [recordDrain]⟩
  | drainFailed _ hdraining =>
    unfold failDrain
    rw [if_pos hdraining]
    exact ⟨hrecorded, fun _ => rfl, fun hne => absurd rfl hne⟩
  | progressed _ _ hcompleted hstatus =>
    -- an unfinished drain has not been rejected, so the session is held before this step
    refine ⟨hrecorded, hstatus.elim, fun _ => hheld (fun hrejected => ?_)⟩
    rw [hend hrejected] at hcompleted
    cases hcompleted
  | closed => exact ⟨hrecorded, hend, fun _ => by simp [closeLocked]⟩
  | _ => exact ⟨hrecorded, hend, hheld⟩

/-- An accepted `HandleDrain` has recorded the drain, or found it recorded and left the session alone. -/
theorem handleDrain_accepted {ctx : Option Context} {req : Drain} {clock : Time}
    {o : ClientOutcome} (ho : c.call codec (.handleDrain ctx req clock) = o)
    (h : o.reply.AcceptsDrain) :
    o.session = c.recordDrain req ∨ (o.session = c ∧ c.drain.isSome ∧ c.drainStatus ≠ .rejected) := by
  replace ho : began .drainAck .draining (c.handleDrainBegin ctx req clock) = o := ho
  subst ho
  revert h
  unfold handleDrainBegin
  split
  · exact False.elim
  · exact False.elim
  refine ensureActiveLocked_elim c clock.utc (fun _ => ?_) (fun _ => False.elim) (fun _ _ _ _ => False.elim)
  dsimp only
  fun_cases handleDrainLocked with
  | case5 _ _ _ hd => exact fun h => .inr ⟨rfl, by rw [hd]; rfl, h⟩
  | case8 => exact fun _ => .inl rfl
  | _ => exact False.elim

end ClientSession

/-- **A drain is sticky.** On the server, after a `BeginDrain` that succeeds the session is not `Ready` until
    a rejection of that drain is handled; on the client, after an accepted `HandleDrain` it is not `Ready`
    until the drain has ended in rejection. Both hold for every interleaving in which the call did not
    repeat a drain of a `Ready` session and no later readiness message or promotion is accepted. -/
theorem drain_sticky (codec : PayloadCodec) :
    (∀ (p p' q : ServerPoint) (l : ServerLabel) (d : Drain) (tr : Trace ServerPoint ServerLabel),
      p.step codec l = some p' → p.returned codec l = .ok (.drain d) → Run (step codec) p' tr q →
      ¬ (p.session.drain.isSome ∧ p.session.state = .ready) →
      (∀ t ∈ tr, ¬ t.label.op.BringsReadiness t.pre.session) →
      (∀ t ∈ tr, ¬ t.label.op.RejectsDrain t.pre.session) → q.session.state ≠ .ready) ∧
    (∀ (p p' q : ClientPoint) (ctx : Option Context) (request : Drain) (clock : Time)
      (tr : Trace ClientPoint ClientCall),
      p.step codec (.handleDrain ctx request clock) = some p' →
      (p.returned codec (.handleDrain ctx request clock)).AcceptsDrain →
      Run (ClientPoint.step codec) p' tr q →
      ¬ (p.session.drain.isSome ∧ p.session.state = .ready) →
      (∀ t ∈ tr, ¬ t.label.Promotes t.pre.session) →
      q.session.drainStatus ≠ .rejected → q.session.state ≠ .ready) := by
  constructor
  · intro p p' q l d tr hstep hret hrun hready hno hreject
    obtain ⟨_, hcall⟩ := step_session hstep
    rw [hret] at hcall
    have h0 : p'.session.state ≠ .ready := by
      -- the drain was recorded by this call, or before it
      generalize p'.session = s', l.op = op at hcall ⊢
      cases hcall with
      | ran _ heff =>
        cases heff with
        | drainRepeated hd => exact fun hr => hready ⟨by rw [hd]; rfl, hr⟩
        | drainBegun => nofun
    refine hrun.invariant_of (I := fun u => u.session.state ≠ .ready)
      (C := fun u l => ¬ l.op.BringsReadiness u.session ∧ ¬ l.op.RejectsDrain u.session)
      (fun {u l v} hok hu hs => ?_) (fun t ht => ⟨hno t ht, hreject t ht⟩) h0
    obtain ⟨_, hc⟩ := step_session hs
    exact hc.not_ready hok.1 hok.2 hu
  · intro p p' q ctx request clock tr hstep hret hrun hready hno hrejected
    have hp : p'.session = (p.session.call codec (.handleDrain ctx request clock)).session :=
      ClientPoint.step_session hstep
    have h0 : p'.session.DrainHeld := by
      rw [hp]
      rcases ClientSession.handleDrain_accepted rfl hret with hs | ⟨hs, hdrain, hstatus⟩
      · rw [hs]
        exact ⟨rfl, by simp [ClientSession.recordDrain], by simp [ClientSession.recordDrain]⟩
      · rw [hs]
        exact ⟨hdrain, hstatus.elim, fun _ hr => hready ⟨hdrain, hr⟩⟩
    have hq : q.session.DrainHeld := by
      refine hrun.invariant_of (I := fun u => u.session.DrainHeld)
        (C := fun u op => ¬ op.Promotes u.session) (fun {u op v} hok hu hs => ?_) hno h0
      obtain ⟨heff, _, _⟩ := ClientPoint.step_effect hs
      exact heff.drainHeld hok hu
    exact hq.held hrejected

/-! ## Draining sessions that become ready -/

open Sample

def Sample.drains : ServerCall := .beginDrain (some {}) "drain_1" (at_ 30) false now now

abbrev Sample.handlesDrain : ClientCall := .handleDrain (some {}) (drainRequest config1) now

/-- A heartbeat during a drain, on either side, leaves the session in the drain. -/
theorem drain_sticky_beating :
    let p := after config1 ⟨session config1, []⟩ (applies config1)
    let q := after config1 (after config1 p [drains])
      [.handleHeartbeat (some {}) (Sample.heartbeat config1 5) (at_ 5)]
    let u := clientAfter { session := client } (bootstrap config1)
    let v := clientAfter (clientAfter u [handlesDrain])
      [.drainFinish (drainRequest config1) {}, .heartbeat (at_ 5) (at_ 5)]
    q.session.state = .draining ∧ q.session.state ≠ .ready ∧
      v.session.state = .draining ∧ v.session.state ≠ .ready := by
  intro p q u v
  let p' := after config1 p [drains]
  let u' := clientAfter u [handlesDrain]
  have hq : Run (step sampleCodec) p' _ q := exec_getD_run (by decide +kernel)
  have hv : Run (ClientPoint.step sampleCodec) u' _ v := exec_getD_run (by decide +kernel)
  have hret : p.returned sampleCodec ⟨reg config1, drains⟩ = .ok (.drain (drainRequest config1)) := by decide +kernel
  have hret' : u.returned sampleCodec handlesDrain = .draining (drainRequest config1) := by decide +kernel
  refine ⟨by decide +kernel, ?_, by decide +kernel, ?_⟩
  · refine (drain_sticky sampleCodec).1 p p' q ⟨reg config1, drains⟩ (drainRequest config1) _
      (by decide +kernel) hret hq (by decide +kernel) (fun t ht => ?_) (fun t ht => ?_)
    · rw [mem_singleton.mp (op_mem ht)]; exact id
    · rw [mem_singleton.mp (op_mem ht)]; exact id
  · refine (drain_sticky sampleCodec).2 u u' v (some {}) (drainRequest config1) now _
      (by decide +kernel) ?_ hv (by decide +kernel) (fun t ht => ?_) (by decide +kernel)
    · rw [hret']; trivial
    · have hl := label_mem_of_mem_trace ht
      simp only [mem_cons, not_mem_nil, or_false] at hl
      rcases hl with hl | hl <;> rw [hl] <;> exact id

/-- **An open drain is forgotten.** On the server a repeated readiness message, and on the client the
    promotion of a configuration staged during the drain, makes the session `Ready`. -/
theorem drain_forgotten : (∃ (p₀ p p' q : ServerPoint) (l : ServerLabel) (d : Drain)
      (tr₁ tr₂ : Trace ServerPoint ServerLabel), p₀.Start sampleCodec ∧
      Run (step sampleCodec) p₀ tr₁ p ∧ p.step sampleCodec l = some p' ∧
      p.returned sampleCodec l = .ok (.drain d) ∧ Run (step sampleCodec) p' tr₂ q ∧
      (∀ t ∈ tr₂, ¬ t.label.op.RejectsDrain t.pre.session) ∧ q.session.state = .ready) ∧
    (∃ (p₀ p p' q : ClientPoint) (ctx : Option Context) (request : Drain) (clock : Time)
      (tr₁ tr₂ : Trace ClientPoint ClientCall), p₀.Start ∧
      Run (ClientPoint.step sampleCodec) p₀ tr₁ p ∧
      p.step sampleCodec (.handleDrain ctx request clock) = some p' ∧
      (p.returned sampleCodec (.handleDrain ctx request clock)).AcceptsDrain ∧
      Run (ClientPoint.step sampleCodec) p' tr₂ q ∧ q.session.drainStatus ≠ .rejected ∧
      q.session.state = .ready) := by
  constructor
  · let p := after config1 ⟨session config1, []⟩ (applies config1)
    let p' := after config1 p [drains]
    refine ⟨_, p, p', after config1 p' [.handleReadiness (some {}) (readiness config1) now], ⟨reg config1, drains⟩,
      drainRequest config1, _, _, start config1 accepts1, exec_getD_run (by decide +kernel), by decide +kernel,
      by decide +kernel, exec_getD_run (by decide +kernel), fun t ht => ?_, by decide +kernel⟩
    rw [mem_singleton.mp (op_mem ht)]
    exact id
  · let u := clientAfter { session := client } (bootstrap config1)
    let u' := clientAfter u [handlesDrain]
    let ops := .drainFinish (drainRequest config1) {} :: (stages config2 1 ++ promotes config2 1)
    have hret : u.returned sampleCodec handlesDrain = .draining (drainRequest config1) := by decide +kernel
    refine ⟨_, u, u', clientAfter u' ops, some {}, drainRequest config1, now, _, _, client_start,
      exec_getD_run (by decide +kernel), by decide +kernel, ?_, exec_getD_run (by decide +kernel), by decide +kernel,
      by decide +kernel⟩
    rw [show u.returned sampleCodec _ = _ from hret]
    trivial

end PaperboatTunnel.ConnectorProtocol
