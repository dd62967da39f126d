import PaperboatTunnel.ConnectorProtocol.Correctness.LeaseAgreement

/-!
# `LivenessStamp` — the time of the last heartbeat

An accepted heartbeat records the time it has read under the lock. `Renew` records, after the answer of the
authenticator, what it has read before, so a heartbeat accepted in between is taken back (`stamp_taken_back`). Where
none is, and no other `Renew` begins, the record only moves forward.
-/

namespace PaperboatTunnel.ConnectorProtocol

open GoTime TransitionSystem ServerPoint List

def ServerCall.readings (op : ServerCall) : List Int := op.clocks.map Time.nanos

/-- The call is an accepted heartbeat, or a `Renew` that gets through its first section. -/
def ServerCall.interferes : ServerCall → Except Error ServerReply → Bool
  | .handleHeartbeat _ _ _, .ok _ | .renewBegin _ _ _, .ok _ | .renew _ _ _ _ _, .ok _ => true
  | _, _ => false

namespace ServerPoint

def stamp (p : ServerPoint) : Int := p.session.lastHeartbeat.nanos

/-- What a run reads from the clock, after the time on record at its start. -/
def timeline (p : ServerPoint) (tr : Trace ServerPoint ServerLabel) : List Int :=
  p.stamp :: tr.flatMap (fun t => t.label.op.readings)

end ServerPoint

section Step

variable {codec : PayloadCodec} {p q : ServerPoint} {reg : SessionRegistry} {op : ServerCall} {times : List Int}

/-- **What a call records**: nothing, a time it has read, or the time that a `Renew` has read before. -/
theorem ServerSession.Step.stamp {s : ServerSession} {o : Outcome ServerReply} (h : Step codec reg s op o) :
    (o.2.1.lastHeartbeat = s.lastHeartbeat ∧ ∀ renewal, o.2.2 = .ok (.renewing renewal) →
      renewal.now.nanos ∈ op.readings ∧ op.interferes o.2.2 = true) ∨
    (o.2.1.lastHeartbeat.nanos ∈ op.readings ∧ op.interferes o.2.2 = true ∧
      ∀ renewal, o.2.2 ≠ .ok (.renewing renewal)) ∨
    ∃ renewal answer clock, op = .renewFinish renewal answer clock ∧ o.2.1.lastHeartbeat = renewal.now := by
  cases h with
  | ran _ heff =>
    cases heff with
    | renewalBegun => exact .inl ⟨rfl, fun _ h => by cases h; exact ⟨mem_cons_self, rfl⟩⟩
    | readied => unfold promote; split <;> exact .inl ⟨rfl, fun _ h => by cases h⟩
    | heartbeatMismatch => unfold withdrawReadiness; split <;> exact .inl ⟨rfl, fun _ h => by cases h⟩
    | heartbeatAccepted => exact .inr (.inl ⟨mem_cons_self, rfl, fun _ h => by cases h⟩)
    | renewCommitted _ _ _ hop =>
      rcases hop with ⟨clock, rfl⟩ | ⟨_, _, clock, _, rfl, hnow⟩
      · exact .inr (.inr ⟨_, _, clock, rfl, rfl⟩)
      · refine .inr (.inl ⟨?_, rfl, fun _ h => by cases h⟩)
        rw [show (s.renewed _ _).lastHeartbeat = clock.utc from hnow]
        exact mem_cons_self
    | _ => exact .inl ⟨rfl, fun _ h => by cases h⟩
  | _ => exact .inl ⟨rfl, fun _ h => by cases h⟩

/-- The time on record has been read, and the only `Renew` that waits has read a later one. -/
structure Stamped (times : List Int) (p : ServerPoint) : Prop where
  read : p.stamp ∈ times
  waiting : ∀ renewal ∈ p.renewals, p.renewals = [renewal] ∧ p.stamp ≤ renewal.now.nanos ∧ renewal.now.nanos ∈ times

/-- Who waits after a call: the same, or also the `Renew` that has begun, or all but the one that has ended. -/
theorem waiting_cases (r : Except Error ServerReply) : p.waiting op r = p.renewals ∨
    (∃ renewal, r = .ok (.renewing renewal) ∧ p.waiting op r = renewal :: p.renewals) ∨
    ∃ renewal answer clock, op = .renewFinish renewal answer clock ∧ p.waiting op r = p.renewals.erase renewal := by
  unfold ServerPoint.waiting
  split
  · exact .inr (.inr ⟨_, _, _, rfl, rfl⟩)
  · exact .inr (.inl ⟨_, rfl, rfl⟩)
  · exact .inl rfl

/-- **A call with later readings** moves the record forward. -/
theorem Stamped.step (h : Stamped times p) (hstep : p.step codec ⟨reg, op⟩ = some q)
    (hlater : ∀ time ∈ times, ∀ reading ∈ op.readings, time ≤ reading)
    (halone : p.renewals ≠ [] → op.interferes (p.returned codec ⟨reg, op⟩) = false) :
    Stamped (times ++ op.readings) q ∧ p.stamp ≤ q.stamp := by
  obtain ⟨_, hcall⟩ := step_session hstep
  obtain ⟨henabled, hq⟩ := of_guard hstep
  have hold {time : Int} (ht : time ∈ times) : time ∈ times ++ op.readings := mem_append_left _ ht
  have hnew {reading : Int} (hr : reading ∈ op.readings) : reading ∈ times ++ op.readings ∧ p.stamp ≤ reading :=
    ⟨mem_append_right _ hr, hlater _ h.read _ hr⟩
  have hidle (hinterferes : op.interferes (p.returned codec ⟨reg, op⟩) = true) : p.renewals = [] := by
    by_contra hne
    cases hinterferes.symm.trans (halone hne)
  have hrenewals : q.renewals = p.waiting op (p.returned codec ⟨reg, op⟩) := hq ▸ rfl
  -- the second section ends the only call that waits
  have hended {renewal answer clock} (hop : op = .renewFinish renewal answer clock) :
      renewal ∈ p.renewals ∧ q.renewals = [] := by
    subst hop
    have hin : renewal ∈ p.renewals := contains_iff_mem.mp henabled
    refine ⟨hin, ?_⟩
    rw [hrenewals, ServerPoint.waiting, (h.waiting renewal hin).1]
    simp
  rcases hcall.stamp with ⟨hsame, hread⟩ | ⟨hread, hinterferes, hnot⟩ | ⟨renewal, _, _, hop, hlast⟩
  · have hstamp : q.stamp = p.stamp := congrArg Time.nanos hsame
    refine ⟨⟨hstamp ▸ hold h.read, fun renewal hin => ?_⟩, hstamp.ge⟩
    rw [hstamp]
    rcases waiting_cases (p.returned codec ⟨reg, op⟩) with heq | ⟨begun, hbegun, heq⟩ | ⟨ended, _, _, hop, _⟩
    · obtain ⟨honly, hle, htime⟩ := h.waiting renewal (by rwa [← heq, ← hrenewals])
      exact ⟨hrenewals.trans (heq.trans honly), hle, hold htime⟩
    · obtain ⟨hreading, hinterferes⟩ := hread begun hbegun
      rw [hrenewals, heq, hidle hinterferes, mem_singleton] at hin
      subst hin
      exact ⟨by rw [hrenewals, heq, hidle hinterferes], (hnew hreading).2, (hnew hreading).1⟩
    · simp [(hended hop).2] at hin
  · have hnone : q.renewals = [] := by
      rcases waiting_cases (p.returned codec ⟨reg, op⟩) with heq | ⟨begun, hbegun, _⟩ | ⟨ended, _, _, hop, _⟩
      · rw [hrenewals, heq, hidle hinterferes]
      · exact absurd hbegun (hnot begun)
      · exact (hended hop).2
    exact ⟨⟨(hnew hread).1, by simp [hnone]⟩, (hnew hread).2⟩
  · obtain ⟨hin, hnone⟩ := hended hop
    obtain ⟨_, hle, htime⟩ := h.waiting renewal hin
    have hstamp : q.stamp = renewal.now.nanos := congrArg Time.nanos hlast
    exact ⟨⟨hstamp ▸ hold htime, by simp [hnone]⟩, hstamp ▸ hle⟩

end Step

/-- **The time of the last heartbeat never goes back**, in every run from a session that no `Renew` waits for, under a
    clock that does not go back either, as long as no heartbeat is accepted and no other `Renew` begins while one
    waits. -/
theorem stamp_forward (codec : PayloadCodec) (p q : ServerPoint) (tr : Trace ServerPoint ServerLabel)
    (hidle : p.renewals = []) (hrun : Run (step codec) p tr q) (hclock : (p.timeline tr).Pairwise (· ≤ ·))
    (halone : ∀ t ∈ tr, t.pre.renewals ≠ [] → t.label.op.interferes (t.pre.returned codec t.label) = false) :
    ∀ t ∈ tr, t.pre.session.lastHeartbeat.nanos ≤ t.post.session.lastHeartbeat.nanos := by
  refine (hrun.trace_invariant_on
    (C := fun t => t.pre.renewals ≠ [] → t.label.op.interferes (t.pre.returned codec t.label) = false)
    (I := fun tr q => (p.timeline tr).Pairwise (· ≤ ·) →
      Stamped (p.timeline tr) q ∧ ∀ t ∈ tr, t.pre.stamp ≤ t.post.stamp) ?_ halone ?_ hclock).2
  · intro tr u l v halone ih hstep hclock
    have hsnoc : p.timeline (tr ++ [⟨u, l, v⟩]) = p.timeline tr ++ l.op.readings := by simp [timeline]
    rw [hsnoc] at hclock ⊢
    obtain ⟨hbefore, _, hlater⟩ := pairwise_append.mp hclock
    obtain ⟨hstamped, hforwarded⟩ := ih hbefore
    obtain ⟨hnext, hle⟩ := hstamped.step hstep hlater halone
    exact ⟨hnext, Table.forall_mem_snoc hforwarded hle⟩
  · exact fun _ => ⟨⟨mem_cons_self, by simp [hidle]⟩, fun t ht => by cases ht⟩

open Sample

/-- A heartbeat of the sample session, and the two sections of a `Renew` that reads the clock after ten seconds. -/
def Sample.beatAt (seconds : Int) : ServerLabel :=
  ⟨reg config1, .handleHeartbeat (some {}) (heartbeat config1 seconds) (at_ seconds)⟩

def Sample.renewBegun : ServerLabel := ⟨reg config1, .renewBegin (some {}) renewalRequest (at_ 10)⟩

def Sample.renewFinished : ServerLabel :=
  ⟨reg config1, .renewFinish ⟨at_ 10, (session config1).auth, (session config1).ref⟩ (.ok (granted 60)) (at_ 20)⟩

/-- A renewal, with a check of the lease in between, and a heartbeat after it. -/
theorem stamp_forward_renewed :
    let p : ServerPoint := ⟨session config1, []⟩
    let ops := [renewBegun, ⟨reg config1, .checkLease (at_ 15)⟩, renewFinished, beatAt 25]
    (exec (step sampleCodec) p ops).isSome = true ∧ ∀ t ∈ trace (step sampleCodec) p ops,
      t.pre.session.lastHeartbeat.nanos ≤ t.post.session.lastHeartbeat.nanos := by
  intro p ops
  have hcalls : (exec (step sampleCodec) p ops).isSome = true := by decide +kernel
  refine ⟨hcalls, stamp_forward sampleCodec p _ _ rfl (exec_getD_run hcalls) ?_ ?_⟩
  · decide +kernel
  · decide +kernel

/-- **A heartbeat is taken back.** It is accepted while a `Renew` waits, which then records the time before it. -/
theorem stamp_taken_back : ∃ (p q : ServerPoint) (tr : Trace ServerPoint ServerLabel),
    p.Start sampleCodec ∧ Run (step sampleCodec) p tr q ∧ (p.timeline tr).Pairwise (· ≤ ·) ∧
      ∃ t ∈ tr, t.post.session.lastHeartbeat.nanos < t.pre.session.lastHeartbeat.nanos := by
  have hcalls : (exec (step sampleCodec) ⟨session config1, []⟩
      [renewBegun, beatAt 15, renewFinished]).isSome = true := by decide +kernel
  exact ⟨_, _, _, start config1 accepts1, exec_getD_run hcalls, by decide +kernel⟩

end PaperboatTunnel.ConnectorProtocol
