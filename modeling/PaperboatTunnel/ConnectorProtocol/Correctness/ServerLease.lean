import PaperboatTunnel.ConnectorProtocol.ServerStep

/-!
# `ServerLease` — lease, credential and replay fence of a server session

`Accept`, `HandleHeartbeat` and `Renew` write the lease, each under its own cap, and stay within the credential the
session holds afterwards (`WithinCredential`). `lastHeartbeatSentAt` is the replay fence: only an accepted heartbeat
moves it, and only forward (`FenceForward`).
-/

namespace PaperboatTunnel.ConnectorProtocol

open GoTime Fencing TransitionSystem Sample ServerPoint Time Int

namespace ServerSession

def WithinCredential (s : ServerSession) : Prop := s.lease.expiresAt.nanos ≤ s.auth.credentialExpiresAt.nanos

/-- From `s` to `s'` the replay fence, once set, has not moved back. -/
def FenceForward (s s' : ServerSession) : Prop := s.lastHeartbeatSentAt.nanos ≠ 0 →
    s'.lastHeartbeatSentAt.nanos ≠ 0 ∧ s.lastHeartbeatSentAt.nanos ≤ s'.lastHeartbeatSentAt.nanos

variable (s : ServerSession)

theorem FenceForward.refl : FenceForward s s := fun h => ⟨h, le_refl _⟩

theorem FenceForward.trans {s s' s'' : ServerSession} (h : FenceForward s s')
    (h' : FenceForward s' s'') : FenceForward s s'' := by
  intro hz
  obtain ⟨hz', hle⟩ := h hz
  obtain ⟨hz'', hle'⟩ := h' hz'
  exact ⟨hz'', le_trans hle hle'⟩

/-! ## The three caps -/

theorem heartbeatLease_le (now : Time) : (s.heartbeatLease now).nanos ≤ s.auth.credentialExpiresAt.nanos := by
  unfold heartbeatLease
  dsimp only
  split
  · exact le_refl _
  · next hbefore => rw [before_iff] at hbefore; omega

theorem renewedLease_le (now : Time) (res : AuthResult) :
    (s.renewedLease now res).nanos ≤ res.leaseExpiresAt.nanos := by
  unfold renewedLease
  dsimp only
  split
  · next hbefore => rw [before_iff] at hbefore; omega
  · exact le_refl _

variable {codec : PayloadCodec} {s s' : ServerSession} {reg : SessionRegistry} {op : ServerCall}
  {o : Outcome ServerReply}

theorem Effect.withinCredential {r : Except Error ServerReply} (h : Effect codec s op s' r)
    (hw : s.WithinCredential) : s'.WithinCredential := by
  cases h with
  | readied => unfold promote; split <;> exact hw
  | heartbeatMismatch => unfold withdrawReadiness; split <;> exact hw
  | heartbeatAccepted => exact heartbeatLease_le s _
  | @renewCommitted _ renewal result _ hchecked =>
    have hval := (validate_of_renewCheck hchecked).2
    calc (s.renewedLease renewal.now { result with sessionID := renewal.ref.sessionID }).nanos
        ≤ result.leaseExpiresAt.nanos := renewedLease_le s _ _
      _ ≤ result.credentialExpiresAt.nanos := AuthResult.lease_le_credential hval
  | _ => exact hw

theorem Step.withinCredential (h : Step codec reg s op o) (hw : s.WithinCredential) : o.2.1.WithinCredential := by
  cases h with
  | ran _ heff => exact heff.withinCredential hw
  | _ => exact hw

theorem Step.fenceForward (h : Step codec reg s op o) : FenceForward s o.2.1 := by
  cases h with
  | ran _ heff =>
    cases heff with
    | readied => unfold promote; split <;> exact FenceForward.refl s
    | heartbeatMismatch => unfold withdrawReadiness; split <;> exact FenceForward.refl s
    | heartbeatAccepted hv hfence =>
      intro hz
      exact ⟨Heartbeat.sentAt_ne_zero hv, le_of_lt (hfence hz)⟩
    | _ => exact FenceForward.refl s
  | _ => exact FenceForward.refl s

theorem Step.heartbeat_accepted {ctx : Option Context} {h : Heartbeat} {clock : Time} {ack : HeartbeatAck}
    (hstep : Step codec reg s (.handleHeartbeat ctx h clock) o)
    (hok : o.2.2 = .ok (.heartbeatAck ack)) :
    (s.lastHeartbeatSentAt.nanos ≠ 0 → s.lastHeartbeatSentAt.nanos < h.sentAt.nanos) ∧
      h.sentAt.nanos ≠ 0 ∧ o.2.1.lastHeartbeatSentAt = h.sentAt := by
  cases hstep with
  | refused | shut => cases hok
  | ran _ heff =>
    cases heff with
    | refused => cases hok
    | kept | heartbeatMismatch => cases hok
    | heartbeatAccepted hv hfence => exact ⟨hfence, Heartbeat.sentAt_ne_zero hv, rfl⟩
    | renewCommitted _ _ _ hop => rcases hop with ⟨_, hop⟩ | ⟨_, _, _, _, hop, _⟩ <;> cases hop

end ServerSession

/-! ## Whole runs -/

variable {codec : PayloadCodec} {p₀ p : ServerPoint}

theorem ServerPoint.Start.withinCredential (h : p.Start codec) : p.session.WithinCredential := by
  obtain ⟨sv, _, env, _, _, hacc⟩ := h.accepted
  unfold ServerSession.WithinCredential
  rw [hacc.lease]
  calc (sv.initialLease p.session.auth p.session.ref.sessionID env.clock.utc).expiresAt.nanos
      ≤ p.session.auth.leaseExpiresAt.nanos := by
        unfold Server.initialLease
        dsimp only
        split
        · next hbefore => rw [before_iff] at hbefore; omega
        · exact le_refl _
    _ ≤ p.session.auth.credentialExpiresAt.nanos := AuthResult.lease_le_credential hacc.authValid

def AcceptsHeartbeat (codec : PayloadCodec) (t : Transition ServerPoint ServerLabel) (h : Heartbeat) : Prop :=
  ∃ ctx clock ack, t.label.op = .handleHeartbeat ctx h clock ∧ t.pre.returned codec t.label = .ok (.heartbeatAck ack)

def RejectsHeartbeat (codec : PayloadCodec) (t : Transition ServerPoint ServerLabel) : Prop :=
  ∃ ctx h clock err, t.label.op = .handleHeartbeat ctx h clock ∧ t.pre.returned codec t.label = .error err

/-- **The lease never outlives the credential.** In every state a run of an accepted session reaches, the
    lease ends no later than the credential of the authentication result held; of two accepted heartbeats
    the later one was sent later; and a rejected heartbeat moves neither the replay fence nor the lease. -/
theorem lease_within_credential {tr : Trace ServerPoint ServerLabel}
    (hstart : p₀.Start codec) (hrun : Run (step codec) p₀ tr p) :
    p.session.lease.expiresAt.nanos ≤ p.session.auth.credentialExpiresAt.nanos ∧
    (∀ tr₁ t tr₂ u tr₃ h h', tr = tr₁ ++ t :: (tr₂ ++ u :: tr₃) → AcceptsHeartbeat codec t h →
      AcceptsHeartbeat codec u h' → h.sentAt.nanos < h'.sentAt.nanos) ∧
    (∀ t ∈ tr, RejectsHeartbeat codec t → t.post.session.lastHeartbeatSentAt = t.pre.session.lastHeartbeatSentAt ∧
        t.post.session.lease.expiresAt = t.pre.session.lease.expiresAt) := by
  refine ⟨?_, ?_, ?_⟩
  · refine hrun.invariant (I := fun q => q.session.WithinCredential) (fun {u l v} hw h => ?_) hstart.withinCredential
    obtain ⟨_, hstep⟩ := step_session h
    exact hstep.withinCredential hw
  · rintro tr₁ t tr₂ u tr₃ h h' rfl ⟨ctx, clock, ack, hop, hok⟩ ⟨ctx', clock', ack', hop', hok'⟩
    obtain ⟨_, ht, hrest⟩ := hrun.through
    obtain ⟨hbetween, hu, _⟩ := hrest.through
    -- the first heartbeat sets the fence, which only moves forward until the second one passes it
    obtain ⟨_, hstep⟩ := step_session ht
    rw [hop] at hstep
    obtain ⟨_, hz, hset⟩ := hstep.heartbeat_accepted hok
    have hforwarded : ServerSession.FenceForward t.post.session u.pre.session := by
      refine hbetween.invariant
        (I := fun q => ServerSession.FenceForward t.post.session q.session) (fun {q l r} hq hs => ?_)
        (ServerSession.FenceForward.refl _)
      obtain ⟨_, hstep⟩ := step_session hs
      exact hq.trans hstep.fenceForward
    obtain ⟨_, hstep'⟩ := step_session hu
    rw [hop'] at hstep'
    obtain ⟨hpast, _, _⟩ := hstep'.heartbeat_accepted hok'
    dsimp only at hset
    obtain ⟨hz', hle⟩ := hforwarded (by rw [hset]; exact hz)
    rw [hset] at hle
    exact lt_of_le_of_lt hle (hpast hz')
  · rintro t ht ⟨ctx, h, clock, err, hop, herr⟩
    obtain ⟨_, hstep⟩ := step_session (hrun.mem_step ht)
    rw [hop] at hstep
    generalize t.post.session = s at hstep ⊢
    generalize t.pre.returned codec t.label = answer at hstep herr
    cases hstep with
    | refused | shut => exact ⟨rfl, rfl⟩
    | ran _ heff =>
      cases heff with
      | refused => exact ⟨rfl, rfl⟩
      | kept => cases herr
      | heartbeatMismatch => unfold ServerSession.withdrawReadiness; split <;> exact ⟨rfl, rfl⟩
      | heartbeatAccepted | renewCommitted => cases herr

/-- The sample session accepts two heartbeats, five seconds apart. -/
theorem lease_within_credential_beating :
    let beat (t : Int) : ServerLabel := ⟨reg config1, .handleHeartbeat (some {}) (heartbeat config1 t) (at_ t)⟩
    let p := (exec (step sampleCodec) ⟨session config1, []⟩ [beat 5, beat 10]).getD ⟨session config1, []⟩
    p.session.lease.expiresAt = at_ 70 ∧
      p.session.lease.expiresAt.nanos ≤ p.session.auth.credentialExpiresAt.nanos := by
  intro beat p
  have hrun : Run (step sampleCodec) ⟨session config1, []⟩ _ p := exec_getD_run (by decide +kernel)
  exact ⟨by decide +kernel, (lease_within_credential (start config1 accepts1) hrun).1⟩

end PaperboatTunnel.ConnectorProtocol
