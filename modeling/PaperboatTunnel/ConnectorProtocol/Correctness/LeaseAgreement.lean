import PaperboatTunnel.ConnectorProtocol.JointMachine

/-!
# `LeaseAgreement` — the client's lease against the server's

The client takes its lease from the welcome, from heartbeat acknowledgements and from renewal results. The first two
carry what the server session itself then holds. `Renew` stores the authenticated expiry capped by `LeaseDuration` and
returns it without the cap (`lease_overrun`). Where the authenticator stays within `LeaseDuration`, the client never
holds a lease later than one the server has held (`lease_agreement`).
-/

namespace PaperboatTunnel.ConnectorProtocol

open GoTime TransitionSystem JointPoint List

def ToClient.lease : ToClient → Option Time
  | .welcome w => some w.lease.expiresAt
  | .heartbeatAck ack => some ack.leaseExpiresAt
  | .renewed result => some result.leaseExpiresAt
  | _ => none

/-- The answer of the authenticator to a renewal, with the time `Renew` works with. -/
def ServerCall.grant : ServerCall → Option (Time × AuthResult)
  | .renewFinish renewal (.ok result) _ => some (renewal.now, result)
  | .renew _ _ clock (.ok result) _ => some (clock.utc, result)
  | _ => none

/-- The authenticator grants no lease beyond the configured duration. -/
def ServerCall.GrantsWithin (s : ServerSession) (op : ServerCall) : Prop :=
  ∀ g ∈ op.grant, g.2.leaseExpiresAt.nanos ≤ (g.1.add s.server.config.leaseDuration).nanos

def JointLabel.GrantsWithin (p : JointPoint) : JointLabel → Prop
  | .server l => l.op.GrantsWithin p.server.session
  | .client _ => True

instance (s : ServerSession) (op : ServerCall) : Decidable (op.GrantsWithin s) := by
  unfold ServerCall.GrantsWithin
  infer_instance

instance (p : JointPoint) (l : JointLabel) : Decidable (l.GrantsWithin p) := by
  cases l
  case server l => exact inferInstanceAs (Decidable (l.op.GrantsWithin p.server.session))
  case client => exact inferInstanceAs (Decidable True)

namespace ServerSession

variable {codec : PayloadCodec} {reg : SessionRegistry} {s s' : ServerSession} {op : ServerCall}
  {r : Except Error ServerReply}

theorem lease_of_sends {m : ToClient} {t : Time} (hm : m ∈ s'.sends op r) (ht : m.lease = some t) :
    (∃ ack, r = .ok (.heartbeatAck ack) ∧ t = ack.leaseExpiresAt) ∨
    (∃ result, r = .ok (.renewed result) ∧ t = result.leaseExpiresAt) := by
  unfold sends at hm
  split at hm
  · obtain ⟨_, _, rfl⟩ := mem_map.mp hm; cases ht
  · obtain ⟨_, _, rfl⟩ := mem_map.mp hm; cases ht
  · rw [mem_singleton.mp hm] at ht; cases ht; exact .inl ⟨_, rfl, rfl⟩
  · rw [mem_singleton.mp hm] at ht; cases ht
  · rw [mem_singleton.mp hm] at ht; cases ht; exact .inr ⟨_, rfl, rfl⟩
  · cases hm

/-- **The server holds the lease that it sends**, when the authenticator grants no longer one. -/
theorem Step.lease_sent {reg' : SessionRegistry} {m : ToClient} {t : Time}
    (h : Step codec reg s op (reg', s', r)) (hgrant : op.GrantsWithin s) (hm : m ∈ s'.sends op r)
    (ht : m.lease = some t) : t = s'.lease.expiresAt := by
  rcases lease_of_sends hm ht with ⟨ack, rfl, rfl⟩ | ⟨result, rfl, rfl⟩
  · -- a heartbeat acknowledgement carries the lease that was just stored
    cases h with
    | ran _ heff => cases heff with
      | heartbeatAccepted => rfl
  · -- a renewal result carries the granted lease, which the cap has left alone
    cases h with
    | ran _ heff => cases heff with
      | @renewCommitted _ renewal granted _ hchecked _ _ hop =>
        obtain ⟨hanswer, _⟩ := validate_of_renewCheck hchecked
        have hwithin : granted.leaseExpiresAt.nanos ≤ (renewal.now.add s.server.config.leaseDuration).nanos := by
          rcases hop with ⟨clock, rfl⟩ | ⟨ctx, request, clock, clock', rfl, hnow⟩
          · exact hgrant (renewal.now, granted) (by rw [hanswer]; rfl)
          · rw [hnow]
            exact hgrant (clock.utc, granted) (by rw [hanswer]; rfl)
        -- a lease within the configured duration is not capped
        refine Eq.symm (if_neg ?_)
        rw [Time.before_iff]
        exact not_lt.mpr hwithin

end ServerSession

namespace ClientSession

/-- A session that has not been welcomed, or was closed before it was: it has no drain and no candidate
    through which a failed call could open it. -/
structure Blank (c : ClientSession) : Prop where
  notOpen : ¬ c.Open
  noDrain : c.drain = none
  noCandidate : ¬ c.hasCandidate

/-- **The client takes its lease from a message**; any other section keeps it, and opens no blank session. -/
theorem Effect.lease_cases {codec : PayloadCodec} {c : ClientSession} {op : ClientCall} {o : ClientOutcome}
    (h : Effect codec c op o) :
    (∃ m ∈ op.message, m.lease = some o.session.lease.expiresAt) ∨
    (o.session.lease = c.lease ∧ (c.Blank → o.session.Blank)) := by
  cases h with
  | expired hopen | staged hopen | promoted hopen | drainRecorded hopen | progressed hopen =>
    exact .inr ⟨rfl, fun hb => absurd hopen hb.notOpen⟩
  | welcomed | beatAcked | renewed => exact .inl ⟨_, rfl, rfl⟩
  | gapFound | drainCounted => exact .inr ⟨rfl, fun hb => ⟨hb.notOpen, hb.noDrain, hb.noCandidate⟩⟩
  | activationFailed _ hstill => exact .inr ⟨rfl, fun hb => absurd hstill.1 hb.noCandidate⟩
  | @drainFailed request _ _ _ _ hdraining =>
    refine .inr ⟨?_, fun hb => ?_⟩
    · show (c.failDrain request).lease = c.lease
      unfold failDrain
      split <;> rfl
    -- a blank session has no drain that could be the one of this request
    unfold isDraining at hdraining
    rw [hb.noDrain] at hdraining
    cases hdraining
  | closed => exact .inr ⟨rfl, fun hb => ⟨fun ho => ho.1 rfl, hb.noDrain, by simp [closeLocked]⟩⟩
  | _ => exact .inr ⟨rfl, id⟩

end ClientSession

/-! ## Agreement -/

/-- The server held a lease that ends no earlier than `t`, at `p` or after a step of the record. -/
def Held (p : JointPoint) (tr : Trace JointPoint JointLabel) (t : Time) : Prop :=
  ∃ v ∈ p :: tr.map Transition.post, t.nanos ≤ v.server.session.lease.expiresAt.nanos

theorem Held.append {p : JointPoint} {tr tr' : Trace JointPoint JointLabel} {t : Time}
    (h : Held p tr t) : Held p (tr ++ tr') t := by
  obtain ⟨v, hv, hle⟩ := h
  refine ⟨v, ?_, hle⟩
  rw [map_append, ← cons_append]
  exact mem_append_left _ hv

theorem Held.last {p u v : JointPoint} {l : JointLabel} {tr : Trace JointPoint JointLabel} :
    Held p (tr ++ [⟨u, l, v⟩]) v.server.session.lease.expiresAt := by
  refine ⟨v, ?_, Int.le_refl _⟩
  rw [map_append]
  exact mem_cons_of_mem _ (mem_append_right _ (by simp))

namespace JointPoint

/-- **Agreement**: every lease on the wire, and the one the client holds, was held by the server. -/
structure Agreed (p₀ : JointPoint) (tr : Trace JointPoint JointLabel) (p : JointPoint) :
    Prop where
  sent : ∀ m ∈ p.toClient, ∀ t, m.lease = some t → Held p₀ tr t
  client : p.client.session.Blank ∨ Held p₀ tr p.client.session.lease.expiresAt

variable {codec : PayloadCodec} {p₀ p q : JointPoint} {tr : Trace JointPoint JointLabel}

/-- **Every step within the configured duration keeps the agreement.** -/
theorem Agreed.step {l : JointLabel} (h : Agreed p₀ tr p) (hgrant : l.GrantsWithin p)
    (hstep : p.step codec l = some q) : Agreed p₀ (tr ++ [⟨p, l, q⟩]) q := by
  cases l with
  | server =>
    obtain ⟨hserver, _, hclient, _, hsent⟩ := serverStep_cases hstep
    obtain ⟨_, hcall⟩ := ServerPoint.step_session hserver
    refine ⟨fun m hm t ht => ?_, ?_⟩
    · rw [hsent] at hm
      rcases mem_append.mp hm with hold | hnew
      · exact (h.sent m hold t ht).append
      · rw [hcall.lease_sent hgrant hnew ht]
        exact Held.last
    · rw [hclient]
      exact h.client.imp id Held.append
  | client =>
    obtain ⟨hclient, hmsg, _, hsent, _⟩ := clientStep_cases hstep
    obtain ⟨heff, _, _⟩ := ClientPoint.step_effect hclient
    refine ⟨fun m hm t ht => ?_, ?_⟩
    · rw [hsent] at hm
      exact (h.sent m hm t ht).append
    rcases heff.lease_cases with ⟨m, hm, hlease⟩ | ⟨hsame, hblank⟩
    · exact .inr (h.sent m (hmsg m hm) _ hlease).append
    · dsimp only at hsame hblank
      rw [hsame]
      exact h.client.imp hblank Held.append

theorem Start.agreed (h : p.Start codec) : Agreed p [] p := by
  obtain ⟨_, _, _, _, _, hacc, hsent⟩ := h.accepted
  obtain ⟨_, hclient, _⟩ := h
  refine ⟨fun m hm t ht => ?_, .inl ?_⟩
  · rw [hsent] at hm
    rcases mem_cons.mp hm with rfl | hm
    · cases ht
      exact ⟨p, mem_cons_self, by rw [hacc.welcome]⟩
    · rw [mem_singleton.mp hm] at ht; cases ht
  · obtain ⟨_, _, heq⟩ := hclient.fresh
    rw [heq]
    exact ⟨fun ho => ho.2 rfl, rfl, by simp⟩

end JointPoint

/-- **Lease agreement.** In every joint run in which the authenticator grants no renewal a lease beyond the
    configured duration, an open client holds a lease that ends no later than one the server has held so
    far. -/
theorem lease_agreement {codec : PayloadCodec} {p q : JointPoint}
    {tr : Trace JointPoint JointLabel} (hstart : p.Start codec)
    (hrun : Run (step codec) p tr q) (hgrant : ∀ t ∈ tr, t.label.GrantsWithin t.pre)
    (hopen : q.client.session.Open) :
    ∃ v ∈ p :: tr.map Transition.post,
      q.client.session.lease.expiresAt.nanos ≤ v.server.session.lease.expiresAt.nanos := by
  have hagreed : Agreed p tr q := hrun.trace_invariant_on (C := fun t => t.label.GrantsWithin t.pre)
      (fun hok h hs => h.step hok hs) hgrant hstart.agreed
  rcases hagreed.client with hblank | hheld
  · exact absurd hopen hblank.notOpen
  · exact hheld

/-! ## A renewal within the configured duration, and one beyond it -/

/-- The clock readings of a server call, in the order it makes them. -/
def ServerCall.clocks : ServerCall → List Time
  | .handleAck _ _ clock | .handleReadiness _ _ clock | .offerSnapshot _ _ clock | .offerDelta _ _ clock
  | .handleHeartbeat _ _ clock | .handleDrainAck _ _ clock | .renewBegin _ _ clock
  | .renewFinish _ _ clock | .checkLease clock => [clock]
  | .beginDrain _ _ _ _ clock clock' | .renew _ _ clock _ clock' => [clock, clock']
  | .close _ => []

def ClientCall.clocks : ClientCall → List Time
  | .applySnapshot _ _ clock | .applyDelta _ _ clock | .applyFinish _ _ clock | .markReady _ _ _ _ clock
  | .readyFinish _ _ clock | .acceptHeartbeatAck _ clock | .applyRenewal _ clock | .handleDrain _ _ clock
  | .drainProgress _ _ _ clock | .completeFinish _ _ _ clock | .checkLease clock => [clock]
  | .acceptWelcome _ clock clock' | .heartbeat clock clock' | .renewalRequest clock clock' _ _ =>
    [clock, clock']
  | .drainFinish .. | .completeDrain .. | .close .. => []

def JointLabel.clocks : JointLabel → List Time
  | .server l => l.op.clocks
  | .client op => op.clocks

/-- Both sides read one clock that never goes back. -/
def SharedClock (tr : Trace JointPoint JointLabel) : Prop :=
  (tr.flatMap (fun t => t.label.clocks)).Pairwise (fun t u => t.nanos ≤ u.nanos)

open Sample

/-- The renewal the sample client asks for ten seconds into the session. -/
def Sample.renewalRequest : RenewalRequest :=
  { sessionID := "sess_1", accountID := "acct_1", tunnelID := "tunnel_1", connectorID := "connector_1",
    hostID := "host_1", identityKeyID := "ed25519:" ++ thumbprint, identityKeyThumbprint := thumbprint,
    processGeneration := 1, credentialGeneration := 4, nonce := "nonce-0987654321",
    signedProof := "proof-65432109876543210987654321", requestedAt := at_ 10 }

/-- The authenticator renews the credential for an hour, with a lease of `seconds`. -/
def Sample.granted (seconds : Int) : AuthResult := { authResult 1 5 10 with leaseExpiresAt := at_ (10 + seconds) }

/-- The client is welcomed and renews its credential. -/
def Sample.renewing (seconds : Int) : List JointLabel := [.client (.acceptWelcome (session config1).welcome now now),
   .client (.renewalRequest (at_ 10) (at_ 10) "nonce-0987654321" "proof-65432109876543210987654321"),
   .server ⟨reg config1, .renewBegin (some {}) Sample.renewalRequest (at_ 10)⟩,
   .server ⟨reg config1, .renewFinish ⟨at_ 10, (session config1).auth, (session config1).ref⟩
     (.ok (granted seconds)) (at_ 10)⟩,
   .client (.applyRenewal { granted seconds with sessionID := "sess_1" } (at_ 10))]

/-- A renewal of one minute: both sides hold the same lease. -/
theorem lease_agreement_renewed :
    let tr := trace (step sampleCodec) (joint config1) (renewing 60)
    let q := jointAfter (joint config1) (renewing 60)
    q.client.session.lease.expiresAt = at_ 70 ∧ ∃ v ∈ joint config1 :: tr.map Transition.post,
        q.client.session.lease.expiresAt.nanos ≤ v.server.session.lease.expiresAt.nanos := by
  intro tr q
  have hrun : Run (step sampleCodec) (joint config1) tr q := exec_getD_run (by decide +kernel)
  have hopen : q.client.session.Open := by unfold ClientSession.Open; decide +kernel
  exact ⟨by decide +kernel, lease_agreement (joint_start config1 accepts1) hrun (by decide +kernel) hopen⟩

/-- **The client's lease overruns the server's.** The authenticator renews for an hour; the server caps its
    lease at one minute and hands the hour to the client. Both sessions are open and share one clock, and the
    client's lease ends after every lease the server has held. -/
theorem lease_overrun : ∃ (p q : JointPoint) (tr : Trace JointPoint JointLabel), p.Start sampleCodec ∧
      Run (step sampleCodec) p tr q ∧ SharedClock tr ∧ q.client.session.Open ∧
      q.server.session.state ≠ .closed ∧
      ∀ v ∈ p :: tr.map Transition.post,
        v.server.session.lease.expiresAt.nanos < q.client.session.lease.expiresAt.nanos := by
  refine ⟨joint config1, jointAfter (joint config1) (renewing 3600), _, joint_start config1 accepts1,
    exec_getD_run ?_, ?_⟩
  · decide +kernel
  · unfold SharedClock ClientSession.Open
    decide +kernel

end PaperboatTunnel.ConnectorProtocol
