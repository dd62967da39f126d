import PaperboatTunnel.ConnectorProtocol.Correctness.ClientSlots
import PaperboatTunnel.ConnectorProtocol.JointMachine

/-!
# `Prepared` — what becomes of a prepared configuration

Every `PreparedConfig` the applier returns must be activated or aborted in the end. A handle is settled in the section
that receives it, or the session holds it (`Holds`) and settles it when it lets go of it (`Holds.step`). The exception:
an expired lease or heartbeat closes the session with the handle still in it (`prepared_leaks`).
-/

namespace PaperboatTunnel.ConnectorProtocol

open GoTime ClientSession TransitionSystem ClientPoint List

/-- The applier has returned this prepared configuration. -/
def ClientCall.Returns : ClientCall → Handle → Prop
  | .applyFinish _ o _, h => o.prepared = some h
  | _, _ => False

instance (op : ClientCall) (h : Handle) : Decidable (op.Returns h) := by
  unfold ClientCall.Returns
  split <;> infer_instance

/-- The section that follows a successful `Activate` may find the session expired: its handle is settled. -/
def ClientCall.endsReady : ClientCall → Bool
  | .readyFinish .. => true
  | _ => false

/-- The section does not let a session expire that holds a prepared configuration. -/
def ClientCall.InTime (c : ClientSession) (op : ClientCall) : Prop :=
  c.prepared.isSome → op.endsReady = false → ∀ now ∈ op.checkTime, ¬ c.ExpiredAt now

instance (c : ClientSession) (op : ClientCall) : Decidable (op.InTime c) := by
  unfold ClientCall.InTime
  infer_instance

namespace ClientPoint

/-- The open session holds `h`, and will settle it. -/
structure Holds (p : ClientPoint) (h : Handle) : Prop where
  coherent : p.Coherent
  prepared : p.session.prepared = some h
  isOpen : p.session.state ≠ .closed

variable {codec : PayloadCodec} {p q : ClientPoint} {op : ClientCall} {h : Handle}

theorem Holds.eq_activated {call : ReadyCall} (hp : p.Holds h) (hheld : p.busy = some (.activating call)) :
    h = call.prepared := by
  have hcall := (hp.coherent.activating call hheld).prepared
  rw [hp.prepared] at hcall
  exact Option.some.inj hcall

theorem restoreStateLocked_ne_closed (c : ClientSession) : c.restoreStateLocked.state ≠ .closed := by
  unfold restoreStateLocked
  dsimp only
  split
  · simp
  · split <;> simp

/-- A section that expires the session while it holds `h` has just activated `h`. -/
theorem Holds.activated_of_expired {now : Time} (hp : p.Holds h) (henabled : p.enabled op)
    (hcheck : op.checkTime = some now) (hexp : p.session.ExpiredAt now) (htime : op.InTime p.session) :
    h ∈ op.handles := by
  by_cases hends : op.endsReady = true
  · cases op with
    | readyFinish =>
      rw [hp.eq_activated (eq_of_beq henabled)]
      exact mem_singleton_self _
    | _ => cases hends
  · have hsome : p.session.prepared.isSome := by rw [hp.prepared]; rfl
    exact absurd hexp (htime hsome (by simpa using hends) now hcheck)

/-- **A session settles the handle it holds before it lets go of it.** -/
theorem Holds.step (hp : p.Holds h) (htime : op.InTime p.session) (hstep : p.step codec op = some q) :
    h ∈ p.settled codec op ∨ q.Holds h := by
  have hq : q.Coherent := hp.coherent.step hstep
  obtain ⟨heff, henabled, _⟩ := step_effect hstep
  generalize hs : q.session = session at heff
  generalize p.returned codec op = reply at heff
  generalize hset : p.settled codec op = settled at heff
  have keeps (hprepared : q.session.prepared = p.session.prepared) (hst : q.session.state ≠ .closed) :
      h ∈ p.settled codec op ∨ q.Holds h := .inr ⟨hq, hprepared.trans hp.prepared, hst⟩
  rw [← hset]
  cases heff with
  | expired _ hcheck hexp =>
    rw [hset]
    exact .inl (hp.activated_of_expired henabled hcheck hexp htime)
  | staged _ _ hunstaged =>
    -- the session already holds a configuration, so nothing is staged over it
    have hsome : p.session.prepared.isSome := by rw [hp.prepared]; rfl
    exact absurd ⟨hp.coherent.prepared ▸ hsome, hsome⟩ hunstaged
  | activationFailed | promoted =>
    rw [hset, hp.eq_activated (eq_of_beq henabled)]
    exact .inl (mem_singleton_self _)
  | closed =>
    rw [hset, hp.prepared]
    exact .inl (mem_singleton_self _)
  | drainFailed _ hdraining =>
    refine keeps (by rw [hs]; exact (sameSlots_failDrain _ _).prepared) ?_
    rw [hs]
    unfold failDrain
    rw [if_pos hdraining]
    exact restoreStateLocked_ne_closed _
  | welcomed => exact keeps (by rw [hs]) (by rw [hs]; simp)
  | drainRecorded => exact keeps (by rw [hs]; rfl) (by rw [hs]; simp [recordDrain])
  | renewed => exact keeps (by rw [hs]; rfl) (by rw [hs]; exact hp.isOpen)
  | _ => exact keeps (by rw [hs]) (by rw [hs]; exact hp.isOpen)

/-- A handle that the applier returned is settled at once, or held by the session. -/
theorem held_of_returns (hp : p.Coherent) (hret : op.Returns h) (hstep : p.step codec op = some q) :
    h ∈ p.settled codec op ∨ q.Holds h := by
  have hq : q.Coherent := hp.step hstep
  obtain ⟨heff, _, _⟩ := step_effect hstep
  cases op with
  | applyFinish call o clock =>
    have hhandle : h ∈ (ClientCall.applyFinish call o clock).handles := by
      have hsome : o.prepared = some h := hret
      show h ∈ o.prepared.toList
      rw [hsome]
      exact mem_singleton_self _
    generalize hs : q.session = session at heff
    generalize p.returned codec (.applyFinish call o clock) = reply at heff
    generalize p.settled codec (.applyFinish call o clock) = settled at heff
    cases heff with
    | refused | kept | expired => exact .inl hhandle
    | staged _ hprepared =>
      have hsome : o.prepared = some h := hret
      rw [hsome] at hprepared
      refine .inr ⟨hq, by rw [hs]; exact hprepared.symm, by rw [hs]; simp [stage]⟩
    | drainCounted hnone | progressed _ hnone => rw [hnone] at hhandle; cases hhandle
  | _ => exact absurd hret id

/-- **What a session holds is settled later in the run, or still held at its end.** -/
theorem Holds.run {tr : Trace ClientPoint ClientCall} (hp : p.Holds h)
    (hrun : Run (ClientPoint.step codec) p tr q) (htime : ∀ t ∈ tr, t.label.InTime t.pre.session) :
    (∃ u ∈ tr, h ∈ u.pre.settled codec u.label) ∨ q.Holds h := by
  -- on the run: once the handle is settled it stays so, as long as it is held the step lemma applies
  induction hrun with
  | refl => exact .inr hp
  | @tail m q _ op _ hstep ih =>
    rcases ih (fun t ht => htime t (mem_append_left _ ht)) with ⟨u, hu, hset⟩ | hheld
    · exact .inl ⟨u, mem_append_left _ hu, hset⟩
    have hlast := htime ⟨m, op, q⟩ (mem_append_right _ (by simp))
    rcases hheld.step hlast hstep with hset | hq
    · exact .inl ⟨⟨m, op, q⟩, mem_append_right _ (by simp), hset⟩
    · exact .inr hq

/-- `Close` with a valid reason leaves nothing held. -/
theorem Holds.settled_of_close {reason : DisconnectReason} {abortErr : Option Error} (hp : p.Holds h)
    (hreason : validDisconnectReason reason) : h ∈ p.settled codec (.close reason abortErr) := by
  show h ∈ ((p.session.close reason abortErr).outcome (fun _ err => .done err)).settled
  unfold ClientSession.close
  rw [if_neg (by simp [hreason]), if_neg hp.isOpen]
  show h ∈ [] ++ p.session.prepared.toList
  rw [hp.prepared]
  exact mem_singleton_self _

end ClientPoint

/-- **No prepared configuration is leaked.** In every run of a new client session that ends with `Close`,
    each configuration that the applier returned is activated successfully or aborted in the section that
    received it or in a later one, `Close` included; provided that no check finds the lease or the heartbeat
    run out while the session holds a prepared configuration, and that `Close` is given a valid reason. -/
theorem prepared_settled {codec : PayloadCodec} {p m q : ClientPoint}
    {tr : Trace ClientPoint ClientCall} {reason : DisconnectReason} {abortErr : Option Error}
    (hstart : p.Start) (hrun : Run (step codec) p (tr ++ [⟨m, .close reason abortErr, q⟩]) q)
    (hreason : validDisconnectReason reason) (htime : ∀ t ∈ tr, t.label.InTime t.pre.session) :
    ∀ tr₁ t tr₂, tr = tr₁ ++ t :: tr₂ → ∀ h, t.label.Returns h →
      ∃ u ∈ t :: tr₂ ++ [⟨m, .close reason abortErr, q⟩], h ∈ u.pre.settled codec u.label := by
  rintro tr₁ t tr₂ rfl h hret
  obtain ⟨hcalls, _, _⟩ := hrun.through
  obtain ⟨hbefore, hstep, hrest⟩ := hcalls.through
  have hcoherent : t.pre.Coherent := hbefore.invariant (·.step ·) hstart.coherent
  rcases held_of_returns hcoherent hret hstep with hset | hheld
  · exact ⟨t, mem_append_left _ mem_cons_self, hset⟩
  have hlater : ∀ u ∈ tr₂, u.label.InTime u.pre.session := fun u hu =>
    htime u (mem_append_right _ (mem_cons_of_mem _ hu))
  rcases hheld.run hrest hlater with ⟨u, hu, hset⟩ | hend
  · exact ⟨u, mem_append_left _ (mem_cons_of_mem _ hu), hset⟩
  · exact ⟨⟨m, .close reason abortErr, q⟩, mem_append_right _ (by simp), hend.settled_of_close hreason⟩

/-! ## A candidate that is closed in time, and one that is not -/

open Sample

/-- The connector is welcomed and stages its first configuration, prepared as handle 0. -/
def Sample.staging : List ClientCall := .acceptWelcome (session config1).welcome now now :: stages config1 0

def Sample.closed (m : ClientPoint) : ClientPoint := clientAfter m [.close .serverShutdown none]

/-- `Close` finds the candidate staged, and aborts it. -/
theorem prepared_settled_closing :
    let p : ClientPoint := { session := client }
    let tr := trace (step sampleCodec) p staging
    let m := clientAfter p staging
    m.session.prepared = some 0 ∧ ∀ tr₁ t tr₂, tr = tr₁ ++ t :: tr₂ → ∀ h, t.label.Returns h →
        ∃ u ∈ t :: tr₂ ++ [⟨m, .close .serverShutdown none, closed m⟩], h ∈ u.pre.settled sampleCodec u.label := by
  intro p tr m
  have hm : Run (step sampleCodec) p tr m := exec_getD_run (by decide +kernel)
  have hclose : m.step sampleCodec (.close .serverShutdown none) = some (closed m) := by decide +kernel
  exact ⟨by decide +kernel, prepared_settled client_start (Run.tail hm hclose) (by decide) (by decide +kernel)⟩

/-- **A prepared configuration is leaked.** The lease runs out while a configuration is staged; the check
    that finds this closes the session, `Close` does nothing, and handle 0 is neither activated nor aborted.
    The run is sequential. -/
theorem prepared_leaks : ∃ (p m q : ClientPoint) (tr : Trace ClientPoint ClientCall), p.Start ∧
      Run (step sampleCodec) p (tr ++ [⟨m, .close .serverShutdown none, q⟩]) q ∧
      Sequential (tr ++ [⟨m, .close .serverShutdown none, q⟩]) ∧ (∃ t ∈ tr, t.label.Returns 0) ∧
      ∀ u ∈ tr ++ [⟨m, .close .serverShutdown none, q⟩], 0 ∉ u.pre.settled sampleCodec u.label := by
  let p : ClientPoint := { session := client }
  let ops := staging ++ [.checkLease (at_ 61)]
  let m := clientAfter p ops
  have hclose : m.step sampleCodec (.close .serverShutdown none) = some (closed m) := by decide +kernel
  refine ⟨p, m, closed m, _, client_start, Run.tail (exec_getD_run (by decide +kernel)) hclose, ?_⟩
  unfold Sequential
  decide +kernel

end PaperboatTunnel.ConnectorProtocol
