import PaperboatTunnel.ConnectorProtocol.JointMachine

/-!
# `Closed` — a closed session stays closed

A server session is closed for good. A client session is not: `HandleDrain` and `MarkReadyContext` take the lock again
after a failed callback and call `restoreStateLocked` without looking whether the session was closed in the meantime
(`closed_session_reopens`). Nothing else opens a closed session again (`closed_absorbing`).
-/

namespace PaperboatTunnel.ConnectorProtocol

open GoTime ClientSession TransitionSystem ClientPoint

/-- The section restores the state after a failed callback: a drain that its drainer failed, or a candidate
    whose activation failed. -/
def ClientCall.Restores (c : ClientSession) : ClientCall → Prop
  | .drainFinish request o => o.Failed ∧ c.isDraining request
  | .readyFinish call o _ => o.err.isSome ∧ c.stillStaged call
  | _ => False

variable {codec : PayloadCodec} {c : ClientSession} {op : ClientCall} {o : ClientOutcome}

theorem ClientSession.Effect.closed_of_closed (h : Effect codec c op o) (hcl : c.state = .closed)
    (hno : ¬ op.Restores c) : o.session.state = .closed := by
  cases h with
  | expired | closed => rfl
  | welcomed hnew => exact absurd (hcl.symm.trans hnew) (by simp)
  | staged hopen | promoted hopen | drainRecorded hopen => exact absurd hcl hopen.1
  | activationFailed hfail hstill => exact absurd ⟨hfail, hstill⟩ hno
  | drainFailed hfail hdrain => exact absurd ⟨hfail, hdrain⟩ hno
  | _ => exact hcl

/-- **Closed is absorbing.** For every interleaving of the lock-held sections of a client session, from a
    point where the session is closed it is closed at every later point, as long as no failed callback
    restores the state; a server session, with `Renew` split at its external call, without exception. -/
theorem closed_absorbing (codec : PayloadCodec) :
    (∀ (p q : ClientPoint) (tr : Trace ClientPoint ClientCall), Run (step codec) p tr q → p.session.state = .closed →
      (∀ t ∈ tr, ¬ t.label.Restores t.pre.session) → q.session.state = .closed) ∧
    (∀ (p q : ServerPoint) (tr : Trace ServerPoint ServerLabel),
      Run (ServerPoint.step codec) p tr q → p.session.state = .closed → q.session.state = .closed) := by
  constructor
  · intro p q tr hrun hcl hno
    refine hrun.invariant_of (I := fun u => u.session.state = .closed)
      (C := fun u op => ¬ op.Restores u.session) (fun {u op v} hok hc hstep => ?_) hno hcl
    obtain ⟨heff, _, _⟩ := step_effect hstep
    exact heff.closed_of_closed hc hok
  · intro p q tr hrun hcl
    refine hrun.invariant (I := fun u => u.session.state = .closed) (fun {u l v} hc hstep => ?_) hcl
    obtain ⟨_, hcall⟩ := ServerPoint.step_session hstep
    have hsame : v.session = u.session := hcall.of_closed hc
    rw [hsame]
    exact hc

/-! ## A drain that outlives its session -/

open Sample

def Sample.closedWhileDraining : List ClientCall :=
  bootstrap config1 ++ [.handleDrain (some {}) (drainRequest config1) now, .close .serverShutdown none]

/-- The drain that was out comes back without an error, and the session stays closed; on a closed server
    session an acknowledgement and a readiness message change nothing. -/
theorem closed_absorbing_draining :
    let p := clientAfter { session := client } closedWhileDraining
    let q := clientAfter p [.drainFinish (drainRequest config1) {}]
    let u := after config1 ⟨session config1, []⟩ [.close .serverShutdown]
    let v := after config1 u (applies config1)
    p.session.state = .closed ∧ q.session.state = .closed ∧
      u.session.state = .closed ∧ v.session.state = .closed := by
  intro p q u v
  have hq : Run (step sampleCodec) p _ q := exec_getD_run (by decide +kernel)
  have hv : Run (ServerPoint.step sampleCodec) u _ v := exec_getD_run (by decide +kernel)
  have hp : p.session.state = .closed := by decide +kernel
  have hu : u.session.state = .closed := by decide +kernel
  refine ⟨hp, (closed_absorbing sampleCodec).1 p q _ hq hp (fun t ht => ?_), hu,
    (closed_absorbing sampleCodec).2 u v _ hv hu⟩
  -- the only label of the client's run is the finishing drain, whose drainer did not fail
  rw [List.mem_singleton.mp (label_mem_of_mem_trace ht)]
  rintro ⟨hfail, _⟩
  exact absurd hfail (by unfold DrainOutcome.Failed; decide)

/-- **A closed client session reopens**: the drainer fails after `Close`, and the session is `Ready`. -/
theorem closed_session_reopens : ∃ p₀ tr₁ p tr₂ q, p₀.Start ∧ Run (step sampleCodec) p₀ tr₁ p ∧
      Run (step sampleCodec) p tr₂ q ∧ p.session.state = .closed ∧
      q.session.state = .ready := by
  let p := clientAfter { session := client } closedWhileDraining
  let finish : ClientCall := .drainFinish (drainRequest config1) { stopErr := some (.text "drainer stopped") }
  exact ⟨_, _, p, _, clientAfter p [finish], client_start, exec_getD_run (by decide +kernel),
    exec_getD_run (by decide +kernel), by decide +kernel, by decide +kernel⟩

end PaperboatTunnel.ConnectorProtocol
