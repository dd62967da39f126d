import PaperboatTunnel.ConnectorProtocol.Rotation.Targets

/-!
# `RotationGate` — no old credential is revoked before every replacement is ready

`Revoke` issues a revocation only when every target of the plan is ready, revoking or revoked. `Gate` is what remains
of this in later states, where a target may still fail.
-/

namespace PaperboatTunnel.ConnectorProtocol

open GoTime TransitionSystem RotationCoordinator RotationTargetState

namespace RotationTargetState

/-- The replacement of the target is ready. -/
def Replaced (s : RotationTargetState) : Prop := s = .ready ∨ s = .revoking ∨ s = .revoked

/-- The revocation of the old credential has begun. -/
def Revocation (s : RotationTargetState) : Prop := s = .revoking ∨ s = .revoked

end RotationTargetState

namespace RotationCoordinator

/-- The call is a `Revoke` that returns a revocation its target did not have before. -/
def IssuesRevocation (codec : RotationCodec) (c : RotationCoordinator) (op : RotationCall) : Prop :=
  ∃ ctx connectorID clock nonce record revoke r, op = .revoke ctx connectorID clock nonce record
    ∧ (c.call codec op).2 = .revoke (.ok revoke) ∧ c.find connectorID = some r ∧ r.state ≠ .revoking

/-- **The gate**: once a revocation has begun, every target is replaced or failed. -/
def Gate (c : RotationCoordinator) : Prop :=
  ∀ r ∈ c.targets, r.state.Revocation → ∀ s ∈ c.targets, s.state.Replaced ∨ s.state = .failed

variable {codec : RotationCodec} {c c' : RotationCoordinator} {op : RotationCall} {reply : RotationReply}
  {r r' : RotationTargetRecord}

theorem allReady_iff : c.allReady = true ↔ ∀ r ∈ c.targets, r.state.Replaced := by
  simp [allReady, Replaced, or_assoc]

/-- **A new revocation finds every target replaced**, and none failed. -/
theorem IssuesRevocation.ready (h : c.IssuesRevocation codec op) :
    (∀ r ∈ c.targets, r.state.Replaced) ∧ ∀ r ∈ c.targets, r.state ≠ .failed := by
  obtain ⟨ctx, connectorID, clock, nonce, record, _, _, rfl, hreply, hfind, hphase⟩ := h
  have heff := call_effect codec c (.revoke ctx connectorID clock nonce record)
  rw [hreply] at heff
  generalize (c.call codec (.revoke ctx connectorID clock nonce record)).1 = c' at heff
  cases heff with
  | kept hsilent | failed _ _ _ hsilent => cases hsilent
  | repeated hfind' hphase' =>
    rw [hfind] at hfind'
    exact absurd (Option.some.inj hfind' ▸ hphase') hphase
  | revoking _ _ hfail hready => exact ⟨allReady_iff.mp hready, by simpa [anyFailed] using hfail⟩

/-- A target moves to a phase that the gate allows, or was not in one before. -/
theorem Moves.replaced_cases (h : Moves codec c op r r') :
    (r'.state.Replaced ∨ r'.state = .failed) ∨ ¬ (r.state.Replaced ∨ r.state = .failed) := by
  cases h with
  | challenged _ _ hphase =>
    right
    rcases hphase with h | h <;> simp [h, Replaced]
  | installed _ hphase =>
    right
    simp [hphase, Replaced]
  | readied => exact .inl (.inl (.inl rfl))
  | revoking => exact .inl (.inl (.inr (.inl rfl)))
  | revoked => exact .inl (.inl (.inr (.inr rfl)))
  | failed => exact .inl (.inr rfl)

theorem Moves.revocation_cases (h : Moves codec c op r r') (hrev : r'.state.Revocation) :
    (∀ s ∈ c.targets, s.state.Replaced) ∨ r.state.Revocation := by
  cases h with
  | revoking _ _ hready => exact .inl (allReady_iff.mp hready)
  | revoked hphase => exact .inr (.inl hphase)
  | challenged | installed | readied | failed => rcases hrev with h | h <;> cases h

/-- **Every call keeps the gate.** -/
theorem Gate.effect (hgate : c.Gate) (h : Effect codec c op c' reply) (hs : c.started)
    (hplan : c.plan.validate codec = none) : c'.Gate := by
  intro r' hr' hrev s' hs'
  have hbegun : ∀ s ∈ c.targets, s.state.Replaced ∨ s.state = .failed := by
    rcases h.mem_cases hs hplan hr' with hold | ⟨r, hr, hmove⟩
    · exact hgate r' hold hrev
    · rcases hmove.revocation_cases hrev with hready | hrev'
      · exact fun s hs => .inl (hready s hs)
      · exact hgate r hr hrev'
  rcases h.mem_cases hs hplan hs' with hold | ⟨s, hs, hmove⟩
  · exact hbegun s' hold
  · rcases hmove.replaced_cases with hrep | hnot
    · exact hrep
    · exact absurd (hbegun s hs) hnot

end RotationCoordinator

/-- **The revoke gate.** In every run of a started rotation, with any calls in any order and any answers of
    the store: a `Revoke` issues a new revocation only when every target of the plan is ready, revoking or
    revoked; in every state reached, if one target is revoking or revoked then every target is ready,
    revoking, revoked or failed; and from the first failure on no new revocation is issued. -/
theorem rotation_revoke_gate {codec : RotationCodec} {c q : RotationCoordinator}
    {tr : Trace RotationCoordinator RotationCall} (hbegun : c.Begun codec)
    (hrun : Run (step codec) c tr q) :
    (∀ t ∈ tr, t.pre.IssuesRevocation codec t.label → ∀ r ∈ t.pre.targets, r.state.Replaced) ∧
    ((∃ r ∈ q.targets, r.state.Revocation) → ∀ r ∈ q.targets, r.state.Replaced ∨ r.state = .failed) ∧
    ∀ tr₁ t tr₂, tr = tr₁ ++ t :: tr₂ → (∃ r ∈ t.pre.targets, r.state = .failed) →
      ∀ u ∈ t :: tr₂, ¬ u.pre.IssuesRevocation codec u.label := by
  refine ⟨fun t _ hissue => hissue.ready.1, ?_, ?_⟩
  · rintro ⟨r, hr, hrev⟩
    have hinv : Running codec q ∧ q.Gate := by
      refine hrun.invariant (I := fun c => Running codec c ∧ c.Gate)
        (fun {s op s'} h hstep => ⟨h.1.step hstep, ?_⟩) ⟨hbegun.running, ?_⟩
      · exact h.2.effect (effect_of_step hstep) h.1.started h.1.plan
      -- at the start every target is pending
      intro r hr hrev
      rw [hbegun.fresh.targets r hr] at hrev
      rcases hrev with h | h <;> cases h
    exact hinv.2 r hr hrev
  · rintro tr₁ t tr₂ rfl hfail u hu hissue
    obtain ⟨m, hbefore, hafter⟩ := hrun.of_append
    have hpre : t.pre = m := hafter.of_cons.1
    have hrunning : Running codec m := hbefore.invariant (·.step ·) hbegun.running
    obtain ⟨_, _, _, hto, _, _⟩ := hafter.split hu
    have hstill : Running codec u.pre ∧ ∃ r ∈ u.pre.targets, r.state = .failed := by
      refine hto.invariant (I := fun c => Running codec c ∧ ∃ r ∈ c.targets, r.state = .failed)
        (fun {s op s'} h hstep => ⟨h.1.step hstep, ?_⟩) ⟨hrunning, hpre ▸ hfail⟩
      exact (effect_of_step hstep).failed_stays h.1.started h.1.plan h.2
    obtain ⟨r, hr, hst⟩ := hstill.2
    exact hissue.ready.2 r hr hst

open RotationSample

/-- Both replacements are ready, the first revocation is issued and the second target fails: the revocation
    stands, and the failed rotation issues no other. -/
theorem rotation_revoke_gate_sample :
    let calls := bringUp "a" ++ bringUp "b" ++ [revokeCall "a", .fail (some {}) "b" .notReady none]
    let q := after calls
    q.targets.map (fun r => r.state) = [.revoking, .failed] ∧
      (∀ r ∈ q.targets, r.state.Replaced ∨ r.state = .failed) ∧
      ¬ q.IssuesRevocation codec (revokeCall "b") := by
  intro calls q
  have hstates : q.targets.map (fun r => r.state) = [.revoking, .failed] := by decide +kernel
  have hrun : Run (step codec) begun (trace (step codec) begun calls) q := exec_getD_run (by decide +kernel)
  clear_value q
  have hlast : Run (step codec) begun _ (q.call codec (revokeCall "b")).1 := Run.tail (l := revokeCall "b") hrun rfl
  obtain ⟨_, hgate, _⟩ := rotation_revoke_gate begun_begun hrun
  obtain ⟨_, _, hafter⟩ := rotation_revoke_gate begun_begun hlast
  have hphase (s : RotationTargetState) (hs : s ∈ [RotationTargetState.revoking, .failed]) :
      ∃ r ∈ q.targets, r.state = s := by
    rw [← hstates] at hs
    exact List.mem_map.mp hs
  obtain ⟨r, hr, hrevoking⟩ := hphase .revoking (by simp)
  refine ⟨hstates, hgate ⟨r, hr, .inl hrevoking⟩, ?_⟩
  exact hafter _ _ [] rfl (hphase .failed (by simp)) _ List.mem_cons_self

end PaperboatTunnel.ConnectorProtocol
