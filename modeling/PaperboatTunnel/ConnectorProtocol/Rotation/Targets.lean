import PaperboatTunnel.ConnectorProtocol.Rotation.Step

/-!
# `Targets` — the targets of a coordinator along a run

The targets of a valid plan have distinct connectors, so a write to a connector is a write to one record. `Moves` are
the moves one target can make; `Effect.writes` says that a call keeps all targets or moves one of them.
-/

namespace PaperboatTunnel.ConnectorProtocol

open GoTime TransitionSystem RotationCoordinator List

theorem scanTargets_eq_none : ∀ {prev : Option String} {seen : List String} {ts : List RotationTarget},
    scanTargets prev seen ts = none → (∀ t ∈ ts, t.validate = none ∧ t.connectorID ∉ seen)
        ∧ (ts.map RotationTarget.connectorID).Nodup
  | _, _, [], _ => by simp
  | prev, seen, t :: ts, h => by
      unfold scanTargets at h
      split at h
      · cases h
      next hval =>
      split at h
      · cases h
      split at h
      · cases h
      next hseen =>
      obtain ⟨hrest, hnodup⟩ := scanTargets_eq_none h
      refine ⟨?_, ?_⟩
      · intro u hu
        rcases mem_cons.mp hu with rfl | hin
        · exact ⟨hval, by simpa using hseen⟩
        · obtain ⟨hu₁, hu₂⟩ := hrest u hin
          exact ⟨hu₁, fun hin' => hu₂ (mem_cons_of_mem _ hin')⟩
      · rw [map_cons, nodup_cons]
        refine ⟨fun hin => ?_, hnodup⟩
        obtain ⟨u, hu, heq⟩ := mem_map.mp hin
        exact (hrest u hu).2 (heq ▸ mem_cons_self)

variable {codec : RotationCodec}

/-- **A valid plan** has valid targets with distinct connectors. -/
theorem RotationPlan.targets_of_valid {p : RotationPlan} (h : p.validate codec = none) :
    (∀ t ∈ p.targets, t.validate = none) ∧ (p.targets.map RotationTarget.connectorID).Nodup := by
  have hfields : p.validateFields = none := by
    unfold RotationPlan.validate at h
    split at h
    · cases h
    · assumption
  unfold RotationPlan.validateFields at hfields
  split at hfields
  · cases hfields
  · obtain ⟨hall, hnodup⟩ := scanTargets_eq_none hfields
    exact ⟨fun t ht => (hall t ht).1, hnodup⟩

namespace RotationCoordinator

/-! ## Reading and writing one target -/

section Targets

variable {c c' : RotationCoordinator} {cid : String} {r r' : RotationTargetRecord}

theorem find_some (h : c.find cid = some r) : r ∈ c.targets ∧ r.target.connectorID = cid :=
  ⟨mem_of_find?_eq_some h, by simpa using find?_some h⟩

theorem target_mem_plan (hr : r ∈ c.targets) : r.target ∈ c.plan.targets := by
  rw [← c.planned]
  exact mem_map_of_mem hr

variable (hplan : c.plan.validate codec = none)

include hplan

theorem connectors_nodup : (c.targets.map (fun r => r.target.connectorID)).Nodup := by
  have h := (RotationPlan.targets_of_valid hplan).2
  rw [← c.planned, map_map] at h
  exact h

theorem find_of_mem (hr : r ∈ c.targets) : c.find r.target.connectorID = some r :=
  (Table.find_iff (connectors_nodup hplan)).mpr ⟨hr, rfl⟩

variable (hfind : c.find cid = some r)

include hfind

theorem eq_of_find (hr : r' ∈ c.targets) (hid : r'.target.connectorID = cid) : r' = r := by
  have hself := find_of_mem hplan hr
  rw [hid, hfind] at hself
  exact (Option.some.inj hself).symm

/-- `c'` is `c` with `f` applied to the record of one connector. -/
def Writes (c : RotationCoordinator) (connectorID : String)
    (f : RotationTargetRecord → RotationTargetRecord) (c' : RotationCoordinator) : Prop :=
  c'.targets = c.targets.map (fun r => if r.target.connectorID = connectorID then f r else r)

variable {f : RotationTargetRecord → RotationTargetRecord}

/-- **The records after a write**: the written one, and the others as before. -/
theorem Writes.mem_cases (hw : c.Writes cid f c') (hmem : r' ∈ c'.targets) : r' ∈ c.targets ∨ r' = f r := by
  rw [hw] at hmem
  obtain ⟨s, hs, rfl⟩ := mem_map.mp hmem
  by_cases hid : s.target.connectorID = cid
  · obtain rfl := eq_of_find hplan hfind hs hid
    right
    rw [if_pos hid]
  · left
    rw [if_neg hid]
    exact hs

/-- **Where a record is after a write**: it was written, or is still there. -/
theorem Writes.mem_of_mem (hw : c.Writes cid f c') (hr' : r' ∈ c.targets) :
    r' ∈ c'.targets ∨ (r' = r ∧ f r ∈ c'.targets) := by
  rw [hw]
  by_cases hid : r'.target.connectorID = cid
  · obtain rfl := eq_of_find hplan hfind hr' hid
    exact .inr ⟨rfl, mem_map.mpr ⟨r', hr', if_pos hid⟩⟩
  · exact .inl (mem_map.mpr ⟨r', hr', if_neg hid⟩)

end Targets

/-! ## Steps keep the plan -/

variable {c c' : RotationCoordinator} {op : RotationCall} {reply : RotationReply}

theorem foldl_restore_plan (l : List RotationResumeTarget) :
    ∀ c : RotationCoordinator, (l.foldl restore c).plan = c.plan := by
  induction l with
  | nil => intro c; rfl
  | cons recovered _ ih => intro c; exact ih (c.restore recovered)

theorem Effect.plan_eq (h : Effect codec c op c' reply) : c'.plan = c.plan := by
  cases h with
  | resumed => exact foldl_restore_plan _ c
  | _ => rfl

theorem Effect.started_of_started (h : Effect codec c op c' reply) (hs : c.started) : c'.started := by
  cases h with
  | started | resumed => rfl
  | _ => exact hs

/-! ## The moves of one target -/

variable (codec : RotationCodec) (c : RotationCoordinator) (op : RotationCall) (r : RotationTargetRecord) in
/-- `Moves c op r r'`: the call `op` on `c` takes the record `r` to `r'`. -/
inductive Moves : RotationTargetRecord → Prop where
  | challenged {request clock} (hop : op.challengeRequest = some (request, clock))
      (hid : r.target.connectorID = request.connectorID)
      (hphase : r.state = .pending ∨ r.state = .challenged)
      (hvalid : (c.newChallenge r.target request).validate clock.utc = none) :
      Moves { r with challenge := c.newChallenge r.target request, state := .challenged }
  | installed {proof now} (hid : r.target.connectorID = proof.connectorID) (hphase : r.state = .challenged)
      (hmatch : rotationProofMatchesChallenge proof r.challenge r.target)
      (hvalid : (c.newInstall r.challenge proof).validate codec now = none) :
      Moves { r with proof, install := c.newInstall r.challenge proof, state := .installed }
  | readied {ready now} (hid : r.target.connectorID = ready.connectorID) (hphase : r.state = .installed)
      (hmatch : readyMatchesInstall c.plan ready r.install) (hvalid : ready.validate codec now = none) :
      Moves { r with ready, state := .ready }
  | revoking {nonce now} (hphase : r.state = .ready) (hfailed : c.anyFailed = false) (hready : c.allReady)
      (hvalid : (c.newRevoke r.target.connectorID r nonce now).validate now = none) :
      Moves { r with revoke := c.newRevoke r.target.connectorID r nonce now, state := .revoking }
  | revoked (hphase : r.state = .revoking) : Moves { r with state := .revoked }
  | failed {code} (hphase : r.state ≠ .revoked ∧ r.state ≠ .failed) (hcode : code ≠ .unset) :
      Moves { r with state := .failed, code }

section Moves

variable (h : Effect codec c op c' reply)

include h

/-- **A call keeps the targets or moves the one it names**, if it does not load all of them. -/
theorem Effect.writes (hs : c.started ∨ ¬ ∃ ctx load clock, op = .resume ctx load clock) :
    c'.targets = c.targets ∨ ∃ cid r f, op.connectorID = some cid ∧ c.find cid = some r
      ∧ Moves codec c op r (f r) ∧ c.Writes cid f c' := by
  cases h with
  | kept | started | repeated => exact .inl rfl
  | resumed hidle =>
    rcases hs with hs | hop
    · rw [hidle] at hs
      cases hs
    · exact absurd ⟨_, _, _, rfl⟩ hop
  | @challenged _ request _ r hop _ hfind hconflict hval =>
    have hphase : r.state = .pending ∨ r.state = .challenged := by
      by_contra hcon
      rw [not_or] at hcon
      simp [challengeConflict, hcon.1, hcon.2] at hconflict
    have hid : op.connectorID = some request.connectorID := by
      cases op <;> cases hop <;> rfl
    exact .inr ⟨_, r, fun s => { s with challenge := c.newChallenge r.target request, state := .challenged },
      hid, hfind, .challenged hop (find_some hfind).2 hphase hval, rfl⟩
  | @installed _ proof _ _ _ r _ hfind hphase hmatch hval =>
    exact .inr ⟨_, r, fun s => { s with proof, install := c.newInstall r.challenge proof, state := .installed },
      rfl, hfind, .installed (find_some hfind).2 hphase hmatch hval, rfl⟩
  | @readied _ ready _ _ r _ _ hfind hphase hmatch hval =>
    exact .inr ⟨_, r, fun s => { s with ready, state := .ready }, rfl, hfind,
      .readied (find_some hfind).2 hphase hmatch hval, rfl⟩
  | @revoking _ _ clock _ _ r revokeNonce hfind hphase hfail hready hval =>
    obtain rfl := (find_some hfind).2
    let revoke := c.newRevoke r.target.connectorID r revokeNonce clock.utc
    exact .inr ⟨_, r, fun s => { s with revoke, state := .revoking }, rfl, hfind,
      .revoking hphase hfail hready hval, rfl⟩
  | @revoked _ _ _ _ r _ _ hfind hphase =>
    exact .inr ⟨_, r, fun s => { s with state := .revoked }, rfl, hfind, .revoked hphase, rfl⟩
  | @lost _ _ _ _ r _ _ hfind hphase =>
    exact .inr ⟨_, r, fun s => { s with state := .failed, code := .credentialRotationFailed }, rfl, hfind,
      .failed (by simp [hphase]) (by decide), rfl⟩
  | @failed _ _ r code _ hfind hphase hcode _ hop =>
    exact .inr ⟨_, r, fun s => { s with state := .failed, code }, hop, hfind, .failed hphase hcode, rfl⟩

variable {r' r : RotationTargetRecord}

/-- Each record after a call was there before, or is where a move of one record leads. -/
theorem Effect.mem_cases (hs : c.started) (hplan : c.plan.validate codec = none) (hr' : r' ∈ c'.targets) :
    r' ∈ c.targets ∨ ∃ r ∈ c.targets, Moves codec c op r r' := by
  rcases h.writes (.inl hs) with hsame | ⟨_, r, f, _, hfind, hmove, hw⟩
  · exact .inl (hsame ▸ hr')
  · rcases hw.mem_cases hplan hfind hr' with hold | rfl
    · exact .inl hold
    · exact .inr ⟨r, (find_some hfind).1, hmove⟩

theorem Effect.mem_of_mem (hs : c.started) (hplan : c.plan.validate codec = none) (hr : r ∈ c.targets) :
    r ∈ c'.targets ∨ ∃ r' ∈ c'.targets, Moves codec c op r r' := by
  rcases h.writes (.inl hs) with hsame | ⟨_, s, f, _, hfind, hmove, hw⟩
  · exact .inl (hsame ▸ hr)
  · rcases hw.mem_of_mem hplan hfind hr with hold | ⟨rfl, hnew⟩
    · exact .inl hold
    · exact .inr ⟨f r, hnew, hmove⟩

omit h in
theorem Moves.live (h : Moves codec c op r r') : r.state ≠ .revoked ∧ r.state ≠ .failed := by
  cases h with
  | challenged _ _ hphase => rcases hphase with h | h <;> rw [h] <;> decide
  | failed hphase => exact hphase
  | installed _ hphase | readied _ hphase | revoking hphase | revoked hphase => rw [hphase]; decide

/-- **A failure is final**: no call takes it back. -/
theorem Effect.failed_stays (hs : c.started) (hplan : c.plan.validate codec = none)
    (hfail : ∃ r ∈ c.targets, r.state = .failed) :
    ∃ r ∈ c'.targets, r.state = .failed := by
  obtain ⟨r, hr, hst⟩ := hfail
  rcases h.mem_of_mem hs hplan hr with hkept | ⟨r', _, hmove⟩
  · exact ⟨r, hkept, hst⟩
  · exact absurd hst hmove.live.2

end Moves

/-! ## The start of a run -/

theorem new_eq_ok {plan : RotationPlan} (h : newRotationCoordinator codec plan = .ok c) :
    plan.validate codec = none ∧ c.plan = plan ∧ c.started = false ∧ c.finished = {}
      ∧ c.targets = plan.targets.map (fun target => { target }) := by
  unfold newRotationCoordinator at h
  split at h
  · cases h
  · next hval =>
    cases h
    exact ⟨by simpa using hval, rfl, rfl, rfl, rfl⟩

/-- What holds at the start of a run: the plan is valid and every target is pending without records. -/
structure Fresh (codec : RotationCodec) (c : RotationCoordinator) : Prop where
  plan : c.plan.validate codec = none
  started : c.started
  finished : c.finished = {}
  targets : ∀ r ∈ c.targets, r = { target := r.target }

theorem Begun.fresh (h : c.Begun codec) : Fresh codec c := by
  obtain ⟨_, c₀, _, hnew, hstart⟩ := h
  obtain ⟨hval, hplan, hidle, hfin, htargets⟩ := new_eq_ok hnew
  unfold start at hstart
  split at hstart
  · cases hstart
  rw [if_neg (by simp [hidle])] at hstart
  obtain rfl : ({ c₀ with started := true } : RotationCoordinator) = c := congrArg Prod.fst hstart
  refine ⟨hplan ▸ hval, rfl, hfin, fun r hr => ?_⟩
  have hr' : r ∈ c₀.targets := hr
  rw [htargets] at hr'
  obtain ⟨_, _, rfl⟩ := mem_map.mp hr'
  rfl

/-- What a run keeps from its start on. -/
structure Running (codec : RotationCodec) (c : RotationCoordinator) : Prop where
  started : c.started
  plan : c.plan.validate codec = none

theorem Begun.running (h : c.Begun codec) : Running codec c := ⟨h.fresh.started, h.fresh.plan⟩

theorem Running.step {c' : RotationCoordinator} {op : RotationCall} (h : Running codec c)
    (hstep : c.step codec op = some c') : Running codec c' := by
  have heff := effect_of_step hstep
  exact ⟨heff.started_of_started h.started, by rw [heff.plan_eq]; exact h.plan⟩

end RotationCoordinator

end PaperboatTunnel.ConnectorProtocol
