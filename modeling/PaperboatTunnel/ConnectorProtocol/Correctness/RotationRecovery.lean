import PaperboatTunnel.ConnectorProtocol.Rotation.Held

/-!
# `RotationRecovery` — a crash loses nothing

If the store returns exactly the records a coordinator holds, `Resume` on a fresh coordinator of the same plan gives
that coordinator back. `Intact` says that every target is recoverable, and that a finish time stands only beside
targets that are all revoked or of which one has failed.
-/

namespace PaperboatTunnel.ConnectorProtocol

open GoTime TransitionSystem RotationCoordinator RotationTargetRecord List Time Function

/-- The time a call may write into the coordinator. -/
def RotationCall.reading : RotationCall → Option Time
  | .handleAck _ _ clock _ => some clock
  | _ => none

namespace RotationCoordinator

/-! ## The invariant -/

/-- The targets allow a finish time. -/
def Finishable (c : RotationCoordinator) : Prop :=
  (∀ r ∈ c.targets, r.state = .revoked) ∨ ∃ r ∈ c.targets, r.state = .failed

/-- **Nothing the coordinator holds would be refused at recovery.** The finish time is a reading of the
    clock by an earlier call. -/
structure Intact (codec : RotationCodec) (tr : Trace RotationCoordinator RotationCall)
    (c : RotationCoordinator) : Prop where
  running : Running codec c
  recoverable : ∀ r ∈ c.targets, Recoverable codec c.plan r.durable
  finishable : c.finished.isZero = false → c.Finishable
  reading : c.finished = {} ∨ ∃ t ∈ tr, ∃ clock, t.label.reading = some clock ∧ c.finished = clock.utc

variable {codec : RotationCodec} {c c' : RotationCoordinator} {op : RotationCall} {reply : RotationReply}
  {tr : Trace RotationCoordinator RotationCall}

theorem Effect.finished_cases (h : Effect codec c op c' reply) (hs : c.started) : c'.finished = c.finished ∨
      ((c'.Finishable) ∧ ∃ clock, op.reading = some clock ∧ c'.finished = clock.utc) := by
  cases h with
  | resumed hidle => rw [hidle] at hs; cases hs
  | @revoked _ ack clock =>
    by_cases hdone : (c.revoked ack.connectorID).summary.status = .succeeded
    · refine .inr ⟨.inl ?_, clock, rfl, if_pos hdone⟩
      unfold RotationCoordinator.summary at hdone
      dsimp only at hdone
      split at hdone
      · cases hdone
      split at hdone
      · next hall => simpa [allRevoked] using hall
      · cases hdone
    · exact .inl (if_neg hdone)
  | @lost _ ack clock _ r _ _ hfind =>
    by_cases hdone : (c.revoked ack.connectorID).summary.status = .succeeded
    · refine .inr ⟨.inr ?_, clock, rfl, if_pos hdone⟩
      obtain ⟨hr, hid⟩ := find_some hfind
      refine ⟨{ r with state := .failed, code := .credentialRotationFailed }, ?_, rfl⟩
      exact mem_map.mpr ⟨r, hr, if_pos hid⟩
    · exact .inl (if_neg hdone)
  | _ => exact .inl rfl

theorem Finishable.effect (hfin : c.Finishable) (h : Effect codec c op c' reply)
    (hrun : Running codec c) : c'.Finishable := by
  rcases hfin with hall | hfail
  · left
    intro r' hr'
    rcases h.mem_cases hrun.started hrun.plan hr' with hold | ⟨r, hr, hmove⟩
    · exact hall r' hold
    · exact absurd (hall r hr) hmove.live.1
  · exact .inr (h.failed_stays hrun.started hrun.plan hfail)

theorem Intact.step (h : Intact codec tr c) (hstep : c.step codec op = some c') :
    Intact codec (tr ++ [⟨c, op, c'⟩]) c' := by
  have heff := effect_of_step hstep
  have hrecoverable : ∀ r ∈ c'.targets, Recoverable codec c'.plan r.durable := by
    intro r' hr'
    rw [heff.plan_eq]
    rcases heff.mem_cases h.running.started h.running.plan hr' with hold | ⟨r, hr, hmove⟩
    · exact h.recoverable r' hold
    · exact hmove.recoverable (h.recoverable r hr)
  refine ⟨h.running.step hstep, hrecoverable, ?_, ?_⟩
  · intro hfinished
    rcases heff.finished_cases h.running.started with hsame | ⟨hfin, _⟩
    · rw [hsame] at hfinished
      exact (h.finishable hfinished).effect heff h.running
    · exact hfin
  · rcases heff.finished_cases h.running.started with hsame | ⟨_, clock, hread, hfin⟩
    · rw [hsame]
      rcases h.reading with hzero | ⟨t, ht, rest⟩
      · exact .inl hzero
      · exact .inr ⟨t, mem_append_left _ ht, rest⟩
    · exact .inr ⟨⟨c, op, c'⟩, by simp, clock, hread, hfin⟩

theorem Begun.intact (h : c.Begun codec) : Intact codec [] c := by
  have hfresh := h.fresh
  refine ⟨h.running, fun r hr => ?_, fun hfin => ?_, .inl hfresh.finished⟩
  · have htarget := target_mem_plan hr
    obtain ⟨hval, hnodup⟩ := RotationPlan.targets_of_valid hfresh.plan
    rw [hfresh.targets r hr]
    have hnone : ¬ (("" : String) ≠ "") := not_not.mpr rfl
    exact
      { target := hval _ htarget
        planned := (Table.find_iff hnodup).mpr ⟨htarget, rfl⟩
        phase := by simp [durable]
        code := by simp [durable]
        deadlines := rfl
        overlap := fun hzero => by cases hzero
        beforeInstall := hnone.elim
        beforeReady := hnone.elim
        beforeRevoke := hnone.elim
        challenge := hnone.elim
        install := hnone.elim
        ready := hnone.elim
        revoke := hnone.elim
        records := ⟨hnone, hnone, hnone, hnone⟩ }
  · rw [hfresh.finished] at hfin
    cases hfin

/-! ## `Resume` of the records held -/

variable {q : RotationCoordinator}

theorem scanRecovered_eq_none : ∀ {l : List RotationResumeTarget} {seen : List String},
    (∀ r ∈ l, r.target.connectorID ∉ seen ∧ (c.find r.target.connectorID).map (fun s => s.target) = some r.target
      ∧ Recoverable codec c.plan r) →
    (l.map (fun r => r.target.connectorID)).Nodup → scanRecovered codec c seen l = none
  | [], _, _, _ => rfl
  | r :: l, seen, h, hnodup => by
      rw [map_cons, nodup_cons] at hnodup
      obtain ⟨hseen, hfound, hrec⟩ := h r mem_cons_self
      have hphase : validRotationTargetState r.state = true := by
        simpa [validRotationTargetState] using hrec.phase
      unfold scanRecovered
      rw [if_neg (by simpa using hseen), if_neg (by simp [hfound, hphase, hrec.validate])]
      refine scanRecovered_eq_none (fun s hs => ?_) hnodup.2
      obtain ⟨hs₁, hs₂⟩ := h s (mem_cons_of_mem _ hs)
      refine ⟨?_, hs₂⟩
      intro hin
      rcases mem_cons.mp hin with heq | hin
      · exact hnodup.1 (heq ▸ mem_map_of_mem hs)
      · exact hs₁ hin

/-- What the restored record of a connector is: the last one that names it, here the only one. -/
def restoredFrom (l : List RotationResumeTarget) (s : RotationTargetRecord) : RotationTargetRecord :=
  match l.find? (fun r => r.target.connectorID == s.target.connectorID) with
  | some r => s.restored r
  | none => s

/-- **Restoring a list of targets** writes each of them once. -/
theorem foldl_restore_targets : ∀ {l : List RotationResumeTarget} {c : RotationCoordinator},
    (l.map (fun r => r.target.connectorID)).Nodup → (l.foldl restore c).targets = c.targets.map (restoredFrom l)
  | [], c, _ => by
      have hid : restoredFrom [] = id := rfl
      rw [hid, map_id]
      rfl
  | r :: l, c, hnodup => by
      rw [map_cons, nodup_cons] at hnodup
      rw [foldl_cons, foldl_restore_targets hnodup.2]
      show map _ (map _ c.targets) = _
      rw [map_map]
      refine map_congr_left (fun s _ => ?_)
      by_cases hid : s.target.connectorID = r.target.connectorID
      · -- no later target names the connector again
        have hlater : l.find? (fun r' => r'.target.connectorID == s.target.connectorID) = none := by
          rw [find?_eq_none]
          intro r' hr' heq
          rw [beq_iff_eq, hid] at heq
          exact hnodup.1 (heq ▸ mem_map_of_mem hr')
        have hhead : restoredFrom (r :: l) s = s.restored r := by simp [restoredFrom, hid]
        have htail : restoredFrom l (s.restored r) = s.restored r := by
          unfold restoredFrom
          rw [show (s.restored r).target = s.target from rfl, hlater]
        rw [hhead, comp_apply, if_pos hid, htail]
      · have hne : ¬ r.target.connectorID = s.target.connectorID := fun h => hid h.symm
        simp [restoredFrom, hid, hne]

/-- The store answers with exactly the records of the coordinator `q`, its targets in any order. -/
structure StoreHolds (q : RotationCoordinator) (loaded : RotationResume) : Prop where
  plan : loaded.plan = q.plan
  started : loaded.started
  finishedAt : loaded.finishedAt = q.finished
  targets : loaded.targets.Perm (q.targets.map durable)

variable (hplan : q.plan.validate codec = none)

include hplan

variable {loaded : RotationResume}

theorem StoreHolds.connectors_nodup (h : StoreHolds q loaded) :
    (loaded.targets.map (fun r => r.target.connectorID)).Nodup := by
  have hperm := h.targets.map (fun r => r.target.connectorID)
  rw [map_map] at hperm
  exact hperm.nodup_iff.mpr (RotationCoordinator.connectors_nodup hplan)

theorem StoreHolds.find {r : RotationTargetRecord} (h : StoreHolds q loaded) (hr : r ∈ q.targets) :
    loaded.targets.find? (fun s => s.target.connectorID == r.target.connectorID) = some r.durable :=
  (Table.find_iff (h.connectors_nodup hplan)).mpr ⟨h.targets.mem_iff.mpr (mem_map_of_mem hr), rfl⟩

/-- Restoring the rows of the store into a fresh coordinator gives the records back. -/
theorem StoreHolds.restored (h : StoreHolds q loaded)
    (hfresh : c.targets = q.plan.targets.map (fun target => { target })) :
    (loaded.targets.foldl restore c).targets = q.targets := by
  rw [foldl_restore_targets (h.connectors_nodup hplan), hfresh, ← q.planned, map_map, map_map]
  conv_rhs => rw [← map_id q.targets]
  refine map_congr_left (fun r hr => ?_)
  simp only [comp_apply, restoredFrom, h.find hplan hr]
  rfl

omit hplan

theorem Intact.recoveredFinish {tr : Trace RotationCoordinator RotationCall} {clock : Time}
    (h : Intact codec tr q) (hstore : StoreHolds q loaded)
    (hclock : ∀ t ∈ tr, ∀ now, t.label.reading = some now → now.nanos ≤ clock.nanos) :
    recoveredFinish loaded clock = .ok q.finished := by
  unfold RotationCoordinator.recoveredFinish
  rw [hstore.finishedAt]
  by_cases hzero : q.finished.isZero = true
  · rw [if_pos hzero]
    rcases h.reading with hfin | ⟨t, _, now, _, hfin⟩
    · rw [hfin]
    -- a reading of the clock that is zero is the zero time
    rw [hfin, isZero_iff] at hzero
    have hnanos : now.nanos = 0 := hzero
    rw [hfin, utc, hnanos]
  · have hstates : ¬ (¬ loaded.targets.any (fun r => r.state == .failed) = true
        ∧ ¬ loaded.targets.all (fun r => r.state == .revoked) = true) := by
      rintro ⟨hfail, hrevoked⟩
      rcases h.finishable (Bool.eq_false_of_not_eq_true hzero) with hall | ⟨r, hr, hst⟩
      · refine hrevoked (all_eq_true.mpr (fun s hs => ?_))
        obtain ⟨r, hr, rfl⟩ := mem_map.mp (hstore.targets.mem_iff.mp hs)
        simpa [durable] using hall r hr
      · refine hfail (any_eq_true.mpr ⟨r.durable, ?_, ?_⟩)
        · exact hstore.targets.mem_iff.mpr (mem_map_of_mem hr)
        · simpa [durable] using hst
    have hpast : ¬ q.finished.after (clock.utc.add maxClockSkew) = true := by
      rw [after_iff]
      rcases h.reading with hfin | ⟨t, ht, now, hread, hfin⟩
      · rw [hfin] at hzero
        exact absurd rfl hzero
      have hle := hclock t ht now hread
      have hskew : (0 : Int) < maxClockSkew := by decide
      rw [hfin]
      simp only [utc, add]
      omega
    rw [if_neg hzero, if_neg hstates, if_neg hpast]

end RotationCoordinator

/-- **Crash recovery is complete.** At every point `q` of every run of a started rotation: if the store
    returns exactly the records held there and no time the run has written lies in the future, then `Resume`
    on a fresh coordinator of the same plan succeeds and gives back `q`, with the phase, the code and all
    records of every target. -/
theorem rotation_recovery_complete {codec : RotationCodec} {c q : RotationCoordinator}
    {tr : Trace RotationCoordinator RotationCall} {loaded : RotationResume} {ctx : Context}
    {clock : Time} (hbegun : c.Begun codec) (hrun : Run (step codec) c tr q) (hstore : StoreHolds q loaded)
    (hctx : ctx.err = none)
    (hclock : ∀ t ∈ tr, ∀ now, t.label.reading = some now → now.nanos ≤ clock.nanos) :
    ∃ fresh, newRotationCoordinator codec q.plan = .ok fresh ∧
      fresh.resume codec (some ctx) (some (.ok loaded)) clock = (q, none) := by
  have hintact : Intact codec tr q := hrun.trace_invariant hbegun.intact (·.step ·)
  have hplan := hintact.running.plan
  let fresh : RotationCoordinator :=
    { plan := q.plan, targets := q.plan.targets.map (fun target => { target }),
      planned := by simp [comp_def] }
  have hnew : newRotationCoordinator codec q.plan = .ok fresh := by
    simp [newRotationCoordinator, hplan, fresh]
  have hlen : loaded.targets.length = fresh.targets.length := by
    have hq := congrArg length q.planned
    rw [hstore.targets.length_eq]
    simpa [fresh] using hq
  have hscan : scanRecovered codec fresh [] loaded.targets = none := by
    refine scanRecovered_eq_none (fun r hr => ?_) (hstore.connectors_nodup hplan)
    obtain ⟨s, hs, rfl⟩ := mem_map.mp (hstore.targets.mem_iff.mp hr)
    have hmem : ({ target := s.target } : RotationTargetRecord) ∈ fresh.targets :=
      mem_map.mpr ⟨s.target, target_mem_plan hs, rfl⟩
    have hfound := find_of_mem (c := fresh) hplan hmem
    exact ⟨not_mem_nil, by rw [show s.durable.target = s.target from rfl, hfound]; rfl, hintact.recoverable s hs⟩
  have hfinish := hintact.recoveredFinish hstore hclock
  have hmatch : ¬ resumePlanMismatch codec fresh.plan loaded := by
    simp [resumePlanMismatch, hstore.plan, hstore.started, hplan, fresh]
  refine ⟨fresh, hnew, ?_⟩
  have hdone : doneContext (some ctx) = none := by simp [doneContext, hctx]
  unfold resume
  simp only [hdone]
  rw [if_neg hmatch, if_neg (by simp [fresh]), if_neg (not_not.mpr hlen)]
  simp only [hscan, hfinish]
  refine Prod.ext (RotationCoordinator.ext ?_ ?_ rfl ?_) rfl
  · exact foldl_restore_plan _ fresh
  · exact hintact.running.started.symm
  · exact hstore.restored hplan rfl

open RotationSample

/-- A crash in the middle of the sample: one target is revoked, the other waits for its acknowledgement.
    The store returns the rows in the opposite order. -/
theorem rotation_recovery_complete_sample :
    let q := after (bringUp "a" ++ bringUp "b" ++ [revokeCall "a", revokeCall "b", ackCall "a"])
    let loaded : RotationResume :=
      { plan := RotationSample.plan, started := true, finishedAt := q.finished,
        targets := (q.targets.map durable).reverse }
    q.targets.map (fun r => r.state) = [.revoked, .revoking] ∧
      ∃ fresh, newRotationCoordinator codec RotationSample.plan = .ok fresh ∧
        fresh.resume codec (some {}) (some (.ok loaded)) (minute 3) = (q, none) := by
  intro q loaded
  have hrun : Run (step codec) begun _ q := exec_getD_run (by decide +kernel)
  have hplan : q.plan = RotationSample.plan := by decide +kernel
  have hstore : StoreHolds q loaded := ⟨hplan.symm, rfl, rfl, reverse_perm _⟩
  refine ⟨by decide +kernel, ?_⟩
  rw [← hplan]
  refine rotation_recovery_complete begun_begun hrun hstore rfl (fun t ht now hread => ?_)
  -- only the acknowledgement writes a time, and it reads minute 2
  have hread_le : ∀ l ∈ bringUp "a" ++ bringUp "b" ++ [revokeCall "a", revokeCall "b", ackCall "a"],
      ∀ now ∈ l.reading, now.nanos ≤ (minute 3).nanos := by decide +kernel
  exact hread_le t.label (label_mem_of_mem_trace ht) now hread

end PaperboatTunnel.ConnectorProtocol
