import PaperboatTunnel.ConnectorProtocol.Correctness.ClientSlots
import PaperboatTunnel.ConnectorProtocol.JointMachine

/-!
# `GapRecovery` — after a gap only a full snapshot helps

`ApplyDelta` answers `snapshot_required` without a usable active configuration, for a delta that does not continue it,
and while a candidate is pending. In the first two cases only a staged snapshot leads out of the gap
(`gap_needs_snapshot`). The third answer leaves no mark on the session (`gap_forgotten`).
-/

namespace PaperboatTunnel.ConnectorProtocol

open GoTime ClientSession TransitionSystem ClientPoint List

/-- The section ends an apply call, and the configuration has been applied. -/
def Applies (codec : PayloadCodec) (t : Transition ClientPoint ClientCall) (call : ApplyCall) : Prop :=
  ∃ o clock ack, t.label = .applyFinish call o clock ∧ t.pre.returned codec t.label = .ack ack none
    ∧ ack.status = .applied

theorem Applies.intro {codec : PayloadCodec} {p q : ClientPoint} {call : ApplyCall} {o : PrepareOutcome}
    {clock : Time} {ack : Ack} (hret : p.returned codec (.applyFinish call o clock) = .ack ack none)
    (hstatus : ack.status = .applied) : Applies codec ⟨p, .applyFinish call o clock, q⟩ call :=
  ⟨o, clock, ack, rfl, hret, hstatus⟩

/-- The section is an `ApplyDelta` that answers `snapshot_required`. -/
def AsksSnapshot (codec : PayloadCodec) (t : Transition ClientPoint ClientCall) : Prop :=
  ∃ ctx delta clock ack err, t.label = .applyDelta ctx delta clock
    ∧ t.pre.returned codec t.label = .ack ack err ∧ ack.status = .snapshotRequired

namespace ClientPoint

/-- Only a full snapshot can be staged: there is no candidate, nothing to apply a delta to, and no delta or
    activation under way. -/
structure NeedsFull (p : ClientPoint) : Prop where
  noCandidate : ¬ p.session.hasCandidate
  gap : ¬ p.session.hasActive ∨ p.session.needsSnapshot
  out : ∀ b, p.busy = some b → ∃ s, b = .applying (.snapshot s)

variable {codec : PayloadCodec} {p q : ClientPoint} {op : ClientCall}

theorem NeedsFull.no_delta {delta : Delta} (h : p.NeedsFull) : ¬ p.session.CanApply (.delta delta) := by
  rintro ⟨hact, hneeds, _⟩
  rcases h.gap with hno | hyes
  · exact hno hact
  · exact hneeds hyes

theorem NeedsFull.of_free (hcand : ¬ q.session.hasCandidate)
    (hgap : ¬ q.session.hasActive ∨ q.session.needsSnapshot) (hbusy : q.busy = none) : q.NeedsFull := by
  refine ⟨hcand, hgap, fun b hb => ?_⟩
  rw [hbusy] at hb; cases hb

/-- **Only an applied snapshot leads out of the gap.** -/
theorem NeedsFull.step (h : p.NeedsFull) (hstep : p.step codec op = some q) :
    q.NeedsFull ∨ ∃ s, Applies codec ⟨p, op, q⟩ (.snapshot s) := by
  cases step_slots hstep with
  | framed hslots hbusy =>
    refine .inl ⟨?_, ?_, fun b hb => ?_⟩
    · rw [hslots.hasCandidate]; exact h.noCandidate
    · rw [hslots.hasActive, hslots.needsSnapshot]; exact h.gap
    · rcases hbusy with hnone | hsame
      · rw [hnone] at hb; cases hb
      · exact h.out b (hsame ▸ hb)
  | snapshotTaken _ _ hs hbusy =>
    refine .inl ⟨by rw [hs]; exact h.noCandidate, by rw [hs]; exact h.gap, fun b hb => ?_⟩
    rw [hbusy] at hb; cases hb
    exact ⟨_, rfl⟩
  | deltaTaken _ hcan => exact absurd hcan h.no_delta
  | gapFound _ hcand hs hbusy =>
    exact .inl (NeedsFull.of_free (by rw [hs]; exact hcand) (by rw [hs]; exact .inr rfl) hbusy)
  | staged hheld _ _ _ hret =>
    -- what is out can only be a snapshot, so it is a snapshot that has been applied
    obtain ⟨s, hcall⟩ := h.out _ hheld
    obtain ⟨_, hack, hstatus⟩ := hret
    cases hcall
    exact .inr ⟨s, Applies.intro hack hstatus⟩
  | activating _ hcand => exact absurd hcand h.noCandidate
  | dropped hheld | promoted hheld => obtain ⟨_, hcall⟩ := h.out _ hheld; cases hcall
  | closed _ hs hbusy =>
    exact .inl (NeedsFull.of_free (by rw [hs]; simp [closeLocked]) (by rw [hs]; exact h.gap) hbusy)

/-- The answer leaves the session in the gap, unless a candidate was pending. -/
theorem needsFull_of_asks {t : Transition ClientPoint ClientCall}
    (hstep : t.pre.step codec t.label = some t.post) (hasks : AsksSnapshot codec t)
    (hcand : ¬ t.pre.session.hasCandidate) : t.post.NeedsFull := by
  obtain ⟨ctx, delta, clock, ack, err, hlabel, hret, hstatus⟩ := hasks
  obtain ⟨heff, henabled, hbusy⟩ := step_effect hstep
  rw [hret] at heff hbusy
  rw [hlabel] at heff henabled hbusy
  have hfree : t.post.busy = none := hbusy.trans (eq_of_beq henabled)
  generalize hs : t.post.session = session at heff
  generalize t.pre.settled codec (.applyDelta ctx delta clock) = settled at heff
  cases heff with
  | refused href | expired _ _ _ href =>
    -- an error without an acknowledgement has no status
    cases err with
    | none => cases href
    | some => obtain rfl : ack = {} := href; cases hstatus
  | kept hq =>
    cases err with
    | none =>
      have hdup : ack.status = .duplicate := hq
      rw [hdup] at hstatus; cases hstatus
    | some => cases hq
  | gapKept _ hgap =>
    refine NeedsFull.of_free (by rw [hs]; exact hcand) ?_ hfree
    rw [hs]
    rcases hgap with hno | hneeds | hpend
    · exact .inl hno
    · exact .inr hneeds
    · exact absurd hpend hcand
  | gapFound => exact NeedsFull.of_free (by rw [hs]; exact hcand) (by rw [hs]; exact .inr rfl) hfree

end ClientPoint

/-- **Gap recovery needs a full snapshot.** After an `ApplyDelta` that answered `snapshot_required` on a
    session without a pending candidate, no delta is applied as long as no snapshot is. -/
theorem gap_needs_snapshot {codec : PayloadCodec} {t : Transition ClientPoint ClientCall} {q : ClientPoint}
    {tr : Trace ClientPoint ClientCall} (ht : t.pre.step codec t.label = some t.post)
    (hasks : AsksSnapshot codec t) (hcand : ¬ t.pre.session.hasCandidate)
    (hrun : Run (step codec) t.post tr q) (hnone : ∀ u ∈ tr, ∀ s, ¬ Applies codec u (.snapshot s)) :
    ∀ u ∈ tr, ∀ d, ¬ Applies codec u (.delta d) := by
  intro u hu d
  have hgap : u.pre.NeedsFull := by
    refine (hrun.forall_mem_on (I := NeedsFull)
      (C := fun v => ∀ s, ¬ Applies codec v (.snapshot s)) (fun {v op v'} hno hv hs => ?_) hnone
      (needsFull_of_asks ht hasks hcand) u hu).1
    rcases hv.step hs with hfull | ⟨s, happlies⟩
    · exact hfull
    · exact absurd happlies (hno s)
  -- so no delta is under way that could be applied
  rintro ⟨o, clock, ack, hlabel, _⟩
  obtain ⟨_, henabled, _⟩ := step_effect (hrun.mem_step hu)
  rw [hlabel] at henabled
  obtain ⟨_, hcall⟩ := hgap.out _ (eq_of_beq henabled)
  cases hcall

/-! ## A gap that is kept and a gap that is forgotten -/

open Sample

def Sample.gapAck (c : Config) : Ack := { snapshotAck c with kind := .delta, status := .snapshotRequired }

/-- A delta from 2 to 3 reaches the session. -/
def Sample.gap (p : ClientPoint) : Transition ClientPoint ClientCall :=
  ⟨p, .applyDelta (some {}) (deltaTo config2 config3) now,
    clientAfter p [.applyDelta (some {}) (deltaTo config2 config3) now]⟩

theorem Sample.gap_run {p₀ p : ClientPoint} {tr : Trace ClientPoint ClientCall} (h : Run (step sampleCodec) p₀ tr p) :
    Run (step sampleCodec) p₀ tr (gap p).pre := h

theorem Sample.gap_asks {p : ClientPoint} (code : Code)
    (h : (p.returned sampleCodec (gap p).label == .ack (gapAck config3)
      (some (codeError code .generationGap true none))) = true) :
    AsksSnapshot sampleCodec (gap p) :=
  ⟨_, _, _, _, _, rfl, eq_of_beq h, rfl⟩

/-- After the gap, a delta that continues configuration 1 is not applied either. -/
theorem gap_needs_snapshot_kept :
    let p := clientAfter { session := client } (bootstrap config1)
    let ops : List ClientCall := [.applyDelta (some {}) (deltaTo config1 config2) now]
    (clientAfter (gap p).post ops).session.needsSnapshot = true ∧
      ∀ u ∈ trace (step sampleCodec) (gap p).post ops, ∀ d, ¬ Applies sampleCodec u (.delta d) := by
  intro p ops
  have hrun : Run (step sampleCodec) (gap p).post _ (clientAfter (gap p).post ops) :=
    exec_getD_run (by decide +kernel)
  refine ⟨by decide +kernel, gap_needs_snapshot (t := gap p) (by decide +kernel)
    (gap_asks .generationGap (by decide +kernel)) (by decide +kernel) hrun (fun u hu s => ?_)⟩
  rintro ⟨o, clock, ack, hlabel, _⟩
  have hl := mem_singleton.mp (label_mem_of_mem_trace hu)
  rw [hlabel] at hl
  cases hl

/-- **A gap is forgotten.** A delta from 2 to 3 is answered `snapshot_required` while configuration 2 is
    pending; configuration 2 is promoted, and then the same delta is applied. -/
theorem gap_forgotten : ∃ (p₀ q : ClientPoint) (t u : Transition ClientPoint ClientCall)
      (tr₁ tr₂ : Trace ClientPoint ClientCall), p₀.Start ∧
      Run (step sampleCodec) p₀ tr₁ t.pre ∧ t.pre.step sampleCodec t.label = some t.post ∧
      AsksSnapshot sampleCodec t ∧ Run (step sampleCodec) t.post tr₂ q ∧
      (∀ v ∈ tr₂, ∀ s, ¬ Applies sampleCodec v (.snapshot s)) ∧
      u ∈ tr₂ ∧ ∃ d, Applies sampleCodec u (.delta d) := by
  let p := clientAfter { session := client } (bootstrap config1 ++ stages config2 1)
  let ops := promotes config2 1 ++ [.applyDelta (some {}) (deltaTo config2 config3) now]
  let finish : ClientCall := .applyFinish (.delta (deltaTo config2 config3)) { prepared := some 2 } now
  let m := clientAfter (gap p).post ops
  let q := clientAfter m [finish]
  have hp : Run (step sampleCodec) { session := client } _ p := exec_getD_run (by decide +kernel)
  have hm : Run (step sampleCodec) (gap p).post _ m := exec_getD_run (by decide +kernel)
  have hq : m.step sampleCodec finish = some q := by decide +kernel
  have hret : m.returned sampleCodec finish = .ack { snapshotAck config3 with kind := .delta } none := by
    decide +kernel
  have happlied : Applies sampleCodec ⟨m, finish, q⟩ (.delta (deltaTo config2 config3)) := Applies.intro hret rfl
  refine ⟨_, q, gap p, ⟨m, finish, q⟩, _, _, client_start, gap_run hp, by decide +kernel,
    gap_asks .snapshotRequired (by decide +kernel), Run.tail hm hq, fun v hv s => ?_,
    mem_append_right _ (by simp), deltaTo config2 config3, happlied⟩
  rintro ⟨o, clock, ack, hlabel, _⟩
  rcases mem_append.mp hv with hin | hlast
  · have hl : v.label ∈ ops := label_mem_of_mem_trace hin
    rw [hlabel] at hl
    simp [ops, promotes] at hl
  · rw [mem_singleton.mp hlast] at hlabel
    cases hlabel

end PaperboatTunnel.ConnectorProtocol
