import PaperboatTunnel.ConnectorProtocol.Correctness.ClientSlots
import PaperboatTunnel.ConnectorProtocol.JointMachine

/-!
# `LastKnownGood` — a failed call leaves the active configuration alone

Only the end of a `MarkReadyContext` that succeeds replaces the active snapshot of a client session, so a failed call
leaves it alone, whatever happens while it is out (`sameActive_of_call`). `Newer` is the invariant under which a
promotion moves forward: what is staged or out is newer than what is active.
-/

namespace PaperboatTunnel.ConnectorProtocol

open GoTime ClientSession TransitionSystem ClientPoint

/-- A delta never starts from the largest generation. -/
def ClientCall.BelowMax : ClientCall → Prop
  | .applyDelta _ delta _ => delta.previousGeneration < maxGeneration
  | _ => True

instance ClientCall.decidableBelowMax (op : ClientCall) : Decidable op.BelowMax := by
  unfold ClientCall.BelowMax
  split <;> infer_instance

/-- The section starts `ApplySnapshot`, `ApplyDelta` or `MarkReadyContext`. -/
def ClientCall.startsConfig : ClientCall → Bool
  | .applySnapshot .. | .applyDelta .. | .markReady .. => true
  | _ => false

/-- The section ends one of them after its external call. -/
def ClientCall.endsConfig : ClientCall → Bool
  | .applyFinish .. | .readyFinish .. => true
  | _ => false

/-- One of them returns an error. -/
def ClientReply.Errs : ClientReply → Prop
  | .ack _ (some _) | .readiness _ (some _) => True
  | _ => False

namespace ClientSession

def SameActive (c c' : ClientSession) : Prop := c'.active = c.active ∧ c'.hasActive = c.hasActive

theorem SameActive.trans {c c' c'' : ClientSession} (h : SameActive c c') (h' : SameActive c' c'') :
    SameActive c c'' :=
  ⟨h'.1.trans h.1, h'.2.trans h.2⟩

end ClientSession

namespace ClientPoint

variable {codec : PayloadCodec} {p q : ClientPoint} {op : ClientCall}

/-- **Only a promotion writes the active snapshot.** -/
theorem sameActive_or_promoted (h : p.step codec op = some q) :
    SameActive p.session q.session ∨ ∃ r, p.returned codec op = .readiness r none := by
  cases step_slots h with
  | framed hslots => exact .inl ⟨hslots.active, hslots.hasActive⟩
  | snapshotTaken _ _ hs | deltaTaken _ _ hs | gapFound _ _ hs | staged _ _ hs | activating _ _ _ hs
  | dropped _ hs | closed _ hs => rw [hs]; exact .inl ⟨rfl, rfl⟩
  | promoted _ _ _ hret => exact .inr ⟨_, hret⟩

theorem sameActive_of_errs (h : p.step codec op = some q) (herr : (p.returned codec op).Errs) :
    SameActive p.session q.session := by
  rcases sameActive_or_promoted h with hsame | ⟨r, hr⟩
  · exact hsame
  · rw [hr] at herr; cases herr

theorem sameActive_of_not_ends (h : p.step codec op = some q) (hop : ¬ op.endsConfig) :
    SameActive p.session q.session := by
  rcases sameActive_or_promoted h with hsame | ⟨r, hr⟩
  · exact hsame
  · obtain ⟨_, _, _, _, rfl, _, _⟩ := promoted_of_returned h hr
    exact absurd rfl hop

/-- **A failed call leaves the active snapshot as it was when the call started.** -/
theorem sameActive_of_call {t u : Transition ClientPoint ClientCall}
    {mid : Trace ClientPoint ClientCall} (ht : t.pre.step codec t.label = some t.post)
    (hmid : Run (step codec) t.post mid u.pre) (hu : u.pre.step codec u.label = some u.post)
    (hstarts : t.label.startsConfig) (hout : ∀ v ∈ mid, ¬ v.label.endsConfig)
    (herr : (u.pre.returned codec u.label).Errs) : SameActive t.pre.session u.post.session := by
  have hfirst : SameActive t.pre.session t.post.session := by
    refine sameActive_of_not_ends ht (fun hends => ?_)
    revert hstarts hends
    cases t.label <;> simp [ClientCall.startsConfig, ClientCall.endsConfig]
  have hwait : SameActive t.pre.session u.pre.session :=
    hmid.invariant_of (I := fun v => SameActive t.pre.session v.session) (C := fun _ op => ¬ op.endsConfig)
      (fun hop hv hs => hv.trans (sameActive_of_not_ends hs hop)) hout hfirst
  exact hwait.trans (sameActive_of_errs hu herr)

/-! ## Promotions move forward -/

/-- **What is staged or out is newer than what is active.** -/
structure Newer (p : ClientPoint) : Prop where
  coherent : p.Coherent
  staged : p.session.hasActive → p.session.hasCandidate → p.session.active.generation < p.session.candidate.generation
  out : ∀ call, p.busy = some (.applying call) → p.session.hasActive → p.session.active.generation < call.generation

theorem Newer.of_cleared (hq : q.Coherent) (hcand : q.session.hasCandidate = false)
    (hbusy : q.busy = none) : q.Newer := by
  refine ⟨hq, fun _ h => ?_, fun call h => ?_⟩
  · rw [hcand] at h; cases h
  · rw [hbusy] at h; cases h

/-- A snapshot that may go out is newer than the active one, directly or through the candidate. -/
theorem Newer.lt_snapshot (h : p.Newer) {s : Snapshot} (hcan : p.session.CanApply (.snapshot s))
    (hact : p.session.hasActive) : p.session.active.generation < s.generation := by
  obtain ⟨hcandidate, hfresh⟩ := hcan
  by_cases hcand : p.session.hasCandidate = true
  · have h₁ := h.staged hact hcand
    have h₂ := hcandidate hcand
    exact UInt64.lt_trans h₁ h₂
  · exact hfresh hcand hact

/-- **Every step below the largest generation keeps the order.** -/
theorem Newer.step (h : p.Newer) (hmax : op.BelowMax) (hstep : p.step codec op = some q) : q.Newer := by
  have hq : q.Coherent := h.coherent.step hstep
  cases step_slots hstep with
  | framed hslots hbusy =>
    refine ⟨hq, ?_, fun call hc => ?_⟩
    · rw [hslots.hasActive, hslots.hasCandidate, hslots.active, hslots.candidate]
      exact h.staged
    rw [hslots.hasActive, hslots.active]
    rcases hbusy with hb | hb
    · rw [hb] at hc; cases hc
    · exact h.out call (hb ▸ hc)
  | snapshotTaken _ hcan hs hbusy =>
    refine ⟨hq, by rw [hs]; exact h.staged, fun call hc hact => ?_⟩
    rw [hbusy] at hc; cases hc
    rw [hs] at hact ⊢
    exact h.lt_snapshot hcan hact
  | @deltaTaken _ delta _ _ hcan hs hbusy =>
    refine ⟨hq, by rw [hs]; exact h.staged, fun call hc _ => ?_⟩
    rw [hbusy] at hc; cases hc
    obtain ⟨_, _, _, hprev, hnext⟩ := hcan
    have hlt : delta.previousGeneration < maxGeneration := hmax
    rw [hs]
    show p.session.active.generation < delta.generation
    rw [hnext]
    -- `+ 1` does not wrap around below the largest generation
    exact lt_succ_of_lt_max (hprev ▸ hlt)
  | gapFound _ hcand hs hbusy => exact Newer.of_cleared hq (by rw [hs]; simpa using hcand) hbusy
  | @staged call _ _ _ hheld _ hs hbusy =>
    refine ⟨hq, fun hact _ => ?_, fun call' hc => ?_⟩
    · rw [hs] at hact ⊢
      -- `active` has not moved while the call was out
      show p.session.active.generation < (call.candidate p.session).generation
      rw [show (call.candidate p.session).generation = call.generation by cases call <;> rfl]
      exact h.out call hheld hact
    · rw [hbusy] at hc; cases hc
  | activating _ _ _ hs hbusy =>
    refine ⟨hq, by rw [hs]; exact h.staged, fun call hc => ?_⟩
    rw [hbusy] at hc; cases hc
  | dropped _ hs hbusy | promoted _ hs hbusy | closed _ hs hbusy => exact Newer.of_cleared hq (by rw [hs]; rfl) hbusy

theorem Start.newer (h : p.Start) : p.Newer := by
  have hq := h.coherent
  obtain ⟨_, _, rfl⟩ := h.fresh
  exact Newer.of_cleared hq rfl rfl

theorem Newer.promotion (h : p.Newer) {r : Readiness} (hstep : p.step codec op = some q)
    (hret : p.returned codec op = .readiness r none) :
    q.session.hasActive ∧ q.session.active = p.session.candidate
      ∧ (p.session.hasActive → p.session.active.generation < q.session.active.generation) := by
  obtain ⟨hs, call, _, _, _, hheld, _⟩ := promoted_of_returned hstep hret
  have hstaged : p.session.hasCandidate := (h.coherent.activating call hheld).staged
  rw [hs]
  exact ⟨rfl, rfl, fun hact => h.staged hact hstaged⟩

end ClientPoint

/-- **Last known good.** In every run of a new client session, whatever the applier does: only a promotion
    writes the active snapshot; a call that returns an error leaves it exactly as it was, whether it returns
    at once or after its external call; and a promotion replaces it by a newer one. -/
theorem last_known_good {codec : PayloadCodec} {p q : ClientPoint}
    {tr : Trace ClientPoint ClientCall} (hstart : p.Start)
    (hrun : Run (step codec) p tr q) (hmax : ∀ t ∈ tr, t.label.BelowMax) :
    (∀ t ∈ tr, SameActive t.pre.session t.post.session ∨ ∃ r, t.pre.returned codec t.label = .readiness r none) ∧
    (∀ t ∈ tr, (t.pre.returned codec t.label).Errs → SameActive t.pre.session t.post.session) ∧
    (∀ tr₁ t mid u tr₂, tr = tr₁ ++ t :: (mid ++ u :: tr₂) → t.label.startsConfig →
      (∀ v ∈ mid, ¬ v.label.endsConfig) → (u.pre.returned codec u.label).Errs →
      SameActive t.pre.session u.post.session) ∧
    (∀ t ∈ tr, ∀ r, t.pre.returned codec t.label = .readiness r none →
      t.post.session.hasActive ∧ t.post.session.active = t.pre.session.candidate ∧
      (t.pre.session.hasActive → t.pre.session.active.generation < t.post.session.active.generation)) := by
  refine ⟨fun t ht => ?_, fun t ht herr => ?_, ?_, fun t ht r hret => ?_⟩
  · exact sameActive_or_promoted (hrun.mem_step ht)
  · exact sameActive_of_errs (hrun.mem_step ht) herr
  · rintro tr₁ t mid u tr₂ rfl hstarts hout herr
    obtain ⟨_, ht, hrest⟩ := hrun.through
    obtain ⟨hmid, hu, _⟩ := hrest.through
    exact sameActive_of_call ht hmid hu hstarts hout herr
  · obtain ⟨hnewer, _⟩ := hrun.forall_mem_on (C := fun u => u.label.BelowMax)
      (fun hop hu hs => hu.step hop hs) hmax hstart.newer t ht
    exact hnewer.promotion (hrun.mem_step ht) hret

/-! ## A rollout with a failed activation -/

open Sample

/-- Configuration 2 is staged and fails to activate, then configuration 3 is rolled out. -/
def Sample.rollout : List ClientCall := bootstrap config1 ++ stages config2 1 ++
    [.markReady (some {}) true true true now,
      .readyFinish ⟨readiness config2, 1, config2.bound⟩ { err := some (.text "activate failed") } now] ++
    stages config3 2 ++ promotes config3 2

/-- Every generation that was active in this rollout is replaced by a larger one. -/
theorem last_known_good_rollout :
    let p : ClientPoint := { session := client }
    let q := clientAfter p rollout
    q.session.active = config3.bound ∧ ∀ t ∈ trace (step sampleCodec) p rollout, ∀ r,
        t.pre.returned sampleCodec t.label = .readiness r none → t.pre.session.hasActive →
        t.pre.session.active.generation < t.post.session.active.generation := by
  intro p q
  have hrun : Run (step sampleCodec) p _ q := exec_getD_run (by decide +kernel)
  refine ⟨by decide +kernel, fun t ht r hret => ?_⟩
  obtain ⟨_, _, _, hpromotion⟩ := last_known_good client_start hrun (by decide +kernel)
  exact (hpromotion t ht r hret).2.2

end PaperboatTunnel.ConnectorProtocol
