import PaperboatTunnel.ConnectorProtocol.ServerStep

/-!
# `ServerGenerations` — the active generation of a server session

A configuration is offered, then staged (`candidate`), then `active`. `OfferSnapshot` compares a new snapshot with all
of these, but `HandleAck` stages an acknowledged snapshot without looking at `active` again, although
`HandleReadiness` may have promoted a newer candidate since the offer (`active_generation_regresses`).

This is the only way back (`active_generation_monotone`). `Ordered` is the invariant: a staged generation is above the
active one, and an offered snapshot is neither of them.
-/

namespace PaperboatTunnel.ConnectorProtocol

open GoTime Fencing TransitionSystem ServerPoint List Option

/-- A delta never starts from the largest generation. -/
def ServerCall.BelowMax : ServerCall → Prop
  | .offerDelta _ delta _ => delta.previousGeneration < maxGeneration
  | _ => True

instance (op : ServerCall) : Decidable op.BelowMax := by
  cases op
  case offerDelta ctx delta clock => exact inferInstanceAs (Decidable (_ < _))
  all_goals exact inferInstanceAs (Decidable True)

/-- The call acknowledges, positively, an offered snapshot that is older than the active configuration. -/
def ServerCall.StagesStale (s : ServerSession) : ServerCall → Prop
  | .handleAck _ ack _ =>
    ∃ p ∈ s.pendingSnapshot, ack.kind = .snapshot ∧ ack.generation = p.generation
      ∧ ack.contentHash = p.contentHash ∧ ¬ ack.status.Negative
      ∧ s.hasActive ∧ p.generation < s.active.generation
  | _ => False

instance (s : ServerSession) (op : ServerCall) : Decidable (op.StagesStale s) := by
  cases op
  case handleAck ctx ack clock => exact inferInstanceAs (Decidable (∃ p ∈ s.pendingSnapshot, _ ∧ _))
  all_goals exact inferInstanceAs (Decidable False)

namespace ServerSession

/-- **The slots are ordered.** -/
structure Ordered (s : ServerSession) : Prop where
  candidate : s.hasCandidate → s.hasActive → s.active.generation < s.candidate.generation
  pendingActive : ∀ p, s.pendingSnapshot = some p → s.hasActive → p.generation ≠ s.active.generation
  pendingCandidate : ∀ p, s.pendingSnapshot = some p → s.hasCandidate → p.generation ≠ s.candidate.generation
  delta : ∀ d, s.pendingDelta = some d → d.previousGeneration < d.generation

/-- From `s` to `s'` the active configuration is the same or of a later generation. -/
def Advances (s s' : ServerSession) : Prop :=
  s.hasActive → s'.hasActive ∧ (s'.active = s.active ∨ s.active.generation < s'.active.generation)

theorem Advances.refl (s : ServerSession) : Advances s s := fun h => ⟨h, .inl rfl⟩

theorem Advances.trans {s s' s'' : ServerSession} (h : Advances s s') (h' : Advances s' s'') : Advances s s'' := by
  intro ha
  obtain ⟨ha', hs'⟩ := h ha
  obtain ⟨ha'', hs''⟩ := h' ha'
  refine ⟨ha'', ?_⟩
  rcases hs' with heq | hlt
  · rcases hs'' with heq' | hlt'
    · exact .inl (heq'.trans heq)
    · exact .inr (by rw [← heq]; exact hlt')
  · rcases hs'' with heq' | hlt'
    · exact .inr (by rw [heq']; exact hlt)
    · exact .inr (UInt64.lt_trans hlt hlt')

variable {codec : PayloadCodec} {s s' : ServerSession} {reg : SessionRegistry} {op : ServerCall}

/-- Promotion moves the candidate to `active`, one generation up. -/
theorem Ordered.promote (ho : s.Ordered) : s.promote.Ordered ∧ Advances s s.promote := by
  unfold ServerSession.promote
  split
  · next hc =>
    refine ⟨⟨?_, ?_, ?_, ho.delta⟩, fun ha => ⟨rfl, .inr (ho.candidate hc ha)⟩⟩
    · intro hcand; cases hcand
    · intro p hp _; exact ho.pendingCandidate p hp hc
    · intro p _ hcand; cases hcand
  · exact ⟨ho, Advances.refl s⟩

/-- A fresh acknowledged snapshot is above the active generation, because it differs from it. -/
theorem Ordered.stage (ho : s.Ordered) {p : Snapshot} (hp : s.pendingSnapshot = some p)
    (hfresh : ¬ (s.hasActive ∧ p.generation < s.active.generation)) (ha : s.hasActive) :
    s.active.generation < p.generation := by
  have hne := ho.pendingActive p hp ha
  have hnlt : ¬ p.generation < s.active.generation := fun hlt => hfresh ⟨ha, hlt⟩
  rw [UInt64.lt_iff_toNat_lt] at hnlt ⊢
  rw [Ne, ← UInt64.toNat_inj] at hne
  omega

theorem Effect.ordered {r : Except Error ServerReply} (h : Effect codec s op s' r) (ho : s.Ordered)
    (hfresh : ¬ op.StagesStale s) (hmax : op.BelowMax) : s'.Ordered ∧ Advances s s' := by
  cases h with
  | snapshotRefused => exact ⟨{ ho with pendingActive := nofun, pendingCandidate := nofun }, Advances.refl s⟩
  | @snapshotStaged _ _ _ p hp hkind hgen hhash hpos =>
    have hgt := ho.stage hp (fun h => hfresh ⟨p, hp, hkind, hgen, hhash, hpos, h.1, h.2⟩)
    exact ⟨⟨fun _ ha => hgt ha, fun _ h => (by cases h), fun _ h => (by cases h), ho.delta⟩, Advances.refl s⟩
  | deltaRefused | deltaDropped => exact ⟨{ ho with delta := nofun }, Advances.refl s⟩
  | @deltaStaged _ _ _ d hp hd hbase =>
    refine ⟨⟨fun _ ha => ?_, ho.pendingActive, fun p h => ?_, fun _ h => (by cases h)⟩, Advances.refl s⟩
    · show s.active.generation < d.generation
      rw [← (hbase ha).1]
      exact ho.delta d hd
    · exact absurd (h.symm.trans hp) (by simp)
  | readied =>
    obtain ⟨hord, hadvance⟩ := ho.promote
    exact ⟨{ hord with }, hadvance⟩
  | @snapshotOffered _ snapshot _ _ hcand hact =>
    refine ⟨⟨ho.candidate, fun p h ha heq => ?_, fun p h hc heq => ?_, fun _ h => (by cases h)⟩, Advances.refl s⟩
    · rw [← some.inj h] at heq
      have hlt := hact ha
      rw [show snapshot.generation = s.active.generation from heq] at hlt
      exact UInt64.lt_irrefl _ hlt
    · rw [← some.inj h] at heq
      exact hcand hc heq
  | @deltaOffered _ delta _ _ hv _ _ _ hbound =>
    refine ⟨⟨ho.candidate, ho.pendingActive, ho.pendingCandidate, fun d h => ?_⟩, Advances.refl s⟩
    rw [← some.inj h, hbound]
    show delta.previousGeneration < delta.generation
    rw [Delta.generation_eq hv]
    exact lt_succ_of_lt_max hmax
  | heartbeatMismatch =>
    unfold withdrawReadiness
    split <;> exact ⟨{ ho with }, Advances.refl s⟩
  | _ => exact ⟨{ ho with }, Advances.refl s⟩

theorem Step.ordered {o : Outcome ServerReply} (h : Step codec reg s op o) (ho : s.Ordered)
    (hfresh : ¬ op.StagesStale s) (hmax : op.BelowMax) : o.2.1.Ordered ∧ Advances s o.2.1 := by
  cases h with
  | ran _ heff => exact heff.ordered ho hfresh hmax
  | _ => exact ⟨{ ho with }, Advances.refl s⟩

end ServerSession

/-! ## Whole runs -/

variable {codec : PayloadCodec} {p₀ p q : ServerPoint}

theorem ServerPoint.Start.ordered (h : p.Start codec) : p.session.Ordered := by
  obtain ⟨_, _, _, _, _, hacc⟩ := h.accepted
  rw [hacc.session]
  exact ⟨nofun, fun _ _ => nofun, fun _ _ => nofun, nofun⟩

/-- The two conditions on the steps of a run. -/
def ServerPoint.Fresh (p : ServerPoint) (l : ServerLabel) : Prop := ¬ l.op.StagesStale p.session ∧ l.op.BelowMax

theorem ServerPoint.step_ordered {l : ServerLabel} (hok : p.Fresh l) (ho : p.session.Ordered)
    (h : p.step codec l = some q) : q.session.Ordered ∧ ServerSession.Advances p.session q.session := by
  obtain ⟨_, hstep⟩ := step_session h
  exact hstep.ordered ho hok.1 hok.2

/-- **The active generation of a server session is monotone and immutable**, along every run in which no
    acknowledgement stages an offered snapshot older than the active configuration: from any point to any
    later one the active generation does not decrease, and if it is the same then so is the content hash.
    Generations stay below the `uint64` maximum. -/
theorem active_generation_monotone {tr₁ tr₂ : Trace ServerPoint ServerLabel}
    (hstart : p₀.Start codec) (h₁ : Run (step codec) p₀ tr₁ p)
    (h₂ : Run (step codec) p tr₂ q)
    (hfresh : ∀ t ∈ tr₁ ++ tr₂, ¬ t.label.op.StagesStale t.pre.session)
    (hmax : ∀ t ∈ tr₁ ++ tr₂, t.label.op.BelowMax) (hactive : p.session.hasActive) :
    q.session.hasActive ∧ p.session.active.generation ≤ q.session.active.generation ∧
      (p.session.active.generation = q.session.active.generation →
        p.session.active.contentHash = q.session.active.contentHash) := by
  have hord : p.session.Ordered := by
    refine h₁.invariant_of (C := Fresh) (I := fun u => u.session.Ordered)
      (fun hok ho h => (step_ordered hok ho h).1) (fun t ht => ?_) hstart.ordered
    exact ⟨hfresh t (mem_append_left _ ht), hmax t (mem_append_left _ ht)⟩
  -- along the second part carry the order of the slots and the progress made since `p`
  obtain ⟨_, hadvance⟩ : q.session.Ordered ∧ ServerSession.Advances p.session q.session := by
    refine h₂.invariant_of (C := Fresh) (I := fun u => u.session.Ordered ∧ ServerSession.Advances p.session u.session)
      (fun {u l v} hok hi h => ?_) (fun t ht => ?_) ⟨hord, ServerSession.Advances.refl _⟩
    · obtain ⟨ho, hadvance⟩ := step_ordered hok hi.1 h
      exact ⟨ho, hi.2.trans hadvance⟩
    · exact ⟨hfresh t (mem_append_right _ ht), hmax t (mem_append_right _ ht)⟩
  obtain ⟨hq, heq | hlt⟩ := hadvance hactive
  · refine ⟨hq, ?_, fun _ => by rw [heq]⟩
    rw [heq]
    exact UInt64.le_refl _
  · refine ⟨hq, UInt64.le_of_lt hlt, fun hsame => ?_⟩
    rw [hsame] at hlt
    exact absurd hlt (UInt64.lt_irrefl _)

/-! ## Two runs of the sample session -/

open Sample

/-- Generation 1 is active, then generation 2 is offered and rolled out. -/
theorem active_generation_monotone_rollout :
    let p := after config1 ⟨session config1, []⟩ (applies config1)
    let q := after config1 p (.offerSnapshot (some {}) config2.snapshot now :: applies config2)
    p.session.active.generation = 1 ∧ q.session.active.generation = 2 ∧
      p.session.active.generation ≤ q.session.active.generation := by
  intro p q
  let labels₁ := (applies config1).map (ServerLabel.mk (reg config1))
  let labels₂ := (ServerCall.offerSnapshot (some {}) config2.snapshot now :: applies config2).map
    (ServerLabel.mk (reg config1))
  have h₁ : Run (step sampleCodec) ⟨session config1, []⟩ (trace (step sampleCodec) _ labels₁) p :=
    exec_getD_run (by decide +kernel)
  have h₂ : Run (step sampleCodec) p (trace (step sampleCodec) p labels₂) q := exec_getD_run (by decide +kernel)
  have hmonotone := active_generation_monotone (start config1 accepts1) h₁ h₂ (by decide +kernel) (by decide +kernel)
    (by decide +kernel)
  exact ⟨by decide +kernel, by decide +kernel, hmonotone.2.1⟩

/-- **The active generation goes back from 2 to 1**: generation 1 is offered while generation 2 awaits
    readiness, and acknowledged when generation 2 is active. -/
theorem active_generation_regresses :
    ∃ p₀ tr₁ p tr₂ q, p₀.Start sampleCodec ∧ Run (step sampleCodec) p₀ tr₁ p ∧
      Run (step sampleCodec) p tr₂ q ∧ (∀ t ∈ tr₁ ++ tr₂, t.label.op.BelowMax) ∧
      p.session.hasActive = true ∧ p.session.active.generation = 2 ∧
      q.session.hasActive = true ∧ q.session.active.generation = 1 := by
  let early : List ServerCall :=
    [.handleAck (some {}) (snapshotAck config2) now, .offerSnapshot (some {}) config1.snapshot now,
     .handleReadiness (some {}) (readiness config2) now]
  let p := after config2 ⟨session config2, []⟩ early
  refine ⟨_, _, p, _, after config2 p (applies config1), start config2 (by decide +kernel), exec_getD_run ?_,
    exec_getD_run ?_, fun t ht => ?_, ?_⟩
  · decide +kernel
  · decide +kernel
  · have hall : ∀ op ∈ early ++ applies config1, op.BelowMax := by decide
    rcases mem_append.mp ht with h | h
    · exact hall _ (mem_append_left _ (op_mem h))
    · exact hall _ (mem_append_right _ (op_mem h))
  · decide +kernel

end PaperboatTunnel.ConnectorProtocol
