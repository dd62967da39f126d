import PaperboatTunnel.ConnectorProtocol.Correctness.LastKnownGood

/-!
# `JointReadiness` — the server believes only what the client has done

A configuration becomes active on the server when a readiness message names it, and the client sends one only after it
has made that configuration active itself. `Sound` carries this through the network: every readiness message that was
ever sent, and what is active on the server, belongs to an earlier promotion of the client.
-/

namespace PaperboatTunnel.ConnectorProtocol

open GoTime TransitionSystem List

/-- The client has made this configuration active at some step of the record. -/
def Promoted (codec : PayloadCodec) (tr : Trace JointPoint JointLabel) (generation : UInt64)
    (contentHash : String) : Prop :=
  ∃ t ∈ tr, ∃ op r, t.label = .client op ∧ t.pre.client.returned codec op = .readiness r none
    ∧ t.post.client.session.hasActive ∧ t.post.client.session.active.generation = generation
    ∧ t.post.client.session.active.contentHash = contentHash

theorem Promoted.append {codec : PayloadCodec} {tr tr' : Trace JointPoint JointLabel}
    {gen : UInt64} {contentHash : String} (h : Promoted codec tr gen contentHash) :
    Promoted codec (tr ++ tr') gen contentHash := by
  obtain ⟨t, ht, rest⟩ := h
  exact ⟨t, mem_append_left _ ht, rest⟩

/-- **Only a readiness message writes the active configuration of the server**, and it names it. -/
theorem ServerSession.Step.active_cases {codec : PayloadCodec} {reg : SessionRegistry} {s : ServerSession}
    {op : ServerCall} {o : ServerSession.Outcome ServerReply} (h : ServerSession.Step codec reg s op o) :
    (o.2.1.active = s.active ∧ o.2.1.hasActive = s.hasActive) ∨
    ∃ ctx r clock, op = .handleReadiness ctx r clock ∧ o.2.1.active.generation = r.generation
      ∧ o.2.1.active.contentHash = r.contentHash := by
  cases h with
  | ran _ heff =>
    cases heff with
    | @readied ctx r clock _ hr =>
      unfold ServerSession.promote
      split
      · next hcand =>
        obtain ⟨hgen, hhash⟩ := hr.candidate hcand
        exact .inr ⟨ctx, r, clock, rfl, hgen.symm, hhash.symm⟩
      · exact .inl ⟨rfl, rfl⟩
    | heartbeatMismatch =>
      unfold ServerSession.withdrawReadiness
      split <;> exact .inl ⟨rfl, rfl⟩
    | _ => exact .inl ⟨rfl, rfl⟩
  | _ => exact .inl ⟨rfl, rfl⟩

namespace JointPoint

/-- **Soundness** of what is on the wire and of what is active on the server, against the record so far. -/
structure Sound (codec : PayloadCodec) (tr : Trace JointPoint JointLabel) (p : JointPoint) :
    Prop where
  coherent : p.client.Coherent
  sent : ∀ r, .readiness r ∈ p.toServer → Promoted codec tr r.generation r.contentHash
  active : p.server.session.hasActive →
               Promoted codec tr p.server.session.active.generation p.server.session.active.contentHash

variable {codec : PayloadCodec} {p q : JointPoint} {tr : Trace JointPoint JointLabel}

theorem Sound.active_step {l : JointLabel} (h : Sound codec tr p) (hstep : p.step codec l = some q)
    (hact : q.server.session.hasActive) :
    Promoted codec tr q.server.session.active.generation q.server.session.active.contentHash := by
  cases l with
  | client =>
    obtain ⟨_, _, hserver, _, _⟩ := clientStep_cases hstep
    rw [hserver] at hact ⊢
    exact h.active hact
  | server =>
    obtain ⟨hserver, hmsg, _, _, _⟩ := serverStep_cases hstep
    obtain ⟨_, hcall⟩ := ServerPoint.step_session hserver
    rcases hcall.active_cases with ⟨hsame, hhas⟩ | ⟨ctx, r, clock, hop, hgen, hhash⟩
    · dsimp only at hsame hhas
      rw [hhas] at hact
      rw [hsame]
      exact h.active hact
    · -- the readiness message came from the wire, so the client had promoted its configuration
      have hwire : p.reachesServer (.readiness r) = true := hmsg _ (by rw [hop]; rfl)
      dsimp only at hgen hhash
      rw [hgen, hhash]
      exact h.sent r (contains_iff_mem.mp hwire)

/-- A readiness message is sent by the step that promotes its configuration. -/
theorem Sound.sent_step {op : ClientCall} {r : Readiness} (h : Sound codec tr p)
    (hstep : p.step codec (.client op) = some q)
    (hret : p.client.returned codec op = .readiness r none) :
    Promoted codec (tr ++ [⟨p, .client op, q⟩]) r.generation r.contentHash := by
  obtain ⟨hclient, _, _, _, _⟩ := clientStep_cases hstep
  obtain ⟨hs, call, _, _, _, hheld, rfl⟩ := ClientPoint.promoted_of_returned hclient hret
  obtain ⟨_, hcand, _, hgen, hhash⟩ := h.coherent.activating call hheld
  refine ⟨⟨p, .client op, q⟩, mem_append_right _ (by simp), op, _, rfl, hret, ?_, ?_, ?_⟩
  · rw [hs]; rfl
  · rw [hs, hgen, ← hcand]; rfl
  · rw [hs, hhash, ← hcand]; rfl

/-- **Every step of the joint machine is sound.** -/
theorem Sound.step {l : JointLabel} (h : Sound codec tr p) (hstep : p.step codec l = some q) :
    Sound codec (tr ++ [⟨p, l, q⟩]) q := by
  have hact (ha : q.server.session.hasActive) :
      Promoted codec (tr ++ [⟨p, l, q⟩]) q.server.session.active.generation
        q.server.session.active.contentHash := (h.active_step hstep ha).append
  cases l with
  | server =>
    obtain ⟨_, _, hclient, hsent, _⟩ := serverStep_cases hstep
    refine ⟨hclient ▸ h.coherent, fun r hr => ?_, hact⟩
    rw [hsent] at hr
    exact (h.sent r hr).append
  | client =>
    obtain ⟨hclient, _, _, _, hsent⟩ := clientStep_cases hstep
    refine ⟨h.coherent.step hclient, fun r hr => ?_, hact⟩
    rw [hsent] at hr
    rcases mem_append.mp hr with hold | hnew
    · exact (h.sent r hold).append
    refine h.sent_step hstep ?_
    -- among the replies only a readiness without an error is sent as one
    revert hnew
    unfold ClientReply.sends
    split <;> simp_all

theorem Start.not_active (h : p.Start codec) : ¬ p.server.session.hasActive := by
  intro hact
  obtain ⟨_, _, _, _, _, hacc, _⟩ := h.accepted
  rw [hacc.session] at hact
  cases hact

theorem Start.sound (h : p.Start codec) : Sound codec [] p := by
  have hidle := h.not_active
  obtain ⟨_, hclient, hsent⟩ := h
  refine ⟨hclient.coherent, fun r hr => ?_, hidle.elim⟩
  rw [hsent] at hr; cases hr

end JointPoint

/-- **Readiness is sound.** In every joint run, whatever the network loses, duplicates or reorders, nothing
    is active on the server at the start, and a configuration that is active there after a step was made
    active by the client at an earlier step. -/
theorem joint_readiness_sound {codec : PayloadCodec} {p q : JointPoint}
    {tr : Trace JointPoint JointLabel} (hstart : p.Start codec)
    (hrun : Run (JointPoint.step codec) p tr q) :
    ¬ p.server.session.hasActive ∧
    ∀ tr₁ t tr₂, tr = tr₁ ++ t :: tr₂ → t.post.server.session.hasActive →
      Promoted codec tr₁ t.post.server.session.active.generation t.post.server.session.active.contentHash := by
  refine ⟨hstart.not_active, ?_⟩
  rintro tr₁ t tr₂ rfl hact
  obtain ⟨hbefore, hstep, _⟩ := hrun.through
  have hsound : JointPoint.Sound codec tr₁ t.pre := hbefore.trace_invariant hstart.sound (·.step ·)
  exact hsound.active_step hstep hact

/-! ## The first configuration of the sample session -/

open Sample

/-- The client brings configuration 1 up, and the server takes its acknowledgement from the wire. -/
def Sample.brought : List JointLabel :=
  (bootstrap config1).map .client ++ serverCalls config1 [.handleAck (some {}) (snapshotAck config1) now]

/-- The readiness message makes configuration 1 active on the server, after the client. -/
theorem joint_readiness_sound_bootstrap :
    let tr := trace (JointPoint.step sampleCodec) (joint config1) brought
    let m := jointAfter (joint config1) brought
    let l : JointLabel := .server ⟨reg config1, .handleReadiness (some {}) (readiness config1) now⟩
    let q := jointAfter m [l]
    q.server.session.active = config1.bound ∧ Promoted sampleCodec tr q.server.session.active.generation
        q.server.session.active.contentHash := by
  intro tr m l q
  have hm : Run (JointPoint.step sampleCodec) (joint config1) tr m := exec_getD_run (by decide +kernel)
  have hq : m.step sampleCodec l = some q := by decide +kernel
  have hactive : q.server.session.hasActive = true := by decide +kernel
  obtain ⟨_, hall⟩ := joint_readiness_sound (joint_start config1 accepts1) (Run.tail hm hq)
  have hsound := hall tr ⟨m, l, q⟩ [] rfl
  refine ⟨by decide +kernel, ?_⟩
  -- from here on the points need not be evaluated any more
  clear_value q m tr
  exact hsound hactive

/-! ## The server is never ahead of the client -/

/-- The session has made this configuration active, or a later one. -/
def ClientSession.Reached (c : ClientSession) (generation : UInt64) (contentHash : String) : Prop :=
  c.hasActive ∧ (generation < c.active.generation
    ∨ generation = c.active.generation ∧ contentHash = c.active.contentHash)

theorem ClientPoint.Newer.reached {codec : PayloadCodec} {p q : ClientPoint} {op : ClientCall} (h : p.Newer)
    (hstep : p.step codec op = some q) {gen : UInt64} {hash : String} (hr : p.session.Reached gen hash) :
    q.session.Reached gen hash := by
  rcases sameActive_or_promoted hstep with ⟨hact, hhas⟩ | ⟨r, hret⟩
  · rw [ClientSession.Reached, hact, hhas]
    exact hr
  obtain ⟨hhas, _, hlater⟩ := h.promotion hstep hret
  have hlt := hlater hr.1
  rcases hr.2 with hbelow | ⟨rfl, _⟩
  · exact ⟨hhas, .inl (UInt64.lt_trans hbelow hlt)⟩
  · exact ⟨hhas, .inl hlt⟩

def JointLabel.clientCall : JointLabel → Option ClientCall
  | .client op => some op
  | .server _ => none

/-- **The server is never ahead of the client.** In every joint run, whatever the network loses, duplicates or
    reorders, the client has made the configuration active that is active on the server, or a later one: two
    configurations that are active under one generation have the same content. -/
theorem server_behind_client {codec : PayloadCodec} {p q : JointPoint}
    {tr : Trace JointPoint JointLabel} (hstart : p.Start codec)
    (hrun : Run (JointPoint.step codec) p tr q) (hmax : ∀ t ∈ tr, ∀ op ∈ t.label.clientCall, op.BelowMax)
    (hactive : q.server.session.hasActive) :
    q.client.session.Reached q.server.session.active.generation q.server.session.active.contentHash := by
  have hsound : JointPoint.Sound codec tr q := hrun.trace_invariant hstart.sound (·.step ·)
  refine (hrun.trace_invariant_on (I := fun tr p => p.client.Newer ∧ ∀ gen hash, Promoted codec tr gen hash →
    p.client.session.Reached gen hash) ?_ hmax ⟨hstart.2.1.newer, ?_⟩).2 _ _ (hsound.active hactive)
  · intro tr p l q hl ⟨hnew, hp⟩ hstep
    have hkept : q.client.Newer ∧ ∀ gen hash, p.client.session.Reached gen hash →
        q.client.session.Reached gen hash := by
      cases l with
      | server => rw [(JointPoint.serverStep_cases hstep).2.2.1]; exact ⟨hnew, fun _ _ h => h⟩
      | client op =>
        have hclient := (JointPoint.clientStep_cases hstep).1
        exact ⟨hnew.step (hl op rfl) hclient, fun _ _ => hnew.reached hclient⟩
    refine ⟨hkept.1, fun gen hash ⟨t, ht, hpromote⟩ => ?_⟩
    -- it was promoted before, or by this step and is what the client has
    rcases mem_append.mp ht with hold | hlast
    · exact hkept.2 _ _ (hp _ _ ⟨t, hold, hpromote⟩)
    · obtain rfl := mem_singleton.mp hlast
      obtain ⟨_, _, _, _, hhas, rfl, rfl⟩ := hpromote
      exact ⟨hhas, .inr ⟨rfl, rfl⟩⟩
  · rintro gen hash ⟨t, ht, _⟩
    cases ht

/-- Configuration 2 is active on the client, and the server still has configuration 1. -/
theorem server_behind_client_rollout :
    let q := jointAfter (joint config1) (brought
      ++ serverCalls config1 [.handleReadiness (some {}) (readiness config1) now,
        .offerSnapshot (some {}) config2.snapshot now]
      ++ (stages config2 1 ++ promotes config2 1).map .client)
    q.client.session.active = config2.bound ∧
      q.client.session.Reached q.server.session.active.generation q.server.session.active.contentHash := by
  intro q
  refine ⟨by decide +kernel, ?_⟩
  exact server_behind_client (joint_start config1 accepts1) (exec_getD_run (by decide +kernel))
    (by decide +kernel) (by decide +kernel)

end PaperboatTunnel.ConnectorProtocol
