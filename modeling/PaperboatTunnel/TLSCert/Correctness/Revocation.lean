import PaperboatTunnel.TLSCert.Distribution
import PaperboatTunnel.TLSCert.Tables

/-!
# `Revocation` — what is left after a revocation

`revoke` removes the entry of the binding, and nothing but `stage` brings the binding back (`Absent`). But a stage that
is delivered again does: nobody remembers that the binding was revoked (`revoked_active_again`).
-/

namespace PaperboatTunnel.TLSCert

open GoTime TransitionSystem Selection Registry Option

def Action.stages (b : Binding) : Action → Bool
  | .stage _ b' _ _ _ => decide (b' = b)
  | _ => false

/-- The receiver is given a stage of the binding. -/
def ReceiverAction.stages (b : Binding) : ReceiverAction → Bool
  | .deliver delivery =>
    decide (delivery.method = .stage ∨ delivery.method = .stageAndReady) && decide (delivery.envelope.binding = b)
  | _ => false

namespace Registry

variable {x : External} {r r' : Registry} {a : Action} {b : Binding}

/-- No entry of the binding is active or may become so. -/
def Absent (b : Binding) (r : Registry) : Prop :=
  ∀ k e, r.entries.lookup k = some e → e.pursued = true → e.binding ≠ b

theorem Absent.effect (habsent : r.Absent b) (hr : r.Coherent) (heff : Effect r a r') (hstages : a.stages b = false) :
    r'.Absent b := by
  intro k e' he' hpursued
  rcases inherited_or_staged hr heff with hinherited | ⟨_, _, _, _, e, rfl, rfl, _, _, _⟩
  · obtain ⟨e, he, hold, hbind, _⟩ := hinherited k e' he' hpursued
    rw [← hbind]
    exact habsent k e he hold
  · rcases lookup_of_addCandidate he' hpursued with rfl | ⟨_, _, hold⟩
    · exact of_decide_eq_false hstages
    · exact habsent k e' hold hpursued

/-- **A revocation that succeeds leaves no entry** of the binding. -/
theorem absent_of_revoke (hr : r.Coherent) {cancelled : Bool} {exp : Option Fingerprint}
    (hdone : (r.revoke x cancelled b exp).2 = none) : (r.revoke x cancelled b exp).1.Absent b := by
  unfold revoke at hdone ⊢
  split at hdone
  · cases hdone
  next b' wildcard hcheck =>
  obtain rfl := eq_of_checkBinding hcheck
  split at hdone
  case h_1 hfind =>
    -- there was no entry
    rintro k e he _ rfl
    have hfound : r.find e.binding = some e := find_eq_some_iff.mpr ⟨(hr.keyed k e he).symm ▸ he, rfl⟩
    rw [hfind] at hfound
    cases hfound
  case h_2 e hfind =>
    obtain ⟨_, rfl⟩ := find_eq_some_iff.mp hfind
    split at hdone
    · cases hdone
    next hmatch =>
    rw [if_neg hmatch]
    rintro k p hp _ hbind
    rw [lookup_drop] at hp
    obtain ⟨hne, hold⟩ := ite_none_left_eq_some.mp hp
    apply hne
    rw [← hr.keyed k p hold, Entry.key, hbind]
    rfl

end Registry

namespace DistributionReceiver

variable {x : External} {verify : Time → String → DistributionEnvelope → Bool} {d d' : DistributionReceiver}
  {l : ReceiverAction} {b : Binding}

/-- **A step makes at most one call of the registry**, and stages a binding only if it was given to it. -/
theorem registry_step (h : d.step x verify l = some d') :
    d'.registry = d.registry ∨ ∃ a, d'.registry = (d.registry.call x a).1 ∧ ∀ b, l.stages b = false → a.stages b = false := by
  cases l with
  | deliver delivery =>
    cases h
    unfold deliver
    split
    · exact .inl rfl
    refine .inr ⟨delivery.method.call delivery.envelope delivery.cancelled delivery.now delivery.now', rfl,
      fun b hb => ?_⟩
    cases hmethod : delivery.method <;> simp [ReceiverAction.stages, hmethod] at hb <;>
      simp [Method.call, Action.stages, hb]
  | finishReady _ cancelled now now' =>
    obtain ⟨call, _, heq⟩ := map_eq_some_iff.mp h
    exact .inr ⟨.markReady cancelled call.1 call.2 now now', by rw [← heq], fun _ _ => rfl⟩
  | getCertificate serverName now =>
    exact .inr ⟨.getCertificate serverName now, by rw [← some.inj h], fun _ _ => rfl⟩
  | requiresExactCertificate hostname now =>
    exact .inr ⟨.requiresExactCertificate hostname now, by rw [← some.inj h], fun _ _ => rfl⟩
  | snapshot now => exact .inr ⟨.snapshot now, by rw [← some.inj h], fun _ _ => rfl⟩
  | close => exact .inr ⟨.close, by rw [← some.inj h], fun _ _ => rfl⟩

theorem coherent_step (hd : d.registry.Coherent) (h : d.step x verify l = some d') : d'.registry.Coherent := by
  rcases registry_step h with heq | ⟨a, heq, _⟩
  · rw [heq]
    exact hd
  · rw [heq]
    exact hd.effect (call_effect x _ a)

/-- The transition is a revocation of the binding that succeeds. -/
def Revoked (x : External) (verify : Time → String → DistributionEnvelope → Bool)
    (t : Transition DistributionReceiver ReceiverAction) (b : Binding) : Prop :=
  ∃ delivery, t.label = .deliver delivery ∧ delivery.method = .revoke ∧ delivery.envelope.binding = b
    ∧ (t.pre.deliver x verify delivery).2 = none

theorem Revoked.absent {t : Transition DistributionReceiver ReceiverAction} (hpre : t.pre.registry.Coherent)
    (h : Revoked x verify t b) (hstep : t.pre.step x verify t.label = some t.post) : t.post.registry.Absent b := by
  obtain ⟨_, hlabel, hmethod, hbind, hdone⟩ := h
  rw [hlabel] at hstep
  rw [← some.inj hstep]
  unfold deliver at hdone ⊢
  split at hdone
  · cases hdone
  simp only [hmethod, Method.call, hbind] at hdone ⊢
  exact absent_of_revoke hpre hdone

/-- **Revocation.** Once a revocation of a binding has succeeded, no certificate of the binding is active in any state
    of the run until a stage of that binding is delivered again, whatever else is delivered, in any order and any number
    of times. -/
theorem revocation_final (x : External) (verify : Time → String → DistributionEnvelope → Bool)
    (maximumCertificateLife : Duration) (nodeID processEpoch : String) (maximumMessage : Int)
    (d₀ d : DistributionReceiver) (tr₁ tr₂ : Trace DistributionReceiver ReceiverAction)
    (t : Transition DistributionReceiver ReceiverAction) (b : Binding)
    (hnew : newDistributionReceiver (newRegistry maximumCertificateLife) nodeID processEpoch maximumMessage = .ok d₀)
    (hrun : Run (step x verify) d₀ (tr₁ ++ t :: tr₂) d) (hrevoked : Revoked x verify t b)
    (hstages : ∀ u ∈ tr₂, u.label.stages b = false) :
    ∀ k e, d.registry.entries.lookup k = some e → e.state = .active → e.binding ≠ b := by
  have hreg : d₀.registry = newRegistry maximumCertificateLife := by
    obtain ⟨_, hok⟩ := Checks.ok_iff.mp hnew
    rw [← Except.ok.inj hok]
  have hcoherent : d₀.registry.Coherent := by
    rw [hreg]
    exact coherent_new
  obtain ⟨hrun₁, hstep, hrun₂⟩ := hrun.through
  have hpre : t.pre.registry.Coherent :=
    hrun₁.invariant (I := fun q => q.registry.Coherent) coherent_step hcoherent
  have hend : d.registry.Coherent ∧ d.registry.Absent b := by
    refine hrun₂.invariant_of (I := fun q => q.registry.Coherent ∧ q.registry.Absent b)
      (C := fun _ l => l.stages b = false) ?_ hstages ⟨coherent_step hpre hstep, hrevoked.absent hpre hstep⟩
    rintro q l q' hl ⟨hq, habsent⟩ hq'
    refine ⟨coherent_step hq hq', ?_⟩
    rcases registry_step hq' with heq | ⟨a, heq, ha⟩
    · rw [heq]
      exact habsent
    · rw [heq]
      exact habsent.effect hq (call_effect x _ a) (ha b hl)
  intro k e he hact
  exact hend.2 k e he (by simp [Entry.pursued, hact])

/-! ## Deliveries that come again -/

def sampleReceiver : DistributionReceiver where
  registry := newRegistry 0
  nodeID := "node"
  processEpoch := "epoch-01"
  maximumMessage := 16 <<< 20

def sampleEnvelope (method : Method) : DistributionEnvelope where
  action := method.action
  certificateID := "certificate"
  fingerprint := zeroFingerprint
  binding := sampleBinding "domain-a" 1
  bundle := sampleBundle
  proof := [1]
  issuedAt := Time.unixEpoch
  expiresAt := Time.unixEpoch.add (5 * Duration.minute)

def deliverySample (method : Method) : Delivery where
  method := method
  envelope := sampleEnvelope method
  authenticatedAt := Time.unixEpoch
  now := Time.unixEpoch
  now' := Time.unixEpoch

def deliverSample (method : Method) : ReceiverAction := .deliver (deliverySample method)

/-- The envelopes of an activation, as the edge applies them. -/
def activation : List ReceiverAction :=
  [deliverSample .stageAndReady, .finishReady 0 false Time.unixEpoch Time.unixEpoch, deliverSample .activate]

abbrev sampleStep : DistributionReceiver → ReceiverAction → Option DistributionReceiver :=
  step sampleExternal (fun _ _ _ => true)

/-- After a revocation, the envelopes that make a binding ready and active come again and change nothing. -/
theorem revocation_final_replayed : ∃ d, exec sampleStep sampleReceiver (activation ++ deliverSample .revoke
        :: [deliverSample .ready, deliverSample .activate]) = some d
      ∧ ∀ k e, d.registry.entries.lookup k = some e → e.state = .active → e.binding ≠ sampleBinding "domain-a" 1 := by
  obtain ⟨d₁, hd₁, hrevoked, d₂, hstep, hsome⟩ : ∃ d₁, exec sampleStep sampleReceiver activation = some d₁
      ∧ (d₁.deliver sampleExternal (fun _ _ _ => true) (deliverySample .revoke)).2 = none
      ∧ ∃ d₂, sampleStep d₁ (deliverSample .revoke) = some d₂
        ∧ (exec sampleStep d₂ [deliverSample .ready, deliverSample .activate]).isSome = true := by
    decide +kernel
  obtain ⟨d, hd⟩ := isSome_iff_exists.mp hsome
  refine ⟨d, ?_, ?_⟩
  · rw [exec_append, hd₁, bind_some, exec, hstep, bind_some, hd]
  exact revocation_final sampleExternal (fun _ _ _ => true) 0 "node" "epoch-01" 0 sampleReceiver d _
    (trace sampleStep d₂ [deliverSample .ready, deliverSample .activate]) ⟨d₁, deliverSample .revoke, d₂⟩ _ rfl
    ((exec_run hd₁).trans (Run.head hstep (exec_run hd)))
    ⟨deliverySample .revoke, rfl, rfl, rfl, hrevoked⟩
    (fun u hu => by
      have hlabel := label_mem_of_mem_trace hu
      simp only [List.mem_cons, List.not_mem_nil, or_false] at hlabel
      rcases hlabel with hlabel | hlabel <;> rw [hlabel] <;> rfl)

/-- **The stage is delivered again**, and then the activation: the revoked binding is active. -/
theorem revoked_active_again : ∃ d₁ d₂ d k e, exec sampleStep sampleReceiver activation = some d₁
      ∧ Revoked sampleExternal (fun _ _ _ => true) ⟨d₁, deliverSample .revoke, d₂⟩ (sampleBinding "domain-a" 1)
      ∧ sampleStep d₁ (deliverSample .revoke) = some d₂ ∧ exec sampleStep d₂ activation = some d
      ∧ d.registry.entries.lookup k = some e ∧ e.state = .active
      ∧ e.binding = sampleBinding "domain-a" 1 := by
  obtain ⟨d₁, hd₁, hrevoked, d₂, hstep, d, hd, e, he, hact, hbind⟩ :
      ∃ d₁, exec sampleStep sampleReceiver activation = some d₁
      ∧ (d₁.deliver sampleExternal (fun _ _ _ => true) (deliverySample .revoke)).2 = none
      ∧ ∃ d₂, sampleStep d₁ (deliverSample .revoke) = some d₂ ∧ ∃ d, exec sampleStep d₂ activation = some d
        ∧ ∃ e, d.registry.entries.lookup (bindingKey (sampleBinding "domain-a" 1)) = some e
          ∧ e.state = .active ∧ e.binding = sampleBinding "domain-a" 1 := by
    decide +kernel
  exact ⟨d₁, d₂, d, _, e, hd₁, ⟨deliverySample .revoke, rfl, rfl, rfl, hrevoked⟩, hstep, hd, he, hact, hbind⟩

end DistributionReceiver

end PaperboatTunnel.TLSCert
