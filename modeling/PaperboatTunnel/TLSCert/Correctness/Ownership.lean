import PaperboatTunnel.TLSCert.Correctness.Coherence

/-!
# `Ownership` — which domain a hostname belongs to

`stage` refuses a certificate for a hostname for which another domain's certificate is active. `activate` does not look
at the domain, so two domains whose certificates were staged while none was active can replace each other
(`other_domain_activated`). If no certificate is staged while another domain's candidate is waiting, all candidates and
the active certificate of a hostname belong to one domain (`Owned`).
-/

namespace PaperboatTunnel.TLSCert

open GoTime TransitionSystem Selection List

namespace Registry

variable {x : External} {r r' : Registry} {a : Action} {e e' p : Entry} {k : String} {now : Time}

/-- The certificates of a hostname that are active or may become so are of one domain. -/
def Owned (r : Registry) : Prop :=
  ∀ k e k' e', r.entries.lookup k = some e → r.entries.lookup k' = some e' → e.pursued = true → e'.pursued = true →
    e.hostname = e'.hostname → e.binding.domainID = e'.binding.domainID

theorem Owned.inherit (hr : r.Owned) (h : Inherited r r') : r'.Owned := by
  intro k₁ e₁ k₂ e₂ he₁ he₂ hpursued₁ hpursued₂ hhost
  obtain ⟨p₁, hp₁, hpursued₁, hbind₁, hhost₁⟩ := h k₁ e₁ he₁ hpursued₁
  obtain ⟨p₂, hp₂, hpursued₂, hbind₂, hhost₂⟩ := h k₂ e₂ he₂ hpursued₂
  rw [← hbind₁, ← hbind₂]
  refine hr k₁ p₁ k₂ p₂ hp₁ hp₂ hpursued₁ hpursued₂ ?_
  rw [hhost₁, hhost₂, hhost]

/-- **No other domain's candidate waits** for the hostname of a certificate that is staged. -/
def uncontested (r : Registry) : Action → Bool
  | .stage _ b _ _ _ =>
    r.entries.values.all (fun e => !(e.waiting && e.hostname == b.hostname && e.binding.domainID != b.domainID))
  | _ => true

/-- The candidate's domain is the domain of whatever the hostname already has. -/
theorem Owned.addCandidate (hr : r.Owned) {cancelled : Bool} {bundle : Bundle} {exp : Option Fingerprint}
    (hcond : r.uncontested (.stage cancelled e.binding bundle exp now))
    (hhostname : e.hostname = e.binding.hostname) (hforeign : (r.expireLocked now).foreignActive e = false) :
    ((r.expireLocked now).addCandidate e).Owned := by
  -- an entry that stood there before
  have hsame : ∀ k p, (r.expireLocked now).entries.lookup k = some p → r.entries.lookup k = some p → k ≠ e.key →
      p.pursued = true → p.hostname = e.hostname → p.binding.domainID = e.binding.domainID := by
    intro k p hexp hbefore hk hpursued hhost
    rcases (Bool.or_eq_true _ _).mp hpursued with hwait | hact
    · have hentry := all_eq_true.mp hcond p (GoMap.mem_values_iff.mpr ⟨k, hbefore⟩)
      simpa [hwait, hhost.trans hhostname] using hentry
    · have hentry := any_eq_false.mp hforeign ⟨k, p⟩ (GoMap.mem_entries_iff.mpr hexp)
      simpa [beq_iff_eq.mp hact, hhost, hk] using hentry
  intro k₁ e₁ k₂ e₂ he₁ he₂ hpursued₁ hpursued₂ hhost
  rcases lookup_of_addCandidate he₁ hpursued₁ with rfl | ⟨hk₁, hexp₁, hold₁⟩
  · rcases lookup_of_addCandidate he₂ hpursued₂ with rfl | ⟨hk₂, hexp₂, hold₂⟩
    · rfl
    · exact (hsame k₂ e₂ hexp₂ hold₂ hk₂ hpursued₂ hhost.symm).symm
  · rcases lookup_of_addCandidate he₂ hpursued₂ with rfl | ⟨_, _, hold₂⟩
    · exact hsame k₁ e₁ hexp₁ hold₁ hk₁ hpursued₁ hhost
    · exact hr k₁ e₁ k₂ e₂ hold₁ hold₂ hpursued₁ hpursued₂ hhost

theorem Owned.step (hr : r.Coherent) (howned : r.Owned) (hcond : r.uncontested a)
    (h : r.step x a = some r') : r'.Owned := by
  cases h
  rcases inherited_or_staged hr (call_effect x r a) with hinherited | ⟨_, _, _, _, e, rfl, heq, _, hhost, hforeign⟩
  · exact howned.inherit hinherited
  · rw [heq]
    exact howned.addCandidate hcond hhost hforeign

theorem active_inherited (hr : r.Coherent) (heff : Effect r a r') (he : r'.entries.lookup k = some e')
    (hact : e'.state = .active) :
    ∃ e, r.entries.lookup k = some e ∧ e.pursued = true ∧ e.binding = e'.binding ∧ e.hostname = e'.hostname := by
  have hpursued : e'.pursued = true := by simp [Entry.pursued, hact]
  rcases inherited_or_staged hr heff with hinherited | ⟨_, _, _, now, e, _, rfl, hstaged, _, _⟩
  · exact hinherited k e' he hpursued
  rcases lookup_of_addCandidate he hpursued with rfl | ⟨_, _, hold⟩
  · rw [hstaged] at hact
    cases hact
  · exact ⟨e', hold, hpursued, rfl, rfl⟩

/-- **Domain ownership.** In a run in which no certificate is staged while a candidate of another domain waits for the
    same hostname: while a certificate is active for a hostname, no call makes a certificate of another domain active
    for it. -/
theorem domain_owned (x : External) (maximumCertificateLife : Duration) (tr : Trace Registry Action)
    (r : Registry) (hrun : Run (step x) (newRegistry maximumCertificateLife) tr r)
    (hsole : ∀ t ∈ tr, t.pre.uncontested t.label = true) :
    ∀ t ∈ tr, ∀ k e k' e', t.pre.entries.lookup k = some e → t.post.entries.lookup k' = some e' →
      e.state = .active → e'.state = .active → e.hostname = e'.hostname →
        e.binding.domainID = e'.binding.domainID := by
  intro t ht k e k' e' he he' hact hact' hhost
  have hnew : (newRegistry maximumCertificateLife).Coherent ∧ (newRegistry maximumCertificateLife).Owned :=
    ⟨coherent_new, fun _ _ _ _ he _ _ _ _ => by simp [newRegistry] at he⟩
  have hall := hrun.forall_mem_on (I := fun q => q.Coherent ∧ q.Owned)
    (C := fun t => t.pre.uncontested t.label = true)
    (fun hcond hq hstep => ⟨hq.1.step hstep, Owned.step hq.1 hq.2 hcond hstep⟩) hsole hnew
  obtain ⟨⟨hcoherent, howned⟩, _⟩ := hall t ht
  have heff := call_effect x t.pre t.label
  rw [Option.some.inj (hrun.mem_step ht)] at heff
  obtain ⟨p, hp, hpursued, hbind, hhost'⟩ := active_inherited hcoherent heff he' hact'
  rw [← hbind]
  exact howned k e k' p he hp (by simp [Entry.pursued, hact]) hpursued (hhost.trans hhost'.symm)

/-- The hostname passes from one domain to another when the certificate of the first, replaced once, is revoked. -/
def handedOver : List Action := replacement ++ [.revoke false (sampleBinding "domain-a" 2) none] ++
  [stageSample, readySample, activateSample].map (fun f => f (sampleBinding "domain-b" 3))

theorem domain_owned_replaced : ∃ r, exec (step sampleExternal) (newRegistry 0) handedOver = some r ∧
      (r.activeEntry "e:www.example").map (fun e => e.binding.domainID) = some "domain-b" ∧
      ∀ t ∈ trace (step sampleExternal) (newRegistry 0) handedOver, ∀ k e k' e',
        t.pre.entries.lookup k = some e → t.post.entries.lookup k' = some e' →
        e.state = .active → e'.state = .active → e.hostname = e'.hostname →
          e.binding.domainID = e'.binding.domainID := by
  have h : (exec (step sampleExternal) (newRegistry 0) handedOver).isSome = true := by decide +kernel
  exact ⟨_, exec_getD h, by decide +kernel, domain_owned sampleExternal 0 _ _ (exec_getD_run h) (by decide +kernel)⟩

/-- Two domains stage and ready their certificates while none is active; the first is activated. -/
def contested : List Action := [stageSample (sampleBinding "domain-a" 1), readySample (sampleBinding "domain-a" 1),
    stageSample (sampleBinding "domain-b" 2), readySample (sampleBinding "domain-b" 2),
    activateSample (sampleBinding "domain-a" 1)]

/-- **The other domain takes the hostname over** when its certificate is activated, too. -/
theorem other_domain_activated : ∃ r r', exec (step sampleExternal) (newRegistry 0) contested = some r
      ∧ step sampleExternal r (activateSample (sampleBinding "domain-b" 2)) = some r'
      ∧ (r.activeEntry "e:www.example").map (fun e => e.binding.domainID) = some "domain-a"
      ∧ (r'.activeEntry "e:www.example").map (fun e => e.binding.domainID) = some "domain-b" := by
  simp only [exists_and_left]
  decide +kernel

end Registry

end PaperboatTunnel.TLSCert
