import PaperboatTunnel.TLSCert.Tables

/-!
# `Coherence` — one active certificate for a hostname

The table of active certificates points exactly to the active entries, whatever the clock says. A hostname with an active
certificate keeps one, or gets one whose generations are not lower (`succession`), until its certificate is revoked or
expires or the registry is closed.
-/

namespace PaperboatTunnel.TLSCert

open GoTime TransitionSystem Selection Option

namespace Registry

variable {x : External} {r r' : Registry} {a : Action} {e p : Entry} {k h : String} {now now' : Time}

/-! ## Succession -/

/-- The generations of the second entry are not lower. -/
def Succeeds (e e' : Entry) : Prop := e.binding.domainGeneration ≤ e'.binding.domainGeneration
    ∧ e.binding.certificateGeneration ≤ e'.binding.certificateGeneration

theorem Succeeds.refl (e : Entry) : Succeeds e e := ⟨UInt64.le_refl _, UInt64.le_refl _⟩

theorem Succeeds.trans {e₁ e₂ e₃ : Entry} (h : Succeeds e₁ e₂) (h' : Succeeds e₂ e₃) : Succeeds e₁ e₃ :=
  ⟨UInt64.le_trans h.1 h'.1, UInt64.le_trans h.2 h'.2⟩

def activeEntry (r : Registry) (h : String) : Option Entry := (r.active.lookup h).bind r.entries.lookup

variable (hk : r.active.lookup h = some k) (he : r.entries.lookup k = some e)

include hk he

theorem activeEntry_of : r.activeEntry h = some e := by
  rw [activeEntry, hk]
  exact he

/-- **The host loses its active certificate** by this transition: it is revoked, it expires, or the registry is
    closed. -/
def Ended (t : Transition Registry Action) (h : String) : Prop := t.post.active.lookup h = none ∧
    ∃ e, t.pre.activeEntry h = some e ∧
      (t.label = .close ∨ t.label.revokes e.binding = true ∨ t.label.expires e = true)

/-- A host with an active certificate after `expireLocked`. -/
theorem Coherent.expireLocked_cases (hr : r.Coherent) (now : Time) :
    (r.expireLocked now).active.lookup h = none ∧ e.lapsed now now = true
      ∨ (r.expireLocked now).active.lookup h = some k ∧ (r.expireLocked now).entries.lookup k = some e := by
  cases hdue : due now e with
  | true =>
    refine .inl ⟨eq_none_iff_forall_ne_some.mpr (fun k' hk' => ?_), (due_iff.mp hdue).2⟩
    have hold := (active_expireLocked.mp hk').1
    obtain rfl := mem_unique hk hold
    rw [((hr.active_expireLocked_iff he).mp hk').2] at hdue
    cases hdue
  | false =>
    refine .inr ⟨(hr.active_expireLocked_iff he).mpr ⟨hk, hdue⟩, ?_⟩
    rw [lookup_expireLocked, he, map_some, hdue]
    rfl

/-- A host with an active certificate after the pointer to `p` is taken away. -/
theorem Coherent.deactivate_cases (hr : r.Coherent) (hp : r.entries.lookup p.key = some p) :
    (r.deactivate p).active.lookup h = none ∧ e = p ∨ (r.deactivate p).active.lookup h = some k ∧ k ≠ p.key := by
  by_cases hsame : k = p.key
  · subst hsame
    refine .inl ⟨eq_none_iff_forall_ne_some.mpr (fun k' hk' => ?_), mem_unique he hp⟩
    obtain ⟨hold, hne⟩ := (hr.active_deactivate_iff hp).mp hk'
    exact hne (mem_unique hold hk)
  · exact .inr ⟨(hr.active_deactivate_iff hp).mpr ⟨hk, hsame⟩, hsame⟩

omit hk in
theorem key_ne_of_state (hp : r.entries.lookup p.key = some p) (hst : e.state ≠ p.state) : k ≠ p.key := by
  rintro rfl
  obtain rfl := mem_unique he hp
  exact hst rfl

/-- **Succession.** A host with an active certificate has one after a call whose generations are not lower, or the
    call has ended it. -/
theorem succession (hr : r.Coherent) (heff : Effect r a r') (hst : e.state = .active) :
    Ended ⟨r, a, r'⟩ h ∨ ∃ e', r'.activeEntry h = some e' ∧ Succeeds e e' := by
  have hcur := activeEntry_of hk he
  have hexpires : ∀ {now now' : Time}, a.readings = some (now, now') → e.lapsed now now' = true →
      a.expires e = true := by
    intro now now' hclock hlapsed
    rw [Action.expires, hclock, any_some]
    exact hlapsed
  cases heff with
  | kept => exact .inr ⟨e, hcur, .refl e⟩
  | expired hclock =>
    rcases hr.expireLocked_cases hk he _ with ⟨hnone, hlapsed⟩ | ⟨hk', he'⟩
    · exact .inl ⟨hnone, e, hcur, .inr (.inr (hexpires hclock hlapsed))⟩
    · exact .inr ⟨e, activeEntry_of hk' he', .refl e⟩
  | @staged _ _ _ now c _ _ hnew =>
    rcases hr.expireLocked_cases hk he now with ⟨hnone, hlapsed⟩ | ⟨hk', he'⟩
    · exact .inl ⟨hnone, e, hcur, .inr (.inr (hexpires rfl hlapsed))⟩
    refine .inr ⟨e, activeEntry_of hk' ?_, .refl e⟩
    have hne : k ≠ c.key := by
      rintro rfl
      rw [hnew] at he'
      cases he'
    rw [lookup_addCandidate, if_neg hne, he', filter_some, supersededBy_of_active hst]
    rfl
  | @lapsed _ _ _ _ hc hclock hlapsed =>
    rcases hr.deactivate_cases hk he hc with ⟨hnone, rfl⟩ | ⟨hk', hne⟩
    · exact .inl ⟨hnone, e, hcur, .inr (.inr (hexpires hclock hlapsed))⟩
    · exact .inr ⟨e, activeEntry_of hk' (lookup_lapse.trans ((if_neg hne).trans he)), .refl e⟩
  | @readied _ c hc hstaged =>
    have hne : k ≠ c.key := key_ne_of_state he hc (by rw [hst, hstaged]; nofun)
    exact .inr ⟨e, activeEntry_of hk (lookup_ready.trans ((if_neg hne).trans he)), .refl e⟩
  | @activated _ _ c hc hready hfence =>
    have hne : k ≠ c.key := key_ne_of_state he hc (by rw [hst, hready]; nofun)
    by_cases hhost : h = c.host
    · -- the entry is the previous one, and the new one has passed the fence
      subst hhost
      have hprev : r.previous c = some e := by
        rw [previous, previousKey_eq_some_iff.mpr ⟨hk, hne⟩]
        exact he
      refine .inr ⟨_, activeEntry_of (active_select.trans (if_pos rfl)) (lookup_select.trans (if_pos rfl)), ?_⟩
      exact le_of_fences (hfence e hprev)
    · refine .inr ⟨e, activeEntry_of (active_select.trans ((if_neg hhost).trans hk)) ?_, .refl e⟩
      rw [lookup_select, if_neg hne, lookup_retirePrevious_of_ne, he]
      intro hprev
      have hown := (hr.of_active (previousKey_eq_some_iff.mp hprev).1 he).2
      exact hhost ((hr.of_active hk he).2.symm.trans hown)
  | @dropped _ c hc hreplaced =>
    have hne : k ≠ c.key := by
      rintro rfl
      obtain rfl := mem_unique he hc
      exact hreplaced hst (hr.active_of he hst)
    exact .inr ⟨e, activeEntry_of hk (lookup_drop.trans ((if_neg hne).trans he)), .refl e⟩
  | @revoked _ _ _ hc =>
    rcases hr.deactivate_cases hk he hc with ⟨hnone, rfl⟩ | ⟨hk', hne⟩
    · exact .inl ⟨hnone, e, hcur, .inr (.inl (by simp [Action.revokes]))⟩
    · exact .inr ⟨e, activeEntry_of hk' (lookup_drop.trans ((if_neg hne).trans he)), .refl e⟩
  | closed => exact .inl ⟨by simp, e, hcur, .inl rfl⟩

omit hk he

theorem Coherent.activeEntry (hr : r.Coherent) (he : r.activeEntry h = some e) :
    ∃ k, r.active.lookup h = some k ∧ r.entries.lookup k = some e ∧ e.state = .active := by
  obtain ⟨k, hk, hlookup⟩ := bind_eq_some_iff.mp he
  exact ⟨k, hk, hlookup, (hr.of_active hk hlookup).1⟩

/-- **Along a run** whose transitions do not end the host's certificate, the host keeps an active certificate and its
    generations do not decrease. -/
theorem succession_run {s : Registry} {tr : Trace Registry Action} (hs : s.Coherent)
    (hrun : Run (step x) s tr r) (he : s.activeEntry h = some e) (hkept : ∀ t ∈ tr, ¬ Ended t h) :
    ∃ e', r.activeEntry h = some e' ∧ Succeeds e e' := by
  have hinv : r.Coherent ∧ ∃ e', r.activeEntry h = some e' ∧ Succeeds e e' := by
    refine hrun.invariant_on (I := fun q => q.Coherent ∧ ∃ e', q.activeEntry h = some e' ∧ Succeeds e e')
      (C := fun t => ¬ Ended t h) ?_ hkept ⟨hs, e, he, .refl e⟩
    rintro q l q' hnot ⟨hq, e₁, he₁, hle⟩ hstep
    cases hstep
    obtain ⟨_, hk, hlookup, hst⟩ := hq.activeEntry he₁
    refine ⟨hq.effect (call_effect x q l), ?_⟩
    rcases succession hk hlookup hq (call_effect x q l) hst with hend | ⟨e₂, he₂, hle₂⟩
    · exact absurd hend hnot
    · exact ⟨e₂, he₂, hle.trans hle₂⟩
  exact hinv.2

/-- **Active certificate coherence.** The table of active certificates points exactly to the active entries, of which a
    host key has at most one. A host key that has an active certificate is left without one only by a revocation of it,
    by its expiry, or by `Close`. And between two points of a run with none of these in between, the domain generation
    and the certificate generation of the host key's active certificate do not decrease. -/
theorem active_coherent (x : External) (maximumCertificateLife : Duration) (tr : Trace Registry Action)
    (r : Registry) (hrun : Run (step x) (newRegistry maximumCertificateLife) tr r) :
    (∀ h k, r.active.lookup h = some k ↔ ∃ e, r.entries.lookup k = some e ∧ e.state = .active ∧ e.host = h)
      ∧ (∀ k k' e e', r.entries.lookup k = some e → r.entries.lookup k' = some e' → e.state = .active →
          e'.state = .active → e.host = e'.host → k = k')
      ∧ (∀ t ∈ tr, ∀ h, (t.pre.active.lookup h).isSome = true → t.post.active.lookup h = none → Ended t h)
      ∧ (∀ tr₁ t tr₂ t' tr₃, tr = tr₁ ++ t :: (tr₂ ++ t' :: tr₃) → ∀ h, (∀ u ∈ tr₂ ++ [t'], ¬ Ended u h) →
          ∀ e e', t.post.activeEntry h = some e → t'.post.activeEntry h = some e' →
            e.binding.domainGeneration ≤ e'.binding.domainGeneration
              ∧ e.binding.certificateGeneration ≤ e'.binding.certificateGeneration) := by
  have hr : r.Coherent := coherent_new.run hrun
  refine ⟨?_, ?_, ?_, ?_⟩
  · intro h k
    constructor
    · exact fun hk => hr.row hk
    · rintro ⟨e, he, hst, rfl⟩
      exact hr.active_of he hst
  · intro k k' e e' he he' hst hst' hhost
    have hk := hr.active_of he hst
    rw [hhost, hr.active_of he' hst'] at hk
    exact (some.inj hk).symm
  · intro t ht h hsome hnone
    obtain ⟨_, _, _, hrun₁, hstep, _⟩ := hrun.split ht
    have hpre : t.pre.Coherent := coherent_new.run hrun₁
    obtain ⟨_, hk⟩ := isSome_iff_exists.mp hsome
    obtain ⟨_, he, hst, _⟩ := hpre.row hk
    have hpost := some.inj hstep
    rcases succession hk he hpre (call_effect x t.pre t.label) hst with hend | ⟨e', he', _⟩
    · rw [hpost] at hend
      exact hend
    rw [hpost] at he'
    obtain ⟨_, hk', _⟩ := bind_eq_some_iff.mp he'
    rw [hnone] at hk'
    cases hk'
  · intro tr₁ t tr₂ t' tr₃ heq h hkept e e' he he'
    rw [heq] at hrun
    obtain ⟨hrun₁, hstep, hrest⟩ := hrun.through
    have hpost : t.post.Coherent := (coherent_new.run hrun₁).step hstep
    obtain ⟨hrun₂, hstep', _⟩ := hrest.through
    obtain ⟨_, he'', hle⟩ := succession_run hpost (hrun₂.tail hstep') he hkept
    rw [he'] at he''
    cases he''
    exact hle

/-- Two certificate generations of one domain, one after the other. -/
def replacement : List Action :=
  [1, 2].flatMap (fun g => [stageSample, readySample, activateSample].map (fun f => f (sampleBinding "domain-a" g)))

/-- The second generation replaces the first. -/
theorem active_coherent_replaced :
    ∃ r, exec (step sampleExternal) (newRegistry 0) replacement = some r ∧ r.entries.entries.length = 2
      ∧ ∃ e, r.entries.lookup (bindingKey (sampleBinding "domain-a" 2)) = some e ∧ e.state = .active
        ∧ e.host = "e:www.example" := by
  have h : (exec (step sampleExternal) (newRegistry 0) replacement).isSome = true := by decide +kernel
  obtain ⟨hex, _⟩ := active_coherent sampleExternal 0 _ _ (exec_getD_run h)
  exact ⟨_, exec_getD h, by decide +kernel, (hex _ _).mp (by decide +kernel)⟩

end Registry

end PaperboatTunnel.TLSCert
