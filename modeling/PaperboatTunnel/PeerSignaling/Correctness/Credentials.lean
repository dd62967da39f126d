import PaperboatTunnel.PeerSignaling.Wiring

/-!
# `Credentials` — credentials for one use, and the limits

A credential that has attached an endpoint is in the table of consumed credentials until a reading of the clock reaches
its expiry, and while it is there it attaches nothing (`attached_twice`). The tables stay within their limits, a session
has at most two endpoints, and an admission is released at most once.

`New` does not look at overflows, so a negative limit of consumed credentials can pass. Nothing is consumed then.
-/

namespace PaperboatTunnel.PeerSignaling

open GoTime TransitionSystem List Option GoMap Nat Time

/-- The admission has the expiry that belongs to its credential. -/
def Action.presents (expiry : String → Time) : Action → Bool
  | .attach _ (some a) _ => a.expiresAt.equal (expiry a.credentialID)
  | _ => true

namespace Service

variable {V E : Type} {vs : Validators V E} {s s' s₀ : Service V} {l : Action} {c : String} {t : Time} {config : Config}
  {tr : Trace (Service V) Action}

/-! ## One use -/

theorem frame_complete (s : Service V) (i : Nat) (x : Session V) (role : Role) :
    (s.complete i x role).1.config = s.config ∧ (s.complete i x role).1.consumed = s.consumed
      ∧ (s.complete i x role).1.closed = s.closed ∧ (s.complete i x role).1.releases = s.releases := by
  unfold complete
  split <;> exact ⟨rfl, rfl, rfl, rfl⟩

theorem closed_of_effect (heff : Effect vs s l s') (h : s.closed) : s'.closed = true := by
  cases heff with
  | ended hend | created hend | joined hend => exact hend.closed h
  | completed => exact (frame_complete ..).2.2.1.trans h
  | _ => exact h

/-- **A consumed credential** stays in its table until the service is closed or the clock reaches the expiry. -/
theorem consumed_of_effect (heff : Effect vs s l s') (h : s.consumed.lookup c = some t) :
    s'.consumed.lookup c = some t ∨ s'.closed = true ∨ ∃ now, l.reading = some now ∧ t.after now = false := by
  -- the credential that attaches was not there after the expired ones had been removed
  have hattach {r : Service V} {a : Admission} (hend : Ended s l r)
      (hunused : r.consumed.lookup a.credentialID = none) :
      (r.consumed.insert a.credentialID a.expiresAt).lookup c = some t
        ∨ r.closed = true ∨ ∃ now, l.reading = some now ∧ t.after now = false := by
    rcases hend.expired c t h with hkept | hrest
    · have hne : c ≠ a.credentialID := by
        rintro rfl
        rw [hunused] at hkept
        cases hkept
      rw [lookup_insert_eq, if_neg hne]
      exact .inl hkept
    · exact .inr hrest
  cases heff with
  | ended hend => exact hend.expired c t h
  | @created _ _ _ _ _ r hend _ _ hunused => exact hattach (r := r) hend hunused
  | joined hend _ _ hunused => exact hattach hend hunused
  | completed =>
    left
    dsimp only [setAttachment]
    rw [(frame_complete ..).2.1]
    exact h
  | _ => exact .inl h

/-- **An endpoint attaches** with a credential that was not consumed, or whose time was over, and consumes it. -/
theorem consumed_of_attached (heff : Effect vs s l s') (h : attached vs s l = some c) :
    ∃ cred a now, l = .attach cred (some a) now ∧ a.credentialID = c ∧ a.expiresAt.after now = true
      ∧ s.closed = false ∧ s'.consumed.lookup c = some a.expiresAt
      ∧ ∀ t, s.consumed.lookup c = some t → t.after now = false := by
  have hattach {cred : String} {a : Admission} {now : Time} {r : Service V}
      (h : attached vs s (.attach cred (some a) now) = some c)
      (hend : Ended s (.attach cred (some a) now) r) (hval : validAdmission a now = true)
      (hopen : r.closed = false) (hunused : r.consumed.lookup a.credentialID = none) :
      a.credentialID = c ∧ a.expiresAt.after now = true ∧ s.closed = false
        ∧ (r.consumed.insert a.credentialID a.expiresAt).lookup c = some a.expiresAt
        ∧ ∀ t, s.consumed.lookup c = some t → t.after now = false := by
    have hc : a.credentialID = c := by
      simp only [attached] at h
      exact (ite_none_right_eq_some.mp h).2 |> some.inj
    subst hc
    simp only [validAdmission, Bool.and_eq_true] at hval
    refine ⟨rfl, hval.1.2, ?_, ?_, fun t ht => ?_⟩
    · exact Bool.eq_false_iff.mpr (fun hcl => by rw [hend.closed hcl] at hopen; cases hopen)
    · rw [lookup_insert_eq, if_pos rfl]
    rcases hend.expired _ t ht with hkept | hcl | ⟨now', hreading, hafter⟩
    · rw [hunused] at hkept
      cases hkept
    · rw [hopen] at hcl
      cases hcl
    · obtain rfl : now = now' := some.inj hreading
      exact hafter
  cases heff with
  | ended _ hnot | dismissed hnot =>
    rw [hnot] at h
    cases h
  | @created _ _ _ _ _ r hend hval hopen hunused => exact ⟨_, _, _, rfl, hattach (r := r) h hend hval hopen hunused⟩
  | joined hend hval hopen hunused => exact ⟨_, _, _, rfl, hattach h hend hval hopen hunused⟩
  | _ => cases h

/-- **A credential attaches twice** only when the clock has reached its expiry in between, and has gone back. -/
theorem attached_twice {u₁ u₂ : Transition (Service V) Action} {expiry : String → Time}
    (h₁ : u₁.pre.step vs u₁.label = some u₁.post) (hrun : Run (Service.step vs) u₁.post tr u₂.pre)
    (h₂ : u₂.pre.step vs u₂.label = some u₂.post) (hexpiry₁ : u₁.label.presents expiry)
    (hexpiry₂ : u₂.label.presents expiry) (hattached₁ : attached vs u₁.pre u₁.label = some c)
    (hattached₂ : attached vs u₂.pre u₂.label = some c) :
    ∃ u ∈ tr, ∃ now now', u.label.reading = some now ∧ u₂.label.reading = some now'
      ∧ (expiry c).after now = false ∧ (expiry c).after now' = true := by
  obtain ⟨_, a₁, _, hl₁, rfl, _, _, hcons, _⟩ := consumed_of_attached (step_effect h₁) hattached₁
  obtain ⟨_, a₂, now', hl₂, hc, hafter, hopen, _, hover⟩ := consumed_of_attached (step_effect h₂) hattached₂
  rw [hl₁] at hexpiry₁
  rw [hl₂] at hexpiry₂
  have hsame₁ : a₁.expiresAt.nanos = (expiry a₁.credentialID).nanos := equal_iff.mp hexpiry₁
  have hsame₂ : a₂.expiresAt.nanos = (expiry a₁.credentialID).nanos := by
    rw [← hc]
    exact equal_iff.mp hexpiry₂
  -- until the clock reaches the expiry, the credential is consumed or the service closed
  have hinv : (u₂.pre.consumed.lookup a₁.credentialID = some a₁.expiresAt ∨ u₂.pre.closed = true)
      ∨ ∃ u ∈ tr, ∃ now, u.label.reading = some now ∧ a₁.expiresAt.after now = false := by
    refine hrun.trace_invariant
      (I := fun tr s => (s.consumed.lookup a₁.credentialID = some a₁.expiresAt ∨ s.closed = true)
        ∨ ∃ u ∈ tr, ∃ now, u.label.reading = some now ∧ a₁.expiresAt.after now = false) (.inl (.inl hcons)) ?_
    intro tr s l s' hinv hstep
    rcases hinv with (hlookup | hcl) | ⟨u, hu, hreached⟩
    · rcases consumed_of_effect (step_effect hstep) hlookup with hkept | hcl | hreached
      · exact .inl (.inl hkept)
      · exact .inl (.inr hcl)
      · exact .inr ⟨⟨s, l, s'⟩, by simp, hreached⟩
    · exact .inl (.inr (closed_of_effect (step_effect hstep) hcl))
    · exact .inr ⟨u, mem_append_left _ hu, hreached⟩
  rcases hinv with (hlookup | hcl) | ⟨u, hu, now, hreading, hreached⟩
  · have hover := hover _ hlookup
    rw [after_iff] at hafter
    rw [← Bool.not_eq_true, after_iff] at hover
    omega
  · rw [hopen] at hcl
    cases hcl
  · refine ⟨u, hu, now, now', hreading, by rw [hl₂]; rfl, ?_, ?_⟩
    · rw [← Bool.not_eq_true, after_iff] at hreached ⊢
      omega
    · rw [after_iff] at hafter ⊢
      omega

/-! ## Limits -/

structure Within (config : Config) (s : Service V) : Prop where
  same : s.config = config
  sessions : (s.sessions.entries.length : Int) ≤ config.maximumSessions
  consumed : s.consumed.entries.length ≤ config.maximumConsumed.toNat

theorem sessions_complete_le (s : Service V) (i : Nat) (x : Session V) (role : Role) :
    (s.complete i x role).1.sessions.entries.length ≤ s.sessions.entries.length := by
  unfold complete
  split
  · exact le_refl _
  dsimp only
  split
  · exact length_le_of_lookup (fun _ _ hk => (lookup_of_erase hk).2)
  · exact le_refl _

theorem Within.ended (h : Within config s) (hend : Ended s l s') : Within config s' where
  same := hend.config.trans h.same
  sessions := by
    have hle := length_le_of_lookup hend.sessions
    have hsessions := h.sessions
    omega
  consumed := (length_le_of_lookup hend.consumed).trans h.consumed

theorem Within.effect (h : Within config s) (heff : Effect vs s l s') : Within config s' := by
  have hroom {r : Service V} {a : Admission} (hr : Within config r)
      (hcons : (r.consumed.entries.length : Int) < r.config.maximumConsumed) :
      (r.consumed.insert a.credentialID a.expiresAt).entries.length ≤ config.maximumConsumed.toNat := by
    have hle := length_insert_le (m := r.consumed) (k := a.credentialID) (e := a.expiresAt)
    rw [hr.same] at hcons
    omega
  cases heff with
  | ended hend => exact h.ended hend
  | @created _ a _ _ _ r hend _ _ _ hcons _ hsessions =>
    have hr := h.ended hend
    refine ⟨hr.same, ?_, hroom (r := r) hr hcons⟩
    have hle := length_insert_le (m := r.sessions) (k := a.sessionKey) (e := r.heap.length)
    rw [hr.same] at hsessions
    change ((r.sessions.insert a.sessionKey r.heap.length).entries.length : Int) ≤ _
    omega
  | joined hend _ _ _ hcons =>
    have hr := h.ended hend
    exact ⟨hr.same, hr.sessions, hroom hr hcons⟩
  | @completed _ a _ x =>
    obtain ⟨hconfig, hcons, _, _⟩ := frame_complete s a.session x a.role
    refine ⟨hconfig.trans h.same, ?_, by dsimp only [setAttachment]; rw [hcons]; exact h.consumed⟩
    have hle := sessions_complete_le s a.session x a.role
    have hsessions := h.sessions
    dsimp only [setAttachment]
    omega
  | _ => exact ⟨h.same, h.sessions, h.consumed⟩

theorem WellWired.endpoints_le (hs : s.WellWired) {x : Session V} (hx : x ∈ s.heap) :
    x.endpoints.entries.length ≤ 2 := by
  obtain ⟨i, hi⟩ := mem_iff_getElem?.mp hx
  have hsub : x.endpoints.keys ⊆ [.controlling, .controlled] := by
    intro role hrole
    have hsome : x.wire.admission role ≠ none := by
      rw [ne_eq, Session.wire_admission_eq_none, AList.lookup_eq_none]
      exact fun hnot => hnot hrole
    have hval := (hs.seated i x.wire (getElem?_wires hi)).roles role hsome
    cases role with
    | controlling | controlled => simp
    | other => cases hval
  have hle := (x.endpoints.keys_nodup.subperm hsub).length_le
  simpa [AList.keys, keys] using hle

/-! ## Releases -/

/-- The release function has been called as often as `releaseOnce` has been used. -/
def ReleasedOnce (s : Service V) : Prop := ∀ r ∈ s.releases, r.calls = r.called.toNat

theorem calls_run {r : ReleaseOnce} (h : r.calls = r.called.toNat) : r.run.calls = r.run.called.toNat := by
  unfold ReleaseOnce.run
  split
  · exact h
  next hcalled =>
  rw [Bool.not_eq_true] at hcalled
  rw [hcalled] at h
  simp [h]

theorem ReleasedOnce.ended (h : s.ReleasedOnce) (hend : Ended s l s') : s'.ReleasedOnce := by
  intro r' hr'
  obtain ⟨r, hr, heq⟩ := hend.releases r' hr'
  have hcalls : r.calls = r.called.toNat := by
    rcases mem_cons.mp hr with rfl | hold
    · rfl
    · exact h r hold
  rcases heq with rfl | rfl
  · exact hcalls
  · exact calls_run hcalls

theorem ReleasedOnce.effect (h : s.ReleasedOnce) (heff : Effect vs s l s') : s'.ReleasedOnce := by
  cases heff with
  | ended hend => exact h.ended hend
  | @created _ _ _ _ _ r hend | @joined _ _ _ _ _ _ r _ hend =>
    have hr : r.ReleasedOnce := h.ended hend
    exact hr
  | completed =>
    unfold ReleasedOnce
    dsimp only [setAttachment]
    rw [(frame_complete ..).2.2.2]
    exact h
  | _ => exact h

/-! ## Every run -/

theorem within_new (h : newService config = some s) : Within s.config s := by
  have hlimit : 1 ≤ s.config.maximumSessions := by
    unfold newService at h
    dsimp only at h
    split at h
    · cases h
    next hval =>
    cases h
    dsimp only
    omega
  rw [eq_of_newService h] at hlimit ⊢
  refine ⟨rfl, ?_, zero_le _⟩
  change ((0 : Nat) : Int) ≤ _
  omega

/-- **Credentials are for one use, and everything is bounded.** If a credential always comes with the same expiry, it
    attaches twice only when the clock has been read at or after the expiry in between, and before it again. The tables
    of sessions and of consumed credentials stay within the limits, a session has at most two endpoints, and every
    admission is released at most once. -/
theorem credentials_bounded (hnew : newService config = some s₀) (hrun : Run (Service.step vs) s₀ tr s) :
    (∀ expiry : String → Time, (∀ u ∈ tr, u.label.presents expiry = true) →
      ∀ (tr₁ tr₂ tr₃ : Trace (Service V) Action) (u₁ u₂ : Transition (Service V) Action) (c : String),
        tr = tr₁ ++ u₁ :: (tr₂ ++ u₂ :: tr₃) →
        attached vs u₁.pre u₁.label = some c → attached vs u₂.pre u₂.label = some c →
        ∃ u ∈ tr₂, ∃ now now', u.label.reading = some now ∧ u₂.label.reading = some now'
          ∧ (expiry c).after now = false ∧ (expiry c).after now' = true)
    ∧ (s.sessions.entries.length : Int) ≤ s₀.config.maximumSessions
    ∧ s.consumed.entries.length ≤ s₀.config.maximumConsumed.toNat
    ∧ (∀ x ∈ s.heap, x.endpoints.entries.length ≤ 2)
    ∧ ∀ r ∈ s.releases, r.calls ≤ 1 := by
  have hwithin : Within s₀.config s :=
    hrun.invariant (fun h hstep => h.effect (step_effect hstep)) (within_new hnew)
  have hreleased : s.ReleasedOnce := by
    refine hrun.invariant (fun h hstep => h.effect (step_effect hstep)) ?_
    rw [eq_of_newService hnew]
    exact fun r hr => absurd hr (by simp)
  have hs : s.WellWired := (wellWired_new hnew).run hrun
  refine ⟨fun expiry hexpiry tr₁ tr₂ tr₃ u₁ u₂ c heq hattached₁ hattached₂ => ?_, hwithin.sessions, hwithin.consumed,
    fun x hx => hs.endpoints_le hx, fun r hr => ?_⟩
  · subst heq
    obtain ⟨_, hstep₁, hrest⟩ := hrun.through
    obtain ⟨hbetween, hstep₂, _⟩ := hrest.through
    exact attached_twice hstep₁ hbetween hstep₂ (hexpiry u₁ (by simp)) (hexpiry u₂ (by simp)) hattached₁ hattached₂
  · rw [hreleased r hr]
    exact Bool.toNat_le r.called

def acceptingValidators : Validators Unit Unit := ⟨fun _ => some (), fun _ _ => ((), .ok true)⟩

/-- The first credential attaches, the clock passes its expiry and goes back, and it attaches again. -/
def sampleClockBack : List Action := [attachSample "first" .controlling,
    .attach "second" (some { sampleAdmission "second" .controlling with
      expiresAt := Time.unixEpoch.add (3 * Duration.minute) }) (Time.unixEpoch.add (2 * Duration.minute)),
    attachSample "first" .controlled]

def sampleExpiry (c : String) : Time :=
  Time.unixEpoch.add (if c = "first" then Duration.minute else 3 * Duration.minute)

/-- The clock has been read after the expiry, as `credentials_bounded` says. -/
theorem credentials_bounded_clock_back : ∃ (s₀ s : Service Unit) (u₁ u₂ u₃ : Transition (Service Unit) Action),
      newService sampleConfig = some s₀ ∧ Run (Service.step acceptingValidators) s₀ [u₁, u₂, u₃] s
      ∧ attached acceptingValidators u₁.pre u₁.label = some "first"
      ∧ attached acceptingValidators u₃.pre u₃.label = some "first"
      ∧ (∃ u ∈ [u₂], ∃ now now', u.label.reading = some now ∧ u₃.label.reading = some now'
          ∧ (sampleExpiry "first").after now = false ∧ (sampleExpiry "first").after now' = true)
      ∧ s.consumed.entries.length ≤ s₀.config.maximumConsumed.toNat := by
  let s₀ : Service Unit := { config := sampleConfig.withDefaults }
  let tr := trace (Service.step acceptingValidators) s₀ sampleClockBack
  have hnew : newService sampleConfig = some s₀ := rfl
  obtain ⟨hsome, hattached, hpresents⟩ : (exec (Service.step acceptingValidators) s₀ sampleClockBack).isSome = true
      ∧ tr.map (fun u => attached acceptingValidators u.pre u.label) = [some "first", some "second", some "first"]
      ∧ tr.all (fun u => u.label.presents sampleExpiry) = true := by decide +kernel
  have hrun : Run (Service.step acceptingValidators) s₀ tr _ := exec_getD_run hsome
  obtain ⟨u₁, u₂, u₃, htrace⟩ := List.length_eq_three.mp (by simpa using congrArg List.length hattached)
  rw [htrace] at hrun hattached hpresents
  simp only [List.map_cons, List.map_nil, List.cons.injEq, and_true] at hattached
  obtain ⟨h₁, _, h₃⟩ := hattached
  obtain ⟨htwice, _, hcons, _⟩ := credentials_bounded hnew hrun
  refine ⟨s₀, _, u₁, u₂, u₃, hnew, hrun, h₁, h₃, ?_, hcons⟩
  exact htwice sampleExpiry (List.all_eq_true.mp hpresents) [] [u₂] [] u₁ u₃ "first" rfl h₁ h₃

end Service

end PaperboatTunnel.PeerSignaling
