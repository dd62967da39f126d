import PaperboatTunnel.TLSCert.Moves

/-!
# `Tables` — the two tables of the registry

`Coherent` is the invariant of the tables: an entry stands under its own key, and the table of active certificates points
exactly to the active entries. `Inherited` says where entries come from: only `stage` brings in a binding that is active
or may become so.
-/

namespace PaperboatTunnel.TLSCert

open GoTime TransitionSystem Selection Entry Option GoMap

def Entry.waiting (e : Entry) : Bool := e.state == .staged || e.state == .ready

/-- The entry is active or may become so. -/
def Entry.pursued (e : Entry) : Bool := e.waiting || e.state == .active

namespace Registry

variable {x : External} {r r' : Registry} {a : Action} {e e' p : Entry} {k h : String} {now now' : Time}

/-- Entries stand under their keys, and the table of active certificates points to the active ones. -/
structure Coherent (r : Registry) : Prop where
  keyed : ∀ k e, r.entries.lookup k = some e → e.key = k
  points : Points liveHost r.entries.lookup r.active.lookup

theorem coherent_new {life : Duration} : (newRegistry life).Coherent where
  keyed _ _ h := by simp [newRegistry] at h
  points _ _ := by simp [newRegistry]

variable (hr : r.Coherent)

include hr

theorem Coherent.row (hk : r.active.lookup h = some k) :
    ∃ e, r.entries.lookup k = some e ∧ e.state = .active ∧ e.host = h := by
  obtain ⟨e, he, hlive⟩ := hr.points.row hk
  exact ⟨e, he, liveHost_eq_some_iff.mp hlive⟩

theorem Coherent.of_active (hk : r.active.lookup h = some k) (he : r.entries.lookup k = some e) :
    e.state = .active ∧ e.host = h := by
  obtain ⟨_, he', hact⟩ := hr.row hk
  obtain rfl := mem_unique he he'
  exact hact

theorem Coherent.active_of (he : r.entries.lookup k = some e) (hst : e.state = .active) :
    r.active.lookup e.host = some k :=
  hr.points.of_row he (liveHost_eq_some_iff.mpr ⟨hst, rfl⟩)

/-! ## Each change keeps the tables coherent -/

omit hr in
theorem due_iff : due now e = true ↔ e.state = .active ∧ e.lapsed now now = true := by
  simp [due]

/-- Under coherent tables `expireLocked` takes away the pointers to the entries it expires, and no others. -/
theorem Coherent.active_expireLocked_iff (he : r.entries.lookup k = some e) :
    (r.expireLocked now).active.lookup h = some k ↔ r.active.lookup h = some k ∧ due now e = false := by
  rw [active_expireLocked]
  refine and_congr_right (fun hk => ?_)
  have hhost := (hr.of_active hk he).2
  constructor
  · intro hnone
    by_contra hdue
    exact hnone k e he (Bool.eq_true_of_not_eq_false hdue) hhost
  intro hdue k' e'' he'' hdue'' hhost''
  -- the entry for this host is the only active one
  have hk' : k' = k := by
    have hpoints := hr.active_of he'' (due_iff.mp hdue'').1
    rw [hhost'', hk] at hpoints
    exact (some.inj hpoints).symm
  subst hk'
  obtain rfl := mem_unique he he''
  rw [hdue] at hdue''
  cases hdue''

theorem Coherent.expireLocked (now : Time) : (r.expireLocked now).Coherent where
  keyed k e he := by
    rw [lookup_expireLocked] at he
    obtain ⟨e', he', rfl⟩ := map_eq_some_iff.mp he
    split
    · exact hr.keyed k e' he'
    · exact hr.keyed k e' he'
  points := by
    refine hr.points.release (fun k => ∃ e, r.entries.lookup k = some e ∧ due now e = true) ?_ ?_ ?_
    · rintro k ⟨e, he, hdue⟩
      rw [lookup_expireLocked, he, map_some, if_pos hdue, bind_some]
      exact liveHost_eq_none nofun
    · intro k hkept
      rw [lookup_expireLocked]
      cases he : r.entries.lookup k with
      | none => rfl
      | some e =>
        have hdue : ¬ due now e = true := fun hdue => hkept ⟨e, he, hdue⟩
        rw [map_some, if_neg hdue]
    · intro h k
      cases he : r.entries.lookup k with
      | none =>
        have hnone : ∀ i, r.active.lookup i ≠ some k := by
          intro i hk
          obtain ⟨_, he', _⟩ := hr.row hk
          rw [he] at he'
          cases he'
        rw [active_expireLocked]
        simp [hnone]
      | some => simp [hr.active_expireLocked_iff he]

variable (he : r.entries.lookup e.key = some e)

include he

/-- `deactivate` takes away the pointer to the entry, if there is one. -/
theorem Coherent.active_deactivate_iff :
    (r.deactivate e).active.lookup h = some k ↔ r.active.lookup h = some k ∧ k ≠ e.key := by
  -- whatever points to the entry is its own host
  have hown : ∀ i, r.active.lookup i = some e.key → i = e.host := fun i hi => (hr.of_active hi he).2.symm
  unfold deactivate
  split
  case isTrue hpoints =>
    rw [lookup_erase_eq]
    split
    case isTrue hh =>
      subst hh
      rw [hpoints]
      simp [eq_comm]
    case isFalse hh =>
      refine (and_iff_left_of_imp ?_).symm
      rintro hk rfl
      exact hh (hown h hk)
  case isFalse hpoints =>
    refine (and_iff_left_of_imp ?_).symm
    rintro hk rfl
    obtain rfl := hown h hk
    exact hpoints hk

omit he in
theorem Coherent.keyed_put : ∀ k x, (r.put e).entries.lookup k = some x → x.key = k := by
  exact forall_insert hr.keyed rfl

omit he in
theorem Coherent.keyed_drop : ∀ k x, (r.drop e).entries.lookup k = some x → x.key = k := by
  exact fun k x hx => hr.keyed k x (lookup_of_erase hx).2

theorem Coherent.lapse : (r.lapse e).Coherent where
  keyed k x hx := hr.keyed_put k x hx
  points := by
    refine hr.points.release (fun k => k = e.key) ?_ ?_ (fun h k => hr.active_deactivate_iff he)
    · rintro k rfl
      rw [lookup_lapse, if_pos rfl, bind_some]
      exact liveHost_eq_none nofun
    · intro k hk
      rw [lookup_lapse, if_neg hk]

theorem Coherent.ready (hst : e.state = .staged) : (r.put { e with state := .ready }).Coherent where
  keyed := hr.keyed_put
  points := by
    have hbefore : liveHost e = none := liveHost_eq_none (by rw [hst]; nofun)
    have hafter : liveHost { e with state := .ready } = none := liveHost_eq_none nofun
    refine hr.points.congr (fun k => ?_)
    rw [lookup_ready]
    split
    case isTrue hk => rw [hk, he, bind_some, bind_some, hbefore, hafter]
    case isFalse => rfl

omit he in
theorem Coherent.addCandidate (hnew : r.entries.lookup e.key = none) (hst : e.state = .staged) :
    (r.addCandidate e).Coherent where
  keyed := by
    refine forall_insert (fun k p hp => ?_) rfl
    rw [lookup_filter] at hp
    exact hr.keyed k p (filter_eq_some_iff.mp hp).1
  points := by
    refine hr.points.congr (fun k => ?_)
    rw [lookup_addCandidate]
    split
    case isTrue hk =>
      rw [hk, hnew, bind_some, liveHost_eq_none (by rw [hst]; nofun)]
      rfl
    case isFalse =>
      cases hold : r.entries.lookup k with
      | none => rfl
      | some old =>
        by_cases hact : old.state = .active
        · rw [filter_some, supersededBy_of_active hact]
          rfl
        -- only entries that are not active are superseded
        rw [bind_some, liveHost_eq_none hact, filter_some]
        split
        · exact liveHost_eq_none hact
        · rfl

theorem Coherent.drop (hst : e.state ≠ .active) : (r.drop e).Coherent where
  keyed := hr.keyed_drop
  points := by
    refine hr.points.congr (fun k => ?_)
    rw [lookup_drop]
    split
    case isTrue hk => rw [hk, he, bind_some, liveHost_eq_none hst]; rfl
    case isFalse => rfl

theorem Coherent.revoke : ((r.deactivate e).drop e).Coherent where
  keyed := hr.keyed_drop
  points := by
    refine hr.points.release (fun k => k = e.key) ?_ ?_ (fun h k => hr.active_deactivate_iff he)
    · rintro k rfl
      rw [lookup_drop, if_pos rfl]
      rfl
    · intro k hk
      rw [lookup_drop, if_neg hk]
      rfl

omit he

omit hr

/-! ## Activation -/

theorem previousKey_eq_some_iff : r.previousKey e = some k ↔ r.active.lookup e.host = some k ∧ k ≠ e.key := by
  simp [previousKey, filter_eq_some_iff]

theorem active_retirePrevious : (r.retirePrevious e now).active = r.active := by
  unfold retirePrevious
  repeat' split
  all_goals rfl

theorem lookup_retirePrevious_of_ne (hk : r.previousKey e ≠ some k) :
    (r.retirePrevious e now).entries.lookup k = r.entries.lookup k := by
  unfold retirePrevious
  split
  · rfl
  next k' hprev =>
  have hne : k ≠ k' := by
    rintro rfl
    exact hk hprev
  split
  · rfl
  repeat' split
  · rfl
  · exact lookup_erase_eq.trans (if_neg hne)
  · exact lookup_insert_eq.trans (if_neg hne)

theorem lookup_retirePrevious (now : Time) (hk : r.previousKey e = some k) (hp : r.entries.lookup k = some p)
    (hst : p.state = .active) :
    (r.retirePrevious e now).entries.lookup k = none
      ∨ (r.retirePrevious e now).entries.lookup k = some { p with state := .retired, retiredAt := now } := by
  unfold retirePrevious
  rw [hk]
  dsimp only
  rw [hp]
  dsimp only
  rw [if_neg (not_not.mpr hst)]
  split
  · exact .inl (lookup_erase_eq.trans (if_pos rfl))
  · exact .inr (lookup_insert_eq.trans (if_pos rfl))

/-- What is left beside the entry was there before, or is the previous one, retired. -/
theorem Coherent.of_retirePrevious (hr : r.Coherent) (he' : (r.retirePrevious e now).entries.lookup k = some e') :
    r.entries.lookup k = some e'
      ∨ ∃ p, r.entries.lookup k = some p ∧ e' = { p with state := .retired, retiredAt := now } := by
  by_cases hprev : r.previousKey e = some k
  · obtain ⟨p, hp, hact, _⟩ := hr.row (previousKey_eq_some_iff.mp hprev).1
    rcases lookup_retirePrevious now hprev hp hact with hnone | hret
    · rw [hnone] at he'
      cases he'
    · rw [hret] at he'
      exact .inr ⟨p, hp, (some.inj he').symm⟩
  · rw [lookup_retirePrevious_of_ne hprev] at he'
    exact .inl he'

theorem lookup_select : (r.select e now).entries.lookup k
      = if k = e.key then some { e with state := .active, activatedAt := now }
        else (r.retirePrevious e now).entries.lookup k := by
  have hkey : key { e with state := .active, activatedAt := now } = e.key := rfl
  unfold select
  dsimp only
  rw [lookup_put_of hkey]

theorem active_select : (r.select e now).active.lookup h = if h = e.host then some e.key else r.active.lookup h := by
  unfold select
  dsimp only
  rw [lookup_insert_eq]
  change (if h = e.host then some e.key else (r.retirePrevious e now).active.lookup h) = _
  rw [active_retirePrevious]

/-- **Activation moves the pointer** from the previous entry to the new one. -/
theorem Coherent.select (hr : r.Coherent) (he : r.entries.lookup e.key = some e) (hst : e.state = .ready) :
    (r.select e now).Coherent where
  keyed k x hx := by
    rw [lookup_select] at hx
    split at hx
    case isTrue hk =>
      rw [hk, ← some.inj hx]
      rfl
    case isFalse =>
      rcases hr.of_retirePrevious hx with hold | ⟨p, hp, rfl⟩
      · exact hr.keyed k x hold
      · exact hr.keyed k p hp
  points := by
    refine hr.points.select (k := e.key) (i := e.host) ?_ ?_ ?_ ?_ ?_ ?_
    · rw [he, bind_some]
      exact liveHost_eq_none (by rw [hst]; nofun)
    · rw [lookup_select, if_pos rfl]
      exact liveHost_eq_some_iff.mpr ⟨rfl, rfl⟩
    · intro k hk hpoints
      have hprev := previousKey_eq_some_iff.mpr ⟨hpoints, hk⟩
      obtain ⟨_, hp, hact, _⟩ := hr.row hpoints
      rw [lookup_select, if_neg hk]
      rcases lookup_retirePrevious now hprev hp hact with hnone | hret
      · rw [hnone]
        rfl
      · rw [hret, bind_some]
        exact liveHost_eq_none nofun
    · intro k hk hpoints
      rw [lookup_select, if_neg hk, lookup_retirePrevious_of_ne]
      exact fun hprev => hpoints (previousKey_eq_some_iff.mp hprev).1
    · rw [active_select, if_pos rfl]
    · intro i hi
      rw [active_select, if_neg hi]

/-- **Every call keeps the tables coherent.** -/
theorem Coherent.effect (hr : r.Coherent) (h : Effect r a r') : r'.Coherent := by
  cases h with
  | kept => exact hr
  | expired => exact hr.expireLocked _
  | staged hst _ hnew => exact (hr.expireLocked _).addCandidate hnew hst
  | lapsed he => exact hr.lapse he
  | readied he hst => exact hr.ready he hst
  | activated he hst => exact hr.select he hst
  | dropped he hreplaced => exact hr.drop he (fun hact => hreplaced hact (hr.active_of he hact))
  | revoked he => exact hr.revoke he
  | closed => exact { keyed := fun _ _ h => by simp at h, points := fun _ _ => by simp }

theorem Coherent.step (hr : r.Coherent) (h : r.step x a = some r') : r'.Coherent := by
  cases h
  exact hr.effect (call_effect x r a)

theorem Coherent.run {s : Registry} {tr : Trace Registry Action} (hs : s.Coherent)
    (hrun : Run (Registry.step x) s tr r) : r.Coherent :=
  hrun.invariant (·.step ·) hs

/-! ## Where entries come from -/

/-- Each entry of `r'` that is active or may become so was so in `r`. -/
def Inherited (r r' : Registry) : Prop := ∀ k e', r'.entries.lookup k = some e' → e'.pursued = true →
    ∃ e, r.entries.lookup k = some e ∧ e.pursued = true ∧ e.binding = e'.binding ∧ e.hostname = e'.hostname

theorem Inherited.of_lookup
    (h : ∀ k e', r'.entries.lookup k = some e' → e'.pursued = true → r.entries.lookup k = some e') :
    Inherited r r' :=
  fun k e' he' hpursued => ⟨e', h k e' he' hpursued, hpursued, rfl, rfl⟩

/-- What `expireLocked` leaves in these states it has not changed. -/
theorem lookup_of_expireLocked (he : (r.expireLocked now).entries.lookup k = some e) (hpursued : e.pursued) :
    r.entries.lookup k = some e := by
  rw [lookup_expireLocked] at he
  obtain ⟨_, he', rfl⟩ := map_eq_some_iff.mp he
  split at hpursued
  case isTrue => simp [pursued, waiting, expire] at hpursued
  case isFalse hdue => rw [he', if_neg hdue]

/-- An entry after `stage` is the candidate, or was there before. -/
theorem lookup_of_addCandidate (he' : ((r.expireLocked now).addCandidate e).entries.lookup k = some e')
    (hpursued : e'.pursued) : e' = e
      ∨ k ≠ e.key ∧ (r.expireLocked now).entries.lookup k = some e' ∧ r.entries.lookup k = some e' := by
  rw [lookup_addCandidate] at he'
  split at he'
  case isTrue => exact .inl (some.inj he').symm
  case isFalse hk =>
    have hexp := (filter_eq_some_iff.mp he').1
    exact .inr ⟨hk, hexp, lookup_of_expireLocked hexp hpursued⟩

theorem inherited_select (hr : r.Coherent) (he : r.entries.lookup e.key = some e) (hst : e.state = .ready) :
    Inherited r (r.select e now) := by
  intro k e' he' hpursued
  rw [lookup_select] at he'
  split at he'
  case isTrue hk =>
    cases he'
    exact ⟨e, hk ▸ he, by simp [pursued, waiting, hst], rfl, rfl⟩
  case isFalse =>
    rcases hr.of_retirePrevious he' with hold | ⟨_, _, rfl⟩
    · exact ⟨e', hold, hpursued, rfl, rfl⟩
    · simp [pursued, waiting] at hpursued

/-- **Only `stage` brings in a new certificate.** -/
theorem inherited_or_staged (hr : r.Coherent) (heff : Effect r a r') :
    Inherited r r' ∨ ∃ cancelled bundle expected now e, a = .stage cancelled e.binding bundle expected now
      ∧ r' = (r.expireLocked now).addCandidate e ∧ e.state = .staged ∧ e.hostname = e.binding.hostname
      ∧ (r.expireLocked now).foreignActive e = false := by
  cases heff with
  | kept => exact .inl (.of_lookup (fun _ _ he' _ => he'))
  | expired => exact .inl (.of_lookup (fun _ _ => lookup_of_expireLocked))
  | @staged cancelled bundle expected now e hst hhost _ hforeign =>
    exact .inr ⟨cancelled, bundle, expected, now, e, rfl, rfl, hst, hhost, hforeign⟩
  | lapsed =>
    refine .inl (.of_lookup (fun k e' he' hpursued => ?_))
    rw [lookup_lapse] at he'
    split at he'
    case isTrue =>
      cases he'
      simp [pursued, waiting, expire] at hpursued
    case isFalse => exact he'
  | @readied _ e he hst =>
    refine .inl (fun k e' he' hpursued => ?_)
    rw [lookup_ready] at he'
    split at he'
    case isTrue hk =>
      cases he'
      exact ⟨e, hk ▸ he, by simp [pursued, waiting, hst], rfl, rfl⟩
    case isFalse => exact ⟨e', he', hpursued, rfl, rfl⟩
  | activated he hst => exact .inl (inherited_select hr he hst)
  | dropped | revoked =>
    refine .inl (.of_lookup (fun k e' he' _ => ?_))
    exact (lookup_of_erase he').2
  | closed => exact .inl (.of_lookup (fun k e' he' _ => by simp at he'))

/-! ## Sample values -/

/-- The certificate file is its only byte, which is also its fingerprint, and is valid for an hour. -/
def sampleExternal : External where
  toASCII := some
  x509KeyPair certificate _ := some [certificate]
  parseCertificate raw := some ⟨raw, Time.unixEpoch, Time.unixEpoch.add Duration.hour⟩
  verifyHostname _ _ := true
  sum256 raw := ⟨List.replicate 32 (raw.headD 0), List.length_replicate⟩

def sampleBinding (domainID : String) (certificateGeneration : UInt64) : Binding where
  accountID := "acct"
  tunnelID := "tunnel"
  domainID := domainID
  hostname := "www.example"
  targetKind := .unset
  routeID := ""
  previewID := ""
  previewGeneration := 0
  previewState := ""
  previewExpiresAt := {}
  onDemandLeaf := false
  domainGeneration := 1
  certificateGeneration := certificateGeneration
  edgeNodeID := "node"
  edgeProcessEpoch := "epoch-01"
  assignmentGeneration := 1

def sampleBundle : Bundle where
  certificatePEM := [7]
  privateKeyPEM := [1]
  issuer := "issuer"

def stageSample (b : Binding) : Action := .stage false b sampleBundle none Time.unixEpoch

def readySample (b : Binding) : Action := .markReady false b none Time.unixEpoch Time.unixEpoch

def activateSample (b : Binding) : Action := .activate false b none Time.unixEpoch

end Registry

end PaperboatTunnel.TLSCert
