import PaperboatTunnel.Lib.Selection
import PaperboatTunnel.TLSCert.Registry

/-!
# `Moves` — what a call can do to the registry

`Effect` lists the changes that a call can make, each with what it has checked (`call_effect`), and the lemmas before it
say what each change does to the lookups.
-/

namespace PaperboatTunnel.TLSCert

open GoTime TransitionSystem Selection Option GoMap

namespace Action

/-- The readings of the clock by which a call expires entries. -/
def readings : Action → Option (Time × Time)
  | .stage _ _ _ _ now => some (now, now)
  | .markReady _ _ _ now now' => some (now, now')
  | .activate _ _ _ now => some (now, now)
  | .getCertificate _ now => some (now, now)
  | .requiresExactCertificate _ now => some (now, now)
  | .snapshot now => some (now, now)
  | _ => none

/-- The entry has expired when the call reads the clock. -/
def expires (a : Action) (e : Entry) : Bool := a.readings.any (fun t => e.lapsed t.1 t.2)

def revokes (a : Action) (b : Binding) : Bool :=
  match a with
  | .revoke _ b' _ => decide (b' = b)
  | _ => false

end Action

namespace Registry

variable {x : External} {r r' : Registry} {a : Action} {e p : Entry} {b : Binding} {k h : String} {now now' : Time}
  {cancelled : Bool} {exp : Option Fingerprint}

theorem eq_of_checkBinding {b' : Binding} {wildcard : Bool}
    (hcheck : checkBinding x cancelled b = .ok (b', wildcard)) : b' = b := by
  unfold checkBinding at hcheck
  rw [Checks.ok_iff] at hcheck
  obtain ⟨_, hval⟩ := hcheck
  split at hval
  · cases hval
  next host wildcard' hvalidate =>
  cases hval
  rw [← Binding.hostname_of_validate hvalidate]

theorem find_eq_some_iff : r.find b = some e ↔ r.entries.lookup e.key = some e ∧ e.binding = b := by
  unfold find
  rw [filter_eq_some_iff]
  constructor
  · rintro ⟨hlookup, hbind⟩
    have hbind := of_decide_eq_true hbind
    exact ⟨by rw [Entry.key, hbind]; exact hlookup, hbind⟩
  · rintro ⟨hlookup, rfl⟩
    exact ⟨hlookup, by simp⟩

/-! ## Lookups -/

/-- The host key for which an entry is active. -/
def liveHost (e : Entry) : Option String := if e.state = .active then some e.host else none

theorem liveHost_eq_some_iff : liveHost e = some h ↔ e.state = .active ∧ e.host = h := by
  unfold liveHost
  rw [ite_none_right_eq_some, some.injEq]

theorem liveHost_eq_none (hst : e.state ≠ .active) : liveHost e = none := if_neg hst

theorem lookup_put : (r.put e).entries.lookup k = if k = e.key then some e else r.entries.lookup k :=
  lookup_insert_eq

theorem lookup_put_of (hkey : p.key = e.key) :
    (r.put p).entries.lookup k = if k = e.key then some p else r.entries.lookup k := by
  rw [lookup_put, hkey]

theorem entries_deactivate : (r.deactivate e).entries = r.entries := rfl

theorem lookup_lapse : (r.lapse e).entries.lookup k = if k = e.key then some e.expire else r.entries.lookup k := by
  have hkey : e.expire.key = e.key := rfl
  rw [lapse, entries_deactivate, lookup_put_of hkey]

theorem lookup_ready : (r.put { e with state := .ready }).entries.lookup k
      = if k = e.key then some { e with state := .ready } else r.entries.lookup k := by
  have hkey : Entry.key { e with state := .ready } = e.key := rfl
  rw [lookup_put_of hkey]

theorem lookup_drop : (r.drop e).entries.lookup k = if k = e.key then none else r.entries.lookup k :=
  lookup_erase_eq

theorem lookup_expireLocked : (r.expireLocked now).entries.lookup k
      = (r.entries.lookup k).map (fun e => if due now e then e.expire else e) :=
  lookup_mapValues

theorem active_expireLocked : (r.expireLocked now).active.lookup h = some k ↔
      r.active.lookup h = some k ∧ ∀ k' e, r.entries.lookup k' = some e → due now e = true → e.host ≠ h := by
  unfold expireLocked
  rw [GoMap.lookup_filter, Option.filter_eq_some_iff]
  refine and_congr_right (fun _ => ?_)
  simp only [Bool.not_eq_true', List.any_eq_false, GoMap.mem_values_iff, Bool.and_eq_true, beq_iff_eq, not_and,
    forall_exists_index]
  exact ⟨fun hall k' e he => hall e k' he, fun hall e k' he => hall k' e he⟩

theorem lookup_addCandidate : (r.addCandidate e).entries.lookup k
      = if k = e.key then some e else (r.entries.lookup k).filter (fun old => !old.supersededBy e) := by
  unfold addCandidate
  rw [lookup_put]
  simp only [lookup_filter]

theorem supersededBy_of_active (hst : e.state = .active) : e.supersededBy p = false := by
  simp [Entry.supersededBy, hst]

theorem le_of_fences (hfence : p.fences e = false) : p.binding.domainGeneration ≤ e.binding.domainGeneration
      ∧ p.binding.certificateGeneration ≤ e.binding.certificateGeneration := by
  simp only [Entry.fences, Bool.or_eq_false_iff, decide_eq_false_iff_not, UInt64.not_lt] at hfence
  obtain ⟨⟨⟨⟨hdomain, hcertificate⟩, _⟩, _⟩, _⟩ := hfence
  exact ⟨hdomain, hcertificate⟩

/-! ## Effects -/

inductive Effect (r : Registry) : Action → Registry → Prop where
  | kept {a : Action} : Effect r a r
  | expired {a : Action} {now} (hclock : a.readings = some (now, now)) : Effect r a (r.expireLocked now)
  | staged {cancelled bundle expected now e}
      (hstate : e.state = .staged) (hhostname : e.hostname = e.binding.hostname)
      (hnew : (r.expireLocked now).entries.lookup e.key = none)
      (hforeign : (r.expireLocked now).foreignActive e = false) :
      Effect r (.stage cancelled e.binding bundle expected now) ((r.expireLocked now).addCandidate e)
  | lapsed {a : Action} {now now' e} (he : r.entries.lookup e.key = some e)
      (hclock : a.readings = some (now, now')) (hlapsed : e.lapsed now now' = true) : Effect r a (r.lapse e)
  | readied {a : Action} {e} (he : r.entries.lookup e.key = some e) (hstate : e.state = .staged) :
      Effect r a (r.put { e with state := .ready })
  | activated {a : Action} {now e} (he : r.entries.lookup e.key = some e) (hstate : e.state = .ready)
      (hfence : ∀ p, r.previous e = some p → p.fences e = false) : Effect r a (r.select e now)
  | dropped {a : Action} {e} (he : r.entries.lookup e.key = some e)
      (hreplaced : e.state = .active → r.active.lookup e.host ≠ some e.key) : Effect r a (r.drop e)
  | revoked {cancelled : Bool} {expected e} (he : r.entries.lookup e.key = some e) :
      Effect r (.revoke cancelled e.binding expected) ((r.deactivate e).drop e)
  | closed : Effect r .close { r with closed := true, entries := ∅, active := ∅ }

theorem stage_effect {bundle : Bundle} :
    Effect r (.stage cancelled b bundle exp now) (r.stage x cancelled b bundle exp now).1 := by
  fun_cases stage x r cancelled b bundle exp now with
  | case6 b' wildcard hcheck =>
    obtain rfl := eq_of_checkBinding hcheck
    fun_cases stageLocked with
    | case14 hforeign hnew => exact .staged rfl rfl hnew (Bool.eq_false_iff.mpr hforeign)
    | _ => exact .expired rfl
  | _ => exact .kept

theorem markReady_effect :
    Effect r (.markReady cancelled b exp now now') (r.markReady x cancelled b exp now now').1 := by
  fun_cases markReady x r cancelled b exp now now' with
  | case5 _ _ _ _ e hfind _ hlapsed => exact .lapsed (find_eq_some_iff.mp hfind).1 rfl hlapsed
  | case8 _ _ _ _ e hfind _ _ _ hst => exact .readied (find_eq_some_iff.mp hfind).1 (not_not.mp hst)
  | _ => exact .kept

theorem activate_effect : Effect r (.activate cancelled b exp now) (r.activate x cancelled b exp now).1 := by
  fun_cases activate x r cancelled b exp now with
  | case5 _ _ _ _ e hfind _ hlapsed => exact .lapsed (find_eq_some_iff.mp hfind).1 rfl hlapsed
  | case9 _ _ _ _ e hfind _ _ _ hst hfence =>
    refine .activated (find_eq_some_iff.mp hfind).1 (not_not.mp hst) (fun p hp => ?_)
    rw [hp] at hfence
    exact Bool.eq_false_iff.mpr hfence
  | _ => exact .kept

theorem retire_effect : Effect r (.retire cancelled b exp) (r.retire x cancelled b exp).1 := by
  fun_cases retire x r cancelled b exp with
  | case4 _ _ _ e hfind _ hst =>
    exact .dropped (find_eq_some_iff.mp hfind).1 (fun hact => by rw [hst] at hact; cases hact)
  | case7 _ _ _ e hfind _ _ _ hreplaced =>
    exact .dropped (find_eq_some_iff.mp hfind).1 (fun hact hpoints => hreplaced ⟨hact, hpoints⟩)
  | _ => exact .kept

theorem revoke_effect : Effect r (.revoke cancelled b exp) (r.revoke x cancelled b exp).1 := by
  fun_cases revoke x r cancelled b exp with
  | case4 b' _ hcheck e hfind =>
    obtain rfl := eq_of_checkBinding hcheck
    obtain ⟨he, rfl⟩ := find_eq_some_iff.mp hfind
    exact .revoked he
  | _ => exact .kept

/-- `GetCertificate` finds no expired certificate after `expireLocked`, so that it changes nothing itself. -/
theorem serveLocked_eq {host : String} : ((r.expireLocked now).serveLocked host now).1 = r.expireLocked now := by
  unfold serveLocked
  dsimp only
  split
  · rfl
  next e hfound =>
  obtain ⟨hlookup, hst⟩ := filter_eq_some_iff.mp hfound
  obtain ⟨_, _, hk⟩ := bind_eq_some_iff.mp hlookup
  rw [lookup_expireLocked] at hk
  obtain ⟨e', _, rfl⟩ := map_eq_some_iff.mp hk
  have hnot : due now e' = false := by
    by_contra hdue
    rw [Bool.not_eq_false] at hdue
    simp [hdue, Entry.expire] at hst
  rw [hnot] at hst ⊢
  have hafter : e'.notAfter.after now = true := by
    simp only [Bool.false_eq_true, if_false] at hst
    simp only [due, hst, Entry.lapsed, Bool.true_and, Bool.or_eq_false_iff, Bool.not_eq_false'] at hnot
    exact hnot.1
  simp [hafter]

/-- **What a call can do.** -/
theorem call_effect (x : External) (r : Registry) (a : Action) : Effect r a (r.call x a).1 := by
  cases a with
  | stage => exact stage_effect
  | markReady => exact markReady_effect
  | activate => exact activate_effect
  | retire => exact retire_effect
  | revoke => exact revoke_effect
  | getCertificate =>
    unfold call getCertificate
    dsimp only
    split
    · split
      · exact .kept
      · rw [serveLocked_eq]
        exact .expired rfl
    · exact .kept
  | requiresExactCertificate =>
    unfold call requiresExactCertificate
    dsimp only
    split
    · split
      · exact .kept
      · exact .expired rfl
    · exact .kept
  | snapshot => exact .expired rfl
  | close =>
    unfold call close
    dsimp only
    split
    · exact .kept
    · exact .closed

end Registry

end PaperboatTunnel.TLSCert
