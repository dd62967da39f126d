import PaperboatTunnel.Lib.GoTime
import PaperboatTunnel.Lib.Transition

/-!
# `Snapshot` — watching for the revocation of a credential

`ReplaceRevocations` closes the channel of every watch that the new document revokes. Each section under the lock is
one step. `watches` are all watches ever returned; those in the map `watchers` of the source are `registered`.
-/

namespace PaperboatTunnel.Auth

open GoTime TransitionSystem Table List Option

def maximumRevocationWatchers : Nat := 8192

/-- What a document can name of `admission.Claims`. -/
structure Claims where
  (jti environmentID keyID machineID connectorID : String := "")
  connectorGeneration : UInt64 := 0

structure RevocationDocument where
  (jtis environments keyIDs : List String := [])
  connectors : List (String × String × UInt64) := []

namespace RevocationDocument

variable (d : RevocationDocument)

/-- The checks of `ReplaceRevocations`. -/
def valid : Bool :=
  d.jtis.length + d.environments.length + d.connectors.length + d.keyIDs.length ≤ 10000
    && (d.jtis ++ d.environments ++ d.keyIDs).all (· != "")
    && d.connectors.all (fun c => c.1 != "" && c.2.1 != "" && c.2.2 != 0)

/-- `revokedLocked` -/
def revokes (c : Claims) : Bool :=
  d.jtis.contains c.jti || d.environments.contains c.environmentID
    || d.connectors.contains (c.machineID, c.connectorID, c.connectorGeneration) || d.keyIDs.contains c.keyID

end RevocationDocument

/-- A watch, and how often its channel `done` was closed. -/
structure Watch where
  claims : Claims
  (registered released : Bool := false)
  closes : Nat := 0

namespace Watch

/-- A watch when a new document is there. -/
def review (d : RevocationDocument) (w : Watch) : Watch :=
  if w.registered && d.revokes w.claims then { w with registered := false, closes := w.closes + 1 } else w

/-- The function that `Watch` returns. -/
def release (w : Watch) : Watch := { w with registered := false, released := true }

end Watch

structure Snapshot where
  revocations : RevocationDocument := {}
  revocationMaxAge : Duration := 0
  revocationUpdatedAt : Time := {}
  watches : List Watch := []

/-- A document is `none` if its text is too long or not strict JSON. -/
inductive Section where
  | watch (claims : Claims) (now : Time)
  | replaceRevocations (document : Option RevocationDocument) (now : Time)
  | release (i : Nat)

namespace Snapshot

variable (s : Snapshot)

def revocationsFreshLocked (now : Time) : Bool :=
  s.revocationMaxAge ≤ 0 || (!s.revocationUpdatedAt.isZero && !now.before s.revocationUpdatedAt
    && now.sub s.revocationUpdatedAt ≤ s.revocationMaxAge)

/-- `len(s.watchers)` -/
def registered : Nat := s.watches.countP Watch.registered

def step : Section → Option Snapshot
  | .watch claims now =>
    if claims.jti = "" ∨ claims.environmentID = "" ∨ claims.keyID = "" ∨ !s.revocationsFreshLocked now then some s
    else if s.revocations.revokes claims then some { s with watches := s.watches ++ [{ claims, closes := 1 }] }
    else if maximumRevocationWatchers ≤ s.registered then some s
    else some { s with watches := s.watches ++ [{ claims, registered := true }] }
  | .replaceRevocations document now =>
    match document.filter RevocationDocument.valid with
    | none => some s
    | some d => some { s with revocations := d, revocationUpdatedAt := now, watches := s.watches.map (Watch.review d) }
  | .release i => s.watches[i]?.map (fun w => { s with watches := s.watches.set i w.release })

end Snapshot

/-- A registered watch is open and not revoked; any other was closed once, or released before. -/
def Watch.Sound (d : RevocationDocument) (w : Watch) : Prop :=
  if w.registered then w.released = false ∧ w.closes = 0 ∧ d.revokes w.claims = false
  else w.closes = 1 ∨ w.released = true ∧ w.closes = 0

namespace Watch.Sound

variable {w : Watch} {d : RevocationDocument}

theorem review (h : w.Sound d) (d' : RevocationDocument) : (w.review d').Sound d' := by
  by_cases hreg : w.registered
  · simp only [Sound, hreg, if_true] at h
    by_cases hrev : d'.revokes w.claims <;> simp [Watch.review, Sound, hreg, hrev, h]
  · simpa [Watch.review, Sound, hreg] using h

theorem release (h : w.Sound d) : w.release.Sound d := by
  by_cases hreg : w.registered
  · simp only [Sound, hreg, if_true] at h
    exact .inr ⟨rfl, h.2.1⟩
  · simp only [Sound, hreg, Bool.false_eq_true, if_false] at h
    exact h.imp id (fun h => ⟨rfl, h.2⟩)

/-- A document that revokes a watch which is not released finds its channel closed, or closes it. -/
theorem closes_review {d' : RevocationDocument} (h : w.Sound d) (hrel : w.released = false)
    (hrev : d'.revokes w.claims) : (w.review d').closes = 1 := by
  by_cases hreg : w.registered
  · simp only [Sound, hreg, if_true] at h
    simp [Watch.review, hreg, hrev, h]
  · simpa [Watch.review, Sound, hreg, hrel] using h

end Watch.Sound

namespace Snapshot

structure Sound (s : Snapshot) : Prop where
  watches : ∀ w ∈ s.watches, w.Sound s.revocations
  bound : s.registered ≤ maximumRevocationWatchers

variable {s q : Snapshot} {l : Section}

theorem Sound.step (h : s.Sound) (hstep : s.step l = some q) : q.Sound := by
  revert hstep
  fun_cases Snapshot.step s l <;> intro hstep
  case case1 | case3 | case5 => cases hstep; exact h
  case case2 =>
    cases hstep
    refine ⟨forall_mem_snoc h.watches (.inl rfl), ?_⟩
    rw [registered, countP_snoc]
    exact h.bound
  case case4 claims now _ hrev hroom =>
    cases hstep
    refine ⟨forall_mem_snoc h.watches ⟨rfl, rfl, by simpa using hrev⟩, ?_⟩
    rw [registered, countP_snoc]
    simp only [registered] at hroom
    simp only [if_true]
    omega
  case case6 d _ =>
    cases hstep
    refine ⟨forall_mem_map.mpr (fun w hw => (h.watches w hw).review d), ?_⟩
    rw [registered, countP_map]
    refine le_trans (countP_mono_left (fun w _ hreg => ?_)) h.bound
    rw [Function.comp_apply, Watch.review] at hreg
    split at hreg
    · cases hreg
    · exact hreg
  case case7 i =>
    obtain ⟨w, hw, rfl⟩ := map_eq_some_iff.mp hstep
    have hmem := mem_of_getElem? hw
    refine ⟨forall_mem_set h.watches (h.watches w hmem).release, ?_⟩
    have hcount := countP_set (p := Watch.registered) (b := w.release) hw
    have hbound := h.bound
    simp only [registered, Watch.release, Bool.false_eq_true, if_false] at hcount hbound ⊢
    omega

theorem closed_step {i : Nat} (h : ∃ w, s.watches[i]? = some w ∧ 0 < w.closes) (hstep : s.step l = some q) :
    ∃ w, q.watches[i]? = some w ∧ 0 < w.closes := by
  obtain ⟨w, hw, hclosed⟩ := h
  revert hstep
  fun_cases Snapshot.step s l <;> intro hstep
  case case1 | case3 | case5 => cases hstep; exact ⟨w, hw, hclosed⟩
  case case2 | case4 => cases hstep; exact ⟨w, get_snoc_old hw, hclosed⟩
  case case6 d _ =>
    cases hstep
    refine ⟨w.review d, by simp [hw], ?_⟩
    unfold Watch.review
    split
    · exact Nat.succ_pos _
    · exact hclosed
  case case7 j =>
    obtain ⟨v, hv, rfl⟩ := map_eq_some_iff.mp hstep
    by_cases hj : i = j
    · subst hj
      cases hw.symm.trans hv
      exact ⟨w.release, get_set_self hw, hclosed⟩
    · exact ⟨w, (get_set_ne hj).trans hw, hclosed⟩

/-- **No revocation is missed.** The current document revokes no registered watch, and their number is bounded. A watch
    that is not released when a document is installed that revokes its claims has its channel closed exactly once. -/
theorem no_revocation_missed {maxAge : Duration} {tr : Trace Snapshot Section}
    (hrun : Run step { revocationMaxAge := maxAge } tr q) :
    (∀ w ∈ q.watches, w.registered = true → q.revocations.revokes w.claims = false)
      ∧ q.registered ≤ maximumRevocationWatchers
      ∧ ∀ tr₁ t tr₂ d now, tr = tr₁ ++ t :: tr₂ → t.label = .replaceRevocations (some d) now → d.valid = true →
          ∀ (i : Nat) w, t.pre.watches[i]? = some w → w.released = false → d.revokes w.claims = true →
            ∃ w', q.watches[i]? = some w' ∧ w'.closes = 1 := by
  have hsound {tr q} (hrun : Run step { revocationMaxAge := maxAge } tr q) : q.Sound :=
    hrun.invariant Sound.step ⟨by simp, Nat.zero_le _⟩
  obtain ⟨hall, hbound⟩ := hsound hrun
  refine ⟨fun w hw hreg => ?_, hbound, ?_⟩
  · have hw := hall w hw
    simp only [Watch.Sound, hreg, if_true] at hw
    exact hw.2.2
  rintro tr₁ t tr₂ d now rfl hlabel hvalid i w hw hrel hrev
  obtain ⟨hpre, hstep, hpost⟩ := hrun.through
  rw [hlabel, step, filter_some, if_pos hvalid] at hstep
  have hone := ((hsound hpre).watches w (mem_of_getElem? hw)).closes_review hrel hrev
  have hclosed : ∃ w, t.post.watches[i]? = some w ∧ 0 < w.closes := by
    rw [← some.inj hstep]
    exact ⟨w.review d, by simp [hw], by omega⟩
  obtain ⟨w', hw', hpos⟩ := hpost.invariant closed_step hclosed
  refine ⟨w', hw', ?_⟩
  have hw := hall w' (mem_of_getElem? hw')
  unfold Watch.Sound at hw
  split at hw <;> omega

/-- A credential that is watched, and revoked by its key. -/
theorem no_revocation_missed_key :
    let claims : Claims := { jti := "jti", environmentID := "env", keyID := "key" }
    ∃ q, exec step {} [.watch claims {}, .replaceRevocations (some { keyIDs := ["key"] }) {}, .release 0] = some q
      ∧ ∃ w, q.watches[0]? = some w ∧ w.closes = 1 := by
  intro claims
  refine ⟨_, rfl, ?_⟩
  have hrun := exec_run (show exec step { revocationMaxAge := 0 }
    [.watch claims {}, .replaceRevocations (some { keyIDs := ["key"] }) {}, .release 0] = some _ from rfl)
  exact (no_revocation_missed hrun).2.2 [_] _ [_] _ _ rfl rfl (by decide) 0 _ rfl rfl (by decide)

end Snapshot

end PaperboatTunnel.Auth
