import PaperboatTunnel.ConnectorProtocol.Rotation.Targets

/-!
# `RotationOverlap` — the deadlines of a target across its challenges

A challenge that has expired is replaced by one built from the arguments of the new call. The contract allows this only
with the stored deadlines and a new nonce, but the coordinator compares neither. Where the calls pass the stored
deadlines and new nonces, the deadlines of a target never change.
-/

namespace PaperboatTunnel.ConnectorProtocol

open GoTime TransitionSystem RotationCoordinator List Option Table

/-- Two challenges with the same overlap end and the same validity of the new credential. -/
def CredentialRotationChallenge.SameDeadlines (a b : CredentialRotationChallenge) : Prop :=
  a.overlapUntil.equal b.overlapUntil = true ∧ a.newCredentialValidUntil.equal b.newCredentialValidUntil = true

variable {a b : CredentialRotationChallenge}

theorem CredentialRotationChallenge.SameDeadlines.trans {c : CredentialRotationChallenge} (h : a.SameDeadlines b)
    (h' : b.SameDeadlines c) : a.SameDeadlines c := by
  simp only [SameDeadlines, Time.equal_iff] at h h' ⊢
  exact ⟨h.1.trans h'.1, h.2.trans h'.2⟩

theorem CredentialRotationChallenge.SameDeadlines.symm (h : a.SameDeadlines b) : b.SameDeadlines a := by
  simp only [SameDeadlines, Time.equal_iff] at h ⊢
  exact ⟨h.1.symm, h.2.symm⟩

namespace RotationCoordinator

/-- The transition issued this challenge. -/
def Issued (codec : RotationCodec) (t : Transition RotationCoordinator RotationCall)
    (challenge : CredentialRotationChallenge) : Prop :=
  (t.pre.call codec t.label).2 = .challenge (.ok challenge)

/-- A request for a target that has a challenge passes the deadlines of that challenge. -/
def KeepsDeadlines (c : RotationCoordinator) (op : RotationCall) : Prop :=
  ∀ request clock r, op.challengeRequest = some (request, clock) → c.find request.connectorID = some r →
    r.state = .challenged → request.overlapUntil.equal r.challenge.overlapUntil = true
        ∧ request.credentialValidUntil.equal r.challenge.newCredentialValidUntil = true

/-- No two requests of the run for one connector pass the same nonce. -/
def FreshNonces (tr : Trace RotationCoordinator RotationCall) : Prop :=
  tr.Pairwise (fun u t => ∀ request clock request' clock', u.label.challengeRequest = some (request, clock) →
    t.label.challengeRequest = some (request', clock') →
    request.connectorID = request'.connectorID → request.nonce ≠ request'.nonce)

variable {codec : RotationCodec} {c c' : RotationCoordinator} {op : RotationCall} {chal : CredentialRotationChallenge}

/-- **Where a challenge comes from**: its target was pending or challenged, it carries the arguments of the
    request, and it is stored with the target. -/
theorem challenge_of_reply (h : (c.call codec op).2 = .challenge (.ok chal)) :
    ∃ request clock r, op.challengeRequest = some (request, clock) ∧ c.started
      ∧ c.find request.connectorID = some r ∧ chal = c.newChallenge r.target request
      ∧ (c.call codec op).1 = c.challenged r.target request := by
  have heff := call_effect codec c op
  rw [h] at heff
  generalize (c.call codec op).1 = c' at heff
  cases heff with
  | kept hsilent | failed _ _ _ hsilent => cases hsilent
  | @challenged _ request clock r hop hstarted hfind =>
    exact ⟨request, clock, r, hop, hstarted, hfind, rfl, rfl⟩

/-! ## The invariant -/

/-- **The deadlines of the past are those of the present record**, for every challenge issued so far. -/
structure Fixed (codec : RotationCodec) (tr : Trace RotationCoordinator RotationCall)
    (c : RotationCoordinator) : Prop where
  plan : c.plan.validate codec = none
  idle : c.started = false → ∀ t ∈ tr, ∀ challenge, ¬ Issued codec t challenge
  held : ∀ t ∈ tr, ∀ challenge, Issued codec t challenge → ∀ r ∈ c.targets,
            r.target.connectorID = challenge.connectorID → r.state ≠ .pending ∧ challenge.SameDeadlines r.challenge
  known : ∀ t ∈ tr, ∀ challenge, Issued codec t challenge →
            ∃ target ∈ c.plan.targets, target.connectorID = challenge.connectorID

variable {tr : Trace RotationCoordinator RotationCall} {r' : RotationTargetRecord}

theorem Fixed.held_step {t : Transition RotationCoordinator RotationCall} (h : Fixed codec tr c)
    (hcond : c.KeepsDeadlines op) (hstep : c.step codec op = some c') (ht : t ∈ tr)
    (hissued : Issued codec t chal) (hr' : r' ∈ c'.targets)
    (hid : r'.target.connectorID = chal.connectorID) :
    r'.state ≠ .pending ∧ chal.SameDeadlines r'.challenge := by
  have hstarted : c.started = true := by
    by_contra hidle
    exact h.idle (Bool.eq_false_of_not_eq_true hidle) t ht chal hissued
  rcases (effect_of_step hstep).mem_cases hstarted h.plan hr' with hold | ⟨r, hr, hmove⟩
  · exact h.held t ht chal hissued r' hold hid
  have hbefore := h.held t ht chal hissued r hr
  cases hmove with
  | @challenged request clock hop hreq hold =>
    obtain ⟨hheld, hsame⟩ := hbefore hid
    -- the target had a challenge, so the request passes its deadlines
    have hchallenged : r.state = .challenged := hold.resolve_left hheld
    have hfind : c.find request.connectorID = some r := hreq ▸ find_of_mem h.plan hr
    obtain ⟨hoverlap, huntil⟩ := hcond request clock r hop hfind hchallenged
    refine ⟨by simp, hsame.trans (CredentialRotationChallenge.SameDeadlines.symm ?_)⟩
    exact ⟨hoverlap, huntil⟩
  | installed | readied | revoking | revoked | failed => exact ⟨by simp, (hbefore hid).2⟩

theorem held_of_issued (hstep : c.step codec op = some c') (hissued : Issued codec ⟨c, op, c'⟩ chal)
    (hr' : r' ∈ c'.targets) (hid : r'.target.connectorID = chal.connectorID) :
    r'.state ≠ .pending ∧ chal.SameDeadlines r'.challenge := by
  obtain ⟨req, _, _, _, _, _, rfl, hpost⟩ := challenge_of_reply hissued
  rw [← some.inj hstep] at hr'
  dsimp only at hpost
  rw [hpost] at hr'
  obtain ⟨s, _, rfl⟩ := mem_map.mp hr'
  by_cases hs : s.target.connectorID = req.connectorID
  · rw [if_pos hs]
    exact ⟨by simp, by simp [CredentialRotationChallenge.SameDeadlines]⟩
  · rw [if_neg hs] at hid
    exact absurd hid hs

theorem Fixed.step (h : Fixed codec tr c) (hcond : c.KeepsDeadlines op)
    (hstep : c.step codec op = some c') : Fixed codec (tr ++ [⟨c, op, c'⟩]) c' := by
  have heff := effect_of_step hstep
  refine ⟨by rw [heff.plan_eq]; exact h.plan, fun hidle t ht chal hissued => ?_, ?_, ?_⟩
  · have hbefore : c.started = false := by
      by_contra hs
      have := heff.started_of_started (Bool.eq_true_of_not_eq_false hs)
      rw [hidle] at this
      cases this
    rcases mem_snoc ht with hold | rfl
    · exact h.idle hbefore t hold chal hissued
    obtain ⟨_, _, _, _, hstarted, _⟩ := challenge_of_reply hissued
    dsimp only at hstarted
    rw [hbefore] at hstarted
    cases hstarted
  · intro t ht chal hissued r' hr' hid
    rcases mem_snoc ht with hold | rfl
    · exact h.held_step hcond hstep hold hissued hr' hid
    · exact held_of_issued hstep hissued hr' hid
  · intro t ht chal hissued
    rw [heff.plan_eq]
    rcases mem_snoc ht with hold | rfl
    · exact h.known t hold chal hissued
    · obtain ⟨_, _, r, _, _, hfind, rfl, _⟩ := challenge_of_reply hissued
      obtain ⟨hr, hid⟩ := find_some hfind
      exact ⟨r.target, target_mem_plan hr, hid⟩

end RotationCoordinator

/-- **The overlap of a target is fixed where renewals keep it.** In every run of a coordinator whose renewals
    pass the deadlines of the challenge they replace and whose requests for one connector pass different
    nonces, any two challenges issued for one target carry the same overlap end and the same validity of the
    new credential, and different nonces. -/
theorem rotation_overlap_fixed {codec : RotationCodec} {plan : RotationPlan} {c q : RotationCoordinator}
    {tr : Trace RotationCoordinator RotationCall} (hnew : newRotationCoordinator codec plan = .ok c)
    (hrun : Run (step codec) c tr q) (hkeeps : ∀ t ∈ tr, t.pre.KeepsDeadlines t.label)
    (hfresh : FreshNonces tr) :
    tr.Pairwise (fun u t => ∀ a b, Issued codec u a → Issued codec t b → a.connectorID = b.connectorID →
      a.SameDeadlines b ∧ a.challengeNonce ≠ b.challengeNonce) := by
  have hfixed : Fixed codec tr q := by
    refine hrun.trace_invariant_on (C := fun t => t.pre.KeepsDeadlines t.label)
      (fun hcond hi hs => hi.step hcond hs) hkeeps ?_
    obtain ⟨hval, hplan, _⟩ := new_eq_ok hnew
    exact ⟨hplan ▸ hval, by simp, by simp, by simp⟩
  refine hfresh.imp_of_mem (fun {u t} hu ht hnonces a b ha hb hid => ⟨?_, ?_⟩)
  · -- both have the deadlines of the record the target holds at the end
    obtain ⟨_, htarget, htid⟩ := hfixed.known t ht b hb
    rw [← q.planned] at htarget
    obtain ⟨r, hr, rfl⟩ := mem_map.mp htarget
    have hb' := (hfixed.held t ht b hb r hr htid).2
    exact (hfixed.held u hu a ha r hr (htid.trans hid.symm)).2.trans hb'.symm
  · obtain ⟨request, clock, _, hreq, _, _, rfl, _⟩ := challenge_of_reply ha
    obtain ⟨request', clock', _, hreq', _, _, rfl, _⟩ := challenge_of_reply hb
    exact hnonces request clock request' clock' hreq hreq' hid

namespace RotationSample

/-- The first challenge of `a`, which expires after ten minutes. -/
def first : RotationCall := .challenge (some {}) (request "a" nonce 0 (minute 60)) (minute 0) none none

def renewal (nonce : String) (overlapUntil : Time) : RotationCall :=
  .challenge (some {}) (request "a" nonce 20 overlapUntil) (minute 20) none none

def challengedOnce : RotationCoordinator := (begun.call codec first).1

/-- The run of the first challenge and one more call. -/
def renewalTrace (l : RotationCall) : Trace RotationCoordinator RotationCall :=
  [⟨created, .start (some {}) none, begun⟩, ⟨begun, first, challengedOnce⟩,
   ⟨challengedOnce, l, (challengedOnce.call codec l).1⟩]

theorem renewal_run (l : RotationCall) : Run (step codec) created (renewalTrace l) (challengedOnce.call codec l).1 :=
  Run.tail (Run.tail (Run.single rfl) rfl) rfl

def issued (nonce : String) (n : Int) (overlapUntil : Time) : CredentialRotationChallenge :=
  begun.newChallenge (target "a") { request "a" nonce n overlapUntil with
      credentialValidUntil := overlapUntil.add (365 * 24 * Duration.hour) }

end RotationSample

open RotationSample

/-- **A renewal moves the deadlines and repeats the nonce.** The first challenge of `a` ends its overlap at
    minute 60. After it has expired the coordinator issues a second one with the overlap end and the nonce
    the caller passes: minute 90, and the nonce of the first. -/
theorem rotation_overlap_moves : ∃ c q, newRotationCoordinator codec RotationSample.plan = .ok c ∧
      Run (step codec) c (renewalTrace (renewal nonce (minute 90))) q ∧
      ∃ u ∈ renewalTrace (renewal nonce (minute 90)), ∃ t ∈ renewalTrace (renewal nonce (minute 90)),
        ∃ a b, Issued codec u a ∧ Issued codec t b ∧ a.connectorID = b.connectorID ∧
          a.overlapUntil = minute 60 ∧ b.overlapUntil = minute 90 ∧
          a.newCredentialValidUntil ≠ b.newCredentialValidUntil ∧ a.challengeNonce = b.challengeNonce := by
  obtain ⟨hfirst, hsecond⟩ : (begun.call codec first).2 = .challenge (.ok (issued nonce 0 (minute 60))) ∧
      (challengedOnce.call codec (renewal nonce (minute 90))).2 = .challenge (.ok (issued nonce 20 (minute 90))) := by
    decide +kernel
  have hmem (l : RotationCall) :
      (⟨challengedOnce, l, (challengedOnce.call codec l).1⟩ : Transition _ _) ∈ renewalTrace l := by
    simp [renewalTrace]
  exact ⟨created, _, created_new, renewal_run _, ⟨begun, first, challengedOnce⟩, by simp [renewalTrace],
    _, hmem _, _, _, hfirst, hsecond, rfl, rfl, rfl, by decide +kernel, rfl⟩

/-- A renewal that keeps the deadlines and brings a new nonce. -/
theorem rotation_overlap_fixed_sample :
    let a := issued nonce 0 (minute 60)
    let b := issued "challenge-nonce-2" 20 (minute 60)
    Issued codec ⟨begun, first, challengedOnce⟩ a ∧ a.SameDeadlines b ∧ a.challengeNonce ≠ b.challengeNonce := by
  intro a b
  let l := renewal "challenge-nonce-2" (minute 60)
  obtain ⟨hfirst, hsecond, hpending, hheld⟩ : (begun.call codec first).2 = .challenge (.ok a) ∧
      (challengedOnce.call codec l).2 = .challenge (.ok b) ∧
      (begun.find "a").map (fun r => r.state) = some .pending ∧
      (challengedOnce.find "a").map (fun r => r.challenge) = some a := by decide +kernel
  have hkeeps : ∀ t ∈ renewalTrace l, t.pre.KeepsDeadlines t.label := by
    intro t ht
    simp only [renewalTrace, mem_cons, not_mem_nil, or_false] at ht
    rcases ht with rfl | rfl | rfl <;> intro request clock r hop hfind hstate
    · cases hop
    · cases hop
      rw [show begun.find "a" = some r from hfind, map_some, hstate] at hpending
      cases hpending
    cases hop
    rw [show challengedOnce.find "a" = some r from hfind] at hheld
    have hchallenge : r.challenge = a := some.inj hheld
    rw [hchallenge]
    exact ⟨rfl, rfl⟩
  have hfresh : FreshNonces (renewalTrace l) := by
    refine Pairwise.cons ?_ (Pairwise.cons ?_ (pairwise_singleton _ _))
    · rintro t _ request clock request' clock' hreq
      cases hreq
    intro t ht request clock request' clock' hreq hreq' _
    obtain rfl := mem_singleton.mp ht
    cases hreq
    cases hreq'
    decide
  have hall := rotation_overlap_fixed created_new (renewal_run l) hkeeps hfresh
  have hpair := rel_of_pairwise_cons (pairwise_cons.mp hall).2 mem_cons_self
  exact ⟨hfirst, hpair a b hfirst hsecond rfl⟩

end PaperboatTunnel.ConnectorProtocol
