import PaperboatTunnel.ConnectorProtocol.Rotation.Targets
import PaperboatTunnel.Lib.Checks

/-!
# `Held` — the records a target holds

`Recoverable` is what `validateRotationResumeTarget` asks of a recovered target. Every move keeps it, because each
record is checked against the plan and the record before it when it is made. A check at the time of the call is
stronger than the one at recovery, which passes the zero time.
-/

namespace PaperboatTunnel.ConnectorProtocol

open GoTime RotationCoordinator RotationTargetRecord Checks CredentialRotationChallenge

/-! ## Records that were valid stay valid at recovery -/

theorem validateIdentifier_empty : badIdentifier "" = true := by decide

theorem ne_empty_of_identifier {value : String} (h : ¬ badIdentifier value = true) : value ≠ "" := by
  rintro rfl
  exact h validateIdentifier_empty

variable {codec : RotationCodec} {now : Time} {c : CredentialRotationChallenge} {i : CredentialRotationInstall}
  {r : CredentialRotationRevoke}

theorem CredentialRotationChallenge.valid_at_zero (h : c.validate now = none) : c.validate {} = none := by
  simp only [validate, none_iff] at h ⊢
  exact ⟨h.1, h.2.1, by simp⟩

/-- What the checks of a challenge give: a session, and deadlines in order. -/
theorem CredentialRotationChallenge.of_valid (h : c.validate now = none) :
    c.sessionID ≠ "" ∧ c.overlapUntil.isZero = false ∧ c.newCredentialValidUntil.isZero = false
      ∧ c.newCredentialValidUntil.after c.overlapUntil = true := by
  have hfields := (none_iff.mp h).1
  simp only [not_or, not_not] at hfields
  obtain ⟨_, _, _, _, _, hsess, _, _, _, _, _, _, _, _, hoverlap, hval, _, _, hafter, _⟩ := hfields
  exact ⟨ne_empty_of_identifier hsess, Bool.eq_false_of_not_eq_true hoverlap,
    Bool.eq_false_of_not_eq_true hval, hafter⟩

theorem CredentialRotationInstall.valid_at_zero (h : i.validate codec now = none) : i.validate codec {} = none := by
  obtain ⟨hfields, h⟩ := none_iff.mp h
  refine none_iff.mpr ⟨hfields, ?_⟩
  cases hkey : validatePublicKey codec i.newPublicKey i.newIdentityKeyThumbprint errIdentityMismatch with
  | some => simp [hkey] at h
  | none => exact if_neg (by simp)

theorem CredentialRotationInstall.session_of_valid (h : i.validate codec now = none) : i.sessionID ≠ "" := by
  have hfields := (none_iff.mp h).1
  simp only [not_or] at hfields
  exact ne_empty_of_identifier hfields.2.2.2.2.2.1

theorem CredentialRotationReady.valid_at_zero {r : CredentialRotationReady}
    (h : r.validate codec now = none) : r.validate codec {} = none := by
  obtain ⟨hfields, h⟩ := none_iff.mp h
  refine none_iff.mpr ⟨hfields, ?_⟩
  cases hkey : validatePublicKey codec r.newPublicKey r.newIdentityKeyThumbprint errIdentityMismatch with
  | some => simp [hkey] at h
  | none =>
    rw [hkey] at h
    obtain ⟨husable, _⟩ := none_iff.mp h
    exact none_iff.mpr ⟨husable, if_neg (by simp)⟩

theorem CredentialRotationReady.session_of_valid {r : CredentialRotationReady}
    (h : r.validate codec now = none) : r.sessionID ≠ "" := by
  have hfields := (none_iff.mp h).1
  simp only [not_or] at hfields
  exact ne_empty_of_identifier hfields.2.2.2.2.2.1

theorem CredentialRotationRevoke.valid_at_zero (h : r.validate now = none) : r.validate {} = none := by
  obtain ⟨hfields, _⟩ := none_iff.mp h
  exact none_iff.mpr ⟨hfields, if_neg (by simp)⟩

theorem CredentialRotationRevoke.session_of_valid (h : r.validate now = none) : r.sessionID ≠ "" := by
  have hfields := (none_iff.mp h).1
  simp only [not_or] at hfields
  exact ne_empty_of_identifier hfields.2.2.2.2.2.1

/-- **A recoverable target**, clause by clause. -/
structure Recoverable (codec : RotationCodec) (plan : RotationPlan) (r : RotationResumeTarget) : Prop where
  target : r.target.validate = none
  planned : plan.target r.target.connectorID = some r.target
  phase : r.state ≠ .unset
  code : r.state = .failed ↔ r.code ≠ .unset
  deadlines : r.overlapUntil.isZero = r.newCredentialValidUntil.isZero
  overlap : r.overlapUntil.isZero = false → r.newCredentialValidUntil.after r.overlapUntil = true
  beforeInstall : r.installPresent → r.challengePresent
  beforeReady : r.readyPresent → r.installPresent
  beforeRevoke : r.revokePresent → r.readyPresent
  challenge : r.challengePresent → r.challengeBound plan
  install : r.installPresent → r.installBound codec plan
  ready : r.readyPresent → r.readyBound codec plan
  revoke : r.revokePresent → r.revokeBound plan
  records : r.phaseRecords

/-- A recoverable target passes the check of `Resume`. -/
theorem Recoverable.validate {codec : RotationCodec} {plan : RotationPlan} {r : RotationResumeTarget}
    (h : Recoverable codec plan r) : validateRotationResumeTarget codec plan r = none := by
  have hinstalled : r.readyPresent ∨ r.revokePresent → r.installPresent := by
    rintro (hr | hr)
    · exact h.beforeReady hr
    · exact h.beforeReady (h.beforeRevoke hr)
  have hchallenge : r.installPresent ∨ r.readyPresent ∨ r.revokePresent → r.challengePresent := by
    rintro (hi | hr)
    · exact h.beforeInstall hi
    · exact h.beforeInstall (hinstalled hr)
  have hcode : ¬ (r.state = .failed ∧ (r.code = .unset ∨ ¬ validCode r.code = true)) := by
    rintro ⟨hfail, hbad⟩
    have hset := h.code.mp hfail
    rcases hbad with hunset | hinvalid
    · exact hset hunset
    · exact hinvalid (by simpa [validCode] using hset)
  have hclean : ¬ (r.state ≠ .failed ∧ r.code ≠ .unset) := fun ⟨hst, hset⟩ => hst (h.code.mpr hset)
  have hdeadlines : ¬ (r.overlapUntil.isZero ≠ r.newCredentialValidUntil.isZero
      ∨ (¬ r.overlapUntil.isZero = true ∧ ¬ r.newCredentialValidUntil.after r.overlapUntil = true)) := by
    rintro (hne | ⟨hzero, hafter⟩)
    · exact hne h.deadlines
    · exact hafter (h.overlap (Bool.eq_false_of_not_eq_true hzero))
  unfold validateRotationResumeTarget
  rw [h.target]
  dsimp only
  rw [if_neg (not_not.mpr h.planned), if_neg (by simpa [validRotationTargetState] using h.phase),
    if_neg hcode, if_neg hclean, if_neg hdeadlines, if_neg (fun ⟨hno, hyes⟩ => hno (hchallenge hyes)),
    if_neg (fun ⟨hno, hyes⟩ => hno (hinstalled hyes)), if_neg (fun ⟨hno, hyes⟩ => hno (h.beforeRevoke hyes)),
    if_neg (fun ⟨hyes, hno⟩ => hno (h.challenge hyes)), if_neg (fun ⟨hyes, hno⟩ => hno (h.install hyes)),
    if_neg (fun ⟨hyes, hno⟩ => hno (h.ready hyes)), if_neg (fun ⟨hyes, hno⟩ => hno (h.revoke hyes)),
    if_neg (not_not.mpr h.records)]

/-! ## Every move keeps its target recoverable -/

namespace RotationCoordinator

variable {c : RotationCoordinator} {r : RotationTargetRecord} (h : Recoverable codec c.plan r.durable)

include h

variable {state : RotationTargetState}

theorem records_in (hphase : r.state = state) : ({ r with state } : RotationTargetRecord).durable.phaseRecords := by
  rw [← hphase]
  exact h.records

theorem absent_records (hphase : r.state = .pending ∨ r.state = .challenged) :
    ¬ r.durable.installPresent ∧ ¬ r.durable.readyPresent ∧ ¬ r.durable.revokePresent := by
  rcases hphase with hs | hs
  · exact (records_in h hs).2
  · exact (records_in h hs).2

/-- A target that has not failed carries no code, and a move that does not fail adds none. -/
theorem code_kept (hphase : r.state ≠ .failed) (hst : state ≠ .failed) : state = .failed ↔ r.code ≠ .unset :=
  iff_of_false hst (fun hset => hphase (h.code.mpr hset))

theorem recoverable_challenged {request : ChallengeRequest} (hid : r.target.connectorID = request.connectorID)
    (hphase : r.state = .pending ∨ r.state = .challenged)
    (hvalid : (c.newChallenge r.target request).validate now = none) :
    Recoverable codec c.plan
      { r with challenge := c.newChallenge r.target request, state := .challenged : RotationTargetRecord }.durable := by
  obtain ⟨hinstall, hready, hrevoke⟩ := absent_records h hphase
  obtain ⟨hsession, hoverlap, huntil, hafter⟩ := of_valid hvalid
  exact
    { target := h.target
      planned := h.planned
      phase := by simp [durable]
      code := code_kept h (by rcases hphase with hs | hs <;> simp [hs]) (by simp [durable])
      deadlines := hoverlap.trans huntil.symm
      overlap := fun _ => hafter
      beforeInstall := hinstall.elim
      beforeReady := hready.elim
      beforeRevoke := hrevoke.elim
      challenge := fun _ => ⟨valid_at_zero hvalid, rfl, rfl, rfl, rfl, rfl, hid.symm, rfl⟩
      install := hinstall.elim
      ready := hready.elim
      revoke := hrevoke.elim
      records := ⟨hsession, hinstall, hready, hrevoke⟩ }

theorem recoverable_installed {proof : CredentialRotationProof} (hid : r.target.connectorID = proof.connectorID)
    (hphase : r.state = .challenged) (hmatch : rotationProofMatchesChallenge proof r.challenge r.target)
    (hvalid : (c.newInstall r.challenge proof).validate codec now = none) :
    Recoverable codec c.plan { r with
      proof, install := c.newInstall r.challenge proof, state := .installed : RotationTargetRecord }.durable := by
  obtain ⟨_, hready, hrevoke⟩ := absent_records h (.inr hphase)
  obtain ⟨_, _, _, _, hhost, hsession, hgeneration, _, hold, hnew, _, _, hnonce, _⟩ := hmatch
  have hpresent : r.durable.challengePresent := (records_in h hphase).1
  obtain ⟨_, _, _, _, _, _, _, hchallenged⟩ := h.challenge hpresent
  exact { h with
      phase := by simp [durable]
      code := code_kept h (by simp [hphase]) (by simp [durable])
      beforeInstall := fun _ => hpresent
      beforeReady := hready.elim
      beforeRevoke := hrevoke.elim
      install := fun _ =>
        ⟨CredentialRotationInstall.valid_at_zero hvalid, rfl, rfl, rfl, rfl, hid.symm,
          hhost.trans hchallenged, hsession, hgeneration, hold, hnew, hnonce⟩
      ready := hready.elim
      revoke := hrevoke.elim
      records := ⟨CredentialRotationInstall.session_of_valid hvalid, hready, hrevoke⟩ }

theorem recoverable_readied {ready : CredentialRotationReady} (hid : r.target.connectorID = ready.connectorID)
    (hphase : r.state = .installed) (hmatch : readyMatchesInstall c.plan ready r.install)
    (hvalid : ready.validate codec now = none) :
    Recoverable codec c.plan { r with ready, state := .ready : RotationTargetRecord }.durable := by
  obtain ⟨hpresent, _, hrevoke⟩ := records_in h hphase
  obtain ⟨_, _, _, _, _, _, hinstalled, _, _, hold, hnew, _⟩ := h.install hpresent
  obtain ⟨haccount, htunnel, hoperation, _, hhost, hhash, hother, hprevious, hprocess, hreadyOld, hreadyNew, hkey,
    hthumbprint, hpublic, href, huntil⟩ := hmatch
  exact { h with
      phase := by simp [durable]
      code := code_kept h (by simp [hphase]) (by simp [durable])
      beforeReady := fun _ => hpresent
      beforeRevoke := hrevoke.elim
      ready := fun _ =>
        ⟨CredentialRotationReady.valid_at_zero hvalid, haccount, htunnel, hoperation, hhash, hid.symm,
          hhost.trans hinstalled, hprevious, hother, hprocess, hreadyOld.trans hold, hreadyNew.trans hnew, hkey,
          hthumbprint, hpublic, href, by simp [durable, huntil]⟩
      revoke := hrevoke.elim
      records := ⟨CredentialRotationReady.session_of_valid hvalid, hrevoke⟩ }

theorem recoverable_revoking {nonce : String} (hphase : r.state = .ready)
    (hvalid : (c.newRevoke r.target.connectorID r nonce now).validate now = none) :
    Recoverable codec c.plan { r with
      revoke := c.newRevoke r.target.connectorID r nonce now, state := .revoking : RotationTargetRecord }.durable :=
  { h with
    phase := by simp [durable]
    code := code_kept h (by simp [hphase]) (by simp [durable])
    beforeRevoke := fun _ => (records_in h hphase).1
    revoke := fun _ =>
      ⟨CredentialRotationRevoke.valid_at_zero hvalid, rfl, rfl, rfl, rfl, rfl, rfl, .inl ⟨rfl, rfl⟩, rfl, rfl⟩
    records := CredentialRotationRevoke.session_of_valid hvalid }

/-- **Every move keeps its target recoverable.** -/
theorem Moves.recoverable {op : RotationCall} {r' : RotationTargetRecord} (hmove : Moves codec c op r r') :
    Recoverable codec c.plan r'.durable := by
  cases hmove with
  | challenged _ hid hphase hvalid => exact recoverable_challenged h hid hphase hvalid
  | installed hid hphase hmatch hvalid => exact recoverable_installed h hid hphase hmatch hvalid
  | readied hid hphase hmatch hvalid => exact recoverable_readied h hid hphase hmatch hvalid
  | revoking hphase _ _ hvalid => exact recoverable_revoking h hphase hvalid
  | revoked hphase =>
    exact { h with
        phase := by simp [durable]
        code := code_kept h (by simp [hphase]) (by simp [durable])
        records := show r.durable.revokePresent from records_in h hphase }
  | failed _ hcode =>
    -- a failed target keeps the records of the phase it failed in
    exact { h with
        phase := by simp [durable]
        code := by simpa [durable] using hcode
        records := trivial }

end RotationCoordinator

end PaperboatTunnel.ConnectorProtocol
