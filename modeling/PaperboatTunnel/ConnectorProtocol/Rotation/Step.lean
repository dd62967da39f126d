import PaperboatTunnel.Lib.Transition
import PaperboatTunnel.ConnectorProtocol.Rotation.Resume

/-!
# `Step` — what one call of the coordinator does

`Effect` has one rule for each way a call can change the coordinator or issue something. `call_effect` says that every
call follows a rule, so no later proof unfolds an operation again.
-/

namespace PaperboatTunnel.ConnectorProtocol

open GoTime TransitionSystem RotationCoordinator

/-! ## Calls -/

inductive RotationCall where
  | start (ctx : Option Context) (begun : Option Error)
  | resume (ctx : Option Context) (load : Option (Except Error RotationResume)) (clock : Time)
  | challenge (ctx : Option Context) (request : ChallengeRequest) (clock : Time) (authorize record : Option Error)
  | challengeWithCredentialExpiry (ctx : Option Context) (request : ChallengeRequest) (clock : Time)
      (authorize record : Option Error)
  | acceptProof (ctx : Option Context) (proof : CredentialRotationProof) (clock : Time)
      (verifyOld record : Option Error)
  | markReady (ctx : Option Context) (ready : CredentialRotationReady) (clock : Time) (record : Option Error)
  | revoke (ctx : Option Context) (connectorID : String) (clock : Time) (nonce : Except Error String)
      (record : Option Error)
  | handleAck (ctx : Option Context) (ack : CredentialRotationAck) (clock : Time) (record : Option Error)
  | fail (ctx : Option Context) (connectorID : String) (code : Code) (record : Option Error)

inductive RotationReply where
  | done (err : Option Error)
  | challenge (result : Except Error CredentialRotationChallenge)
  | install (result : Except Error (CredentialRotationInstall × CredentialRotationAck))
  | acked (ack : CredentialRotationAck) (err : Option Error)
  | revoke (result : Except Error CredentialRotationRevoke)
  | summary (summary : RotationSummary) (err : Option Error)
deriving DecidableEq

/-- The reply hands out a challenge or a revocation. -/
def RotationReply.issues : RotationReply → Bool
  | .challenge (.ok _) => true
  | .revoke (.ok _) => true
  | _ => false

/-- The request of a call that asks for a challenge, with the time it reads. `Challenge` sets the validity
    of the new credential itself. -/
def RotationCall.challengeRequest : RotationCall → Option (ChallengeRequest × Time)
  | .challenge _ request clock _ _ =>
    some ({ request with credentialValidUntil := request.overlapUntil.add (365 * 24 * Duration.hour) }, clock)
  | .challengeWithCredentialExpiry _ request clock _ _ => some (request, clock)
  | _ => none

def RotationCall.connectorID : RotationCall → Option String
  | .start _ _ | .resume _ _ _ => none
  | .challenge _ request _ _ _ | .challengeWithCredentialExpiry _ request _ _ _ => some request.connectorID
  | .acceptProof _ proof _ _ _ => some proof.connectorID
  | .markReady _ ready _ _ => some ready.connectorID
  | .revoke _ connectorID _ _ _ | .fail _ connectorID _ _ => some connectorID
  | .handleAck _ ack _ _ => some ack.connectorID

namespace RotationCoordinator

variable (codec : RotationCodec) (c : RotationCoordinator)

def call : RotationCall → RotationCoordinator × RotationReply
  | .start ctx begun => ((c.start ctx begun).1, .done (c.start ctx begun).2)
  | .resume ctx load clock => ((c.resume codec ctx load clock).1, .done (c.resume codec ctx load clock).2)
  | .challenge ctx request clock authorize record =>
    let o := c.challenge ctx request clock authorize record
    (o.1, .challenge o.2)
  | .challengeWithCredentialExpiry ctx request clock authorize record =>
    let o := c.challengeWithCredentialExpiry ctx request clock authorize record
    (o.1, .challenge o.2)
  | .acceptProof ctx proof clock verifyOld record =>
    let o := c.acceptProof codec ctx proof clock verifyOld record
    (o.1, .install o.2)
  | .markReady ctx ready clock record =>
    let o := c.markReady codec ctx ready clock record
    (o.1, .acked o.2.1 o.2.2)
  | .revoke ctx connectorID clock nonce record =>
    let o := c.revoke ctx connectorID clock nonce record
    (o.1, .revoke o.2)
  | .handleAck ctx ack clock record =>
    let o := c.handleAck ctx ack clock record
    (o.1, .summary o.2.1 o.2.2)
  | .fail ctx connectorID code record =>
    let o := c.fail ctx connectorID code record
    (o.1, .summary o.2.1 o.2.2)

/-- The machine of one coordinator: every call is enabled. -/
def step (op : RotationCall) : Option RotationCoordinator := some (c.call codec op).1

/-- A coordinator right after `NewRotationCoordinator` and a successful `Start`. -/
def Begun : Prop := ∃ plan c₀ ctx, newRotationCoordinator codec plan = .ok c₀ ∧ c₀.start ctx none = (c, none)

/-! ## The rules -/

def challenged (target : RotationTarget) (request : ChallengeRequest) : RotationCoordinator :=
  c.update request.connectorID
    (fun r => { r with challenge := c.newChallenge target request, state := .challenged }) (fun _ => rfl)

def installed (challenge : CredentialRotationChallenge) (proof : CredentialRotationProof) : RotationCoordinator :=
  c.update proof.connectorID (fun r => { r with proof, install := c.newInstall challenge proof, state := .installed })
    (fun _ => rfl)

theorem target_readied (ready : CredentialRotationReady) (r : RotationTargetRecord) :
    { r with ready, state := .ready }.target = r.target := rfl

def readied (ready : CredentialRotationReady) : RotationCoordinator :=
  c.update ready.connectorID (fun r => { r with ready, state := .ready }) (target_readied ready)

def revoking (connectorID : String) (revoke : CredentialRotationRevoke) : RotationCoordinator :=
  c.update connectorID (fun r => { r with revoke, state := .revoking }) (fun _ => rfl)

theorem target_revoked (r : RotationTargetRecord) : { r with state := .revoked }.target = r.target := rfl

def revoked (connectorID : String) : RotationCoordinator :=
  c.update connectorID (fun r => { r with state := .revoked }) target_revoked

def finishTime (connectorID : String) (now : Time) : Time :=
  if (c.revoked connectorID).summary.status = .succeeded then now else c.finished

variable (codec : RotationCodec) (c : RotationCoordinator) in
/-- `Effect c op c' reply`: called on `c`, `op` leaves `c'` and returns `reply`. -/
inductive Effect : RotationCall → RotationCoordinator → RotationReply → Prop where
  | kept {op reply} (hsilent : reply.issues = false) : Effect op c reply
  | started {ctx} (hidle : c.started = false) : Effect (.start ctx none) { c with started := true } (.done none)
  | resumed {ctx loaded clock finished} (hidle : c.started = false) :
      Effect (.resume ctx (some (.ok loaded)) clock)
        { loaded.targets.foldl restore c with started := true, finished } (.done none)
  | challenged {op request clock r} (hop : op.challengeRequest = some (request, clock))
      (hstarted : c.started) (hfind : c.find request.connectorID = some r)
      (hphase : challengeConflict r clock.utc = false)
      (hvalid : (c.newChallenge r.target request).validate clock.utc = none) :
      Effect op (c.challenged r.target request) (.challenge (.ok (c.newChallenge r.target request)))
  | installed {ctx proof clock verifyOld record r result} (hfind : c.find proof.connectorID = some r)
      (hphase : r.state = .challenged) (hmatch : rotationProofMatchesChallenge proof r.challenge r.target)
      (hvalid : (c.newInstall r.challenge proof).validate codec clock.utc = none) :
      Effect (.acceptProof ctx proof clock verifyOld record) (c.installed r.challenge proof) (.install result)
  | readied {ctx ready clock record r ack err} (hfind : c.find ready.connectorID = some r)
      (hphase : r.state = .installed) (hmatch : readyMatchesInstall c.plan ready r.install)
      (hvalid : ready.validate codec clock.utc = none) :
      Effect (.markReady ctx ready clock record) (c.readied ready) (.acked ack err)
  | repeated {ctx connectorID clock nonce record r} (hfind : c.find connectorID = some r)
      (hphase : r.state = .revoking) :
      Effect (.revoke ctx connectorID clock nonce record) c (.revoke (.ok r.revoke))
  | revoking {ctx connectorID clock nonce record r revokeNonce} (hfind : c.find connectorID = some r)
      (hphase : r.state = .ready) (hfailed : c.anyFailed = false) (hready : c.allReady)
      (hvalid : (c.newRevoke connectorID r revokeNonce clock.utc).validate clock.utc = none) :
      Effect (.revoke ctx connectorID clock nonce record)
        (c.revoking connectorID (c.newRevoke connectorID r revokeNonce clock.utc))
        (.revoke (.ok (c.newRevoke connectorID r revokeNonce clock.utc)))
  | revoked {ctx ack clock record r summary err} (hfind : c.find ack.connectorID = some r)
      (hphase : r.state = .revoking) :
      Effect (.handleAck ctx ack clock record)
        { c.revoked ack.connectorID with finished := c.finishTime ack.connectorID clock.utc }
        (.summary summary err)
  | lost {ctx ack clock record r summary err} (hfind : c.find ack.connectorID = some r)
      (hphase : r.state = .revoking) :
      Effect (.handleAck ctx ack clock record) { c.failTarget ack.connectorID .credentialRotationFailed with
          finished := c.finishTime ack.connectorID clock.utc }
        (.summary summary err)
  | failed {op connectorID r code reply} (hfind : c.find connectorID = some r)
      (hphase : r.state ≠ .revoked ∧ r.state ≠ .failed) (hcode : code ≠ .unset)
      (hsilent : reply.issues = false) (hop : op.connectorID = some connectorID) :
      Effect op (c.failTarget connectorID code) reply

/-! ## Every call follows a rule -/

variable {codec : RotationCodec} {c : RotationCoordinator} {ctx : Option Context}

abbrev HasEffect (codec : RotationCodec) (c : RotationCoordinator) (op : RotationCall) : Prop :=
  Effect codec c op (c.call codec op).1 (c.call codec op).2

theorem start_effect {begun : Option Error} : HasEffect codec c (.start ctx begun) := by
  simp only [HasEffect, call]
  fun_cases start c ctx begun with
  | case4 _ hidle => exact .started (by simpa using hidle)
  | _ => exact .kept rfl

variable {clock : Time} {op : RotationCall} {rcd : Option Error} {cid : String} {r : RotationTargetRecord}
  {ack : CredentialRotationAck}

theorem resume_effect {load : Option (Except Error RotationResume)} : HasEffect codec c (.resume ctx load clock) := by
  simp only [HasEffect, call]
  fun_cases resume codec c ctx load clock with
  | case9 _ _ _ hidle => exact .resumed (by simpa using hidle)
  | _ => exact .kept rfl

theorem challenge_effect {req : ChallengeRequest} {authorize : Option Error}
    (hop : op.challengeRequest = some (req, clock)) :
    Effect codec c op (c.challengeWithCredentialExpiry ctx req clock authorize rcd).1
      (.challenge (c.challengeWithCredentialExpiry ctx req clock authorize rcd).2) := by
  fun_cases challengeWithCredentialExpiry c ctx req clock authorize rcd with
  | case8 _ hstarted r hfind hphase _ hval =>
    exact .challenged hop (by simpa using hstarted) hfind (by simpa using hphase) hval
  | _ => exact .kept rfl

theorem acceptProof_effect {proof : CredentialRotationProof} {verifyOld : Option Error} :
    HasEffect codec c (.acceptProof ctx proof clock verifyOld rcd) := by
  simp only [HasEffect, call]
  fun_cases acceptProof codec c ctx proof clock verifyOld rcd with
  | case8 _ _ r hfind hphase => exact .failed hfind (by simp [not_not.mp hphase]) (by decide) rfl rfl
  | case9 _ _ r hfind hphase hmatch _ _ hval => exact .installed hfind (not_not.mp hphase) (not_not.mp hmatch) hval
  | _ => exact .kept rfl

theorem markReady_effect {ready : CredentialRotationReady} : HasEffect codec c (.markReady ctx ready clock rcd) := by
  simp only [HasEffect, call]
  fun_cases markReady codec c ctx ready clock rcd with
  | case6 _ _ r hfind hphase => exact .failed hfind (by simp [not_not.mp hphase]) (by decide) rfl rfl
  | case7 _ hval r hfind hphase hmatch => exact .readied hfind (not_not.mp hphase) (not_not.mp hmatch) hval
  | _ => exact .kept rfl

theorem revoke_effect {nonce : Except Error String} : HasEffect codec c (.revoke ctx cid clock nonce rcd) := by
  simp only [HasEffect, call]
  fun_cases revoke c ctx cid clock nonce rcd with
  | case5 _ _ _ r hfind _ _ hphase => exact .repeated hfind hphase
  | case9 _ r hfind _ _ _ hphase => exact .failed hfind (by simp [not_not.mp hphase]) (by decide) rfl rfl
  | case10 _ r hfind hstatus hready _ hphase _ _ hval =>
    have hnone : c.anyFailed = false := by
      by_contra h
      exact hstatus (by simp [summary, h])
    exact .revoking hfind (not_not.mp hphase) hnone (by simpa using hready) hval
  | _ => exact .kept rfl

theorem giveUp_effect {code : Code} {lost : Error → Error} (hfind : c.find cid = some r)
    (hphase : r.state ≠ .revoked ∧ r.state ≠ .failed) (hcode : code ≠ .unset) (hop : op.connectorID = some cid) :
    Effect codec c op (c.giveUp cid code rcd lost).1 (.summary (c.giveUp cid code rcd lost).2.1
        (c.giveUp cid code rcd lost).2.2) := by
  cases rcd with
  | some => exact .kept rfl
  | none => exact .failed hfind hphase hcode rfl hop

/-- An acknowledged revocation ends its target, and the last one the rotation. If the result cannot be
    stored the target fails, but a finish time stays. -/
theorem markRevoked_effect (hfind : c.find ack.connectorID = some r) (hphase : r.state = .revoking) :
    Effect codec c (.handleAck ctx ack clock rcd) (c.markRevoked ack.connectorID clock rcd).1
      (.summary (c.markRevoked ack.connectorID clock rcd).2.1 (c.markRevoked ack.connectorID clock rcd).2.2) := by
  have hfinished : (if (c.revoked ack.connectorID).summary.status = .succeeded then
        { c.revoked ack.connectorID with finished := clock.utc } else c.revoked ack.connectorID)
      = { c.revoked ack.connectorID with finished := c.finishTime ack.connectorID clock.utc } := by
    unfold finishTime
    split <;> rfl
  have hlost : ({ c.revoked ack.connectorID with
        finished := c.finishTime ack.connectorID clock.utc } : RotationCoordinator).failTarget
          ack.connectorID .credentialRotationFailed
      = { c.failTarget ack.connectorID .credentialRotationFailed with
          finished := c.finishTime ack.connectorID clock.utc } := by
    -- the second write to the target covers the first
    simp only [failTarget, update, revoked, List.map_map, mk.injEq, true_and]
    refine List.map_congr_left (fun s _ => ?_)
    by_cases h : s.target.connectorID = ack.connectorID <;> simp [h]
  unfold markRevoked
  cases rcd with
  | some =>
    dsimp only
    rw [show c.update ack.connectorID (fun r => { r with state := .revoked }) (fun _ => rfl)
      = c.revoked ack.connectorID from rfl, hfinished, hlost]
    exact .lost hfind hphase
  | none =>
    dsimp only
    rw [show c.update ack.connectorID (fun r => { r with state := .revoked }) (fun _ => rfl)
      = c.revoked ack.connectorID from rfl, hfinished]
    exact .revoked hfind hphase

theorem handleAck_effect : HasEffect codec c (.handleAck ctx ack clock rcd) := by
  simp only [HasEffect, call]
  fun_cases handleAck c ctx ack clock rcd with
  | case6 _ hval _ r hfind =>
    fun_cases handleAckLocked c r ack clock rcd with
    | case3 hlive hneg =>
      -- a valid negative acknowledgement carries a code
      refine giveUp_effect hfind (not_or.mp hlive) (fun hcode => ?_) rfl
      unfold CredentialRotationAck.validate at hval
      split at hval
      · cases hval
      · rcases hneg with h | h <;> simp [h, hcode] at hval
    | case9 _ _ _ _ hrevoked =>
      have hphase : r.state = .revoking := by
        by_contra h
        exact hrevoked (.inr (.inl h))
      exact markRevoked_effect hfind hphase
    | _ => exact .kept rfl
  | _ => exact .kept rfl

theorem fail_effect {code : Code} : HasEffect codec c (.fail ctx cid code rcd) := by
  simp only [HasEffect, call]
  fun_cases fail c ctx cid code rcd with
  | case5 hargs r hfind hrevoked hfail =>
    have hcode : code ≠ .unset := fun h => hargs (.inr (.inr h))
    exact giveUp_effect hfind ⟨hrevoked, hfail⟩ hcode rfl
  | _ => exact .kept rfl

/-- **Every call follows a rule.** -/
theorem call_effect (codec : RotationCodec) (c : RotationCoordinator) (op : RotationCall) :
    Effect codec c op (c.call codec op).1 (c.call codec op).2 := by
  cases op with
  | start => exact start_effect
  | resume => exact resume_effect
  | challenge | challengeWithCredentialExpiry => exact challenge_effect rfl
  | acceptProof => exact acceptProof_effect
  | markReady => exact markReady_effect
  | revoke => exact revoke_effect
  | handleAck => exact handleAck_effect
  | fail => exact fail_effect

theorem effect_of_step {c' : RotationCoordinator} (h : c.step codec op = some c') :
    Effect codec c op c' (c.call codec op).2 := by
  obtain rfl : (c.call codec op).1 = c' := Option.some.inj h
  exact call_effect codec c op

end RotationCoordinator

end PaperboatTunnel.ConnectorProtocol

/-! ## A rotation over two connectors

A plan with two targets, the records that take a target from its challenge to its revocation, and the calls that carry
them. -/

namespace PaperboatTunnel.ConnectorProtocol.RotationSample

open GoTime TransitionSystem RotationCoordinator

/-- A codec whose digests and keys are all zero and whose signatures all verify. -/
def codec : RotationCodec where
  planDocument := fun _ => []
  proofTranscript := fun _ => .ok []
  sha256 := fun _ => List.replicate 32 0
  parseURL := fun _ => some { scheme := "tpm", host := "paperboat", path := "/key" }
  ed25519Verify := fun _ _ _ => true

def hash : String := "sha256:0000000000000000000000000000000000000000000000000000000000000000"

def oldThumbprint : String := "BBBBBBBBBBBBBBBBBBBBBBBBBBBBBBBBBBBBBBBBBBB"
def newThumbprint : String := "AAAAAAAAAAAAAAAAAAAAAAAAAAAAAAAAAAAAAAAAAAA"
def signature : String := "AAAAAAAAAAAAAAAAAAAAAAAAAAAAAAAAAAAAAAAAAAAA"

/-- `n` minutes after the start of the sample. -/
def minute (n : Int) : Time := ⟨1000 * Duration.hour + n * Duration.minute, 0⟩

variable (connectorID : String)

def target : RotationTarget :=
  { connectorID, hostID := "host", oldCredentialGeneration := 1, newCredentialGeneration := 2 }

def plan : RotationPlan :=
  { accountID := "account", tunnelID := "tunnel", operationID := "operation", targetSetHash := hash,
    targets := [target "a", target "b"] }

/-- The request for a challenge issued at minute `n`, which is open for ten minutes. -/
def request (connectorID nonce : String) (n : Int) (overlapUntil : Time) : ChallengeRequest :=
  { connectorID, sessionID := "old-session", processGeneration := 1,
    oldIdentityKeyID := "ed25519:" ++ oldThumbprint, oldIdentityKeyThumbprint := oldThumbprint, nonce,
    issuedAt := minute n, expiresAt := minute (n + 10), overlapUntil }

def nonce : String := "challenge-nonce-1"

/-- The credential of the sample is valid for a year after the overlap of sixty minutes. -/
def validUntil : Time := (minute 60).add (365 * 24 * Duration.hour)

def proof : CredentialRotationProof :=
  { accountID := "account", tunnelID := "tunnel", operationID := "operation", connectorID, hostID := "host",
    sessionID := "old-session", processGeneration := 1, targetSetHash := hash,
    oldCredentialGeneration := 1, newCredentialGeneration := 2,
    oldIdentityKeyID := "ed25519:" ++ oldThumbprint, oldIdentityKeyThumbprint := oldThumbprint,
    newIdentityKeyID := "ed25519:" ++ newThumbprint, newIdentityKeyThumbprint := newThumbprint,
    newPublicKey := newThumbprint, newCredentialReference := "tpm://paperboat/key",
    challengeNonce := nonce, issuedAt := minute 0, newCredentialValidUntil := validUntil,
    oldSignedProof := signature, newSignedProof := signature }

def ready : CredentialRotationReady :=
  { accountID := "account", tunnelID := "tunnel", operationID := "operation", connectorID, hostID := "host",
    sessionID := "new-session", previousSessionID := "old-session", processGeneration := 2,
    targetSetHash := hash, oldCredentialGeneration := 1, newCredentialGeneration := 2,
    newIdentityKeyID := "ed25519:" ++ newThumbprint, newIdentityKeyThumbprint := newThumbprint,
    newPublicKey := newThumbprint, newCredentialReference := "tpm://paperboat/key",
    newCredentialValidUntil := validUntil, configGeneration := 1, configContentHash := hash,
    edgeReady := true, routeReady := true, originReady := true, readyAt := minute 0 }

def revokedAck : CredentialRotationAck := rotationReadyAck (ready connectorID) .revoked .unset

/-- The calls that make one connector ready. -/
def bringUp : List RotationCall :=
  [.challenge (some {}) (request connectorID nonce 0 (minute 60)) (minute 0) none none,
   .acceptProof (some {}) (proof connectorID) (minute 0) none none,
   .markReady (some {}) (ready connectorID) (minute 0) none]

def revokeCall : RotationCall :=
  .revoke (some {}) connectorID (minute 1) (.ok "rotation-revoke_0123456789") none

def ackCall : RotationCall := .handleAck (some {}) (revokedAck connectorID) (minute 2) none

def created : RotationCoordinator :=
  { plan, targets := [{ target := target "a" }, { target := target "b" }], planned := rfl }

def begun : RotationCoordinator := { created with started := true }

theorem created_new : newRotationCoordinator codec plan = .ok created := by
  have hval : plan.validate codec = none := by decide +kernel
  unfold newRotationCoordinator
  rw [if_neg (by simp [hval])]
  rfl

theorem begun_begun : begun.Begun codec := ⟨plan, created, some {}, created_new, rfl⟩

def after (calls : List RotationCall) : RotationCoordinator := (exec (step codec) begun calls).getD begun

end PaperboatTunnel.ConnectorProtocol.RotationSample
