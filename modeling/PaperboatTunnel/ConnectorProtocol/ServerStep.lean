import PaperboatTunnel.Lib.Transition
import PaperboatTunnel.ConnectorProtocol.ServerSession

/-!
# `ServerStep` — what one call can do to a server session

`ServerSession.Step` is the rule form of the operations: a call is refused, or shuts the session, or closes it, or runs
its body on a live session. `Effect` lists what a body can do, one rule per way the source writes the session, with the
guards under which it does. **`call_step` says the rules are complete.**
-/

namespace PaperboatTunnel.ConnectorProtocol

open GoTime Option

/-! ## Calls and replies -/

/-- The operations of a server session with their arguments and what the environment answers. `renew` is
    the whole call; `renewBegin` and `renewFinish` are its two lock-held sections. -/
inductive ServerCall where
  | handleAck (ctx : Option Context) (ack : Ack) (clock : Time)
  | handleReadiness (ctx : Option Context) (readiness : Readiness) (clock : Time)
  | offerSnapshot (ctx : Option Context) (snapshot : Snapshot) (clock : Time)
  | offerDelta (ctx : Option Context) (delta : Delta) (clock : Time)
  | handleHeartbeat (ctx : Option Context) (heartbeat : Heartbeat) (clock : Time)
  | beginDrain (ctx : Option Context) (drainID : String) (deadline : Time) (forceAfterDeadline : Bool)
      (clock clock' : Time)
  | handleDrainAck (ctx : Option Context) (ack : DrainAck) (clock : Time)
  | renew (ctx : Option Context) (request : RenewalRequest) (clock : Time)
      (result : Except Error AuthResult) (clock' : Time)
  | renewBegin (ctx : Option Context) (request : RenewalRequest) (clock : Time)
  | renewFinish (renewal : ServerSession.Renewal) (result : Except Error AuthResult) (clock : Time)
  | checkLease (now : Time)
  | close (reason : DisconnectReason)

inductive ServerReply where
  | done
  | ready (ack : Ack)
  | heartbeatAck (ack : HeartbeatAck)
  | drain (request : Drain)
  | renewing (renewal : ServerSession.Renewal)
  | renewed (result : AuthResult)
deriving DecidableEq

def AckStatus.Negative (status : AckStatus) : Prop := status = .snapshotRequired ∨ status = .rejected

instance (status : AckStatus) : Decidable status.Negative := by
  unfold AckStatus.Negative; infer_instance

variable {snapshot : Snapshot}

namespace ServerSession

variable {α : Type}

/-- Wrap the result of an operation into the common reply type. -/
def reply (f : α → ServerReply) (o : Outcome α) : Outcome ServerReply := (o.1, o.2.1, o.2.2.map f)

variable (codec : PayloadCodec) (reg : SessionRegistry) (s : ServerSession)

def call : ServerCall → Outcome ServerReply
  | .handleAck ctx ack clock => reply (fun _ => .done) (s.handleAck reg ctx ack clock)
  | .handleReadiness ctx r clock => reply .ready (s.handleReadiness reg ctx r clock)
  | .offerSnapshot ctx snapshot clock => reply (fun _ => .done) (s.offerSnapshot codec reg ctx snapshot clock)
  | .offerDelta ctx delta clock => reply (fun _ => .done) (s.offerDelta codec reg ctx delta clock)
  | .handleHeartbeat ctx h clock => reply .heartbeatAck (s.handleHeartbeat reg ctx h clock)
  | .beginDrain ctx drainID deadline force clock clock' =>
    reply .drain (s.beginDrain reg ctx drainID deadline force clock clock')
  | .handleDrainAck ctx ack clock => reply (fun _ => .done) (s.handleDrainAck reg ctx ack clock)
  | .renew ctx request clock result clock' => reply .renewed (s.renew reg ctx request clock result clock')
  | .renewBegin ctx request clock => reply .renewing (s.renewBegin reg ctx request clock)
  | .renewFinish renewal result clock => reply .renewed (s.renewFinish reg renewal result clock)
  | .checkLease now => reply (fun _ => .done) (s.checkLease reg now)
  | .close reason => reply (fun _ => .done) (s.close reg reason)

/-! ## The rules -/

/-- The session may act at `now`: open, current in the registry, and within its three deadlines. -/
@[mk_iff]
structure Live (now : Time) : Prop where
  notClosed : s.state ≠ .closed
  current : reg.active s.ref.connectorID = some s.ref
  credential : s.auth.credentialExpiresAt.after now = true
  lease : s.lease.expiresAt.after now = true
  heartbeat : ¬ s.heartbeatOverdue now

def shut (reason : DisconnectReason) : ServerSession :=
  { s with state := .closed, disconnectReason := reason }

/-- A readiness message that the body of `HandleReadiness` accepts. -/
structure ReadinessMatches (r : Readiness) : Prop where
  identity : s.matchesIdentity r.accountID r.tunnelID r.connectorID r.sessionID r.processGeneration
  candidate : s.hasCandidate → r.generation = s.candidate.generation ∧ r.contentHash = s.candidate.contentHash
  active : ¬ s.hasCandidate → s.hasActive ∧ r.generation = s.active.generation ∧ r.contentHash = s.active.contentHash
  usable : r.edgeReady ∧ r.routeReady ∧ r.originReady

/-- A drain acknowledgement of the recorded, unfinished drain. -/
structure DrainMatches (d : Drain) (ack : DrainAck) : Prop where
  identity : s.matchesIdentity ack.accountID ack.tunnelID ack.connectorID ack.sessionID ack.processGeneration
  recorded : s.drain = some d
  drainID : ack.drainID = d.drainID
  config : ack.generation = d.generation ∧ ack.contentHash = d.contentHash
  unfinished : s.drainCompleted = false

def beat (now : Time) (h : Heartbeat) : ServerSession :=
  { s with lastHeartbeatSentAt := h.sentAt, lastHeartbeat := now,
           lease := { s.lease with expiresAt := s.heartbeatLease now } }

def renewed (renewal : Renewal) (result : AuthResult) : ServerSession :=
  { s with auth := result, lease := { s.lease with expiresAt := s.renewedLease renewal.now result },
           lastHeartbeat := renewal.now }

/-- `Effect s op s' r`: on a live session the body of `op` leaves `s'` and returns `r`. -/
inductive Effect : ServerCall → ServerSession → Except Error ServerReply → Prop where
  | refused {op err} : Effect op s (.error err)
  | kept {op} : Effect op s (.ok .done)
  | drainRepeated {ctx drainID deadline force clock clock' d} (hd : s.drain = some d) :
      Effect (.beginDrain ctx drainID deadline force clock clock') s (.ok (.drain d))
  | renewalBegun {ctx request clock} :
      Effect (.renewBegin ctx request clock) s (.ok (.renewing ⟨clock.utc, s.auth, s.ref⟩))
  | snapshotRefused {ctx ack clock p err} (hp : s.pendingSnapshot = some p) :
      Effect (.handleAck ctx ack clock)
        (restoreStateLocked { s with pendingSnapshot := none, needsSnapshot := true }) (.error err)
  | snapshotStaged {ctx ack clock p} (hp : s.pendingSnapshot = some p) (hkind : ack.kind = .snapshot)
      (hgen : ack.generation = p.generation) (hhash : ack.contentHash = p.contentHash)
      (hpos : ¬ ack.status.Negative) :
      Effect (.handleAck ctx ack clock)
        (awaitReady { s with candidate := p, hasCandidate := true, pendingSnapshot := none,
                             needsSnapshot := false }) (.ok .done)
  | deltaRefused {ctx ack clock d err} (hp : s.pendingSnapshot = none) (hd : s.pendingDelta = some d) :
      Effect (.handleAck ctx ack clock)
        (restoreStateLocked { s with pendingDelta := none, needsSnapshot := true }) (.error err)
  | deltaDropped {ctx ack clock d err} (hp : s.pendingSnapshot = none) (hd : s.pendingDelta = some d) :
      Effect (.handleAck ctx ack clock) { s with pendingDelta := none } (.error err)
  | deltaStaged {ctx ack clock d} (hp : s.pendingSnapshot = none) (hd : s.pendingDelta = some d)
      (hbase : s.hasActive → d.previousGeneration = s.active.generation
        ∧ d.previousContentHash = s.active.contentHash) :
      Effect (.handleAck ctx ack clock)
        (awaitReady { s with pendingDelta := none, candidate := s.deltaCandidate d,
                             hasCandidate := true }) (.ok .done)
  | readied {ctx r clock ack} (hr : s.ReadinessMatches r) : Effect (.handleReadiness ctx r clock)
        { s.promote with needsSnapshot := false, readyGeneration := r.generation, state := .ready }
        (.ok (.ready ack))
  | snapshotOffered {ctx snapshot clock} (hv : snapshot.validate codec = none)
      (hcand : s.hasCandidate → snapshot.generation ≠ s.candidate.generation)
      (hactive : s.hasActive → s.active.generation < snapshot.generation) :
      Effect (.offerSnapshot ctx snapshot clock) (s.putOnOffer snapshot) (.ok .done)
  | deltaOffered {ctx delta bound clock} (hv : delta.validate codec = none) (hactive : s.hasActive)
      (hp : s.pendingSnapshot = none) (hcand : ¬ s.hasCandidate)
      (hbound : bound = { delta with accountID := s.auth.accountID, connectorID := s.ref.connectorID,
                                     sessionID := s.ref.sessionID,
                                     processGeneration := s.ref.processGeneration }) :
      Effect (.offerDelta ctx delta clock) { s with pendingDelta := some bound } (.ok .done)
  | heartbeatMismatch {ctx h clock err} : Effect (.handleHeartbeat ctx h clock) s.withdrawReadiness (.error err)
  | heartbeatAccepted {ctx h clock} (hv : h.validate = none)
      (hfence : s.lastHeartbeatSentAt.nanos ≠ 0 → s.lastHeartbeatSentAt.nanos < h.sentAt.nanos) :
      Effect (.handleHeartbeat ctx h clock) (s.beat clock.utc h)
        (.ok (.heartbeatAck (s.heartbeatAck (s.heartbeatLease clock.utc) clock.utc)))
  | drainBegun {ctx drainID deadline force clock clock'} (hd : s.drain = none) (hactive : s.hasActive) :
      Effect (.beginDrain ctx drainID deadline force clock clock')
        { s with drain := some (s.drainRequest drainID deadline force), drainStatus := .accepted,
                 drainCode := .unset, drainCompleted := false, state := .draining }
        (.ok (.drain (s.drainRequest drainID deadline force)))
  | drainAcked {ctx ack clock d completed} (hm : s.DrainMatches d ack) (hstatus : ack.status ≠ .rejected) :
      Effect (.handleDrainAck ctx ack clock)
        { s with drainStatus := ack.status, drainCode := ack.code, drainCompleted := completed }
        (.ok .done)
  | drainRejected {ctx ack clock d err} (hm : s.DrainMatches d ack) (hstatus : ack.status = .rejected) :
      Effect (.handleDrainAck ctx ack clock)
        (restoreStateLocked { s with drainStatus := ack.status, drainCode := ack.code,
                                     drainCompleted := true }) (.error err)
  | renewCommitted {op renewal result answer} (hchecked : renewCheck renewal answer = .ok result)
      (hauth : s.auth = renewal.expected) (href : s.ref = renewal.ref)
      (hop : (∃ clock, op = .renewFinish renewal answer clock) ∨
        (∃ ctx request clock clock', op = .renew ctx request clock answer clock' ∧ renewal.now = clock.utc)) :
      Effect op (s.renewed renewal { result with sessionID := renewal.ref.sessionID })
        (.ok (.renewed { result with sessionID := renewal.ref.sessionID }))

/-- `Step reg s op o`: called on `s` with the registry `reg`, `op` has the outcome `o`. -/
inductive Step : ServerCall → Outcome ServerReply → Prop where
  | refused {op err} : Step op (reg, s, .error err)
  | shut {op reason err} (hopen : s.state ≠ .closed) :
      Step op ((reg.disconnect s.ref reason).1, s.shut reason, .error err)
  | closed {reason} (hopen : s.state ≠ .closed) :
      Step (.close reason) ((reg.disconnect s.ref reason).1, s.shut reason, .ok .done)
  | closedAgain {reason} (hclosed : s.state = .closed) : Step (.close reason) (reg, s, .ok .done)
  | ran {op s' r now} (hlive : s.Live reg now) (heff : Effect codec s op s' r) : Step op (reg, s', r)

/-! ## What no call changes -/

variable {codec reg s} {s' : ServerSession} {op : ServerCall}

/-- The identity and the server of a session are fixed by `Accept`. -/
theorem Effect.frame {r : Except Error ServerReply} (h : Effect codec s op s' r) :
    s'.ref = s.ref ∧ s'.server = s.server := by
  cases h with
  | readied => unfold promote; split <;> exact ⟨rfl, rfl⟩
  | heartbeatMismatch => unfold withdrawReadiness; split <;> exact ⟨rfl, rfl⟩
  | _ => exact ⟨rfl, rfl⟩

variable {o : Outcome ServerReply}

theorem Step.frame (h : Step codec reg s op o) : o.2.1.ref = s.ref ∧ o.2.1.server = s.server := by
  cases h with
  | ran _ heff => exact heff.frame
  | _ => exact ⟨rfl, rfl⟩

/-- A call leaves the registry alone, except that it may disconnect its own session. -/
theorem Step.registry (h : Step codec reg s op o) : o.1 = reg ∨ o.1 = reg.release s.ref := by
  cases h with
  | shut | closed => exact reg.disconnect_cases s.ref _
  | _ => exact .inl rfl

theorem Step.of_closed (h : Step codec reg s op o) (hcl : s.state = .closed) : o.2.1 = s := by
  cases h with
  | shut hopen | closed hopen => exact absurd hcl hopen
  | ran hlive => exact absurd hcl hlive.notClosed
  | _ => rfl

/-! ## Completeness of the rules -/

variable {reason : DisconnectReason}

theorem closeLocked_of_open (h : s.state ≠ .closed) :
    s.closeLocked reg reason = ((reg.disconnect s.ref reason).1, s.shut reason) := by
  unfold closeLocked shut
  rw [if_neg h]

/-- **`ensureActiveLocked`** passes a live session, refuses a closed one and shuts any other. -/
@[elab_as_elim]
theorem ensureActiveLocked_elim {motive : SessionRegistry × ServerSession × Option Error → Prop} (s : ServerSession)
    (reg : SessionRegistry) (now : Time) (passed : s.Live reg now → motive (reg, s, none))
    (refused : ∀ err, motive (reg, s, some err))
    (shut : s.state ≠ .closed → ∀ reason err, motive ((reg.disconnect s.ref reason).1, s.shut reason, some err)) :
    motive (s.ensureActiveLocked reg now) := by
  fun_cases s.ensureActiveLocked reg now with
  | case1 => exact refused _
  | case2 hopen | case3 hopen | case4 hopen | case5 hopen =>
    simp only [closeLocked_of_open hopen]
    exact shut hopen _ _
  | case6 hopen hcur hcredential hlease hheartbeat =>
    exact passed ⟨hopen, not_not.mp hcur, not_not.mp hcredential, not_not.mp hlease, hheartbeat⟩

variable {f : α → ServerReply} {ctx : Option Context} {clock : Time} {answer : Except Error AuthResult}
  {request : RenewalRequest} {ack : Ack}

/-- What a body leaves and returns is one of its effects. -/
abbrev HasEffect (codec : PayloadCodec) (s : ServerSession) (op : ServerCall) (f : α → ServerReply)
    (out : ServerSession × Except Error α) : Prop :=
  Effect codec s op out.1 (out.2.map f)

abbrev HasStep (codec : PayloadCodec) (s : ServerSession) (reg : SessionRegistry) (op : ServerCall) : Prop :=
  Step codec reg s op (s.call codec reg op)

theorem step_whenActive {now : Time} {body : ServerSession → ServerSession × Except Error α}
    (hbody : HasEffect codec s op f (body s)) : Step codec reg s op (reply f (s.whenActive reg now body)) := by
  unfold whenActive
  exact ensureActiveLocked_elim s reg now (fun hlive => .ran hlive hbody) (fun _ => .refused)
    (fun hopen _ _ => .shut hopen)

theorem step_checked {bad : Option Error} {rest : Outcome α} (h : bad = none → Step codec reg s op (reply f rest)) :
    Step codec reg s op (reply f (s.checked reg bad rest)) := by
  cases bad with
  | some => exact .refused
  | none => exact h rfl

/-! ### The bodies -/

theorem ackSnapshot_effect {p : Snapshot} (hp : s.pendingSnapshot = some p) :
    HasEffect codec s (.handleAck ctx ack clock) (fun _ => .done) (s.ackSnapshot p ack) := by
  unfold ackSnapshot
  split
  · exact .refused
  next hmatch =>
  simp only [not_or, not_not] at hmatch
  split
  · split <;> exact .snapshotRefused hp
  · next hpos => exact .snapshotStaged hp hmatch.1 hmatch.2.1 hmatch.2.2 hpos

theorem ackDelta_effect {d : Delta} (hp : s.pendingSnapshot = none) (hd : s.pendingDelta = some d) :
    HasEffect codec s (.handleAck ctx ack clock) (fun _ => .done) (s.ackDelta d ack) := by
  fun_cases ackDelta s d ack with
  | case1 => exact .refused
  | case2 | case3 => exact .deltaRefused hp hd
  | case4 => exact .deltaDropped hp hd
  | case5 _ _ _ hbase =>
    refine Effect.deltaStaged hp hd (fun hact => ?_)
    simpa [hact] using hbase

theorem handleAck_step : HasStep codec s reg (.handleAck ctx ack clock) := by
  refine step_checked (fun _ => step_checked (fun _ => step_whenActive ?_))
  unfold handleAckLocked
  split
  · exact .refused
  split
  · next p hp => exact ackSnapshot_effect hp
  next hp =>
  split
  · next d hd => exact ackDelta_effect hp hd
  · cases s.ackCurrent ack with
    | error => exact .refused
    | ok => exact .kept

theorem handleReadiness_step {r : Readiness} : HasStep codec s reg (.handleReadiness ctx r clock) := by
  refine step_checked (fun _ => step_checked (fun _ => step_whenActive ?_))
  fun_cases handleReadinessLocked with
  | case5 hid hcand hact husable =>
    refine Effect.readied ⟨not_not.mp hid, fun hc => ?_, fun hc => ?_, ?_⟩
    · simpa [hc] using hcand
    · simpa [hc] using hact
    · simpa using husable
  | _ => exact .refused

theorem offerSnapshot_step : HasStep codec s reg (.offerSnapshot ctx snapshot clock) := by
  refine step_checked (fun _ => step_checked (fun hv => step_whenActive ?_))
  rw [map_eq_none_iff] at hv
  show Effect codec s _ (s.offerSnapshotLocked snapshot).1 ((s.offerSnapshotLocked snapshot).2.map _)
  have hsame (cur : Snapshot) : HasEffect codec s (.offerSnapshot ctx snapshot clock) (fun _ => .done)
      (s.sameGeneration snapshot cur) := by
    unfold sameGeneration
    split
    · exact .refused
    · exact .kept
  fun_cases offerSnapshotLocked with
  | case1 | case2 | case3 => exact .refused
  | case4 | case5 | case6 => exact hsame _
  | case7 _ _ hstale hcand hact | case8 _ _ hstale hcand hact =>
    refine Effect.snapshotOffered hv (fun hc heq => hcand ⟨hc, heq⟩) (fun ha => ?_)
    have hle : ¬ snapshot.generation < s.active.generation := fun hlt => hstale ⟨ha, hlt⟩
    have hne : snapshot.generation ≠ s.active.generation := fun heq => hact ⟨ha, heq⟩
    rw [UInt64.lt_iff_toNat_lt] at hle ⊢
    rw [Ne, ← UInt64.toNat_inj] at hne
    omega

theorem offerDelta_step {delta : Delta} : HasStep codec s reg (.offerDelta ctx delta clock) := by
  refine step_checked (fun _ => step_checked (fun hv => step_whenActive ?_))
  rw [map_eq_none_iff] at hv
  unfold offerDeltaLocked
  split
  · exact .refused
  next hact =>
  split
  · exact .refused
  next hslots =>
  split
  · exact .refused
  simp only [not_or, not_not] at hact hslots
  exact .deltaOffered hv hact.1 (by simpa using hslots.1) hslots.2.2 rfl

theorem handleHeartbeat_step {h : Heartbeat} : HasStep codec s reg (.handleHeartbeat ctx h clock) := by
  refine step_checked (fun _ => step_checked (fun hv => step_whenActive ?_))
  fun_cases handleHeartbeatLocked with
  | case6 => exact .heartbeatMismatch
  | case7 _ _ _ hfence =>
    refine Effect.heartbeatAccepted hv (fun hz => ?_)
    simpa [hz] using hfence
  | _ => exact .refused

theorem beginDrain_step {drainID : String} {deadline clock' : Time} {force : Bool} :
    HasStep codec s reg (.beginDrain ctx drainID deadline force clock clock') := by
  refine step_checked (fun _ => step_whenActive ?_)
  fun_cases beginDrainLocked with
  | case2 _ d hd => exact .drainRepeated hd
  | case6 _ hd hready =>
    simp only [not_or, not_not] at hready
    exact .drainBegun hd hready.1
  | _ => exact .refused

theorem handleDrainAck_step {ack : DrainAck} : HasStep codec s reg (.handleDrainAck ctx ack clock) := by
  refine step_checked (fun _ => step_checked (fun hv => step_whenActive ?_))
  show Effect codec s _ (s.handleDrainAckLocked ack).1 ((s.handleDrainAckLocked ack).2.map _)
  fun_cases handleDrainAckLocked with
  | case5 => exact .kept
  | case7 hidentity d hd hid hconfig hdone =>
    simp only [not_or, not_not] at hconfig
    have hm : s.DrainMatches d ack := ⟨not_not.mp hidentity, hd, not_not.mp hid, hconfig, by simpa using hdone⟩
    fun_cases recordDrainAck with
    | case5 _ hst => exact .drainRejected hm hst
    | case6 _ hst =>
      -- the status was validated, so the source's default branch is dead
      exact absurd hv (DrainAck.validate_ne_none_of_unset hst)
    | case1 _ hst | case2 _ hst | case3 _ hst | case4 _ hst => exact .drainAcked hm (by simp [hst])
  | _ => exact .refused

theorem renewBegin_step : HasStep codec s reg (.renewBegin ctx request clock) := by
  refine step_checked (fun _ => step_checked (fun _ => step_whenActive ?_))
  unfold renewBeginLocked
  split
  · exact .refused
  · exact .renewalBegun

theorem validate_of_renewCheck {renewal : Renewal} {res : AuthResult} (h : renewCheck renewal answer = .ok res) :
    answer = .ok res ∧ res.validate renewal.now = none := by
  unfold renewCheck at h
  split at h
  · cases h
  split at h
  · cases h
  next hgood =>
  cases h
  simp only [not_or, not_isSome_iff_eq_none] at hgood
  exact ⟨rfl, hgood.1⟩

/-- The second section of `Renew`, in whichever call it runs. -/
theorem renewFinish_step {renewal : Renewal} (clock : Time)
    (hop : (∃ clock, op = .renewFinish renewal answer clock) ∨
      (∃ ctx request clock clock', op = .renew ctx request clock answer clock' ∧ renewal.now = clock.utc)) :
    Step codec reg s op (reply .renewed (s.renewFinish reg renewal answer clock)) := by
  unfold renewFinish
  cases hchecked : renewCheck renewal answer with
  | error => exact .refused
  | ok result =>
    refine step_whenActive ?_
    show Effect codec s _ (s.renewFinishLocked renewal result).1 ((s.renewFinishLocked renewal result).2.map _)
    unfold renewFinishLocked
    split
    · exact .refused
    · next hsame =>
      simp only [not_or, not_not] at hsame
      exact .renewCommitted hchecked hsame.1 hsame.2 hop

/-- What the first section of `Renew` leaves when it goes on: the session and registry as they were. -/
@[elab_as_elim]
theorem renewBegin_elim {motive : Outcome Renewal → Prop} (s : ServerSession) (reg : SessionRegistry)
    (ctx : Option Context) (request : RenewalRequest) (clock : Time)
    (begun : motive (reg, s, .ok ⟨clock.utc, s.auth, s.ref⟩)) (refused : ∀ err, motive (reg, s, .error err))
    (shut : s.state ≠ .closed → ∀ reason err, motive ((reg.disconnect s.ref reason).1, s.shut reason, .error err)) :
    motive (s.renewBegin reg ctx request clock) := by
  unfold renewBegin checked
  split
  · exact refused _
  split
  · exact refused _
  unfold whenActive
  refine ensureActiveLocked_elim s reg clock.utc (fun _ => ?_) refused shut
  simp only [renewBeginLocked]
  split
  · exact refused _
  · exact begun

theorem renew_step {clock' : Time} : HasStep codec s reg (.renew ctx request clock answer clock') := by
  show Step codec reg s _ (reply .renewed (s.renew reg ctx request clock answer clock'))
  unfold renew
  exact renewBegin_elim s reg ctx request clock
    (renewFinish_step clock' (.inr ⟨ctx, request, clock, clock', rfl, rfl⟩)) (fun _ => .refused)
    (fun hopen _ _ => .shut hopen)

theorem close_step : HasStep codec s reg (.close reason) := by
  show Step codec reg s _ (reply (fun _ => .done) (s.close reg reason))
  unfold close
  split
  · exact .refused
  by_cases hcl : s.state = .closed
  · have heq : s.closeLocked reg reason = (reg, s) := by unfold closeLocked; rw [if_pos hcl]
    rw [heq]
    exact .closedAgain hcl
  · rw [closeLocked_of_open hcl]
    exact .closed hcl

/-- **The rules are complete.** Every call takes one of the steps. -/
theorem call_step (codec : PayloadCodec) (s : ServerSession) (reg : SessionRegistry) (op : ServerCall) :
    HasStep codec s reg op := by
  cases op with
  | handleAck => exact handleAck_step
  | handleReadiness => exact handleReadiness_step
  | offerSnapshot => exact offerSnapshot_step
  | offerDelta => exact offerDelta_step
  | handleHeartbeat => exact handleHeartbeat_step
  | beginDrain => exact beginDrain_step
  | handleDrainAck => exact handleDrainAck_step
  | renew => exact renew_step
  | renewBegin => exact renewBegin_step
  | renewFinish _ _ clock => exact renewFinish_step clock (.inl ⟨clock, rfl⟩)
  | checkLease => exact step_whenActive Effect.kept
  | close => exact close_step

end ServerSession

/-! ## Accepting a session -/

/-- What `Accept` has established when it returns a session. -/
structure Accepted (sv : Server) (hello : Hello) (env : AcceptEnv) (s : ServerSession) (w : Welcome)
    (snapshot : Snapshot) : Prop where
  sessionID : env.sessionID = .ok s.ref.sessionID
  authValid : s.auth.validate env.clock.utc = none
  lease : s.lease = sv.initialLease s.auth s.ref.sessionID env.clock.utc
  welcome : w.lease = s.lease
  session : s = sv.session s.ref s.auth s.lease w snapshot env.clock.utc

variable {codec : PayloadCodec}

/-- The checks before `Attach`, read backwards from their success. -/
theorem Server.acceptChecks_ok {sv : Server} {hello : Hello} {env : AcceptEnv} {version : String}
    {capabilities : List String} {auth : AuthResult}
    {lease : Lease}
    (h : sv.acceptChecks codec hello env = .ok (version, capabilities, auth, snapshot, lease)) :
    auth.validate env.clock.utc = none ∧ env.sessionID = .ok lease.sessionID
      ∧ lease = sv.initialLease auth lease.sessionID env.clock.utc := by
  unfold Server.acceptChecks at h
  simp only [bind, Except.bind] at h
  split at h
  · cases h
  split at h
  · cases h
  split at h
  · cases h
  split at h
  · cases h
  split at h
  · cases h
  next hauth =>
  split at h
  · cases h
  split at h
  · cases h
  split at h
  · cases h
  next hid =>
  split at h
  · cases h
  split at h
  · cases h
  cases h
  simp only [not_or, not_isSome_iff_eq_none] at hauth
  exact ⟨hauth.1, hid, rfl⟩

/-- `Accept` refuses and changes nothing, or claims the connector for the session it returns. -/
theorem Server.accept_cases (codec : PayloadCodec) (sv : Server) (reg : SessionRegistry)
    (ctx : Option Context) (hello : Hello) (env : AcceptEnv) :
    (∃ err, sv.accept codec reg ctx hello env = (reg, .error err)) ∨
    (∃ s w snapshot, sv.accept codec reg ctx hello env = (reg.claim s.ref, .ok (s, w, snapshot))
      ∧ Accepted sv hello env s w snapshot) := by
  unfold Server.accept
  split
  · exact .inl ⟨_, rfl⟩
  cases hchecks : sv.acceptChecks codec hello env with
  | error err => exact .inl ⟨err, rfl⟩
  | ok found =>
    obtain ⟨_, _, auth, _, lease⟩ := found
    obtain ⟨hauth, hid, hlease⟩ := Server.acceptChecks_ok hchecks
    dsimp only
    rcases reg.attach_cases ⟨hello.tunnelID, hello.connectorID, lease.sessionID, hello.processGeneration⟩ with
      ⟨err, heq⟩ | ⟨_, result, heq⟩
    · rw [heq]; exact .inl ⟨err, rfl⟩
    · rw [heq]
      refine .inr ⟨sv.session _ auth lease _ _ env.clock.utc, _, _, rfl, ?_⟩
      exact ⟨hid, hauth, hlease, rfl, rfl⟩

theorem Server.accepted_of_ok {sv : Server} {reg : SessionRegistry} {ctx : Option Context} {hello : Hello}
    {env : AcceptEnv} {s : ServerSession} {w : Welcome}
    (h : (sv.accept codec reg ctx hello env).2 = .ok (s, w, snapshot)) :
    Accepted sv hello env s w snapshot := by
  rcases sv.accept_cases codec reg ctx hello env with ⟨err, heq⟩ | ⟨s', w', snapshot', heq, hacc⟩
  · rw [heq] at h; cases h
  · rw [heq] at h
    cases h
    exact hacc

/-! ## Runs

A session accepted by some server is called in any order by any number of goroutines. The lock makes each
call one step, except that `Renew` is two: between them the machine remembers what the first one read. The
registry is shared with every other session, so what a call finds there is part of the label; a result
about all runs of this machine holds whatever the other sessions do.
-/

/-- A server session and its `Renew` calls that wait for the authenticator. -/
structure ServerPoint where
  session : ServerSession
  renewals : List ServerSession.Renewal
deriving DecidableEq

/-- A call and the registry it finds. -/
structure ServerLabel where
  reg : SessionRegistry
  op : ServerCall

namespace ServerPoint

variable (codec : PayloadCodec) (p : ServerPoint)

/-- The second section of a `Renew` runs only for a call that is waiting. -/
def enabled : ServerCall → Bool
  | .renewFinish renewal _ _ => p.renewals.contains renewal
  | _ => true

/-- The calls that wait after `op` returned `r`. -/
def waiting (op : ServerCall) (r : Except Error ServerReply) : List ServerSession.Renewal :=
  match op, r with
  | .renewFinish renewal _ _, _ => p.renewals.erase renewal
  | _, .ok (.renewing renewal) => renewal :: p.renewals
  | _, _ => p.renewals

def returned (l : ServerLabel) : Except Error ServerReply := (p.session.call codec l.reg l.op).2.2

def step (l : ServerLabel) : Option ServerPoint :=
  if p.enabled l.op then
    some ⟨(p.session.call codec l.reg l.op).2.1, p.waiting l.op (p.returned codec l)⟩
  else none

/-- A session as `Accept` returns it, from any server, registry, hello and environment. -/
def Start : Prop :=
  ∃ (sv : Server) (reg : SessionRegistry) (ctx : Option Context) (hello : Hello) (env : AcceptEnv)
    (w : Welcome) (snapshot : Snapshot),
    (sv.accept codec reg ctx hello env).2 = .ok (p.session, w, snapshot) ∧ p.renewals = []

theorem Start.accepted {p : ServerPoint} (h : p.Start codec) :
    ∃ sv hello env w snapshot, Accepted sv hello env p.session w snapshot := by
  obtain ⟨sv, _, _, hello, env, w, snapshot, hacc, _⟩ := h
  exact ⟨sv, hello, env, w, snapshot, Server.accepted_of_ok hacc⟩

theorem step_session {codec : PayloadCodec} {p q : ServerPoint} {l : ServerLabel} (h : p.step codec l = some q) :
    ∃ reg', ServerSession.Step codec l.reg p.session l.op (reg', q.session, p.returned codec l) := by
  unfold step at h
  split at h
  · rw [← some.inj h]
    exact ⟨_, ServerSession.call_step codec p.session l.reg l.op⟩
  · cases h

end ServerPoint

end PaperboatTunnel.ConnectorProtocol

/-! ## The session of the package's own tests

The identities, durations and clock of `testSessionPair` in `session_test.go`, with three configurations of one tunnel.
The payloads are canonical documents that `validateConfigSnapshotPayload` accepts and the hashes are their SHA-256
digests; `sampleCodec` answers for exactly these documents and refuses every other one. -/

namespace PaperboatTunnel.ConnectorProtocol.Sample

open GoTime Fencing TransitionSystem

/-- 2026-08-30 10:00:00 UTC. -/
def now : Time := { nanos := 63923680800 * Duration.second }

def at_ (t : Int) : Time := now.add (t * Duration.second)

/-- The canonical configuration document of one generation. -/
def configText (generation : String) : String :=
  "\x7b\"access_mode\":\"public\",\"desired_state\":\"active\",\"expires_at\":null,\"generation\":" ++ generation
    ++ ",\"kind\":\"tunnel_config_snapshot\",\"name\":\"demo\",\"routes\":[]"
    ++ ",\"schema\":\"paperboat.preview-tunnel/v1\",\"stable_endpoint\":\"https://a.example.test\""
    ++ ",\"tunnel_id\":\"tunnel_1\"\x7d"

structure Config where
  generation : UInt64
  payload : Payload
  digest : String

variable (c : Config)

def config (generation : UInt64) (digits digest : String) : Config := ⟨generation, bytes (configText digits), digest⟩

def config1 : Config := config 1 "1" "d499f798852e19cf6664512bcbc67b9796eafb760ecea8d7bffb2a67d45b3317"
def config2 : Config := config 2 "2" "acb38501ed1d028757186b317ea9fe140bab87dd5b1c5c1ca5fb32f5f861e2eb"
def config3 : Config := config 3 "3" "d24ecca9730539ef1429995721c5ebe421958ba663608ec91e1c5a99382a87c0"

def Config.hash : String := "sha256:" ++ c.digest

def find (payload : Payload) : Option Config := [config1, config2, config3].find? (·.payload == payload)

/-- `canonicalJSON`, SHA-256 and `validateConfigSnapshotPayload` on the sample documents. -/
def sampleCodec : PayloadCodec where
  canonicalJSON payload _ :=
    if (find payload).isSome then .ok payload else .error (.text "not a sample document")
  sha256Hex payload := ((find payload).map Config.digest).getD ""
  validateConfigSnapshotPayload payload tunnelID generation :=
    if (find payload).any (·.generation == generation) && tunnelID == "tunnel_1" then none
    else some (.coded .snapshotRejected .unset false)

/-- The configuration as the snapshot source returns it. -/
def Config.snapshot : Snapshot :=
  { tunnelID := "tunnel_1", generation := c.generation, contentHash := c.hash, payload := c.payload }

def server : Server where
  config :=
    { capabilities := requiredCapabilities ++ [capabilityDrain], leaseDuration := Duration.minute,
      heartbeatInterval := 10 * Duration.second }
  good := by decide

def thumbprint : String := "AAAAAAAAAAAAAAAAAAAAAAAAAAAAAAAAAAAAAAAAAAA"

def auth (processGeneration : UInt64) : AuthRequest :=
  { accountID := "acct_1", tunnelID := "tunnel_1", connectorID := "connector_1", hostID := "host_1",
    identityKeyID := "ed25519:" ++ thumbprint, identityKeyThumbprint := thumbprint, processGeneration,
    credentialGeneration := 4, nonce := "nonce-1234567890",
    signedProof := "proof-12345678901234567890123456", issuedAt := now, expiresAt := at_ 60 }

def hello (processGeneration : UInt64) : Hello :=
  { protocol := protocolName, minVersion := "1.0", maxVersion := "1.0", accountID := "acct_1",
    tunnelID := "tunnel_1", connectorID := "connector_1", hostID := "host_1", processGeneration,
    capabilities := requiredCapabilities ++ [capabilityDrain], auth := auth processGeneration }

/-- The authenticator's answer: credential and lease for an hour from `t`. -/
def authResult (processGeneration credentialGeneration : UInt64) (t : Int) : AuthResult :=
  { accountID := "acct_1", tunnelID := "tunnel_1", connectorID := "connector_1", hostID := "host_1",
    identityKeyID := "ed25519:" ++ thumbprint, identityKeyThumbprint := thumbprint, processGeneration,
    credentialGeneration, credentialExpiresAt := at_ (t + 3600), leaseExpiresAt := at_ (t + 3600) }

/-- `Accept` at the sample time, offering configuration `c` first. -/
def env (processGeneration : UInt64) (sessionID : String) (c : Config) : AcceptEnv :=
  { clock := now, auth := .ok (authResult processGeneration 4 0), snapshot := .ok c.snapshot,
    sessionID := .ok sessionID }

/-- `Accept` of the first session on an empty registry. -/
def acceptance : SessionRegistry × Except Error (ServerSession × Welcome × Snapshot) :=
  server.accept sampleCodec FencedMap.empty (some {}) (hello 1) (env 1 "sess_1" c)

def reg : SessionRegistry := (acceptance c).1

/-- That session; the fallback is never reached. -/
def session : ServerSession :=
  match (acceptance c).2 with
  | .ok (s, _, _) => s
  | .error _ => server.session {} {} {} {} {} now

theorem start (h : (acceptance c).2.isOk) : ServerPoint.Start sampleCodec ⟨session c, []⟩ := by
  cases hacc : (acceptance c).2 with
  | error => rw [hacc] at h; cases h
  | ok found =>
    obtain ⟨s, w, snapshot⟩ := found
    refine ⟨server, FencedMap.empty, some {}, hello 1, env 1 "sess_1" c, w, snapshot, ?_, rfl⟩
    have hs : session c = s := by unfold session; rw [hacc]
    rw [hs]
    exact hacc

theorem accepts1 : (acceptance config1).2.isOk = true := by decide +kernel

def snapshotAck : Ack :=
  { accountID := "acct_1", tunnelID := "tunnel_1", connectorID := "connector_1", sessionID := "sess_1",
    processGeneration := 1, kind := .snapshot, status := .applied, generation := c.generation,
    contentHash := c.hash }

def readiness : Readiness :=
  { accountID := "acct_1", sessionID := "sess_1", tunnelID := "tunnel_1", connectorID := "connector_1",
    processGeneration := 1, generation := c.generation, contentHash := c.hash, edgeReady := true,
    routeReady := true, originReady := true }

def heartbeat (t : Int) : Heartbeat :=
  { accountID := "acct_1", sessionID := "sess_1", tunnelID := "tunnel_1", connectorID := "connector_1",
    processGeneration := 1, lastAppliedGeneration := c.generation, lastAppliedHash := c.hash,
    sentAt := at_ t }

/-- The connector acknowledges a snapshot and reports it ready. -/
def applies : List ServerCall :=
  [.handleAck (some {}) (snapshotAck c) now, .handleReadiness (some {}) (readiness c) now]

/-- Where calls on the sample session with first snapshot `c` lead from `p`. -/
def after (p : ServerPoint) (ops : List ServerCall) : ServerPoint :=
  (exec (ServerPoint.step sampleCodec) p (ops.map (ServerLabel.mk (reg c)))).getD p

theorem op_mem {c : Config} {p : ServerPoint} {ops : List ServerCall} {t : Transition ServerPoint ServerLabel}
    (h : t ∈ trace (ServerPoint.step sampleCodec) p (ops.map (ServerLabel.mk (reg c)))) :
    t.label.op ∈ ops := by
  obtain ⟨_, hop, heq⟩ := List.mem_map.mp (label_mem_of_mem_trace h)
  rw [← heq]
  exact hop

def drainRequest : Drain :=
  { accountID := "acct_1", tunnelID := "tunnel_1", connectorID := "connector_1", sessionID := "sess_1",
    processGeneration := 1, drainID := "drain_1", generation := c.generation, contentHash := c.hash,
    deadline := at_ 30, stopNewStreams := true }

end PaperboatTunnel.ConnectorProtocol.Sample
