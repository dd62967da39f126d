import PaperboatTunnel.ConnectorProtocol.Consumer
import PaperboatTunnel.ConnectorProtocol.JointMachine
import PaperboatTunnel.Lib.Checks

/-!
# `Answered` — every apply attempt is acknowledged

An apply call ends with an acknowledgement that is bound to the session, or with none and an error (`Answers`). In the
second case the consumer makes a rejection. The error has a code for it, because the session wraps the errors of the
applier.
-/

namespace PaperboatTunnel.ConnectorProtocol

open GoTime ClientSession Consumer Checks

/-! ## The ends of an apply call -/

/-- The error has a code of the vocabulary. -/
def Error.Carries (err : Error) : Prop := ∃ code, err.typed = some code ∧ code ≠ .unset

theorem carries_codeError {base : Code} {reason : DisconnectReason} {retryable : Bool} {cause : Option Error}
    (h : base ≠ .unset) : (codeError base reason retryable cause).Carries := by
  cases cause <;> exact ⟨base, rfl, h⟩

def ClientSession.identity (c : ClientSession) : Ack := c.makeAckLocked .unset .unset 0 ""

/-- The acknowledgement for the message, from the session with this identity. -/
def address (identity : Ack) (message : ApplyCall) (status : AckStatus) : Ack :=
  { identity with kind := message.kind, status, generation := message.generation,
                  contentHash := message.contentHash }

variable (identity : Ack) (message : ApplyCall) in
inductive Answers : Ack → Option Error → Prop
  | refused {err : Error} (h : err.Carries) : Answers {} (some err)
  | recovery {err : Error} : Answers (address identity message .snapshotRequired) (some err)
  | accepted {status} (h : status = .applied ∨ status = .duplicate) : Answers (address identity message status) none

def BeganWell (identity : Ack) (message : ApplyCall) : Began Ack ApplyCall → Prop
  | .returned ack err => Answers identity message ack err
  | .calling call => call = message

section Sections

variable {codec : PayloadCodec} {c later : ClientSession} {now : Time} {msg : ApplyCall} {ack : Ack}
  {err : Option Error} {ctx : Context} {o : PrepareOutcome}

theorem Error.Carries.joined {err : Error} (h : err.Carries) (cleanup : Option Error) :
    Answers c.identity msg {} (joinCleanup (some err) cleanup) := by
  cases cleanup with
  | none => exact .refused h
  | some cleanup =>
    obtain ⟨code, htyped, hset⟩ := h
    exact .refused ⟨code, by rw [Error.typed, htyped]; rfl, hset⟩

/-- The check before and after the applier keeps the identity, and its error has a code. -/
theorem ensureActiveLocked_answer (c : ClientSession) (now : Time) :
    (c.ensureActiveLocked now).1.identity = c.identity
      ∧ ∀ err, (c.ensureActiveLocked now).2 = some err → err.Carries := by
  unfold ensureActiveLocked
  repeat' split
  all_goals refine ⟨rfl, fun _ h => ?_⟩; cases h
  all_goals exact carries_codeError (by decide)

theorem compareSnapshot_answers {s : Snapshot} (h : c.compareSnapshot s = some (ack, err)) :
    Answers c.identity (.snapshot s) ack err := by
  unfold compareSnapshot againstCurrent at h
  repeat' split at h
  all_goals cases h
  all_goals first
    | exact .accepted (.inr rfl)
    | exact .refused (carries_codeError (by decide))

theorem applySnapshotLocked_begins {s : Snapshot} :
    BeganWell c.identity (.snapshot s) (c.applySnapshotLocked codec ctx s) := by
  unfold applySnapshotLocked
  repeat' split
  all_goals first
    | rfl
    | exact compareSnapshot_answers ‹_›
    | exact .refused (carries_codeError (by decide))

theorem applyDeltaLocked_begins {d : Delta} : BeganWell c.identity (.delta d) (c.applyDeltaLocked codec ctx d).2 := by
  unfold applyDeltaLocked
  repeat' split
  all_goals first
    | rfl
    | exact .recovery
    | exact .refused (carries_codeError (by decide))

/-- **The first section** returns an answer, or goes out with the message itself. -/
theorem applyBegin_begins : BeganWell c.identity msg (applyBegin codec c ctx now msg).2 := by
  have hact := ensureActiveLocked_answer c now.utc
  cases msg
  all_goals
    simp only [applyBegin, applySnapshotBegin, applyDeltaBegin]
    split
    · exact .refused (carries_codeError (by decide))
    split
    next heq => exact .refused (hact.2 _ (by rw [heq]))
    next heq =>
      rw [heq] at hact
      first
        | exact hact.1 ▸ applySnapshotLocked_begins
        | exact hact.1 ▸ applyDeltaLocked_begins

/-- **The second section** returns an answer. -/
theorem applyFinish_answers :
    Answers c.identity msg (c.applyFinish msg o now).value (c.applyFinish msg o now).err := by
  have hcode : msg.code ≠ .unset := by cases msg <;> nofun
  have hact := ensureActiveLocked_answer c now.utc
  unfold applyFinish prepareError
  split
  · dsimp only
    split
    · exact .refused (carries_codeError (by decide))
    · exact .refused (carries_codeError hcode)
  · exact .refused (carries_codeError (by decide))
  · exact .refused (carries_codeError hcode)
  split
  next heq => exact (hact.2 _ (by rw [heq])).joined _
  next c' heq =>
    rw [heq] at hact
    split
    · have hgap : (codeError .generationGap .generationGap true).Carries := carries_codeError (by decide)
      exact hgap.joined _
    · have hacc : Answers c'.identity msg (address c'.identity msg .applied) none := .accepted (.inl rfl)
      cases msg <;> exact hact.1 ▸ hacc

end Sections

/-! ## Welcomed sessions -/

/-- The session was made by `NewClientSession`, which checked the hello, and welcomed by `AcceptWelcome`, which checked
    the welcome. Both are fixed from then on; the rest of the session is arbitrary. -/
def ClientSession.Welcomed (c : ClientSession) : Prop :=
  (∃ clock, c.config.hello.validate clock = none) ∧ ∃ clock, c.welcome.validate clock = none

/-- The same session at another time. -/
def ClientSession.Becomes (c later : ClientSession) : Prop := later.config = c.config ∧ later.welcome = c.welcome

theorem ClientSession.Becomes.identity {c later : ClientSession} (h : c.Becomes later) :
    later.identity = c.identity := by
  rw [ClientSession.identity, makeAckLocked, h.1, h.2]
  rfl

/-- The identity is one that acknowledgements may have. -/
def Ack.Bound (a : Ack) : Prop :=
  ¬ (badIdentifier a.accountID ∨ badIdentifier a.tunnelID ∨ badIdentifier a.connectorID
    ∨ badIdentifier a.sessionID ∨ a.processGeneration = 0)

theorem ClientSession.Welcomed.bound {c : ClientSession} (h : c.Welcomed) : c.identity.Bound := by
  obtain ⟨⟨_, hhello⟩, _, hwelcome⟩ := h
  have hids := (none_iff.mp hhello).1
  have hsid := (none_iff.mp hwelcome).1
  unfold Ack.Bound ClientSession.identity makeAckLocked
  tauto

/-! ## Acknowledgements -/

variable {codec : PayloadCodec} {a : Ack} {msg : ApplyCall} {c : ClientSession} {kind : AckKind}
  {gen : UInt64} {contentHash : String} {err : Option Error}

theorem Ack.Bound.validate (h : a.Bound) (hkind : a.kind ≠ .unset) (hstatus : a.status ≠ .unset)
    (hgen : a.generation ≠ 0) (hhash : hashPattern a.contentHash)
    (hcode : a.status = .rejected ↔ a.code ≠ .unset) : a.validate = none := by
  unfold Ack.Bound at h
  unfold Ack.validate validCode
  rw [if_neg (by tauto), if_neg (by simp; tauto)]

theorem hash_of_validateBound (h : msg.validateBound codec = none) : hashPattern msg.contentHash = true := by
  cases msg
  all_goals
    have hchecks := (none_iff.mp (none_iff.mp h).2).1
    tauto

theorem respond_valid (h : a.validate = none) : respond a err = (some a, err) := by
  unfold respond
  rw [h]

theorem applyAck_valid (h : a.validate = none) : applyAck c kind gen contentHash a err = (some a, err) := by
  unfold applyAck
  rw [h, Option.isSome_none, if_neg Bool.false_ne_true, respond_valid h]

/-- **Every apply attempt is acknowledged.** The session was welcomed; `later` and `last` are what it is when the call
    takes the lock again and when a rejection is made. Whatever the applier answers, and whether or not the session is
    still open, `HandleFrame` answers a valid message with a valid acknowledgement of exactly that message. It says
    `applied` or `duplicate` only if the apply call returned no error, and a rejection has the code of the error. -/
theorem every_apply_is_acknowledged (codec : PayloadCodec) (c later last : ClientSession) (hwelcomed : c.Welcomed)
    (hlater : c.Becomes later) (hlast : c.Becomes last) (message : ApplyCall)
    (hvalid : message.validateBound codec = none) (hgen : message.generation ≠ 0) (ctx : Context)
    (clock clock' : Time) (o : PrepareOutcome) :
    let applied := apply codec c later ctx message clock clock' o
    ∃ ack, handleFrame codec c later last ctx message clock clock' o = (some ack, applied.2)
      ∧ ack.validate = none ∧ ack.kind = message.kind ∧ ack.generation = message.generation
      ∧ ack.contentHash = message.contentHash
      ∧ (ack.status = .applied ∨ ack.status = .duplicate → applied.2 = none)
      ∧ (ack.status = .rejected → ack.code = codeOf applied.2) := by
  intro applied
  have hbound := hwelcomed.bound
  have hanswers : Answers c.identity message applied.1 applied.2 := by
    have hbegins : BeganWell c.identity message (applyBegin codec c ctx clock message).2 := applyBegin_begins
    unfold applied apply
    split
    next heq => exact (heq ▸ hbegins :)
    next heq =>
      rw [heq] at hbegins
      cases hbegins
      exact hlater.identity ▸ applyFinish_answers
  have hkind : message.kind ≠ .unset := by cases message <;> nofun
  have hhash := hash_of_validateBound hvalid
  unfold handleFrame
  rw [hvalid]
  change ∃ ack, applyAck last message.kind message.generation message.contentHash applied.1 applied.2 = _ ∧ _
  generalize applied.1 = ack, applied.2 = err at hanswers ⊢
  cases hanswers with
  | @refused err hcarries =>
    obtain ⟨code, htyped, hset⟩ := hcarries
    have hcode : codeOf (some err) = code := by rw [codeOf, Option.bind_some, htyped]; rfl
    have hrejection : rejectionCode message.kind (some err) = code := by
      rw [rejectionCode, hcode, if_neg hset]
    have hok : (last.rejectionAck message.kind message.generation message.contentHash
        (rejectionCode message.kind (some err))).validate = none := by
      rw [hrejection]
      rw [← hlast.identity] at hbound
      exact Ack.Bound.validate hbound hkind nofun hgen hhash ⟨fun _ => hset, fun _ => rfl⟩
    have hempty : ({} : Ack).validate.isSome = true := by decide +kernel
    refine ⟨_, ?_, hok, rfl, rfl, rfl, nofun, fun _ => hrejection.trans hcode.symm⟩
    unfold applyAck
    rw [if_pos hempty, respond_valid hok]
  | recovery =>
    have hok : (address c.identity message .snapshotRequired).validate = none :=
      Ack.Bound.validate hbound hkind nofun hgen hhash ⟨nofun, fun h => absurd rfl h⟩
    exact ⟨_, applyAck_valid hok, hok, rfl, rfl, rfl, nofun, nofun⟩
  | @accepted status hstatus =>
    have hok : (address c.identity message status).validate = none := by
      refine Ack.Bound.validate hbound hkind ?_ hgen hhash ⟨?_, fun h => absurd rfl h⟩
      all_goals rcases hstatus with rfl | rfl <;> nofun
    refine ⟨_, applyAck_valid hok, hok, rfl, rfl, rfl, fun _ => rfl, fun h => ?_⟩
    rcases hstatus with rfl | rfl <;> cases h

open Sample in
/-- The applier fails on a delta, and the connector answers with a valid acknowledgement. -/
theorem every_apply_is_acknowledged_failure :
    let c := (clientAfter { session := client } (bootstrap config1)).session
    ∃ ack err, handleFrame sampleCodec c c c {} (.delta (deltaTo config1 config2)) now now
        { err := some (.text "prepare failed") } = (some ack, err) ∧ ack.validate = none ∧ ack.kind = .delta := by
  intro c
  have hchecks : c.config.hello.validate now = none ∧ c.welcome.validate now = none ∧
      (ApplyCall.delta (deltaTo config1 config2)).validateBound sampleCodec = none := by decide +kernel
  obtain ⟨ack, heq, hok, hkind, _⟩ := every_apply_is_acknowledged sampleCodec c c c ⟨⟨_, hchecks.1⟩, _, hchecks.2.1⟩
    ⟨rfl, rfl⟩ ⟨rfl, rfl⟩ _ hchecks.2.2 (by decide +kernel) {} now now { err := some (.text "prepare failed") }
  exact ⟨ack, _, heq, hok, hkind⟩

end PaperboatTunnel.ConnectorProtocol
