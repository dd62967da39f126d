import PaperboatTunnel.ConnectorProtocol.Rotation.Targets

/-!
# `RotationOrder` — rotation moves are local and forward

A call changes at most the target it names, and takes it forward. Only `Resume` names no target: it loads all of them,
and as `Fail` does not ask whether the rotation was started, it can load a target that has failed as a pending one
(`resumed_after_failure`).
-/

namespace PaperboatTunnel.ConnectorProtocol

open GoTime RotationCoordinator RotationSample

/-- The phase after this one; there is none after `revoked` and `failed`. -/
def RotationTargetState.next : RotationTargetState → Option RotationTargetState
  | .pending => some .challenged
  | .challenged => some .installed
  | .installed => some .ready
  | .ready => some .revoking
  | .revoking => some .revoked
  | _ => none

/-- A target stays in its phase, goes to the next one, or fails before it is revoked. -/
def RotationTargetState.Forward (before after : RotationTargetState) : Prop :=
  after = before ∨ before.next = some after ∨ before ≠ .revoked ∧ after = .failed

/-- A negative acknowledgement, or `Fail`, whose result the store does not take. -/
def RotationCall.GivesUpUnrecorded : RotationCall → Prop
  | .handleAck _ ack _ (some _) => ack.status = .rejected ∨ ack.status = .failed
  | .fail _ _ _ (some _) => True
  | _ => False

namespace RotationCoordinator

variable {codec : RotationCodec} {c : RotationCoordinator} {op : RotationCall} {r r' : RotationTargetRecord}

theorem Moves.forward (h : Moves codec c op r r') : r'.target = r.target ∧ r.state.Forward r'.state := by
  cases h with
  | challenged _ _ hphase =>
    refine ⟨rfl, ?_⟩
    rcases hphase with hphase | hphase
    · exact .inr (.inl (by rw [hphase]; rfl))
    · exact .inl hphase.symm
  | installed _ hphase | readied _ hphase | revoking hphase | revoked hphase =>
    exact ⟨rfl, .inr (.inl (by rw [hphase]; rfl))⟩
  | failed hphase => exact ⟨rfl, .inr (.inr ⟨hphase.1, rfl⟩)⟩

theorem call_of_unrecorded (h : op.GivesUpUnrecorded) : (c.call codec op).1 = c := by
  match op, h with
  | .fail ctx connectorID code (some err), _ =>
    show (c.fail ctx connectorID code (some err)).1 = c
    unfold fail
    (repeat' split) <;> rfl
  | .handleAck ctx ack clock (some err), hneg =>
    show (c.handleAck ctx ack clock (some err)).1 = c
    unfold handleAck handleAckLocked
    rw [RotationCall.GivesUpUnrecorded] at hneg
    simp only [if_pos hneg]
    (repeat' split) <;> rfl

/-- **Rotation moves are local and forward.** Whatever a call on a coordinator is given, and whatever its store
    answers: a target the call does not name keeps its record, and every target stays in its phase, goes to the next
    one or fails; one that is revoked or has failed stays so. A negative acknowledgement or a `Fail` that cannot be
    stored changes nothing at all. `Resume`, which loads the targets, is left out. -/
theorem moves_local_forward (codec : RotationCodec) (c : RotationCoordinator) (op : RotationCall)
    (hplan : c.plan.validate codec = none) (hop : ¬ ∃ ctx load clock, op = .resume ctx load clock) :
    (∀ r ∈ c.targets, op.connectorID ≠ some r.target.connectorID → r ∈ (c.call codec op).1.targets) ∧
    (∀ r ∈ c.targets, ∃ r' ∈ (c.call codec op).1.targets, r'.target = r.target ∧ r.state.Forward r'.state) ∧
    (op.GivesUpUnrecorded → (c.call codec op).1 = c) := by
  rcases (call_effect codec c op).writes (.inr hop) with hsame | ⟨connectorID, s, f, hnamed, hfind, hmove, hw⟩
  · rw [hsame]
    exact ⟨fun r hr _ => hr, fun r hr => ⟨r, hr, rfl, .inl rfl⟩, call_of_unrecorded⟩
  refine ⟨fun r hr hother => ?_, fun r hr => ?_, call_of_unrecorded⟩
  · rcases hw.mem_of_mem hplan hfind hr with hkept | ⟨rfl, _⟩
    · exact hkept
    · rw [(find_some hfind).2] at hother
      exact absurd hnamed hother
  · rcases hw.mem_of_mem hplan hfind hr with hkept | ⟨rfl, hnew⟩
    · exact ⟨r, hkept, rfl, .inl rfl⟩
    · exact ⟨f r, hnew, hmove.forward⟩

end RotationCoordinator

/-! ## Runs -/

def giveUpFirst : RotationCall := .fail (some {}) "a" .credentialRotationFailed none

theorem moves_local_forward_given_up :
    (∃ r ∈ (begun.call codec giveUpFirst).1.targets, r.target = target "a" ∧ r.state = .failed) ∧
    { target := target "b" } ∈ (begun.call codec giveUpFirst).1.targets := by
  have hplan : begun.plan.validate codec = none := by decide +kernel
  obtain ⟨hlocal, _⟩ := moves_local_forward codec begun giveUpFirst hplan (by rintro ⟨_, _, _, h⟩; cases h)
  exact ⟨by decide +kernel, hlocal { target := target "b" } (by decide +kernel) (by decide)⟩

def pendingStore : RotationResume where
  plan := RotationSample.plan
  started := true
  targets := [{ target := target "a", state := .pending }, { target := target "b", state := .pending }]

def loadPending : RotationCall := .resume (some {}) (some (.ok pendingStore)) (minute 0)

/-- **`Resume` takes a failure back**: before the start a target is given up, and then loaded as a pending one. -/
theorem resumed_after_failure : newRotationCoordinator codec RotationSample.plan = .ok created ∧
    ∃ c, (created.call codec giveUpFirst).1 = c ∧ (c.find "a").map RotationTargetRecord.state = some .failed
      ∧ loadPending.connectorID = none ∧ (c.call codec loadPending).2 = .done none
      ∧ ((c.call codec loadPending).1.find "a").map RotationTargetRecord.state = some .pending := by
  refine ⟨created_new, _, rfl, ?_⟩
  decide +kernel

end PaperboatTunnel.ConnectorProtocol
