import PaperboatTunnel.Lib.FencedMap
import PaperboatTunnel.ConnectorProtocol.Messages

/-!
# `Registry` — live session identity

`SessionRegistry` of `internal/connectorprotocol/session.go`: at most one live session per connector. It is
a `FencedMap` whose tokens are the session references, filed under their connector.
-/

namespace PaperboatTunnel.ConnectorProtocol

open GoTime Fencing

structure SessionRef where
  (tunnelID connectorID sessionID : String := "")
  processGeneration : UInt64 := 0
deriving DecidableEq

def SessionRef.validate (r : SessionRef) : Option Error :=
  if badIdentifier r.tunnelID ∨ badIdentifier r.connectorID ∨ badIdentifier r.sessionID ∨ r.processGeneration = 0 then
    some errInvalidInput
  else none

structure AttachResult where
  current : SessionRef
  replaced : Option SessionRef
deriving DecidableEq

abbrev SessionRegistry := FencedMap SessionRef.connectorID

namespace SessionRegistry

variable (r : SessionRegistry)

def attach (ref : SessionRef) : SessionRegistry × Except Error AttachResult :=
  if ref.validate.isSome then (r, .error errInvalidInput)
  else match r.holder ref.connectorID with
    | some previous =>
      if previous.tunnelID ≠ ref.tunnelID then
        (r, .error (codeError .identityMismatch .authentication))
      else if ref.processGeneration ≤ previous.processGeneration then
        (r, .error (codeError .sessionConflict .staleGeneration))
      else (r.claim ref, .ok ⟨ref, some previous⟩)
    | none => (r.claim ref, .ok ⟨ref, none⟩)

def disconnect (ref : SessionRef) (reason : DisconnectReason) : SessionRegistry × Option Error :=
  if ref.validate.isSome ∨ ¬ validDisconnectReason reason then (r, some errInvalidInput)
  else match r.holder ref.connectorID with
    | none => (r, none)
    | some current =>
      if current ≠ ref then (r, some (codeError .staleSession .staleGeneration))
      else (r.release ref, none)

def active (connectorID : String) : Option SessionRef :=
  if badIdentifier connectorID then none else r.holder connectorID

/-- `Attach` either refuses and changes nothing, or claims the connector. -/
theorem attach_cases (ref : SessionRef) : (∃ err, r.attach ref = (r, .error err)) ∨
    (ref.validate = none ∧ ∃ result, r.attach ref = (r.claim ref, .ok result)) := by
  fun_cases attach r ref with
  | case4 hv | case5 hv => exact .inr ⟨by simpa using hv, _, rfl⟩
  | _ => exact .inl ⟨_, rfl⟩

/-- `Disconnect` leaves the registry alone or releases exactly `ref`. -/
theorem disconnect_cases (ref : SessionRef) (reason : DisconnectReason) :
    (r.disconnect ref reason).1 = r ∨ (r.disconnect ref reason).1 = r.release ref := by
  fun_cases disconnect r ref reason with
  | case4 => exact .inr rfl
  | _ => exact .inl rfl

/-- `Active` reports the holder, for connector ids that are well formed. -/
theorem active_eq_some_iff {r : SessionRegistry} {c : String} {ref : SessionRef} :
    r.active c = some ref ↔ badIdentifier c = false ∧ r.holder c = some ref := by
  unfold active
  cases badIdentifier c <;> simp

end SessionRegistry

end PaperboatTunnel.ConnectorProtocol
