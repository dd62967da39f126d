import PaperboatTunnel.Datacarrier.CarrierMoves

/-!
# `Server` — the edge endpoint of a data carrier

`Server` of `internal/datacarrier/carrier.go` and `access_stream.go`: the carrier of both endpoints, and the slot of
the one control stream that the host opens. `AcceptControlStream` takes the lock of the slot to see whether it is free,
and again after `acceptRaw` to give up or to fill it. The callback of the stream, `clearControl`, takes the same lock.
-/

namespace PaperboatTunnel.Datacarrier

open Option

/-- The server; `control` is the number of the stream in the slot. -/
structure Server where
  carrier : Carrier
  control : Option Nat := none
  controlOpening : Bool := false
deriving DecidableEq

namespace Server

variable (s : Server)

/-- `NewServer` and `NewServerWithSession`. -/
def new (config : Config) : Except Error Server :=
  match Carrier.new config with
  | .error err => .error err
  | .ok carrier => .ok { carrier }

/-- `AcceptControlStream` up to `acceptRaw`. -/
def acceptControl : Server :=
  if s.control.isSome ∨ s.controlOpening then
    { s with carrier := s.carrier.enter .acceptControl (.returned (.error .streamLimit)) }
  else { s with carrier := s.carrier.enter .acceptControl .admitting, controlOpening := true }

/-- The section of `AcceptControlStream` after a failed `acceptRaw`. -/
def settle (i : Nat) (call : Call) (err : Error) : Server := { s with
    carrier := s.carrier.setCall i { call with phase := .returned (.error err) }
    controlOpening := false }

/-- The section of `AcceptControlStream` that fills the slot. It closes the stream instead when the server was
    closed; a stream that its context has aborted is closed already. -/
def store (i : Nat) (call : Call) (j : Nat) (stream : Stream) : Server :=
  if s.carrier.done ∨ s.control.isSome then
    { s with
      carrier := (s.carrier.setCall i { call with phase := .returned (.error .carrierClosed) }).setStream j
        { stream with state := if stream.state = .live then .closing else stream.state }
      controlOpening := false }
  else
    { s with
      carrier := (s.carrier.setCall i { call with phase := .returned (.ok j) }).setStream j
        { stream with owned := true }
      control := some j
      controlOpening := false }

def clearControl : Server := { s with control := none }

/-- The callback of a stream, at the end of its `Close` or `abort`; a server has no stream that reserves a
    request. -/
def release (j : Nat) (stream : Stream) : Option Server :=
  let closed := s.carrier.setStream j { stream with state := .closed }
  match stream.release with
  | .permit => some { s with carrier := closed.releasePermit }
  | .control => some { s with carrier := closed }.clearControl
  | .request _ => none

inductive Action where
  | carrier (action : Carrier.Action)
  | acceptControl
  | settle (i : Nat)
  | store (i : Nat)
  | release (j : Nat)
deriving DecidableEq

def step : Action → Option Server
  | .carrier action => (s.carrier.step action).map (fun carrier => { s with carrier })
  | .acceptControl => some s.acceptControl
  | .settle i =>
    (s.carrier.calls[i]?).bind (fun call =>
      match call.phase with
      | .failed err => some (s.settle i call err)
      | _ => none)
  | .store i =>
    (s.carrier.calls[i]?).bind (fun call =>
      match call.phase with
      | .wrapped j => (s.carrier.streams[j]?).map (fun stream => s.store i call j stream)
      | _ => none)
  | .release j =>
    (s.carrier.streams[j]?).bind (fun stream =>
      if stream.state = .closing then s.release j stream else none)

inductive Move (s : Server) : Action → Server → Prop
  | carrier {action c'} (hmove : s.carrier.Move c') : Move s (.carrier action) { s with carrier := c' }
  | refused (hbusy : s.control.isSome ∨ s.controlOpening) :
      Move s .acceptControl { s with carrier := s.carrier.enter .acceptControl (.returned (.error .streamLimit)) }
  | entered (hempty : s.control = none) (hidle : s.controlOpening = false) : Move s .acceptControl
        { s with carrier := s.carrier.enter .acceptControl .admitting, controlOpening := true }
  | settled {i call err} (hi : s.carrier.calls[i]? = some call) (hphase : call.phase = .failed err) :
      Move s (.settle i) (s.settle i call err)
  | dropped {i call j stream} (hi : s.carrier.calls[i]? = some call) (hphase : call.phase = .wrapped j)
      (hj : s.carrier.streams[j]? = some stream) :
      Move s (.store i) { s with
          carrier := (s.carrier.setCall i { call with phase := .returned (.error .carrierClosed) }).setStream j
            { stream with state := if stream.state = .live then .closing else stream.state }
          controlOpening := false }
  | stored {i call j stream} (hi : s.carrier.calls[i]? = some call) (hphase : call.phase = .wrapped j)
      (hj : s.carrier.streams[j]? = some stream) (hempty : s.control = none) :
      Move s (.store i) { s with
          carrier := (s.carrier.setCall i { call with phase := .returned (.ok j) }).setStream j
            { stream with owned := true }
          control := some j
          controlOpening := false }
  | released {j stream} (hj : s.carrier.streams[j]? = some stream) (hstate : stream.state = .closing)
      (hrelease : stream.release = .permit) :
      Move s (.release j)
        { s with carrier := (s.carrier.setStream j { stream with state := .closed }).releasePermit }
  | cleared {j stream} (hj : s.carrier.streams[j]? = some stream) (hstate : stream.state = .closing)
      (hrelease : stream.release = .control) :
      Move s (.release j)
        { s with carrier := s.carrier.setStream j { stream with state := .closed }, control := none }

/-- **Every step is one of the moves.** -/
theorem step_move {s s' : Server} {a : Action} (h : s.step a = some s') : Move s a s' := by
  cases a with
  | carrier =>
    obtain ⟨_, hstep, rfl⟩ := map_eq_some_iff.mp h
    exact .carrier (Carrier.step_move hstep)
  | acceptControl =>
    cases h
    unfold acceptControl
    split
    next hbusy => exact .refused hbusy
    next hfree =>
      rw [not_or] at hfree
      exact .entered (not_isSome_iff_eq_none.mp hfree.1) (Bool.eq_false_iff.mpr hfree.2)
  | settle =>
    obtain ⟨_, hi, hcall⟩ := bind_eq_some_iff.mp h
    split at hcall
    next err hphase =>
      cases hcall
      exact .settled hi hphase
    · cases hcall
  | store =>
    obtain ⟨_, hi, hcall⟩ := bind_eq_some_iff.mp h
    split at hcall
    next j hphase =>
      obtain ⟨_, hj, rfl⟩ := map_eq_some_iff.mp hcall
      unfold store
      split
      · exact .dropped hi hphase hj
      next hfree =>
        rw [not_or] at hfree
        exact .stored hi hphase hj (not_isSome_iff_eq_none.mp hfree.2)
    · cases hcall
  | release =>
    obtain ⟨_, hj, hstream⟩ := bind_eq_some_iff.mp h
    split at hstream
    next hst =>
      unfold release at hstream
      split at hstream
      next hrel =>
        cases hstream
        exact .released hj hst hrel
      next hrel =>
        cases hstream
        exact .cleared hj hst hrel
      · cases hstream
    · cases hstream

/-! ## A small server -/

def edgeConfig : Config := { maximumStreams := 1, acceptBacklog := 1, identity := smallIdentity, authorize := true }

def edgeServer : Server := { carrier := { identity := smallIdentity, maximumStreams := 1, queueDepth := 16 } }

/-- The host opens its control stream and the edge accepts it, as the first call. -/
def acceptActions : List Action :=
  [.acceptControl, .carrier (.admitCall 0 .taken), .carrier (.answer 0 .delivered), .carrier (.receive 0 .taken),
    .carrier (.handOff 0 (.complete {})), .store 0]

end Server

end PaperboatTunnel.Datacarrier
