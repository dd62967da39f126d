import PaperboatTunnel.Lib.GoMap
import PaperboatTunnel.Lib.Transition
import PaperboatTunnel.PeerRelay.Relay

/-!
# `Manager` — pairing, limits, and the end of relays

The manager holds the live relays by key and, by stream key, what has been used until it expires. A call of `Attach`
checks its arguments, enters the table under the lock, and then waits for the `done` channel of its relay. `Revoke`,
`Close`, the expiry of a pending relay and a cancelled context ask for the termination of a relay, which comes later
(`requests`). The bodies under the lock are one step each. `clock` is the latest reading of the manager's clock.
-/

namespace PaperboatTunnel.PeerRelay

open GoTime TransitionSystem

structure Config where
  (maximumPending maximumActive maximumConsumed bufferBytes : Int)
  reportTimeout : Duration
deriving DecidableEq

def developmentConfig : Config where
  maximumPending := 1024
  maximumActive := 4096
  maximumConsumed := 65536
  bufferBytes := 32 * 1024
  reportTimeout := 5 * Duration.second

def Config.valid (c : Config) : Bool :=
  decide (0 < c.maximumPending) && decide (c.maximumPending ≤ 16384) && decide (0 < c.maximumActive) &&
    decide (c.maximumActive ≤ 65536) && decide (0 < c.maximumConsumed) && decide (c.maximumConsumed ≤ 1048576) &&
    decide (4 * 1024 ≤ c.bufferBytes) && decide (c.bufferBytes ≤ 256 * 1024) && decide (0 < c.reportTimeout) &&
    decide (c.reportTimeout ≤ Duration.minute)

inductive Context where
  | missing
  | live
  | cancelled
deriving DecidableEq

inductive CallStatus where
  /-- The arguments are checked; the lock is not taken yet. -/
  | entering
  | waiting (relay : Nat)
  | returned (usage : Usage) (err : List RelayError)
deriving DecidableEq

/-- A call of `Attach`, with its admission in canonical form. -/
structure Call where
  admission : Admission
  stream : Option Nat
  status : CallStatus
deriving DecidableEq

def Call.key (call : Call) : RelayKey := ⟨call.admission.binding, call.admission.carrier⟩

structure Manager where
  config : Config
  relays : GoMap RelayKey Nat := ∅
  heap : List Relay := []
  consumed : GoMap StreamKey Time := ∅
  (draining closed : Bool := false)
  calls : List Call := []
  /-- Relays somebody is about to terminate, with the cause. -/
  requests : List (Nat × RelayError) := []
  /-- The streams that have been closed. -/
  streams : List Nat := []
  /-- The calls of `RecordRelayUsage`, by relay. -/
  recorded : List (Nat × Usage) := []
  clock : Time

def newManager (config : Config) (now : Time) : Except RelayError Manager :=
  let config :=
    if config.maximumConsumed = 0 then { config with maximumConsumed := developmentConfig.maximumConsumed } else config
  if !config.valid then .error .invalid else .ok { config := config, clock := now }

namespace Manager

variable (m : Manager)

/-- `countLocked`, the relays that wait for their second leg. -/
def pending : Nat := m.relays.values.countP (fun i => (m.heap[i]?).any (fun r => !r.started))

/-- `countLocked`, the relays that have been started. -/
def active : Nat := m.relays.values.countP (fun i => (m.heap[i]?).any (fun r => r.started))

def pruneConsumedLocked (now : Time) : Manager :=
  { m with consumed := m.consumed.filter (fun _ expiresAt => expiresAt.after now) }

variable (c : Nat) (call : Call)

def setStatus (status : CallStatus) : Manager :=
  { m with calls := m.calls.set c { call with status := status } }

/-- `Attach` gives up: it closes the stream and returns. -/
def refuse (e : RelayError) : Manager :=
  { m.setStatus c call (.returned {} [e]) with streams := m.streams ++ call.stream.toList }

/-! ## `Attach` -/

/-- The checks of `Attach` before the lock. -/
def attach (admission : Admission) (stream : Option Nat) (context : Context) (now : Time) : Manager :=
  let call : Call :=
    { admission := { admission with binding := canonicalBinding admission.binding }, stream := stream,
      status := .entering }
  let called := { m with calls := m.calls ++ [call] }
  if context = .missing ∨ stream = none ∨ validAdmission admission now = false then
    called.refuse m.calls.length call .invalid
  else if context = .cancelled then called.refuse m.calls.length call .context
  else called

/-- The first endpoint of a key: a new relay with one leg. -/
def create (l : Leg) : Manager :=
  { m.setStatus c call (.waiting m.heap.length) with
    relays := m.relays.insert call.key m.heap.length
    heap := m.heap ++ [(Relay.new call.key).setLeg call.admission.role l] }

/-- The second endpoint: its leg, and the start. -/
def join (i : Nat) (current : Relay) (l : Leg) (now : Time) : Manager :=
  { m.setStatus c call (.waiting i) with
    heap := m.heap.set i ((current.setLeg call.admission.role l).start now) }

/-- The part of `Attach` under the lock, for a call with a stream; `now` is the reading for the pruning and
    `startedAt` the one for the start. -/
def enter (stream : Nat) (now startedAt : Time) : Manager :=
  let m := m.pruneConsumedLocked now
  let l : Leg := ⟨stream, call.admission.carrier⟩
  if m.closed then m.refuse c call .closed
  else if m.draining then m.refuse c call .draining
  else if (m.consumed.lookup (keyFor call.key)).isSome then m.refuse c call .conflict
  else
    match m.relays.lookup call.key with
    | none =>
      if m.config.maximumConsumed ≤ m.consumed.entries.length + m.relays.entries.length then
        m.refuse c call .capacity
      else if m.config.maximumPending ≤ m.pending then m.refuse c call .capacity
      else m.create c call l
    | some i =>
      match m.heap[i]? with
      | none => m
      | some current =>
        if current.expired then m.refuse c call .expired
        else if (current.leg call.admission.role).isSome then m.refuse c call .conflict
        else if !current.started && (current.initiator.isSome || current.host.isSome)
            && decide (m.config.maximumActive ≤ m.active) then
          m.refuse c call .capacity
        else m.join c call i current l startedAt

/-! ## Ends -/

/-- The critical section of `finalize`. -/
def finalize (i : Nat) (r : Relay) (cause : List RelayError) : Manager := { m with
    relays := if m.relays.lookup r.key = some i then m.relays.erase r.key else m.relays
    consumed := m.consumed.insert (keyFor r.key) r.key.binding.expiresAt
    heap := m.heap.set i { r with final := .unlocked r.started cause } }

/-- The rest of `finalize` up to closing `done`: the usage, and its report for a relay that was started. -/
def record (i : Nat) (r : Relay) (started : Bool) (cause : List RelayError) (now : Time)
    (e : Option RelayError) : Manager :=
  { m with
    heap := m.heap.set i
      { r with usage := r.finalUsage now, err := cause ++ (if started then e.toList else []), final := .recorded }
    recorded := if started then m.recorded ++ [(i, r.finalUsage now)] else m.recorded }

/-- Ask for the termination of the relays with the given pointers. -/
def request (relays : List Nat) (cause : RelayError) : Manager :=
  { m with requests := m.requests ++ relays.map (fun i => (i, cause)) }

/-- The relays `Revoke` finds. -/
def bound (binding : Binding) : List Nat :=
  (m.relays.entries.filter (fun e => decide (e.1.binding = binding))).map Sigma.snd

end Manager

inductive Action where
  /-- `Attach` is called. -/
  | attach (admission : Admission) (stream : Option Nat) (context : Context) (now : Time)
  /-- A call takes the lock. -/
  | enter (call : Nat) (now startedAt : Time)
  /-- The context of a waiting call is done: `fail` looks whether the relay is still in the table. -/
  | cancel (call : Nat)
  /-- `done` is closed, and the call returns. -/
  | finish (call : Nat)
  | beginDrain
  | revoke (binding : Binding)
  | close
  /-- The timer of a pending relay fires. -/
  | expirePending (relay : Nat)
  /-- `terminate` of a requested relay passes its `stopOnce` and reads the legs. -/
  | terminate (request : Nat)
  | move (relay : Nat) (move : Relay.Move)
  | finalize (relay : Nat) (finisher : Relay.Finisher)
  | record (relay : Nat) (now : Time) (e : Option RelayError)

namespace Manager

def step (m : Manager) : Action → Option Manager
  | .attach admission stream context now => some { m.attach admission stream context now with clock := now }
  | .enter c now startedAt =>
    match m.calls[c]? with
    | some call =>
      match call.status, call.stream with
      | .entering, some stream => some { m.enter c call stream now startedAt with clock := startedAt }
      | _, _ => none
    | none => none
  | .cancel c =>
    match m.calls[c]? with
    | some call =>
      match call.status with
      | .waiting i => some (m.request (if m.relays.lookup call.key = some i then [i] else []) .context)
      | _ => none
    | none => none
  | .finish c =>
    match m.calls[c]? with
    | some call =>
      match call.status with
      | .waiting i =>
        match m.heap[i]? with
        | some r => if r.final = .done then some (m.setStatus c call (.returned r.usage r.err)) else none
        | none => none
      | _ => none
    | none => none
  | .beginDrain => some { m with draining := true }
  | .revoke binding => some (m.request (m.bound (canonicalBinding binding)) .revoked)
  | .close => some ({ m with closed := true, draining := true }.request m.relays.values .closed)
  | .expirePending i =>
    match m.heap[i]? with
    | some r =>
      if m.relays.lookup r.key ≠ some i ∨ r.started = true then some m
      else some ({ m with heap := m.heap.set i { r with expired := true } }.request [i] .expired)
    | none => none
  | .terminate k =>
    match m.requests[k]? with
    | some (i, cause) =>
      match m.heap[i]? with
      | some r => if r.stop = none then some { m with heap := m.heap.set i (r.readLegs cause) } else none
      | none => none
    | none => none
  | .move i a =>
    match m.heap[i]? with
    | some r => (r.step a).map (fun s => { m with heap := m.heap.set i s.1, streams := m.streams ++ s.2 })
    | none => none
  | .finalize i finisher =>
    match m.heap[i]? with
    | some r => if r.final = .pending then (r.finalCause finisher).map (m.finalize i r) else none
    | none => none
  | .record i now e =>
    match m.heap[i]? with
    | some r =>
      match r.final with
      | .unlocked started cause => some { m.record i r started cause now e with clock := now }
      | _ => none
    | none => none

end Manager

end PaperboatTunnel.PeerRelay
