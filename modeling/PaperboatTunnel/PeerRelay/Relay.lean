import PaperboatTunnel.Lib.GoTime

/-!
# `Relay` — one relay and the goroutines that work on it

A relay is created by the first endpoint and started by the second. From then on two goroutines copy bytes, and `run`
waits for both, closes both streams and finalizes. `terminate` may come in at any time, at most once (`stopOnce`). It
reads the legs under the manager's lock, lets go of the lock, closes the streams it has read, and finalizes if the relay
had not been started when it looked. Finalizing is done at most once (`finalOnce`).

Each goroutine is a program counter of the relay. Reading and writing the streams is up to the environment.
-/

namespace PaperboatTunnel.PeerRelay

open GoTime

/-! ## What an endpoint presents

A binding names a route allocation and a stream handle and says who they belong to, how long they are good for and how
many bytes may pass. The relay pairs two endpoints that present the same binding over the same carrier (`RelayKey`), and
remembers what has been used by route allocation, stream handle and carrier alone (`StreamKey`, `keyFor`).
-/

/-- The errors of the package, with those of contexts and streams that it passes on. -/
inductive RelayError where
  | invalid
  | capacity
  | conflict
  | draining
  | revoked
  | expired
  | limit
  | closed
  | context
  | eof
  /-- `io.ErrClosedPipe` or `net.ErrClosed` -/
  | streamClosed
  | shortWrite
  /-- An error of a stream or of the recorder. -/
  | other (code : Nat)
deriving DecidableEq

/-- A `Role` is a byte; only two of its values have a meaning. -/
inductive Role where
  | initiator
  | host
  | unknown (value : UInt8)
deriving DecidableEq

inductive Carrier where
  | quic
  | wss
  | unknown (value : UInt8)
deriving DecidableEq

inductive Path where
  | relayQUIC
  | relayWSS
deriving DecidableEq

structure Binding where
  (routeAllocation streamHandle : Vector UInt8 16)
  (environmentID routeID : String)
  routeRevision : UInt64
  intentID : String
  (attempt network : UInt64)
  expiresAt : Time
  maximumBytes : UInt64
deriving DecidableEq

structure Admission where
  binding : Binding
  role : Role
  carrier : Carrier
deriving DecidableEq

def canonicalBinding (binding : Binding) : Binding := { binding with expiresAt := binding.expiresAt.utc }

structure RelayKey where
  binding : Binding
  carrier : Carrier
deriving DecidableEq

/-- `streamKey`: its 33 bytes are the two identifiers and the carrier. -/
structure StreamKey where
  (routeAllocation streamHandle : Vector UInt8 16)
  carrier : Carrier
deriving DecidableEq

def keyFor (value : RelayKey) : StreamKey :=
  ⟨value.binding.routeAllocation, value.binding.streamHandle, value.carrier⟩

/-- A name of a binding: not empty, and at most 128 bytes. -/
def validName (name : String) : Bool := name != "" && decide (name.utf8ByteSize ≤ 128)

def validAdmission (admission : Admission) (now : Time) : Bool :=
  let binding := canonicalBinding admission.binding
  (admission.role == .initiator || admission.role == .host) &&
    (admission.carrier == .quic || admission.carrier == .wss) &&
    binding.routeAllocation != Vector.replicate 16 0 && binding.streamHandle != Vector.replicate 16 0 &&
    validName binding.environmentID && validName binding.routeID && decide (0 < binding.routeRevision) &&
    validName binding.intentID && decide (0 < binding.attempt) && decide (0 < binding.network) &&
    binding.expiresAt.after now && decide (0 < binding.maximumBytes) && decide (binding.maximumBytes ≤ 1099511627776)

def relayPath (first second : Carrier) : Path :=
  if first = .quic ∧ second = .quic then .relayQUIC else .relayWSS

structure Usage where
  (environmentID routeID : String := "")
  routeRevision : UInt64 := 0
  intentID : String := ""
  (attempt network : UInt64 := 0)
  /-- The zero `Path` of a relay that never started is `none`. -/
  path : Option Path := none
  (bytesToInitiator bytesToHost : Nat := 0)
  (startedAt finishedAt : Time := { nanos := 0 })
deriving DecidableEq

/-- `leg`; streams are numbered. -/
structure Leg where
  stream : Nat
  carrier : Carrier
deriving DecidableEq

/-! ## Copying -/

inductive Direction where
  | toInitiator
  | toHost
deriving DecidableEq

/-- Where `io.CopyBuffer` is: about to read, about to write what a read returned, or finished. -/
inductive CopyStage where
  | reading
  | writing (length : Nat) (readError : Option RelayError)
  | finished (error : Option RelayError)
deriving DecidableEq

/-- `copyLimited` with its `limitedWriter`. -/
structure Copier where
  remaining : Nat
  counter : Nat := 0
  stage : CopyStage := .reading
deriving DecidableEq

namespace Copier

/-- What a copy does once a chunk is out: the end of the source is not an error. -/
def afterRead : Option RelayError → CopyStage
  | none => .reading
  | some .eof => .finished none
  | some e => .finished (some e)

def read (c : Copier) (length : Nat) (e : Option RelayError) : Option Copier :=
  match c.stage with
  | .reading => some { c with stage := if length = 0 then afterRead e else .writing length e }
  | _ => none

/-- A write of the chunk returns after `n` bytes: the limited writer cuts the chunk at what remains. -/
def write (c : Copier) (n : Nat) (e : Option RelayError) : Option Copier :=
  match c.stage with
  | .writing length readError =>
    if n ≤ min length c.remaining then
      some
        { remaining := c.remaining - n
          counter := c.counter + n
          stage :=
            match e with
            | some e => .finished (some e)
            | none =>
              if c.remaining < length then .finished (some .limit)
              else if n ≠ length then .finished (some .shortWrite)
              else afterRead readError }
    else none
  | _ => none

end Copier

/-- `result` -/
structure CopyResult where
  direction : Direction
  bytes : Nat
  error : Option RelayError
deriving DecidableEq

/-! ## The relay -/

/-- How far `terminate` has come after it has read the legs. -/
inductive StopStage where
  | read
  | stored
  | initiatorClosed
  | hostClosed
deriving DecidableEq

/-- `terminate` inside its `stopOnce`, with what it read under the lock. -/
structure Stop where
  (initiator host : Option Leg)
  started : Bool
  cause : RelayError
  stage : StopStage := .read
deriving DecidableEq

inductive RunStage where
  | idle
  | copying
  | initiatorClosed
  | hostClosed
  | finishing (error : Option RelayError)
deriving DecidableEq

inductive FinalStage where
  | pending
  /-- The relay has left the table; `started` is what was read there. -/
  | unlocked (started : Bool) (cause : List RelayError)
  | recorded
  /-- The channel `done` is closed. -/
  | done
deriving DecidableEq

structure Relay where
  key : RelayKey
  (initiator host : Option Leg := none)
  started : Bool := false
  (baseUsage usage : Usage := {})
  err : List RelayError := []
  expired : Bool := false
  (toInitiator toHost : Copier)
  results : List CopyResult := []
  run : RunStage := .idle
  stop : Option Stop := none
  final : FinalStage := .pending
deriving DecidableEq

def normalizeCopyError : Option RelayError → Option RelayError
  | some .eof | some .streamClosed => none
  | e => e

namespace Relay

variable (r : Relay)

/-- A relay as `Attach` creates it, before it has a leg. -/
def new (key : RelayKey) : Relay where
  key := key
  toInitiator := { remaining := key.binding.maximumBytes.toNat }
  toHost := { remaining := key.binding.maximumBytes.toNat }

/-- The leg of a role; `Attach` takes every role but the host's for the initiator's. -/
def leg : Role → Option Leg
  | .host => r.host
  | _ => r.initiator

def setLeg (role : Role) (l : Leg) : Relay :=
  match role with
  | .host => { r with host := some l }
  | _ => { r with initiator := some l }

def startUsage (initiator host : Leg) (now : Time) : Usage :=
  let binding := r.key.binding
  { environmentID := binding.environmentID, routeID := binding.routeID, routeRevision := binding.routeRevision,
    intentID := binding.intentID, attempt := binding.attempt, network := binding.network,
    path := some (relayPath initiator.carrier host.carrier), startedAt := now.utc }

def start (now : Time) : Relay :=
  match r.initiator, r.host with
  | some initiator, some host =>
    if r.started then r
    else { r with started := true, baseUsage := r.startUsage initiator host now, run := .copying }
  | _, _ => r

def copier : Direction → Copier
  | .toInitiator => r.toInitiator
  | .toHost => r.toHost

def setCopier (direction : Direction) (c : Copier) : Relay :=
  match direction with
  | .toInitiator => { r with toInitiator := c }
  | .toHost => { r with toHost := c }

/-- A copy goroutine goes on; when it has finished it sends its result. -/
def afterCopy (direction : Direction) (c : Copier) : Relay :=
  match c.stage with
  | .finished e =>
    { r.setCopier direction c with results := r.results ++ [⟨direction, c.counter, e⟩] }
  | _ => r.setCopier direction c

/-- `stopped`: the cause that `terminate` has stored. -/
def stopped : Option RelayError :=
  match r.stop with
  | some s => if s.stage = .read then none else some s.cause
  | none => none

/-- The error of `run`, from its two results in the order in which they came. -/
def runError : Option RelayError :=
  match r.stopped with
  | some cause => some cause
  | none =>
    match r.results with
    | [first, second] => if first.error = none then normalizeCopyError second.error else normalizeCopyError first.error
    | _ => none

def streamOf : Option Leg → List Nat
  | some l => [l.stream]
  | none => []

/-! ## Steps -/

/-- What a relay's own goroutines do without the manager's lock. -/
inductive Move where
  /-- `terminate` goes on after reading the legs. -/
  | advanceStop
  | read (direction : Direction) (length : Nat) (e : Option RelayError)
  | write (direction : Direction) (n : Nat) (e : Option RelayError)
  /-- `run` goes on after both results. -/
  | advanceRun
  | closeDone

/-- The next stage of `terminate`, and the streams it closes on the way. -/
def advanceStop (s : Stop) : Option (Relay × List Nat) :=
  match s.stage with
  | .read => some ({ r with stop := some { s with stage := .stored } }, [])
  | .stored => some ({ r with stop := some { s with stage := .initiatorClosed } }, streamOf s.initiator)
  | .initiatorClosed => some ({ r with stop := some { s with stage := .hostClosed } }, streamOf s.host)
  | .hostClosed => none

/-- The next stage of `run`, and the streams it closes on the way. -/
def advanceRun : Option (Relay × List Nat) :=
  match r.run with
  | .copying =>
    if r.results.length = 2 then some ({ r with run := .initiatorClosed }, streamOf r.initiator) else none
  | .initiatorClosed => some ({ r with run := .hostClosed }, streamOf r.host)
  | .hostClosed => some ({ r with run := .finishing r.runError }, [])
  | _ => none

/-- A step of the relay's goroutines, with the streams it closes. -/
def step : Move → Option (Relay × List Nat)
  | .advanceStop => r.stop.bind r.advanceStop
  | .read direction length e =>
    if r.run = .idle then none
    else ((r.copier direction).read length e).map (fun c => (r.afterCopy direction c, []))
  | .write direction n e =>
    if r.run = .idle then none
    else ((r.copier direction).write n e).map (fun c => (r.afterCopy direction c, []))
  | .advanceRun => r.advanceRun
  | .closeDone => if r.final = .recorded then some ({ r with final := .done }, []) else none

def readLegs (cause : RelayError) : Relay :=
  { r with stop := some { initiator := r.initiator, host := r.host, started := r.started, cause := cause } }

/-- Who calls `finalize`. -/
inductive Finisher where
  | stop
  | run
deriving DecidableEq

/-- The cause with which a goroutine calls `finalize`, once it has come that far. -/
def finalCause : Finisher → Option (List RelayError)
  | .stop =>
    match r.stop with
    | some s => if s.stage = .hostClosed ∧ s.started = false then some [s.cause] else none
    | none => none
  | .run =>
    match r.run with
    | .finishing e => some e.toList
    | _ => none

def finalUsage (now : Time) : Usage := { r.baseUsage with
    bytesToInitiator := r.toInitiator.counter, bytesToHost := r.toHost.counter, finishedAt := now.utc }

end Relay

end PaperboatTunnel.PeerRelay
