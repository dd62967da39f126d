import PaperboatTunnel.ConnectorProtocol.Ingress
import PaperboatTunnel.Lib.GoMap
import PaperboatTunnel.Route.Rules

/-!
# `PublicTCPListeners` — the public TCP sockets of an edge process

The set binds a socket for every TCP listener that the ingress authority names (`reconcile`) or that a route worker
is about to report ready (`PrepareTCPRoutes`). A listener is open exactly while it is in the map.

The model starts where `Start` has set up the context; there is no second `Start`. It reconciles once and then hands
over to the loop `run`, so at most one reconcile is in flight (`Worker`): it asks the authority without the lock, and
binds in a later section. Each section under the lock is one step; its clock reading, the answers of `Listen` and the
order in which Go walks the map are arguments.
-/

namespace PaperboatTunnel.EdgeHTTP

open GoTime ConnectorProtocol

structure PublicTCPListener where
  decision : IngressDecision
  preparedUntil : Time := {}
deriving DecidableEq

def PublicTCPListener.port (live : PublicTCPListener) : UInt16 := live.decision.binding.publicPort

/-- The goroutine of `Start` and then of `run`: between two reconciles, in one of them, or gone with `done` closed. -/
inductive Worker where
  | waiting | fetching | withdrawing | exited
  | fetched (desired : GoMap String IngressDecision)

/-- A call of `Shutdown`: after its locked section, after `withdrawAll`, and returned without or with an error. -/
inductive ShutdownCall where
  | begun | withdrawn | returned | failed
deriving DecidableEq

inductive TCPError where
  | assignmentInvalid | changedPort
  | bind (port : UInt16)
deriving DecidableEq

structure PublicTCPListeners where
  interval : Duration
  maximumListeners : Nat
  canceled : Bool := false
  listeners : GoMap String PublicTCPListener := ∅
  worker : Worker := .fetching
  shutdowns : List ShutdownCall := []

namespace PublicTCPListeners

variable (lib : AddressLib) (p : PublicTCPListeners)

/-! ## `reconcile` -/

/-- The listeners that a snapshot asks for; `none` if two of them claim one port. -/
def collect (lib : AddressLib) (now : Time) : List IngressDecision → GoMap UInt16 String →
    GoMap String IngressDecision → Option (GoMap String IngressDecision)
  | [], _, desired => some desired
  | d :: rest, ports, desired =>
    let id := d.binding.listenerID
    if d.binding.protocol ≠ "tcp" ∨ d.binding.audience ≠ "public" ∨ ¬ d.validate lib now then
      collect lib now rest ports desired
    else if (ports.lookup d.binding.publicPort).any (· ≠ id) then none
    else
      collect lib now rest (ports.insert d.binding.publicPort id)
        (if (desired.lookup id).all (fun current => current.assignmentGeneration < d.assignmentGeneration) then
          desired.insert id d
        else desired)

/-- `reconcile` up to its locked section. -/
def fetch (snapshot : Option (List IngressDecision)) (now : Time) : Worker :=
  match snapshot.bind (fun decisions =>
      collect lib now (GoStrings.sortBy (fun d => d.binding.listenerID) decisions) ∅ ∅) with
  | none => .withdrawing
  | some desired => if p.maximumListeners < desired.keys.length then .withdrawing else .fetched desired

/-- One turn of the loop over the open listeners. -/
def review (now : Time) (tables : GoMap String PublicTCPListener × GoMap String IngressDecision) (id : String) :
    GoMap String PublicTCPListener × GoMap String IngressDecision :=
  match tables.1.lookup id, tables.2.lookup id with
  | none, _ => tables
  | some live, none => if now.before live.preparedUntil then tables else (tables.1.erase id, tables.2)
  | some live, some next =>
    if next.binding.publicPort ≠ live.port then (tables.1.erase id, tables.2)
    else (tables.1.insert id { decision := next }, tables.2.erase id)

/-- The loop that binds what is left, up to the first failure of `Listen`. -/
def bindDesired (listen : UInt16 → Bool) (desired : GoMap String IngressDecision) :
    List String → GoMap String PublicTCPListener → GoMap String PublicTCPListener × Option TCPError
  | [], listeners => (listeners, none)
  | id :: order, listeners =>
    match desired.lookup id with
    | none => bindDesired listen desired order listeners
    | some d =>
      if listen d.binding.publicPort then bindDesired listen desired order (listeners.insert id { decision := d })
      else (listeners, some (.bind d.binding.publicPort))

/-- The locked section of `reconcile`. -/
def reconcile (desired : GoMap String IngressDecision) (order : List String)
    (listen : UInt16 → Bool) (now : Time) : GoMap String PublicTCPListener × Option TCPError :=
  let reviewed := p.listeners.keys.foldl (review now) (p.listeners, desired)
  bindDesired listen reviewed.2 order reviewed.1

def prepareTCPRoutes (interval : Duration) (listen : UInt16 → Bool) (now : Time) :
    List Route.RouteRule → GoMap String PublicTCPListener → GoMap String PublicTCPListener × Option TCPError
  | [], listeners => (listeners, none)
  | rule :: rules, listeners =>
    let id := rule.publicTCPListenerID
    let deadline := now.add (2 * interval)
    if rule.kind ≠ .tunnelTCP ∨ id = "" ∨ rule.publicTCPPort = 0 then (listeners, some .assignmentInvalid)
    else
      match listeners.lookup id with
      | some live =>
        if live.port ≠ rule.publicTCPPort then (listeners, some .changedPort)
        else
          prepareTCPRoutes interval listen now rules (listeners.insert id { live with preparedUntil := deadline })
      | none =>
        if listen rule.publicTCPPort then
          let decision : IngressDecision :=
            { binding := { listenerID := id, publicPort := rule.publicTCPPort, protocol := "tcp",
                           audience := "public" } }
          prepareTCPRoutes interval listen now rules (listeners.insert id { decision, preparedUntil := deadline })
        else (listeners, some (.bind rule.publicTCPPort))

/-! ## Every section -/

inductive Section where
  | tick
  | snapshot (result : Option (List IngressDecision)) (now : Time)
  | withdrawAll
  | reconcile (order : List String) (listen : UInt16 → Bool) (now : Time)
  | exit
  | prepareTCPRoutes (rules : List Route.RouteRule) (listen : UInt16 → Bool) (now : Time)
  | shutdown
  | shutdownWithdraw (j : Nat)
  | shutdownDone (j : Nat)
  | shutdownCanceled (j : Nat)

/-- A `Shutdown` waits for `run`; when it has returned, `done` is closed. -/
def finished : Bool :=
  match p.worker with
  | .exited => true
  | _ => false

/-- A `Shutdown` goes from one stage to the next. -/
def advance (j : Nat) (stage next : ShutdownCall) : Option PublicTCPListeners :=
  if p.shutdowns[j]? = some stage then some { p with shutdowns := p.shutdowns.set j next } else none

def step : Section → Option PublicTCPListeners
  | .tick =>
    match p.worker with
    | .waiting => some { p with worker := .fetching }
    | _ => none
  | .snapshot result now =>
    match p.worker with
    | .fetching => some { p with worker := p.fetch lib result now }
    | _ => none
  | .withdrawAll =>
    match p.worker with
    | .withdrawing => some { p with listeners := ∅, worker := .waiting }
    | _ => none
  | .reconcile order listen now =>
    match p.worker with
    | .fetched desired =>
      if order.Perm desired.keys then
        some { p with listeners := (p.reconcile desired order listen now).1, worker := .waiting }
      else none
    | _ => none
  | .exit =>
    match p.worker with
    | .waiting => if p.canceled then some { p with worker := .exited } else none
    | _ => none
  | .prepareTCPRoutes rules listen now =>
    some { p with listeners := (prepareTCPRoutes p.interval listen now rules p.listeners).1 }
  | .shutdown => some { p with canceled := true, shutdowns := p.shutdowns ++ [.begun] }
  | .shutdownWithdraw j => { p with listeners := ∅ }.advance j .begun .withdrawn
  | .shutdownDone j => if p.finished then p.advance j .withdrawn .returned else none
  | .shutdownCanceled j => p.advance j .withdrawn .failed

end PublicTCPListeners

end PaperboatTunnel.EdgeHTTP
