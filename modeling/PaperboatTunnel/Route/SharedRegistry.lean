import PaperboatTunnel.Route.Generations

/-!
# `SharedRegistry` — the registry of generations as concurrent callers see it

Here a call of `GenerationRegistry` is cut where it gives up the lock: `ActivateGeneration` makes the new generation
active and then waits for the streams of the old one, `ApplyGeneration` asks its callback between staging and marking,
and `Close` of a lease counts the stream out before it closes the channel of a drained generation.

A `generationState` is an object that outlives its activation, because leases point to it; objects are rows of a
table. `Memory` is what the lock protects, and `Point` adds the calls with where each of them is. A lease may be closed,
and a wait given up, at any point of a run.
-/

namespace PaperboatTunnel.Route

open TransitionSystem

/-! ## The memory -/

/-- `generationState`. `drained` says that the channel is closed, `canceled` that the context is cancelled. -/
structure GenerationObject extends GenerationState where
  streams : Nat := 0
  (drained canceled : Bool := false)
deriving DecidableEq

/-- The stream count after `release`. -/
def GenerationObject.release (o : GenerationObject) : GenerationObject :=
  { o with streams := if o.streams > 0 then o.streams - 1 else o.streams }

/-- `StreamLease`; `state` is the number of the generation object. -/
structure StreamLease where
  state : Nat
  found : RouteMatch
  closed : Bool := false
deriving DecidableEq

/-- `GenerationRegistry`, with the objects it has made and the leases it has given. -/
structure Memory where
  maximumRoutes : Nat := defaultMaximumRoutes
  maximumStreams : Nat := defaultMaximumStreams
  (active pending : Option Nat := none)
  closed : Bool := false
  objects : List GenerationObject := []
  leases : List StreamLease := []
deriving DecidableEq

/-- Where a call is. A call that has returned from the wait for the old streams says how the wait ended. -/
inductive CallState where
  | applying (generation : UInt64)
  | confirmed (generation : UInt64)
  | marked (generation : UInt64)
  | emptied (state : Nat)
  | draining (state : Nat)
  | returned (err : Option Error)
  | drainEnded (drain : Drain)
deriving DecidableEq

namespace Memory

variable (m : Memory) (k : Nat) (o : GenerationObject)

/-- `NewGenerationRegistryWithOptions`. -/
def new (maximumRoutes maximumStreams : Int) : Except Error Memory :=
  if maximumStreams < 0 then .error .invalid
  else .ok
    { maximumRoutes := if maximumRoutes ≤ 0 then defaultMaximumRoutes else maximumRoutes.toNat
      maximumStreams := if maximumStreams = 0 then defaultMaximumStreams else maximumStreams.toNat }

def activeState : Option GenerationObject := m.active.bind (fun k => m.objects[k]?)

def pendingState : Option GenerationObject := m.pending.bind (fun k => m.objects[k]?)

def write : Memory := { m with objects := m.objects.set k o }

def cancel : Memory :=
  match m.objects[k]? with
  | none => m
  | some o => m.write k { o with canceled := true }

def cancelPending : Memory :=
  match m.pending with
  | none => m
  | some k => m.cancel k

def add (o : GenerationObject) : Memory :=
  { m with pending := some m.objects.length, objects := m.objects ++ [o] }

def drop : Memory := { m with pending := none }

def lend (found : RouteMatch) : Memory :=
  { m.write k { o with streams := o.streams + 1 } with leases := m.leases ++ [{ state := k, found }] }

def markDrained : Memory :=
  match m.objects[k]? with
  | none => m
  | some o => if o.drained then m else m.write k { o with drained := true, canceled := true }

/-! ## The sections under the lock -/

def stageGeneration (toASCII : ToASCII) (m : Memory) (generation : UInt64)
    (rules : List RouteRule) : Memory × Option Error :=
  if generation = 0 then (m, some .invalid)
  else match normalizeRules toASCII generation rules m.maximumRoutes with
    | .error err => (m, some err)
    | .ok normalized =>
      if m.closed then (m, some .generationClosed)
      else match m.activeState.bind
          (fun o => GenerationRegistry.restage o.toGenerationState generation normalized) with
        | some result => (m, result)
        | none =>
          match m.pendingState.bind
              (fun o => GenerationRegistry.restage o.toGenerationState generation normalized) with
          | some result => (m, result)
          | none => (m.cancelPending.add { generation, rules := normalized }, none)

def markGenerationReady (generation : UInt64) : Memory × Option Error :=
  if m.closed then (m, some .generationClosed)
  else if m.activeState.any (fun o => o.generation == generation) then (m, none)
  else match m.pending, m.pendingState with
    | some k, some o =>
      if o.generation = generation then (m.write k { o with ready := true }, none)
      else if generation < o.generation ∨ m.activeState.any (fun o => generation ≤ o.generation) then
        (m, some .generationStale)
      else (m, some .generationNotReady)
    | _, _ =>
      if m.activeState.any (fun o => generation ≤ o.generation) then (m, some .generationStale)
      else (m, some .generationNotReady)

/-- The object is active from now on, and the old one no longer accepts. -/
def promote : Memory :=
  let opened := { m.write k { o with accepting := true } with active := some k, pending := none }
  match m.active with
  | none => opened
  | some old =>
    match opened.objects[old]? with
    | none => opened
    | some oldState => opened.write old { oldState with accepting := false }

/-- What the call that replaces the active generation has to wait for. -/
def handOver : CallState :=
  match m.active, m.activeState with
  | some old, some oldState => if oldState.streams = 0 then .emptied old else .draining old
  | _, _ => .returned none

/-- The first section of `ActivateGeneration`, and where the call is afterwards. -/
def activateGeneration (generation : UInt64) : Memory × CallState :=
  if m.closed then (m, .returned (some .generationClosed))
  else if m.activeState.any (fun o => o.generation == generation) ∧ m.pending.isNone then (m, .returned none)
  else
    let stale := m.activeState.any (fun o => generation < o.generation)
    match m.pending, m.pendingState with
    | some k, some o =>
      if o.generation ≠ generation then
        (m, .returned (some (if stale ∨ generation < o.generation then .generationStale
          else .generationNotReady)))
      else if ¬ o.ready then (m, .returned (some .generationNotReady))
      else
        (m.promote k o, m.handOver)
    | _, _ => (m, .returned (some (if stale then .generationStale else .generationNotReady)))

def discardPending (generation : UInt64) : Memory :=
  if m.pendingState.any (fun o => o.generation == generation) then m.cancelPending.drop else m

/-- `Acquire`; the lease is the last one of the memory. -/
def acquire (toASCII : ToASCII) (m : Memory) (host : String) (requestPath : Path) : Memory × Option Error :=
  match normalizeMatchHost toASCII host, normalizeRequestPath requestPath with
  | .ok host, .ok path =>
    match m.active, m.activeState with
    | some k, some o =>
      if ¬ o.accepting then (m, some .noMatch)
      else match chooseRule o.rules host path with
        | .error err => (m, some err)
        | .ok rule =>
          if o.streams ≥ m.maximumStreams then (m, some .streamOverloaded)
          else (m.lend k o { rule, host, path, generation := o.generation }, none)
    | _, _ => (m, some .noMatch)
  | _, _ => (m, some .noMatch)

/-- `Close` of a lease up to the end of `release`; a lease is closed once. -/
def closeLease (l : Nat) (lease : StreamLease) : Memory × CallState :=
  if lease.closed then (m, .returned none)
  else
    let m := { m with leases := m.leases.set l { lease with closed := true } }
    match m.objects[lease.state]? with
    | none => (m, .returned none)
    | some o =>
      let o := o.release
      (m.write lease.state o,
        if ¬ o.accepting ∧ o.streams = 0 then .emptied lease.state else .returned none)

def close : Memory :=
  if m.closed then m
  else
    let m := { m.cancelPending with closed := true }
    match m.active with
    | none => m
    | some k => (m.cancel k).markDrained k

/-- The registry as one call after the other sees it. -/
def view : GenerationRegistry :=
  { maximumRoutes := m.maximumRoutes
    active := m.activeState.map GenerationObject.toGenerationState
    pending := m.pendingState.map GenerationObject.toGenerationState
    closed := m.closed }

end Memory

/-! ## Calls in progress -/

structure Point where
  memory : Memory
  calls : List CallState := []
deriving DecidableEq

/-- A section of a call: the start of one, or the next section of the call with this number. -/
inductive Section where
  | stage (generation : UInt64) (rules : List RouteRule)
  | markReady (generation : UInt64)
  | activate (generation : UInt64)
  | apply (generation : UInt64) (rules : List RouteRule) (callback : Bool)
  | confirm (call : Nat) (ready : Option Error)
  | applyMark (call : Nat)
  | applyActivate (call : Nat)
  | discard (generation : UInt64)
  | markDrained (call : Nat)
  | drainEnd (call : Nat) (drain : Drain)
  | acquire (host : String) (path : Path)
  | closeLease (lease : Nat)
  | close
deriving DecidableEq

namespace Point

def start (p : Point) (result : Memory × CallState) : Point := { memory := result.1, calls := p.calls ++ [result.2] }

def resume (p : Point) (i : Nat) (result : Memory × CallState) : Point :=
  { memory := result.1, calls := p.calls.set i result.2 }

def ended (result : Memory × Option Error) : Memory × CallState := (result.1, .returned result.2)

/-- **One section**; `none` if the call is not where the section starts. -/
def step (toASCII : ToASCII) (p : Point) : Section → Option Point
  | .stage generation rules => some (p.start (ended (p.memory.stageGeneration toASCII generation rules)))
  | .markReady generation => some (p.start (ended (p.memory.markGenerationReady generation)))
  | .activate generation => some (p.start (p.memory.activateGeneration generation))
  | .apply generation rules callback =>
    if ¬ callback then some (p.start (p.memory, .returned (some .generationNotReady)))
    else match p.memory.stageGeneration toASCII generation rules with
      | (m, some err) => some (p.start (m, .returned (some err)))
      | (m, none) => some (p.start (m, .applying generation))
  | .confirm i ready =>
    match p.calls[i]? with
    | some (.applying generation) =>
      match ready with
      | some err => some (p.resume i (p.memory.discardPending generation, .returned (some err)))
      | none => some (p.resume i (p.memory, .confirmed generation))
    | _ => none
  | .applyMark i =>
    match p.calls[i]? with
    | some (.confirmed generation) =>
      match p.memory.markGenerationReady generation with
      | (m, some err) => some (p.resume i (m, .returned (some err)))
      | (m, none) => some (p.resume i (m, .marked generation))
    | _ => none
  | .applyActivate i =>
    match p.calls[i]? with
    | some (.marked generation) => some (p.resume i (p.memory.activateGeneration generation))
    | _ => none
  | .discard generation => some (p.start (p.memory.discardPending generation, .returned none))
  | .markDrained i =>
    match p.calls[i]? with
    | some (.emptied k) => some (p.resume i (p.memory.markDrained k, .returned none))
    | _ => none
  | .drainEnd i drain =>
    match p.calls[i]? with
    | some (.draining k) =>
      match drain with
      | .drained =>
        if (p.memory.objects[k]?).any (fun o => o.drained) then
          some (p.resume i (p.memory, .drainEnded .drained))
        else none
      | drain => some (p.resume i (p.memory.cancel k, .drainEnded drain))
    | _ => none
  | .acquire host path => some (p.start (ended (p.memory.acquire toASCII host path)))
  | .closeLease l =>
    match p.memory.leases[l]? with
    | some lease => some (p.start (p.memory.closeLease l lease))
    | none => none
  | .close => some (p.start (p.memory.close, .returned none))

end Point

end PaperboatTunnel.Route
