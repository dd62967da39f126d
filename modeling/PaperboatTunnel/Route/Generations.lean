import PaperboatTunnel.Lib.Transition
import PaperboatTunnel.Route.Rules

/-!
# `Generations` — the registry of route generations

`GenerationRegistry` of `internal/route/matcher.go`: a complete set of rules is staged, marked ready and activated under
a generation number, and requests are matched against the active generation only.

All the registry does with the streams of a generation is to wait, when it is replaced, until they have ended; `Drain`
is how that wait ends. Telemetry is left out.
-/

namespace PaperboatTunnel.Route

open TransitionSystem

structure GenerationState where
  generation : UInt64
  rules : List RouteRule
  (ready accepting : Bool := false)
deriving DecidableEq

structure GenerationRegistry where
  maximumRoutes : Nat := defaultMaximumRoutes
  (active pending : Option GenerationState := none)
  closed : Bool := false
deriving DecidableEq

/-- How the wait for the streams of a replaced generation ends. -/
inductive Drain where
  | drained | canceled | timedOut
deriving DecidableEq

def Drain.error : Drain → Option Error
  | .drained => none
  | .canceled => some .context
  | .timedOut => some .drainTimeout

structure RouteMatch where
  rule : RouteRule
  host : String
  path : Path
  generation : UInt64
deriving DecidableEq

namespace GenerationRegistry

variable (toASCII : ToASCII) (g : GenerationRegistry)

/-- `NewGenerationRegistry`. -/
def new (maximumRoutes : Int) : GenerationRegistry :=
  { maximumRoutes := if maximumRoutes ≤ 0 then defaultMaximumRoutes else maximumRoutes.toNat }

/-- The rules are those of the state that already has this generation, or the stage fails. -/
def restage (state : GenerationState) (generation : UInt64) (rules : List RouteRule) : Option (Option Error) :=
  if generation < state.generation then some (some .generationStale)
  else if generation = state.generation then
    if state.rules = rules then some none else some (some .generationConflict)
  else none

def stageGeneration (generation : UInt64) (rules : List RouteRule) : GenerationRegistry × Option Error :=
  if generation = 0 then (g, some .invalid)
  else match normalizeRules toASCII generation rules g.maximumRoutes with
    | .error err => (g, some err)
    | .ok normalized =>
      if g.closed then (g, some .generationClosed)
      else match g.active.bind (fun state => restage state generation normalized) with
        | some result => (g, result)
        | none =>
          match g.pending.bind (fun state => restage state generation normalized) with
          | some result => (g, result)
          | none => ({ g with pending := some { generation, rules := normalized } }, none)

def markGenerationReady (generation : UInt64) : GenerationRegistry × Option Error :=
  if g.closed then (g, some .generationClosed)
  else if g.active.any (fun state => state.generation == generation) then (g, none)
  else match g.pending with
    | some pending =>
      if pending.generation = generation then ({ g with pending := some { pending with ready := true } }, none)
      else if generation < pending.generation ∨ g.active.any (fun state => generation ≤ state.generation) then
        (g, some .generationStale)
      else (g, some .generationNotReady)
    | none =>
      if g.active.any (fun state => generation ≤ state.generation) then (g, some .generationStale)
      else (g, some .generationNotReady)

/-- `ActivateGeneration`. The new generation is active before the wait for the old one begins. -/
def activateGeneration (generation : UInt64) (drain : Drain) : GenerationRegistry × Option Error :=
  if g.closed then (g, some .generationClosed)
  else if g.active.any (fun state => state.generation == generation) ∧ g.pending.isNone then (g, none)
  else
    let stale := g.active.any (fun state => generation < state.generation)
    match g.pending with
    | none => (g, some (if stale then .generationStale else .generationNotReady))
    | some pending =>
      if pending.generation ≠ generation then
        (g, some (if stale ∨ generation < pending.generation then .generationStale
          else .generationNotReady))
      else if ¬ pending.ready then (g, some .generationNotReady)
      else
        ({ g with active := some { pending with accepting := true }, pending := none },
          if g.active.isNone then none else drain.error)

def discardPending (generation : UInt64) : GenerationRegistry :=
  if g.pending.any (fun state => state.generation == generation) then { g with pending := none } else g

/-- `ApplyGeneration`; `ready` is the answer of its callback. -/
def applyGeneration (generation : UInt64)
    (rules : List RouteRule) (ready : Option Error) (drain : Drain) : GenerationRegistry × Option Error :=
  match g.stageGeneration toASCII generation rules with
  | (g, some err) => (g, some err)
  | (g, none) =>
    match ready with
    | some err => (g.discardPending generation, some err)
    | none =>
      match g.markGenerationReady generation with
      | (g, some err) => (g, some err)
      | (g, none) => g.activateGeneration generation drain

def hasActiveGeneration : Bool := g.active.any (fun state => state.accepting)

def generation : UInt64 :=
  match g.active with
  | some state => if state.accepting then state.generation else 0
  | none => 0

def close : GenerationRegistry := { g with closed := true }

/-- `Match`. -/
def matchRequest (host : String) (requestPath : Path) : Except Error RouteMatch :=
  match normalizeMatchHost toASCII host, normalizeRequestPath requestPath with
  | .ok host, .ok path =>
    match g.active with
    | none => .error .noMatch
    | some state =>
      if ¬ state.accepting then .error .noMatch
      else match chooseRule state.rules host path with
        | .error err => .error err
        | .ok rule => .ok { rule, host, path, generation := state.generation }
  | _, _ => .error .noMatch

inductive Call where
  | stage (generation : UInt64) (rules : List RouteRule)
  | markReady (generation : UInt64)
  | activate (generation : UInt64) (drain : Drain)
  | apply (generation : UInt64) (rules : List RouteRule) (ready : Option Error) (drain : Drain)
  | close

def step : Call → Option GenerationRegistry
  | .stage generation rules => some (g.stageGeneration toASCII generation rules).1
  | .markReady generation => some (g.markGenerationReady generation).1
  | .activate generation drain => some (g.activateGeneration generation drain).1
  | .apply generation rules ready drain => some (g.applyGeneration toASCII generation rules ready drain).1
  | .close => some g.close

end GenerationRegistry

end PaperboatTunnel.Route
