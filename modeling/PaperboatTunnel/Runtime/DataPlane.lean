import PaperboatTunnel.Usage.Edge

/-!
# `DataPlane` — the shutdown of the data plane

`DataPlane.Shutdown` of `internal/runtime/dataplane.go` with the two components that deal with usage,
`UsageWorker.Shutdown` of `workers.go` and `Persistence.Shutdown` of `persistence.go`; the other components only return,
with or without an error. Traffic is recorded all the time. The data plane is one that `Start` has started.

`UsageWorker.deliver` is a `Flush` (its loop, then its `Persist`), `DeliverNext`, and a `Persist` after a delivery.
It is called by the goroutine of the worker, whose errors are only remembered, and by `Shutdown` after this goroutine
has ended, until nothing is left to deliver.
-/

namespace PaperboatTunnel.Runtime

open GoTime TransitionSystem Usage

/-! ## Components -/

inductive Component where
  | persistence | control | carrier | certificateBroker | certificates | preview | node | routes | publicTCP
  | gateway | caddy | caddyReady | usage
deriving DecidableEq

/-- Which of the optional components there are. -/
structure DataPlaneSpec where
  (carrier certificateBroker certificates preview publicTCP : Bool := false)
deriving DecidableEq

def optional (present : Bool) (c : Component) : List Component := if present then [c] else []

/-- `order` of `Shutdown`. -/
def shutdownOrder (spec : DataPlaneSpec) : List Component :=
  [.usage] ++ optional spec.publicTCP .publicTCP ++ [.routes] ++ optional spec.preview .preview
    ++ optional spec.certificates .certificates ++ optional spec.carrier .carrier ++ [.caddyReady, .caddy]
    ++ optional spec.certificateBroker .certificateBroker ++ [.node, .control, .gateway, .persistence]

/-- The public ingress, the routes, the carrier and the gateway. -/
def Component.forwards : Component → Bool
  | .publicTCP | .routes | .carrier | .gateway => true
  | _ => false

/-! ## The machine -/

inductive Stage where
  | idle       -- before `Flush`
  | enqueued   -- before the `Persist` of `Flush`
  | flushed    -- before `DeliverNext`
  | delivered  -- before the `Persist` after a delivery
deriving DecidableEq

inductive Mode where
  | running   -- the goroutine of the worker
  | draining  -- `Shutdown` of the worker
  | stopped   -- nobody any more
deriving DecidableEq

/-- A data plane. `remaining` are the components that are still to be stopped, the first of them being in its
    `Shutdown`; it is `none` before the call of `DataPlane.Shutdown`, and empty after its return. -/
structure DataPlane where
  edge : Edge
  stage : Stage := .idle
  mode : Mode := .running
  remaining : Option (List Component) := none
  (finished failures : List Component := [])

namespace DataPlane

variable (ext : Externals) (spec : DataPlaneSpec) (d : DataPlane)

/-- The steps. The first four are those of the edge; `shutdown` is the call of `DataPlane.Shutdown`, `drain` the end of
    the worker's goroutine for which its `Shutdown` waits, and `finish` the return of the `Shutdown` of another
    component, or of that of the worker when its context ends while it waits. -/
inductive Action where
  | record (environment route : String) (revision ingress egress : UInt64)
  | flush (now : Time) (records : List CounterRecord)
  | persist (success : Bool)
  | deliver (accepted : Bool)
  | shutdown
  | drain
  | finish (success : Bool)
deriving DecidableEq

/-- The `Shutdown` of a component returns, and that of the next one is called. -/
def returns (c : Component) (success : Bool) : DataPlane :=
  { d with remaining := d.remaining.map List.tail, finished := c :: d.finished,
           failures := if success then d.failures else c :: d.failures }

/-- `deliver` returns an error: the goroutine goes on, and `Shutdown` of the worker returns it. -/
def failed : DataPlane :=
  if d.mode = .draining then returns { d with mode := .stopped, stage := .idle } .usage false
  else { d with stage := .idle }

/-- `deliver` returns without a delivery: the goroutine goes on, and `Shutdown` of the worker is done. -/
def drained : DataPlane :=
  if d.mode = .draining then returns { d with mode := .stopped, stage := .idle } .usage true
  else { d with stage := .idle }

def step : Action → Option DataPlane
  | .record environment route revision ingress egress =>
    some { d with edge := d.edge.record environment route revision ingress egress }
  | .flush now records =>
    if d.mode = .stopped ∨ d.stage ≠ .idle ∨ ¬ records.Perm d.edge.meter.counters.snapshot then none
    else
      let flushed := { d with edge := d.edge.flush ext now records }
      match (d.edge.meter.flush ext now records).2 with
      | some _ => some flushed.failed
      | none => some { flushed with stage := .enqueued }
  | .persist success =>
    if d.mode = .stopped then none
    else
      match d.stage with
      | .enqueued => some (if success then { d with edge := d.edge.persist, stage := .flushed } else d.failed)
      | .delivered => some (if success then { d with edge := d.edge.persist, stage := .idle } else d.failed)
      | _ => none
  | .deliver accepted =>
    if d.mode = .stopped ∨ d.stage ≠ .flushed then none
    else
      match d.edge.meter.queue.next with
      | none => some d.drained
      | some report =>
        some (if accepted then { d with edge := d.edge.acknowledge report, stage := .delivered } else d.failed)
  | .shutdown => if d.remaining.isSome then none else some { d with remaining := some (shutdownOrder spec) }
  | .drain =>
    if d.remaining.bind List.head? = some .usage ∧ d.mode = .running ∧ d.stage = .idle then
      some { d with mode := .draining }
    else none
  | .finish success =>
    match d.remaining.bind List.head? with
    | none => none
    | some .usage => if d.mode = .running ∧ !success then some (d.returns .usage false) else none
    | some .persistence => some ((if success then { d with edge := d.edge.persist } else d).returns .persistence success)
    | some c => some (d.returns c success)

/-! ## Moves -/

def current : Option Component := d.remaining.bind List.head?

variable (ext : Externals) (spec : DataPlaneSpec) (d : DataPlane) in
inductive Move : Action → DataPlane → Prop where
  | record {environment route revision ingress egress} :
      Move (.record environment route revision ingress egress)
        { d with edge := d.edge.record environment route revision ingress egress }
  | flush {now records} (active : d.mode ≠ .stopped) (order : records.Perm d.edge.meter.counters.snapshot)
      (ok : (d.edge.meter.flush ext now records).2 = none) :
      Move (.flush now records) { d with edge := d.edge.flush ext now records, stage := .enqueued }
  | flushError {now records} (active : d.mode ≠ .stopped) (order : records.Perm d.edge.meter.counters.snapshot) :
      Move (.flush now records) (failed { d with edge := d.edge.flush ext now records })
  | persist (active : d.mode ≠ .stopped) (stage : d.stage = .enqueued) :
      Move (.persist true) { d with edge := d.edge.persist, stage := .flushed }
  | settle (active : d.mode ≠ .stopped) (stage : d.stage = .delivered) :
      Move (.persist true) { d with edge := d.edge.persist, stage := .idle }
  | error {action} (active : d.mode ≠ .stopped)
      (cause : action = .persist false ∨ action = .deliver false) : Move action d.failed
  | deliver {report} (active : d.mode ≠ .stopped) (stage : d.stage = .flushed)
      (next : d.edge.meter.queue.next = some report) :
      Move (.deliver true) { d with edge := d.edge.acknowledge report, stage := .delivered }
  | drained {accepted} (active : d.mode ≠ .stopped) (stage : d.stage = .flushed)
      (next : d.edge.meter.queue.next = none) : Move (.deliver accepted) d.drained
  | shutdown (serving : d.remaining = none) : Move .shutdown { d with remaining := some (shutdownOrder spec) }
  | drain (waiting : d.current = some .usage) (running : d.mode = .running) (stage : d.stage = .idle) :
      Move .drain { d with mode := .draining }
  | abandon (waiting : d.current = some .usage) (running : d.mode = .running) :
      Move (.finish false) (d.returns .usage false)
  | save (waiting : d.current = some .persistence) :
      Move (.finish true) (returns { d with edge := d.edge.persist } .persistence true)
  | finish {c success} (waiting : d.current = some c) (other : c ≠ .usage)
      (unsaved : c = .persistence → success = false) : Move (.finish success) (d.returns c success)

theorem step_move {ext : Externals} {spec : DataPlaneSpec} {d d' : DataPlane} {action : Action}
    (h : d.step ext spec action = some d') : Move ext spec d action d' := by
  revert h
  fun_cases step ext spec d action <;> intro h
  case case1 =>
    cases h
    exact Move.record
  case case3 hguard _ _ _ =>
    cases h
    obtain ⟨hact, hrest⟩ := not_or.mp hguard
    exact Move.flushError hact (not_not.mp (not_or.mp hrest).2)
  case case4 hguard _ hok =>
    cases h
    obtain ⟨hact, hrest⟩ := not_or.mp hguard
    exact Move.flush hact (not_not.mp (not_or.mp hrest).2) hok
  case case6 success hact hstage =>
    cases h
    cases success with
    | false => exact Move.error hact (.inl rfl)
    | true => exact Move.persist hact hstage
  case case7 success hact hstage =>
    cases h
    cases success with
    | false => exact Move.error hact (.inl rfl)
    | true => exact Move.settle hact hstage
  case case10 hguard hnext =>
    cases h
    obtain ⟨hact, hstage⟩ := not_or.mp hguard
    exact Move.drained hact (not_not.mp hstage) hnext
  case case11 accepted hguard report hnext =>
    cases h
    obtain ⟨hact, hstage⟩ := not_or.mp hguard
    cases accepted with
    | false => exact Move.error hact (.inr rfl)
    | true => exact Move.deliver hact (not_not.mp hstage) hnext
  case case13 hserving =>
    cases h
    exact Move.shutdown (Option.not_isSome_iff_eq_none.mp hserving)
  case case14 hguard =>
    cases h
    exact Move.drain hguard.1 hguard.2.1 hguard.2.2
  case case17 success hwait hguard =>
    cases h
    have hsucc : success = false := by simpa using hguard.2
    rw [hsucc]
    exact Move.abandon hwait hguard.1
  case case19 success hwait =>
    cases h
    cases success with
    | false => exact Move.finish hwait (by decide) (fun _ => rfl)
    | true => exact Move.save hwait
  case case20 c husage hpersistence hwait =>
    cases h
    exact Move.finish hwait husage (fun heq => absurd heq hpersistence)
  -- the others are not enabled
  all_goals cases h

end DataPlane

end PaperboatTunnel.Runtime
