import PaperboatTunnel.Lib.Transition
import PaperboatTunnel.Usage.Meter

/-!
# `Edge` — the processes of an edge and their store

An edge runs one process after the other. A process records bytes, flushes them into its queue, saves the counters and
the queue, and delivers reports to the control plane; after a crash the next process starts from what was saved last,
under a new counter epoch. The code is `Meter` with its `Persist`, `DeliverNext` of `internal/control/delivery.go`, the
start in `cmd/paperboat-tunnel/main.go` (`restoreState`, `RestoreBaseline`), and `UsageWorker.deliver` of
`internal/runtime/workers.go`, which calls `DeliverNext` only after a `Flush` that has saved the queue.
-/

namespace PaperboatTunnel.Usage

open GoTime TransitionSystem

/-- What stays the same from one process to the next. -/
structure Config where
  (node keyID : String)
  privateKey : List UInt8
  (maxReports maxBytes : Int)

/-- The counters and the pending reports in the store. -/
structure Saved where
  counters : List CounterRecord
  pending : List Report
deriving DecidableEq

/-- What `Persist` saves. -/
def Meter.saved (m : Meter) : Saved := { counters := m.counters.snapshot, pending := m.queue.snapshot }

/-- The meter of a new process, before `RestoreBaseline`. -/
def boot (cfg : Config) (disk : Option Saved) (epoch : String) : Except Error Meter :=
  let meter := fun (counters : Counters) (queue : Queue) =>
    ({ node := cfg.node, epoch, keyID := cfg.keyID, privateKey := cfg.privateKey, counters, queue } : Meter)
  match disk with
  | none => (Queue.new cfg.maxReports cfg.maxBytes).map (meter {})
  | some saved => (restoreQueue saved.pending cfg.maxReports cfg.maxBytes).map (meter (restoreCounters saved.counters))

/-- The running process, the store, and what the control plane has acknowledged. `synced` says that the pending
    reports are in the store. -/
structure Edge where
  meter : Meter
  epochs : List String
  synced : Bool := false
  delivered : List Report := []
  disk : Option Saved := none

namespace Edge

variable (ext : Externals) (cfg : Config) (e : Edge)

def first (epoch : String) : Except Error Edge :=
  (boot cfg none epoch).map (fun meter => { meter := meter.restoreBaseline.1, epochs := [epoch] })

/-- The steps of an edge. `flush` is `Flush` up to its `Persist`, with the records in the order of the snapshot;
    `persist` is any call of `Persist`, with its success; `deliver` is `DeliverNext` with the answer of the control
    plane. `restart` is a crash and the start of a process under a new epoch; its other arguments are for the `Flush`
    that `RestoreBaseline` may need. -/
inductive Action where
  | record (environment route : String) (revision ingress egress : UInt64)
  | flush (now : Time) (records : List CounterRecord)
  | persist (success : Bool)
  | deliver (accepted : Bool)
  | restart (epoch : String) (now : Time) (records : List CounterRecord)
deriving DecidableEq

def Action.restarts : Action → Bool
  | .restart .. => true
  | _ => false

def record (environment route : String) (revision ingress egress : UInt64) : Edge :=
  { e with meter := (e.meter.record environment route revision ingress egress).1 }

def flush (now : Time) (records : List CounterRecord) : Edge :=
  { e with meter := (e.meter.flush ext now records).1, synced := false }

def persist : Edge := { e with disk := some e.meter.saved, synced := true }

def acknowledge (report : Report) : Edge :=
  { e with meter := { e.meter with queue := (e.meter.queue.ack report.operationID).1 },
           delivered := e.delivered ++ [report] }

def step : Action → Option Edge
  | .record environment route revision ingress egress =>
    some (e.record environment route revision ingress egress)
  | .flush now records =>
    if records.Perm e.meter.counters.snapshot then some (e.flush ext now records) else none
  | .persist success => some (if success then e.persist else e)
  | .deliver accepted =>
    if !e.synced then none
    else
      match e.meter.queue.next with
      | none => some e
      | some report => some (if accepted then e.acknowledge report else e)
  | .restart epoch now records =>
    if epoch = "" ∨ epoch ∈ e.epochs then none
    else
      match boot cfg e.disk epoch with
      | .error _ => none
      | .ok meter =>
        let started : Edge :=
          { meter := meter.restoreBaseline.1, epochs := epoch :: e.epochs, delivered := e.delivered, disk := e.disk }
        if !meter.restoreBaseline.2 then some started
        else if records.Perm started.meter.counters.snapshot then
          match started.meter.flush ext now records with
          | (_, some _) => none
          | (meter, none) => some { started with meter }.persist
        else none

/-! ## Moves -/

variable (ext : Externals) (cfg : Config) (e : Edge) in
inductive Move : Action → Edge → Prop where
  | record {environment route revision ingress egress} :
      Move (.record environment route revision ingress egress) (e.record environment route revision ingress egress)
  | flush {now records} (order : records.Perm e.meter.counters.snapshot) :
      Move (.flush now records) (e.flush ext now records)
  | persist : Move (.persist true) e.persist
  | unchanged {action} (quiet : action = .persist false ∨ ∃ accepted, action = .deliver accepted) : Move action e
  | deliver {report} (synced : e.synced = true) (next : e.meter.queue.next = some report) :
      Move (.deliver true) (e.acknowledge report)
  | restart {epoch now records meter} (named : epoch ≠ "")
      (fresh : epoch ∉ e.epochs) (booted : boot cfg e.disk epoch = .ok meter)
      (settled : meter.restoreBaseline.2 = false) :
      Move (.restart epoch now records)
        { meter := meter.restoreBaseline.1, epochs := epoch :: e.epochs, delivered := e.delivered, disk := e.disk }
  | correct {epoch now records meter flushed} (named : epoch ≠ "")
      (fresh : epoch ∉ e.epochs) (booted : boot cfg e.disk epoch = .ok meter)
      (correction : meter.restoreBaseline.2 = true)
      (order : records.Perm meter.restoreBaseline.1.counters.snapshot)
      (flush : meter.restoreBaseline.1.flush ext now records = (flushed, none)) :
      Move (.restart epoch now records)
        ({ meter := flushed, epochs := epoch :: e.epochs, delivered := e.delivered, disk := e.disk } : Edge).persist

theorem step_move {ext : Externals} {cfg : Config} {e e' : Edge} {action : Action}
    (h : e.step ext cfg action = some e') : Move ext cfg e action e' := by
  revert h
  fun_cases step ext cfg e action <;> intro h
  case case1 =>
    cases h
    exact Move.record
  case case2 hord =>
    cases h
    exact Move.flush hord
  case case4 success =>
    cases h
    cases success with
    | false => exact Move.unchanged (.inl rfl)
    | true => exact Move.persist
  case case6 accepted _ _ =>
    cases h
    exact Move.unchanged (.inr ⟨accepted, rfl⟩)
  case case7 accepted hsynced report hnext =>
    cases h
    cases accepted with
    | false => exact Move.unchanged (.inr ⟨false, rfl⟩)
    | true => exact Move.deliver (by simpa using hsynced) hnext
  case case10 hepoch meter hboot _ hsettle =>
    rw [← Option.some.inj h]
    obtain ⟨hnamed, hfresh⟩ := not_or.mp hepoch
    exact Move.restart hnamed hfresh hboot (by simpa using hsettle)
  case case12 hepoch meter hboot _ hcorrection hord meter' hflush =>
    rw [← Option.some.inj h]
    obtain ⟨hnamed, hfresh⟩ := not_or.mp hepoch
    exact Move.correct hnamed hfresh hboot (by simpa using hcorrection) hord hflush
  -- the others are not enabled
  all_goals cases h

end Edge

/-! ## A small edge

Its operation ids spell the key of the counter. -/

open List String

/-- A text and its end, so that texts can follow each other. -/
def spell (s : List Char) : List Char := s.flatMap (fun c => ['c', c]) ++ ['.']

theorem spell_append_inj : ∀ {s s' t t' : List Char}, spell s ++ t = spell s' ++ t' → s = s' ∧ t = t'
  | [], [], _, _, h => ⟨rfl, (cons.inj h).2⟩
  | [], _ :: _, _, _, h => absurd (cons.inj h).1 (by decide)
  | _ :: _, [], _, _, h => absurd (cons.inj h).1 (by decide)
  | c :: s, c' :: s', t, t', h => by
      have htail : spell s ++ t = spell s' ++ t' := (cons.inj (cons.inj h).2).2
      obtain ⟨rfl, ht⟩ := spell_append_inj htail
      have hc : c = c' := (cons.inj (cons.inj h).2).1
      exact ⟨by rw [hc], ht⟩

def Direction.text : Direction → List Char
  | .ingress => ['i']
  | .egress => ['e']
  | .other text => 'o' :: text.toList

theorem Direction.text_inj {d d' : Direction} (h : d.text = d'.text) : d = d' := by
  cases d <;> cases d' <;> simp_all [Direction.text, toList_inj]

/-- The fields of a counter, one after the other. -/
def Key.spelled (k : Key) : List Char :=
  spell k.node.toList ++ (spell k.epoch.toList ++ (spell k.environment.toList ++ (spell k.route.toList
    ++ (spell k.direction.text ++ []))))

theorem Key.spelled_inj {k k' : Key} (h : k.spelled = k'.spelled) : k.counterIdentity = k'.counterIdentity := by
  obtain ⟨hnode, h⟩ := spell_append_inj h
  obtain ⟨hepoch, h⟩ := spell_append_inj h
  obtain ⟨henvironment, h⟩ := spell_append_inj h
  obtain ⟨hroute, h⟩ := spell_append_inj h
  obtain ⟨hdir, _⟩ := spell_append_inj h
  simp only [Key.counterIdentity, Key.mk.injEq, and_true]
  exact ⟨toList_inj.mp hnode, toList_inj.mp hepoch, toList_inj.mp henvironment,
    toList_inj.mp hroute, Direction.text_inj hdir⟩

def smallExternals : Externals where
  meterOperationID := fun k _ => String.ofList k.spelled
  envelope := fun _ _ _ => some [0]

theorem smallExternals_distinct : smallExternals.Distinct := by
  intro k _ k' _ h
  exact Key.spelled_inj (ofList_inj.mp h)

def smallConfig : Config :=
  { node := "edge", keyID := "key", privateKey := List.replicate privateKeySize 0, maxReports := 8, maxBytes := 1024 }

/-- The counter of the traffic of one route in one direction. -/
def ingressKey (epoch : String) : Key :=
  { node := "edge", epoch, environment := "environment", route := "route", direction := .ingress, revision := 1 }

def tenBytes (epoch : String) : CounterRecord := { key := ingressKey epoch, bytes := 10 }

def moment : Time := { nanos := 1 }

def smallEdge : Edge :=
  { meter := { node := "edge", epoch := "first", keyID := "key", privateKey := List.replicate privateKeySize 0,
               counters := {}, queue := { maxReports := 8, maxBytes := 1024 } },
    epochs := ["first"] }

end PaperboatTunnel.Usage
