import PaperboatTunnel.Lib.GoMap
import PaperboatTunnel.Lib.GoTime
import PaperboatTunnel.Lib.Transition

/-!
# `Manager` — connectors of a node, their streams, and the drain

Each connector of a node counts the streams of its current generation and, after a replacement, those that are left
of its older generations. A drain moves the node out of the phase `Ready`, in which alone streams are opened, and waits
until no stream is counted; when its deadline or its context ends first, it drops all connectors.

The methods of `State`, which has its own lock, are one step each. The calls of the manager hold `m.mu` throughout;
those that look at the phase read it in between, so `lock`, `observe` and `finish` are separate steps. A drain takes
`m.mu` only for its check and for the forced cleanup, and waits on the `wake` channel outside; channels are numbered,
and `signalLocked` closes the current one by moving on to the next.
-/

namespace PaperboatTunnel.Node

open GoTime TransitionSystem GoMap

/-! ## The phase of a node -/

inductive Phase where
  | starting
  | ready
  | draining
  | stopped
deriving DecidableEq

/-- `State` with its `Snapshot`. -/
structure State where
  nodeID : String
  phase : Phase := .starting
  live : Bool := true
  ready : Bool := false
  drainDeadline : Time := { nanos := 0 }

namespace State

def markReady (s : State) : State × Bool :=
  if s.phase ≠ .starting then (s, false) else ({ s with phase := .ready, ready := true }, true)

def beginDrain (s : State) (deadline : Time) : State × Bool :=
  if s.phase = .draining ∨ s.phase = .stopped then (s, false)
  else ({ s with phase := .draining, ready := false, drainDeadline := deadline }, true)

def setControlAvailable (s : State) (available : Bool) : State × Bool :=
  if s.phase ≠ .ready then (s, false) else ({ s with ready := available }, true)

def markStopped (s : State) : State := { s with phase := .stopped, live := false, ready := false }

end State

/-! ## Connectors -/

/-- `connector`. The retired generations are older than the current one: a replacement only goes forward, and a
    connector is created without any. -/
structure Connector where
  generation : UInt64
  streams : UInt32 := 0
  retired : GoMap UInt64 UInt32 := ∅
  older : ∀ g n, retired.lookup g = some n → g < generation

namespace Connector

def new (generation : UInt64) : Connector where
  generation := generation
  older g n h := by simp at h

variable (c : Connector)

/-- `current.retired[g]` -/
def retiredStreams (g : UInt64) : UInt32 := (c.retired.lookup g).getD 0

/-- The retired generations after the current one has joined them. -/
def retireCurrent : GoMap UInt64 UInt32 :=
  if c.streams ≠ 0 then c.retired.insert c.generation (c.retiredStreams c.generation + c.streams) else c.retired

theorem le_of_retireCurrent {c : Connector} : ∀ g n, c.retireCurrent.lookup g = some n → g ≤ c.generation := by
  have hold : ∀ g n, c.retired.lookup g = some n → g ≤ c.generation := fun g n h => UInt64.le_of_lt (c.older g n h)
  unfold retireCurrent
  split
  · exact forall_insert hold (UInt64.le_refl _)
  · exact hold

def replace (generation : UInt64) (h : c.generation < generation) : Connector where
  generation := generation
  retired := c.retireCurrent
  older g n hg := by
    have hle := le_of_retireCurrent g n hg
    rw [UInt64.lt_iff_toNat_lt] at h ⊢
    rw [UInt64.le_iff_toNat_le] at hle
    omega

/-- What `OpenStream` makes of a connector, unless its counter is at the end of its range. -/
def openStream : Option Connector :=
  if c.streams = 4294967295 then none else some { c with streams := c.streams + 1 }

/-- The map after `retired[g]--`, without the entry when nothing is left of it. -/
def dropRetired (g : UInt64) : GoMap UInt64 UInt32 :=
  if c.retiredStreams g - 1 = 0 then c.retired.erase g else c.retired.insert g (c.retiredStreams g - 1)

theorem older_of_dropRetired {c : Connector} {g : UInt64} (hg : 0 < c.retiredStreams g) :
    ∀ g' n, (c.dropRetired g).lookup g' = some n → g' < c.generation := by
  unfold dropRetired
  split
  · exact fun g' n h => c.older g' n (lookup_of_erase h).2
  refine forall_insert c.older ?_
  -- the counter was not zero, so the generation had an entry before
  cases hold : c.retired.lookup g with
  | none => simp [retiredStreams, hold] at hg
  | some k => exact c.older g k hold

/-- What `CloseStream` makes of a connector; `none` when the generation has no stream. -/
def closeStream (g : UInt64) : Option Connector :=
  if c.generation = g ∧ 0 < c.streams then some { c with streams := c.streams - 1 }
  else if h : 0 < c.retiredStreams g then
    some { c with retired := c.dropRetired g, older := older_of_dropRetired h }
  else none

end Connector

/-! ## The manager -/

inductive Error where
  | notReady
  | capacity
  | unknown
  | draining
deriving DecidableEq

/-- The calls that run under `m.mu` from beginning to end. -/
inductive Call where
  | admitConnector (id : String) (generation : UInt64)
  | replaceConnector (id : String) (generation : UInt64)
  | removeConnector (id : String)
  | openStream (id : String) (generation : UInt64)
  | closeStream (id : String) (generation : UInt64)
deriving DecidableEq

inductive DrainStatus where
  /-- About to look at the counters. -/
  | checking
  /-- In the `select`, with the channel it waits on. -/
  | waiting (wake : Nat)
  | returned (forced : Bool)
deriving DecidableEq

/-- The call that holds `m.mu`, and the phase it has read. -/
structure Section where
  call : Call
  observed : Option Phase := none
deriving DecidableEq

structure Manager where
  state : State
  capacity : UInt32
  connectors : GoMap String Connector := ∅
  wake : Nat := 0
  mu : Option Section := none
  drains : List DrainStatus := []
  /-- Every call that has returned, with its error. -/
  answers : List (Call × Option Error) := []

def newManager (state : State) (capacity : UInt32) : Except Error Manager :=
  if capacity = 0 then .error .capacity else .ok { state := state, capacity := capacity }

def saturatingAddUint32 (current value : UInt32) : UInt32 :=
  if 4294967295 - current < value then 4294967295 else current + value

namespace Manager

variable (m : Manager)

def signalLocked : Manager := { m with wake := m.wake + 1 }

def totalStreamsLocked : UInt32 := m.connectors.values.foldl
    (fun total c => c.retired.values.foldl saturatingAddUint32 (saturatingAddUint32 total c.streams)) 0

variable (phase : Phase) (id : String) (generation : UInt64)

/-- `AdmitConnector`, from where it has read the phase. -/
def admitConnector : Manager × Option Error :=
  if phase ≠ .ready then (m, some .notReady)
  else if (m.connectors.lookup id).isSome then (m, none)
  else if m.capacity ≤ UInt32.ofNat m.connectors.entries.length then (m, some .capacity)
  else ({ m with connectors := m.connectors.insert id (Connector.new generation) }, none)

/-- `ReplaceConnector`, from where it has read the phase. -/
def replaceConnector : Manager × Option Error :=
  if phase ≠ .ready then (m, some .notReady)
  else
    match m.connectors.lookup id with
    | none => (m, some .unknown)
    | some current =>
      if h : current.generation < generation then
        ({ m with connectors := m.connectors.insert id (current.replace generation h) }, none)
      else (m, some .unknown)

def removeConnector (id : String) : Manager × Option Error :=
  match m.connectors.lookup id with
  | none => (m, some .unknown)
  | some current =>
    if current.streams ≠ 0 ∨ current.retired.entries.length ≠ 0 then (m, some .draining)
    else (signalLocked { m with connectors := m.connectors.erase id }, none)

/-- `OpenStream`, from where it has read the phase. -/
def openStream : Manager × Option Error :=
  if phase ≠ .ready then (m, some .draining)
  else
    match m.connectors.lookup id with
    | none => (m, some .unknown)
    | some current =>
      if current.generation ≠ generation then (m, some .unknown)
      else
        match current.openStream with
        | none => (m, some .capacity)
        | some next => ({ m with connectors := m.connectors.insert id next }, none)

def closeStream (id : String) (generation : UInt64) : Manager × Option Error :=
  match m.connectors.lookup id with
  | none => (m, some .unknown)
  | some current =>
    match current.closeStream generation with
    | none => (m, some .unknown)
    | some next => (signalLocked { m with connectors := m.connectors.insert id next }, none)

end Manager

/-! ## Steps -/

/-- The arguments `AdmitConnector` and `ReplaceConnector` refuse before they lock. -/
def Call.malformed : Call → Bool
  | .admitConnector id generation | .replaceConnector id generation => id == "" || generation == 0
  | _ => false

def Call.reads : Call → Bool
  | .admitConnector .. | .replaceConnector .. | .openStream .. => true
  | _ => false

inductive Action where
  | markReady
  | beginDrain (deadline : Time)
  | setControlAvailable (available : Bool)
  | markStopped
  /-- A call is refused before it locks. -/
  | refuse (call : Call)
  | lock (call : Call)
  | observe
  | finish
  /-- `Drain` is called and has begun the drain of the node. -/
  | drain (deadline : Time)
  /-- A drain looks at the counters. -/
  | check (i : Nat)
  /-- A drain leaves its `select` because the channel is closed. -/
  | woken (i : Nat)
  /-- A drain leaves its `select` at its deadline, or because its context is done. -/
  | force (i : Nat)

namespace Manager

/-- What a call does between reading the phase and its return. -/
def serve (m : Manager) : Section → Option (Manager × Option Error)
  | ⟨.admitConnector id generation, some phase⟩ => some (m.admitConnector phase id generation)
  | ⟨.replaceConnector id generation, some phase⟩ => some (m.replaceConnector phase id generation)
  | ⟨.removeConnector id, none⟩ => some (m.removeConnector id)
  | ⟨.openStream id generation, some phase⟩ => some (m.openStream phase id generation)
  | ⟨.closeStream id generation, none⟩ => some (m.closeStream id generation)
  | _ => none

def answer (m : Manager) (call : Call) (e : Option Error) : Manager :=
  { m with mu := none, answers := m.answers ++ [(call, e)] }

def step (m : Manager) : Action → Option Manager
  | .markReady => some { m with state := m.state.markReady.1 }
  | .beginDrain deadline => some { m with state := (m.state.beginDrain deadline).1 }
  | .setControlAvailable available => some { m with state := (m.state.setControlAvailable available).1 }
  | .markStopped => some { m with state := m.state.markStopped }
  | .refuse call =>
    if call.malformed then some { m with answers := m.answers ++ [(call, some .unknown)] } else none
  | .lock call => if !call.malformed && m.mu.isNone then some { m with mu := some { call := call } } else none
  | .observe =>
    match m.mu with
    | some ⟨call, none⟩ =>
      if call.reads then some { m with mu := some { call := call, observed := some m.state.phase } } else none
    | _ => none
  | .finish =>
    match m.mu with
    | none => none
    | some s => (m.serve s).map (fun r => r.1.answer s.call r.2)
  | .drain deadline =>
    some { m with state := (m.state.beginDrain deadline).1, drains := m.drains ++ [.checking] }
  | .check i =>
    if m.mu = none ∧ m.drains[i]? = some .checking then
      some { m with drains := m.drains.set i (if m.totalStreamsLocked = 0 then .returned false else .waiting m.wake) }
    else none
  | .woken i =>
    match m.drains[i]? with
    | some (.waiting wake) => if wake ≠ m.wake then some { m with drains := m.drains.set i .checking } else none
    | _ => none
  | .force i =>
    match m.mu, m.drains[i]? with
    | none, some (.waiting _) =>
      some (signalLocked { m with connectors := ∅, drains := m.drains.set i (.returned true) })
    | _, _ => none

end Manager

end PaperboatTunnel.Node
