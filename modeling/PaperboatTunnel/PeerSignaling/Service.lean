import PaperboatTunnel.Lib.Channel
import PaperboatTunnel.Lib.GoMap
import PaperboatTunnel.Lib.GoTime
import PaperboatTunnel.Lib.Transition

/-!
# `Service` — signaling sessions of two endpoints

Two endpoints attach to a session, one in each role, and each puts its messages into the inbox of the other. The bodies
under the service's lock are one step each. `Receive` looks at the `done` channels and at the table (`active`), takes a
message from its inbox, and looks at both again before it returns the message. `Close` and `Complete` of an attachment
run once; they close the attachment's `done` channel, change the table, close the session's `done` channel, and call the
release function. `Close` of the service closes the `done` channels after it has given up the lock.

The validators of messages are a parameter, `Validators`. Sessions are numbered, and the table holds their numbers.
`taken` of an inbox, and `forwarded` and `returned` of an attachment, record what has happened.
-/

namespace PaperboatTunnel.PeerSignaling

open GoTime TransitionSystem

abbrev Raw : Type := List UInt8

def maximumCredentialBytes : Nat := 8 <<< 10

/-- The errors of the service; `E` are those of its validators. -/
inductive SignalingError (E : Type) where
  | invalid
  | conflict
  | capacity
  | closed
  | authenticate
  | context
  | validate (e : E)
deriving DecidableEq

inductive Role where
  | controlling
  | controlled
  | other (text : String)
deriving DecidableEq

namespace Role

def opposite : Role → Role
  | .controlling => .controlled
  | _ => .controlling

def valid : Role → Bool
  | .controlling | .controlled => true
  | .other _ => false

end Role

structure Admission where
  (credentialID environmentID nodeID intentID endpointID peerEndpointID : String)
  (attemptGeneration networkGeneration : UInt64)
  role : Role
  expiresAt : Time
deriving DecidableEq

structure Binding where
  intentID : String
  (attemptGeneration networkGeneration : UInt64)
  role : Role
deriving DecidableEq

/-- `ValidatorFactory` and the `Validator`s it makes. -/
structure Validators (V E : Type) where
  newValidator : Binding → Option V
  accept : V → Raw → V × Except E Bool

structure Config where
  (maximumSessions maximumConsumed queueDepth maximumMessage : Int)
deriving DecidableEq

structure SessionKey where
  (environment node intent : String)
  (attempt network : UInt64)
deriving DecidableEq

structure Endpoint (V : Type) where
  admission : Admission
  validator : V

structure Session (V : Type) where
  key : SessionKey
  endpoints : GoMap Role (Endpoint V) := ∅
  completed : List Role := []
  inbox : Role → Channel Raw := fun _ => {}
  done : Bool := false

/-- How far a call of `Receive` is. -/
inductive Receiving where
  /-- The `done` channels were open. -/
  | probed
  /-- The table was in order, too, and the call waits for a message. -/
  | selecting
  | took (raw : Raw)
  /-- The `done` channels were still open. -/
  | reprobed (raw : Raw)
deriving DecidableEq

def Receiving.held : Receiving → Option Raw
  | .took raw | .reprobed raw => some raw
  | _ => none

/-- How far the `Close` or `Complete` of an attachment is, whichever came first. -/
inductive Ending where
  | not
  | begun (complete : Bool)
  /-- The lock is given up; `finished` if the session's `done` channel is to be closed. -/
  | unlocked (finished : Bool)
  | signalled
  | over
deriving DecidableEq

structure Attachment where
  session : Nat
  role : Role
  admission : Admission
  /-- The number of its release function. -/
  release : Nat
  done : Bool := false
  ending : Ending := .not
  watching : Bool := true
  receiving : List Receiving := []
  (forwarded returned : List Raw := [])

/-- `releaseOnce`, with the calls of the release function. -/
structure ReleaseOnce where
  called : Bool := false
  calls : Nat := 0

/-- `releaseOwned` -/
def ReleaseOnce.run (r : ReleaseOnce) : ReleaseOnce :=
  if r.called then r else { called := true, calls := r.calls + 1 }

structure Service (V : Type) where
  config : Config
  sessions : GoMap SessionKey Nat := ∅
  heap : List (Session V) := []
  consumed : GoMap String Time := ∅
  closed : Bool := false
  attachments : List Attachment := []
  /-- One for each admission that was authenticated. -/
  releases : List ReleaseOnce := []
  /-- Sessions whose `done` channel `Close` is about to close. -/
  closing : List Nat := []

/-- The defaults of `New`. -/
def Config.withDefaults (c : Config) : Config :=
  let maximumSessions := if c.maximumSessions = 0 then 4096 else c.maximumSessions
  { maximumSessions := maximumSessions
    queueDepth := if c.queueDepth = 0 then 128 else c.queueDepth
    maximumConsumed :=
      if c.maximumConsumed = 0 then Int.bmod (maximumSessions * 4) 18446744073709551616 else c.maximumConsumed
    maximumMessage := if c.maximumMessage = 0 then 16 <<< 10 else c.maximumMessage }

/-- `New` -/
def newService {V : Type} (config : Config) : Option (Service V) :=
  let config := config.withDefaults
  if config.maximumSessions < 1 ∨ config.maximumConsumed < Int.bmod (config.maximumSessions * 2) 18446744073709551616
      ∨ config.queueDepth < 1 ∨ config.maximumMessage < 1 ∨ 1 <<< 20 < config.maximumMessage then
    none
  else some { config := config }

def bounded (value : String) : Bool := !(value.utf8ByteSize == 0 || decide (256 < value.utf8ByteSize))
    && value.toList.all (fun c => c != '\r' && c != '\n' && c != '\x00')

def validAdmission (value : Admission) (now : Time) : Bool :=
  bounded value.credentialID && bounded value.environmentID && bounded value.nodeID && bounded value.intentID
    && bounded value.endpointID && bounded value.peerEndpointID && value.endpointID != value.peerEndpointID
    && decide (0 < value.attemptGeneration) && decide (0 < value.networkGeneration) && value.role.valid
    && value.expiresAt.after now && decide (value.expiresAt.sub now ≤ 10 * Duration.minute)

def Admission.sessionKey (a : Admission) : SessionKey where
  environment := a.environmentID
  node := a.nodeID
  intent := a.intentID
  attempt := a.attemptGeneration
  network := a.networkGeneration

def Admission.binding (a : Admission) : Binding where
  intentID := a.intentID
  attemptGeneration := a.attemptGeneration
  networkGeneration := a.networkGeneration
  role := a.role

/-- Each of the two is the peer that the other one names. -/
def Admission.mirrors (a b : Admission) : Bool :=
  a.endpointID == b.peerEndpointID && a.peerEndpointID == b.endpointID

namespace Session

variable {V : Type} (x : Session V)

def reciprocal (a : Admission) : Bool :=
  (x.endpoints.lookup a.role.opposite).all (fun peer => peer.admission.mirrors a)

def refuses (a : Admission) : Bool :=
  (x.endpoints.lookup a.role).isSome || decide (a.role ∈ x.completed) || !x.reciprocal a

def join (a : Admission) (v : V) : Session V :=
  { x with endpoints := x.endpoints.insert a.role ⟨a, v⟩ }

def setInbox (role : Role) (c : Channel Raw) : Session V :=
  { x with inbox := Function.update x.inbox role c }

def setValidator (role : Role) (endpoint : Endpoint V) (v : V) : Session V :=
  { x with endpoints := x.endpoints.insert role { endpoint with validator := v } }

/-- The part of `complete` on the session. -/
def complete (role : Role) : Session V :=
  { x with endpoints := x.endpoints.erase role, completed := role :: x.completed }

def expired (now : Time) : Bool := x.endpoints.values.any (fun e => !e.admission.expiresAt.after now)

end Session

namespace Service

variable {V E : Type} (s : Service V)

def setSession (i : Nat) (x : Session V) : Service V := { s with heap := s.heap.set i x }

def setAttachment (j : Nat) (a : Attachment) : Service V :=
  { s with attachments := s.attachments.set j a }

/-- A call of the release function that an admission owns. -/
def releaseOwned (n : Nat) : Service V := { s with releases := s.releases.modify n ReleaseOnce.run }

def removeExpiredLocked (now : Time) : Service V := { s with
    consumed := s.consumed.filter (fun _ expiresAt => expiresAt.after now)
    sessions := s.sessions.filter (fun _ i => !(s.heap[i]?).any (fun x => x.expired now))
    heap := s.heap.mapIdx (fun i x =>
      if s.sessions.values.contains i && x.expired now then { x with done := true } else x) }

/-! ## `Attach` -/

/-- The endpoint joins the session with number `i`. -/
def join (a : Admission) (v : V) (n i : Nat) (x : Session V) : Service V :=
  { s.setSession i (x.join a v) with
    consumed := s.consumed.insert a.credentialID a.expiresAt
    attachments := s.attachments ++ [{ session := i, role := a.role, admission := a, release := n }] }

def create (key : SessionKey) : Service V :=
  { s with sessions := s.sessions.insert key s.heap.length, heap := s.heap ++ [{ key := key }] }

/-- The part of `Attach` after `removeExpiredLocked`. -/
def enterLocked (a : Admission) (v : V) (n : Nat) : Service V × Option (SignalingError E) :=
  if (s.consumed.lookup a.credentialID).isSome then (s, some .conflict)
  else if s.config.maximumConsumed ≤ s.consumed.entries.length then (s, some .capacity)
  else
    match s.sessions.lookup a.sessionKey with
    | none =>
      if s.config.maximumSessions ≤ s.sessions.entries.length then (s, some .capacity)
      else ((s.create a.sessionKey).join a v n s.heap.length { key := a.sessionKey }, none)
    | some i =>
      match s.heap[i]? with
      | none => (s, some .conflict)
      | some x => if x.refuses a then (s, some .conflict) else (s.join a v n i x, none)

variable (vs : Validators V E) (s : Service V) (j : Nat) (a : Attachment)

/-- `Attach` after the authentication. -/
def enter (a : Admission) (n : Nat) (now : Time) : Service V × Option (SignalingError E) :=
  if !validAdmission a now then (s, some .invalid)
  else
    match vs.newValidator a.binding with
    | none => (s, some .invalid)
    | some v => if s.closed then (s, some .closed) else (s.removeExpiredLocked now).enterLocked a v n

/-- `Attach`, with what the authenticator answers. An admission that no attachment owns is released at the end. -/
def attach (credential : String) (authenticated : Option Admission) (now : Time) :
    Service V × Option (SignalingError E) :=
  if credential = "" ∨ maximumCredentialBytes < credential.utf8ByteSize then (s, some .invalid)
  else
    match authenticated with
    | none => (s, some .authenticate)
    | some a =>
      let n := s.releases.length
      let result := enter vs { s with releases := s.releases ++ [{}] } a n now
      match result.2 with
      | some e => (result.1.releaseOwned n, some e)
      | none => result

/-! ## Messages -/

/-- The part of `Send` when the session and its endpoint are found. -/
def sendLocked (x : Session V) (endpoint : Endpoint V) (raw : Raw) : Service V × Option (SignalingError E) :=
  if s.config.queueDepth ≤ (x.inbox a.role.opposite).buffer.length then (s, some .capacity)
  else
    let result := vs.accept endpoint.validator raw
    let x := x.setValidator a.role endpoint result.1
    match result.2 with
    | .error e => (s.setSession a.session x, some (.validate e))
    | .ok false => (s.setSession a.session x, none)
    | .ok true =>
      ((s.setSession a.session (x.setInbox a.role.opposite ((x.inbox a.role.opposite).push raw))).setAttachment j
        { a with forwarded := a.forwarded ++ [raw] }, none)

def send (raw : Raw) (cancelled : Bool) : Service V × Option (SignalingError E) :=
  if raw.length = 0 ∨ s.config.maximumMessage < raw.length then (s, some .invalid)
  else if cancelled then (s, some .context)
  else
    match s.heap[a.session]? with
    | none => (s, some .closed)
    | some x =>
      if s.closed = true ∨ s.sessions.lookup x.key ≠ some a.session then (s, some .closed)
      else
        match x.endpoints.lookup a.role with
        | none => (s, some .closed)
        | some endpoint => s.sendLocked vs j a x endpoint raw

/-- The part of `active` that looks at the `done` channels. -/
def channelsOpen (a : Attachment) : Bool := !a.done && (s.heap[a.session]?).any (fun x => !x.done)

/-- The part of `active` under the lock. -/
def listed : Bool := !s.closed && (s.heap[a.session]?).any (fun x =>
    decide (s.sessions.lookup x.key = some a.session) && (x.endpoints.lookup a.role).isSome)

def setReceiving (receiving : List Receiving) : Service V := s.setAttachment j { a with receiving := receiving }

/-! ## Ends -/

/-- `terminate`, the part under the lock. -/
def terminate (i : Nat) (x : Session V) : Service V :=
  { s with sessions := if s.sessions.lookup x.key = some i then s.sessions.erase x.key else s.sessions }

/-- `complete`, the part under the lock, and whether the session is finished. -/
def complete (i : Nat) (x : Session V) (role : Role) : Service V × Bool :=
  if s.sessions.lookup x.key ≠ some i ∨ x.endpoints.lookup role = none then (s, false)
  else
    let finished := (x.complete role).endpoints.entries.isEmpty
    ({ s.setSession i (x.complete role) with
        sessions := if finished then s.sessions.erase x.key else s.sessions }, finished)

/-- `Close`, the part under the lock. -/
def close : Service V :=
  if s.closed then s
  else { s with closed := true, sessions := ∅, consumed := ∅, closing := s.closing ++ s.sessions.values }

end Service

inductive Action where
  | attach (credential : String) (authenticated : Option Admission) (now : Time)
  | send (attachment : Nat) (raw : Raw) (cancelled : Bool)
  /-- `Receive` is called, and looks at the `done` channels. -/
  | receive (attachment : Nat)
  /-- A call of `Receive` looks at the table. -/
  | check (attachment call : Nat)
  /-- A call of `Receive` gets a message. -/
  | take (attachment call : Nat)
  /-- A call of `Receive` finds a `done` channel closed or its context cancelled. -/
  | leave (attachment call : Nat) (cancelled : Bool)
  /-- A call of `Receive` with a message looks at the `done` channels. -/
  | recheck (attachment call : Nat)
  /-- A call of `Receive` with a message looks at the table, and returns. -/
  | finish (attachment call : Nat)
  /-- `Close` or `Complete` of an attachment, called by its holder or by `watch`. -/
  | beginEnd (attachment : Nat) (complete : Bool)
  | unlink (attachment : Nat)
  | signalDone (attachment : Nat)
  | release (attachment : Nat)
  /-- `watch` sees a `done` channel closed and returns. -/
  | watched (attachment : Nat)
  | close
  | closeDone (session : Nat)

namespace Service

variable {V E : Type}

def step (vs : Validators V E) (s : Service V) : Action → Option (Service V)
  | .attach credential authenticated now => some (s.attach vs credential authenticated now).1
  | .send j raw cancelled => (s.attachments[j]?).map (fun a => (s.send vs j a raw cancelled).1)
  | .receive j =>
    (s.attachments[j]?).map (fun a =>
      if s.channelsOpen a then s.setReceiving j a (a.receiving ++ [.probed]) else s)
  | .check j k =>
    (s.attachments[j]?).bind (fun a =>
      if a.receiving[k]? = some .probed then
        some (s.setReceiving j a (if s.listed a then a.receiving.set k .selecting else a.receiving.eraseIdx k))
      else none)
  | .take j k =>
    (s.attachments[j]?).bind (fun a =>
      if a.receiving[k]? = some .selecting then
        (s.heap[a.session]?).bind (fun x =>
          (x.inbox a.role).pop.map (fun p =>
            (s.setSession a.session (x.setInbox a.role p.2)).setReceiving j a (a.receiving.set k (.took p.1))))
      else none)
  | .leave j k cancelled =>
    (s.attachments[j]?).bind (fun a =>
      if a.receiving[k]? = some .selecting ∧ (cancelled = true ∨ s.channelsOpen a = false) then
        some (s.setReceiving j a (a.receiving.eraseIdx k))
      else none)
  | .recheck j k =>
    (s.attachments[j]?).bind (fun a =>
      match a.receiving[k]? with
      | some (.took raw) =>
        some (s.setReceiving j a
          (if s.channelsOpen a then a.receiving.set k (.reprobed raw) else a.receiving.eraseIdx k))
      | _ => none)
  | .finish j k =>
    (s.attachments[j]?).bind (fun a =>
      match a.receiving[k]? with
      | some (.reprobed raw) =>
        some (s.setAttachment j { a with
            receiving := a.receiving.eraseIdx k
            returned := if s.listed a then a.returned ++ [raw] else a.returned })
      | _ => none)
  | .beginEnd j complete =>
    (s.attachments[j]?).map (fun a =>
      if a.ending = .not then s.setAttachment j { a with done := true, ending := .begun complete } else s)
  | .unlink j =>
    (s.attachments[j]?).bind (fun a => (s.heap[a.session]?).bind (fun x =>
      match a.ending with
      | .begun false => some ((s.terminate a.session x).setAttachment j { a with ending := .unlocked true })
      | .begun true =>
        some ((s.complete a.session x a.role).1.setAttachment j
          { a with ending := .unlocked (s.complete a.session x a.role).2 })
      | _ => none))
  | .signalDone j =>
    (s.attachments[j]?).bind (fun a => (s.heap[a.session]?).bind (fun x =>
      match a.ending with
      | .unlocked finished =>
        some ((s.setSession a.session { x with done := x.done || finished }).setAttachment j
          { a with ending := .signalled })
      | _ => none))
  | .release j =>
    (s.attachments[j]?).bind (fun a =>
      if a.ending = .signalled then some ((s.setAttachment j { a with ending := .over }).releaseOwned a.release)
      else none)
  | .watched j =>
    (s.attachments[j]?).bind (fun a =>
      if a.watching = true ∧ s.channelsOpen a = false then
        some ((s.setAttachment j { a with watching := false }).releaseOwned a.release)
      else none)
  | .close => some s.close
  | .closeDone i =>
    (s.heap[i]?).bind (fun x => if i ∈ s.closing then some (s.setSession i { x with done := true }) else none)

end Service

end PaperboatTunnel.PeerSignaling
