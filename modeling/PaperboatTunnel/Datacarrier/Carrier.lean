import PaperboatTunnel.Lib.Transition
import PaperboatTunnel.Datacarrier.DurableAdmission

/-!
# `Carrier` — what the two endpoints of a data carrier share

`Server` and `Client` of `internal/datacarrier/carrier.go` hand out streams of one session under the same rules: a
stream costs a permit, opening one also a place in the queue of openings, and the permit goes back when the stream
is closed or when no stream came about. The code of the two is the same line by line, so there is one model of it.

Calls run concurrently. A call is a row of a table with the place where it stands; a step takes one call from one
synchronisation to the next, and the action says which case of a `select` is taken, what the session answered and what
came over the stream. The contexts of a call are flags that may be set at any time.
-/

namespace PaperboatTunnel.Datacarrier

open GoTime ConnectorProtocol

/-! ## Configuration -/

def defaultMaximumStreams : Int := 64
def defaultAcceptBacklog : Int := 16
def defaultQueueDepth : Int := 16
def defaultStreamWindow : UInt32 := UInt32.ofNat (256 <<< 10)
def defaultKeepAliveInterval : Duration := 30 * Duration.second
def defaultWriteLimit : Duration := 10 * Duration.second
def defaultOpenLimit : Duration := 10 * Duration.second
def defaultCloseLimit : Duration := 5 * Duration.second
def maxMaximumStreams : Int := 1024
def maxAcceptBacklog : Int := 1024
def maxQueueDepth : Int := 1024
def maxStreamWindow : UInt32 := UInt32.ofNat (16 <<< 20)
def maxOperationTimeout : Duration := Duration.minute

/-- `Config`; of the authorizer the checks only ask whether there is one. -/
structure Config where
  (maximumStreams acceptBacklog queueDepth : Int := 0)
  streamWindow : UInt32 := 0
  (keepAliveInterval connectionWriteLimit streamOpenLimit streamCloseLimit : Duration := 0)
  identity : Identity := {}
  authorize : Bool := false
deriving DecidableEq

namespace Config

def withDefaults (c : Config) : Config := { c with
    maximumStreams := if c.maximumStreams = 0 then defaultMaximumStreams else c.maximumStreams
    acceptBacklog := if c.acceptBacklog = 0 then defaultAcceptBacklog else c.acceptBacklog
    queueDepth := if c.queueDepth = 0 then defaultQueueDepth else c.queueDepth
    streamWindow := if c.streamWindow = 0 then defaultStreamWindow else c.streamWindow
    keepAliveInterval := if c.keepAliveInterval = 0 then defaultKeepAliveInterval else c.keepAliveInterval
    connectionWriteLimit := if c.connectionWriteLimit = 0 then defaultWriteLimit else c.connectionWriteLimit
    streamOpenLimit := if c.streamOpenLimit = 0 then defaultOpenLimit else c.streamOpenLimit
    streamCloseLimit := if c.streamCloseLimit = 0 then defaultCloseLimit else c.streamCloseLimit }

def validTimeout (timeout : Duration) : Bool := 0 < timeout && timeout ≤ maxOperationTimeout

/-- `validate`, as the text after `ErrInvalidConfig`. -/
def validate (config : Config) (allowUnboundIdentity : Bool) : Option String :=
  let c := config.withDefaults
  if c.maximumStreams ≤ 0 ∨ c.maximumStreams > maxMaximumStreams then
    some "maximum streams must be in [1,1024]"
  else if c.acceptBacklog ≤ 0 ∨ c.acceptBacklog > maxAcceptBacklog ∨ c.acceptBacklog > c.maximumStreams then
    some "accept backlog must be in [1,1024] and no greater than maximum streams"
  else if c.queueDepth ≤ 0 ∨ c.queueDepth > maxQueueDepth then
    some "queue depth must be in [1,1024]"
  else if c.streamWindow < defaultStreamWindow ∨ c.streamWindow > maxStreamWindow then
    some "stream window must be in [262144,16777216]"
  else if c.keepAliveInterval ≤ 0 ∨ c.keepAliveInterval > Duration.hour ∨ ¬ validTimeout c.connectionWriteLimit
      ∨ ¬ validTimeout c.streamOpenLimit ∨ ¬ validTimeout c.streamCloseLimit then
    some "transport timeout is outside the supported range"
  else if c.identity = {} ∧ ¬ allowUnboundIdentity then some "authenticated identity is required"
  else if c.identity ≠ {} ∧ c.identity.validate.isSome then some "authenticated identity is invalid"
  else if ¬ c.authorize then some "route authorizer is required"
  else none

end Config

/-! ## The preface of a stream -/

def privateAccessHTTP : String := "private_access_http"
def privateAccessTCP : String := "private_access_tcp"
def inspectorHTTP : String := "inspector_http"

def validStreamKind (kind : String) : Bool :=
  ["connector_ready", "tcp_public", "http_browser", "http", "https", "h2c", "websocket", "sse", "grpc",
    "tcp_private", privateAccessHTTP, privateAccessTCP, inspectorHTTP].contains kind

namespace StreamOpen

def validate (s : StreamOpen) : Option ConnectorProtocol.Error :=
  if s.protocol ≠ protocolName ∨ s.version ≠ protocolVersion
      ∨ (validateIdentifier s.accountID).isSome ∨ (validateIdentifier s.tunnelID).isSome
      ∨ (validateIdentifier s.connectorID).isSome ∨ (validateIdentifier s.sessionID).isSome
      ∨ (validateIdentifier s.routeID).isSome ∨ (validateIdentifier s.requestID).isSome
      ∨ s.processGeneration = 0 ∨ s.generation = 0 then some errInvalidInput
  else if s.kind.utf8ByteSize = 0 ∨ s.kind.utf8ByteSize > maxIdentifierBytes ∨ ¬ validStreamKind s.kind then
    some errInvalidInput
  else none

end StreamOpen

/-- What happens to the preface on a stream: its deadline cannot be set, it is not transferred or does not decode,
    or it is there. -/
inductive Exchange where
  | deadline (err : Error)
  | failed (err : Error)
  | complete (preface : StreamOpen)
deriving DecidableEq

/-- `SetReadDeadline` and `ReadStreamOpen`, which checks what it has decoded. -/
def Exchange.read : Exchange → Except Error StreamOpen
  | .deadline _ => .error .invalidPreface
  | .failed err => .error err
  | .complete preface =>
    match preface.validate with
    | some err => .error (.preface err)
    | none => .ok preface

/-- `writeStreamOpen` of a preface that was checked before. -/
def Exchange.written : Exchange → Option Error
  | .deadline err => some err
  | .failed err => some err
  | .complete _ => none

/-! ## Calls -/

/-- What a call asks the carrier for; a host has no calls that accept. -/
inductive CallKind where
  | openStream (preface : StreamOpen)
  | openControl
  | acceptAccess
  | acceptControl
deriving DecidableEq

/-- A call that opens a stream takes a place among the openings. -/
def CallKind.opens : CallKind → Bool
  | .openStream _ | .openControl => true
  | .acceptAccess | .acceptControl => false

/-- The call of `OpenStream` or `AcceptStream` of the session, in a goroutine of its own. -/
inductive SessionCall where
  | running
  | delivered
  | failed (err : Error)
deriving DecidableEq

/-- Where a call stands. `wrapped` and `failed` are places of `AcceptControlStream` only, which goes on after
    `acceptRaw`. -/
inductive Phase where
  | admitting
  | queueing
  | waiting (session : SessionCall)
  | handed
  | wrapped (stream : Nat)
  | failed (err : Error)
  | returned (result : Except Error Nat)
deriving DecidableEq

/-- A call, and whether its context is done; only `OpenStreamWithLifetime` has a second one. -/
structure Call where
  kind : CallKind
  phase : Phase
  (canceled lifetimeCanceled : Bool := false)
deriving DecidableEq

namespace Call

def holds (call : Call) : Bool :=
  match call.phase with
  | .queueing | .waiting _ | .handed => true
  | _ => false

def occupies (call : Call) : Bool :=
  match call.phase with
  | .waiting _ => call.kind.opens
  | _ => false

/-- The context given to `wrapStream` is done. -/
def aborts (call : Call) : Bool :=
  match call.kind with
  | .openStream _ => call.lifetimeCanceled
  | _ => call.canceled

/-- The phase of a call that ends with an error. -/
def failure (call : Call) (err : Error) : Phase :=
  if call.kind = .acceptControl then .failed err else .returned (.error err)

end Call

/-- `finishCanceledOpen` or `finishCanceledAccept`: the goroutine that waits for the answer of the session after
    its call has returned. -/
structure Finisher where
  opens : Bool
  session : SessionCall
  finished : Bool := false
deriving DecidableEq

/-- Which case of a `select` is taken: the channel operation, the closed carrier, the context, or the default. -/
inductive Choice where
  | taken | closed | canceled | full
deriving DecidableEq

/-! ## Streams -/

/-- The callback of a wrapped stream. -/
inductive Release where
  | permit
  | control
  | request (key : String)
deriving DecidableEq

/-- A stream is closed once, by `Close` or by `abort`. `closing` is inside of `closeOnce`, before the callback;
    `unreserved` is between the two parts of the callback of an accepted stream of the host. -/
inductive StreamState where
  | live | closing | unreserved | closed
deriving DecidableEq

/-- A wrapped stream. Its owner can close it once it was handed out, and the context of the call `context` aborts
    it. -/
structure Stream where
  preface : StreamOpen := {}
  release : Release
  context : Option Nat := none
  owned : Bool := true
  state : StreamState := .live
deriving DecidableEq

/-! ## The carrier -/

/-- The part of `Server` and `Client` that admits streams. A channel that serves as a counter is the number of its
    elements. -/
structure Carrier where
  identity : Identity
  (maximumStreams queueDepth : Nat)
  (permits openings : Nat := 0)
  done : Bool := false
  calls : List Call := []
  finishers : List Finisher := []
  streams : List Stream := []
deriving DecidableEq

namespace Carrier

variable (c : Carrier)

/-- The carrier that `NewServer` and `NewClient` make. -/
def new (config : Config) : Except Error Carrier :=
  if (config.withDefaults.validate false).isSome then .error .invalidConfig
  else .ok
    { identity := config.identity
      maximumStreams := config.withDefaults.maximumStreams.toNat
      queueDepth := config.withDefaults.queueDepth.toNat }

def takePermit : Carrier := { c with permits := c.permits + 1 }

/-- `releasePermit`; it does not block when there is nothing to release. -/
def releasePermit : Carrier := { c with permits := c.permits - 1 }

def takeOpening : Carrier := { c with openings := c.openings + 1 }

/-- `<-s.openings`, of those that have taken a place. -/
def releaseOpening (opens : Bool) : Carrier :=
  { c with openings := if opens then c.openings - 1 else c.openings }

variable (i : Nat) (call : Call)

def setCall : Carrier := { c with calls := c.calls.set i call }

def setStream (j : Nat) (stream : Stream) : Carrier := { c with streams := c.streams.set j stream }

def setFinisher (k : Nat) (finisher : Finisher) : Carrier :=
  { c with finishers := c.finishers.set k finisher }

def fail (err : Error) : Carrier := c.setCall i { call with phase := call.failure err }

def enter (kind : CallKind) (phase : Phase) : Carrier :=
  { c with calls := c.calls ++ [{ kind, phase }] }

/-- The call returns while the session still has to answer. -/
def abandon (session : SessionCall) (err : Error) : Carrier :=
  { c.fail i call err with finishers := c.finishers ++ [{ opens := call.kind.opens, session }] }

/-- `wrapStream` of the stream that call `i` has in hand. -/
def wrap (stream : Stream) (phase : Nat → Phase) : Carrier :=
  { c.setCall i { call with phase := phase c.streams.length } with streams := c.streams ++ [stream] }

/-! ## The steps of a call -/

/-- The checks of `OpenStream` before it asks for a permit; the other calls have none. -/
def precheck (kind : CallKind) (authorized : Option String) : Option Error :=
  match kind with
  | .openStream preface =>
    if preface.validate.isSome then some .invalidPreface
    else if ¬ c.identity.matchesOpen preface then some .identityMismatch
    else authorized.map .routeDenied
  | _ => none

/-- A call up to the first `select`. -/
def start (kind : CallKind) (authorized : Option String) : Option Carrier :=
  if kind = .acceptControl then none
  else match c.precheck kind authorized with
    | some err => some (c.enter kind (.returned (.error err)))
    | none => some (c.enter kind .admitting)

/-- The first `select` of `openRaw` and `acceptRaw`: a permit, or none. -/
def admitCall : Choice → Option Carrier
  | .taken =>
    if c.permits < c.maximumStreams then
      some (c.takePermit.setCall i { call with phase := if call.kind.opens then .queueing else .waiting .running })
    else none
  | .closed => if c.done then some (c.fail i call .carrierClosed) else none
  | .canceled => if call.canceled then some (c.fail i call .context) else none
  | .full =>
    if ¬ c.permits < c.maximumStreams ∧ c.done = false ∧ call.canceled = false then
      some (c.fail i call .streamLimit)
    else none

/-- The second `select` of `openRaw`: a place among the openings. -/
def queue : Choice → Option Carrier
  | .taken =>
    if c.openings < c.queueDepth then
      some (c.takeOpening.setCall i { call with phase := .waiting .running })
    else none
  | .closed => if c.done then some (c.releasePermit.fail i call .carrierClosed) else none
  | .canceled => if call.canceled then some (c.releasePermit.fail i call .context) else none
  | .full => none

/-- The last `select` of `openRaw` and `acceptRaw`: the answer of the session. -/
def receive (session : SessionCall) : Choice → Option Carrier
  | .taken =>
    match session with
    | .running => none
    | .failed err =>
      some (((c.releaseOpening call.kind.opens).releasePermit).fail i call (if c.done then .carrierClosed else err))
    | .delivered =>
      if call.canceled then
        some (((c.releaseOpening call.kind.opens).releasePermit).fail i call .context)
      else some ((c.releaseOpening call.kind.opens).setCall i { call with phase := .handed })
  | .closed => if c.done then some (c.abandon i call session .carrierClosed) else none
  | .canceled => if call.canceled then some (c.abandon i call session .context) else none
  | .full => none

/-- What `AcceptAccessStream` asks of the preface it has read. -/
def accessPreface (exchange : Exchange) : Except Error StreamOpen :=
  match exchange.read with
  | .error err => .error err
  | .ok preface =>
    if ¬ c.identity.matchesOpen preface then .error .accessStreamIdentity
    else if preface.kind ≠ privateAccessHTTP ∧ preface.kind ≠ privateAccessTCP then .error .accessStreamKind
    else .ok preface

/-- From the stream of the session to the wrapped stream. -/
def handOff (exchange : Exchange) : Carrier :=
  match call.kind with
  | .openStream preface =>
    match exchange.written with
    | some err => c.releasePermit.fail i call err
    | none => c.wrap i call { preface, release := .permit, context := some i } (fun j => .returned (.ok j))
  | .openControl => c.wrap i call { release := .permit, context := some i } (fun j => .returned (.ok j))
  | .acceptAccess =>
    match c.accessPreface exchange with
    | .error err => c.releasePermit.fail i call err
    | .ok preface => c.wrap i call { preface, release := .permit } (fun j => .returned (.ok j))
  | .acceptControl => c.wrap i call { release := .control, context := some i, owned := false } .wrapped

/-- The end of `finishCanceledOpen` and `finishCanceledAccept`. -/
def finish (k : Nat) (finisher : Finisher) : Carrier :=
  ((c.releaseOpening finisher.opens).releasePermit).setFinisher k { finisher with finished := true }

/-- The stream may be closed: its owner has it, or the context it was wrapped with is done. -/
def mayClose (stream : Stream) (abort : Bool) : Bool :=
  if abort then (stream.context.bind (fun i => c.calls[i]?)).any Call.aborts else stream.owned

inductive Action where
  | start (kind : CallKind) (authorized : Option String)
  | cancel (i : Nat) (lifetime : Bool)
  | shutdown
  | admitCall (i : Nat) (choice : Choice)
  | queue (i : Nat) (choice : Choice)
  | answer (i : Nat) (session : SessionCall)
  | receive (i : Nat) (choice : Choice)
  | answerLate (k : Nat) (session : SessionCall)
  | finish (k : Nat)
  | handOff (i : Nat) (exchange : Exchange)
  | close (j : Nat) (abort : Bool)
deriving DecidableEq

def step : Action → Option Carrier
  | .start kind authorized => c.start kind authorized
  | .cancel i lifetime =>
    (c.calls[i]?).map (fun call => c.setCall i
      { call with canceled := !lifetime || call.canceled,
                  lifetimeCanceled := lifetime || call.lifetimeCanceled })
  | .shutdown => some { c with done := true }
  | .admitCall i choice =>
    (c.calls[i]?).bind (fun call => if call.phase = .admitting then c.admitCall i call choice else none)
  | .queue i choice =>
    (c.calls[i]?).bind (fun call =>
      if call.kind.opens ∧ call.phase = .queueing then c.queue i call choice else none)
  | .answer i session =>
    (c.calls[i]?).bind (fun call =>
      if call.phase = .waiting .running ∧ session ≠ .running then
        some (c.setCall i { call with phase := .waiting session })
      else none)
  | .receive i choice =>
    (c.calls[i]?).bind (fun call =>
      match call.phase with
      | .waiting session => c.receive i call session choice
      | _ => none)
  | .answerLate k session =>
    (c.finishers[k]?).bind (fun finisher =>
      if finisher.session = .running ∧ session ≠ .running then
        some (c.setFinisher k { finisher with session })
      else none)
  | .finish k =>
    (c.finishers[k]?).bind (fun finisher =>
      if finisher.session ≠ .running ∧ finisher.finished = false then some (c.finish k finisher) else none)
  | .handOff i exchange =>
    (c.calls[i]?).bind (fun call => if call.phase = .handed then some (c.handOff i call exchange) else none)
  | .close j abort =>
    (c.streams[j]?).bind (fun stream =>
      if stream.state = .live ∧ c.mayClose stream abort then
        some (c.setStream j { stream with state := .closing })
      else none)

end Carrier

end PaperboatTunnel.Datacarrier
