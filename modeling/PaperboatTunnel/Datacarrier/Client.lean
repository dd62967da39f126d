import PaperboatTunnel.Datacarrier.CarrierMoves

/-!
# `Client` — the host endpoint of a data carrier

`Client` of `internal/datacarrier/carrier.go`: the carrier of both endpoints, and one goroutine, `acceptLoop`, that
takes the streams the edge opens. It reads the preface of each, has the route authorized, reserves the request id and
publishes the stream to `AcceptStream` through a bounded queue. When it is closed, an accepted stream gives back its
request id and then its permit, in two steps.
-/

namespace PaperboatTunnel.Datacarrier

/-- What `acceptLoop` publishes: a stream, by its number, or why there is none. -/
abbrev AcceptResult := Except Error Nat

/-- Where `acceptLoop` stands: it waits for a stream of the session, has one without a permit, has one with a
    permit, or publishes. -/
inductive Loop where
  | accepting
  | received
  | admitting
  | publishing (result : AcceptResult)
  | ended
deriving DecidableEq

/-- The client; `requests` are the reserved keys. -/
structure Client where
  carrier : Carrier
  loop : Loop := .accepting
  requests : List String := []
  accepted : List AcceptResult := []
deriving DecidableEq

/-- The key of a request: session and request id, joined by a NUL byte. -/
def requestKey (sessionID requestID : String) : String := sessionID ++ "\x00" ++ requestID

namespace Client

variable (c : Client)

/-- `NewClient` and `NewClientWithSession`. -/
def new (config : Config) : Except Error Client :=
  match Carrier.new config with
  | .error err => .error err
  | .ok carrier => .ok { carrier }

/-- The session has a stream for the loop, or no more streams. -/
def receive : Option Error → Client
  | some _ => { c with carrier := { c.carrier with done := true }, loop := .ended }
  | none => { c with loop := .received }

/-- The loop asks for a permit and does not wait for it. -/
def permit : Client :=
  if c.carrier.permits < c.carrier.maximumStreams then
    { c with carrier := c.carrier.takePermit, loop := .admitting }
  else { c with loop := .publishing (.error .carrierOverloaded) }

/-- What `acceptLoop` asks of the preface it has read. -/
def admission (exchange : Exchange) (authorized : Option String) : Except Error StreamOpen :=
  match exchange.read with
  | .error err => .error err
  | .ok preface =>
    if ¬ c.carrier.identity.matchesOpen preface then .error .identityMismatch
    else match authorized with
      | some detail => .error (.routeDenied detail)
      | none => .ok preface

/-- The loop gives the stream up. -/
def reject (err : Error) : Client :=
  { c with carrier := c.carrier.releasePermit, loop := .publishing (.error err) }

/-- `reserveRequest` and `wrapStream`. -/
def reserve (preface : StreamOpen) : Client :=
  let key := requestKey preface.sessionID preface.requestID
  if c.requests.contains key then c.reject .requestInUse
  else
    { c with
      carrier := { c.carrier with
        streams := c.carrier.streams ++ [{ preface, release := .request key, owned := false }] }
      loop := .publishing (.ok c.carrier.streams.length)
      requests := c.requests ++ [key] }

/-- From the permit to the result. -/
def admitStream (exchange : Exchange) (authorized : Option String) : Client :=
  match c.admission exchange authorized with
  | .error err => c.reject err
  | .ok preface => c.reserve preface

/-- `stream.Close()` of a stream that nobody else has. -/
def closeResult (c : Carrier) : AcceptResult → Carrier
  | .error _ => c
  | .ok j =>
    match c.streams[j]? with
    | none => c
    | some stream =>
      if stream.state = .live then c.setStream j { stream with state := .closing } else c

def publish (result : AcceptResult) : Choice → Option Client
  | .taken =>
    if c.accepted.length < c.carrier.queueDepth then
      some { c with accepted := c.accepted ++ [result], loop := .accepting }
    else none
  | .closed =>
    if c.carrier.done then some { c with carrier := closeResult c.carrier result, loop := .accepting } else none
  | _ => none

/-- `AcceptStream` gets a result, and its caller has the stream. -/
def take (result : AcceptResult) (rest : List AcceptResult) : Client :=
  match result with
  | .error _ => { c with accepted := rest }
  | .ok j =>
    match c.carrier.streams[j]? with
    | none => { c with accepted := rest }
    | some stream =>
      { c with carrier := c.carrier.setStream j { stream with owned := true }, accepted := rest }

def releaseRequest (key : String) : Client := { c with requests := c.requests.filter (· != key) }

/-- The callback of a stream, at the end of its `Close` or `abort`; the callback of an accepted stream has two
    parts. -/
def release (j : Nat) (stream : Stream) : Option Client :=
  let closed := (c.carrier.setStream j { stream with state := .closed }).releasePermit
  match stream.release, stream.state with
  | .permit, .closing => some { c with carrier := closed }
  | .request key, .closing =>
    some ({ c with carrier := c.carrier.setStream j { stream with state := .unreserved } }.releaseRequest key)
  | .request _, .unreserved => some { c with carrier := closed }
  | _, _ => none

/-- A host only has calls that open. -/
def offers : Carrier.Action → Bool
  | .start kind _ => kind.opens
  | _ => true

inductive Action where
  | carrier (action : Carrier.Action)
  | receive (err : Option Error)
  | permit
  | admitStream (exchange : Exchange) (authorized : Option String)
  | publish (choice : Choice)
  | take
  | release (j : Nat)
deriving DecidableEq

def step : Action → Option Client
  | .carrier action =>
    if offers action then (c.carrier.step action).map (fun carrier => { c with carrier }) else none
  | .receive err => if c.loop = .accepting then some (c.receive err) else none
  | .permit => if c.loop = .received then some c.permit else none
  | .admitStream exchange authorized => if c.loop = .admitting then some (c.admitStream exchange authorized) else none
  | .publish choice =>
    match c.loop with
    | .publishing result => c.publish result choice
    | _ => none
  | .take =>
    match c.accepted with
    | [] => none
    | result :: rest => some (c.take result rest)
  | .release j => (c.carrier.streams[j]?).bind (c.release j)

/-! ## Moves -/

/-- What `acceptLoop` and `AcceptStream` do to a carrier when they neither take nor give back a permit. -/
inductive Touches (c : Carrier) : Carrier → Prop
  | same : Touches c c
  | stopped : Touches c { c with done := true }
  | closing {j stream} (hj : c.streams[j]? = some stream) (hlive : stream.state = .live) :
      Touches c (c.setStream j { stream with state := .closing })
  | owned {j stream} (hj : c.streams[j]? = some stream) : Touches c (c.setStream j { stream with owned := true })

inductive Move (c : Client) : Client → Prop
  | carrier {c'} (hmove : c.carrier.Move c') : Move c { c with carrier := c' }
  | touched {c' loop accepted} (htouches : Touches c.carrier c')
      (hloop : loop = c.loop ∨ c.loop ≠ .admitting ∧ loop ≠ .admitting) :
      Move c { c with carrier := c', loop, accepted }
  | admitted (hloop : c.loop = .received) : Move c { c with carrier := c.carrier.takePermit, loop := .admitting }
  | rejected {err} (hloop : c.loop = .admitting) : Move c (c.reject err)
  | reserved {preface key} (hloop : c.loop = .admitting) (hvalid : preface.validate = none)
      (hkey : key = requestKey preface.sessionID preface.requestID) (hfree : key ∉ c.requests) :
      Move c { c with
          carrier := { c.carrier with
            streams := c.carrier.streams ++ [{ preface, release := .request key, owned := false }] }
          loop := .publishing (.ok c.carrier.streams.length)
          requests := c.requests ++ [key] }
  | unreserved {j stream key} (hj : c.carrier.streams[j]? = some stream) (hstate : stream.state = .closing)
      (hrelease : stream.release = .request key) :
      Move c { c with
          carrier := c.carrier.setStream j { stream with state := .unreserved }
          requests := c.requests.filter (· != key) }
  | released {j stream} (hj : c.carrier.streams[j]? = some stream)
      (hstate : (stream.release = .permit ∧ stream.state = .closing)
        ∨ (∃ key, stream.release = .request key) ∧ stream.state = .unreserved) :
      Move c { c with carrier := (c.carrier.setStream j { stream with state := .closed }).releasePermit }

variable {c c' : Client} {authorized : Option String} {res : AcceptResult} {exchange : Exchange}

theorem admission_valid {pref : StreamOpen} (h : c.admission exchange authorized = .ok pref) :
    pref.validate = none := by
  unfold admission at h
  split at h
  · cases h
  next read hread =>
    have hpreface : read = pref := by
      split at h
      · cases h
      · split at h
        · cases h
        · exact Except.ok.inj h
    subst hpreface
    cases exchange with
    | deadline | failed => cases hread
    | complete =>
      simp only [Exchange.read] at hread
      split at hread
      · cases hread
      next hval => exact Except.ok.inj hread ▸ hval

theorem admitStream_move (hloop : c.loop = .admitting) : Move c (c.admitStream exchange authorized) := by
  unfold admitStream
  split
  · exact .rejected hloop
  next pref hpreface =>
    unfold reserve
    dsimp only
    split
    · exact .rejected hloop
    next hfree =>
      rw [List.contains_iff_mem] at hfree
      exact .reserved hloop (admission_valid hpreface) rfl hfree

theorem closeResult_touches (carrier : Carrier) (res : AcceptResult) : Touches carrier (closeResult carrier res) := by
  unfold closeResult
  split
  · exact .same
  split
  · exact .same
  next strm hj =>
    split
    next hlive => exact .closing hj hlive
    · exact .same

theorem publish_move {choice : Choice} (hloop : c.loop = .publishing res) (h : c.publish res choice = some c') :
    Move c c' := by
  have hother : c.loop ≠ .admitting := by rw [hloop]; simp
  cases choice with
  | taken =>
    simp only [publish] at h
    split at h
    · cases h
      exact .touched .same (.inr ⟨hother, by decide⟩)
    · cases h
  | closed =>
    simp only [publish] at h
    split at h
    · cases h
      exact .touched (closeResult_touches _ _) (.inr ⟨hother, by decide⟩)
    · cases h
  | canceled | full => cases h

theorem take_move {rest : List AcceptResult} : Move c (c.take res rest) := by
  unfold take
  split
  · exact .touched .same (.inl rfl)
  · split
    · exact .touched .same (.inl rfl)
    next strm hj => exact .touched (.owned hj) (.inl rfl)

theorem release_move {j : Nat} {strm : Stream} (hj : c.carrier.streams[j]? = some strm)
    (h : c.release j strm = some c') : Move c c' := by
  unfold release at h
  dsimp only at h
  split at h
  next hrel hst =>
    cases h
    exact .released hj (.inl ⟨hrel, hst⟩)
  next key hrel hst =>
    cases h
    exact .unreserved hj hst hrel
  next key hrel hst =>
    cases h
    exact .released hj (.inr ⟨⟨key, hrel⟩, hst⟩)
  · cases h

/-- **Every step is one of the moves.** -/
theorem step_move {a : Action} (h : c.step a = some c') : Move c c' := by
  revert h
  fun_cases step c a <;> intro h
  case case1 =>
    obtain ⟨_, hstep, rfl⟩ := Option.map_eq_some_iff.mp h
    exact .carrier (Carrier.step_move hstep)
  case case3 err hloop =>
    have hother : c.loop ≠ .admitting := by rw [hloop]; decide
    cases h
    cases err with
    | none => exact .touched .same (.inr ⟨hother, by decide⟩)
    | some => exact .touched .stopped (.inr ⟨hother, by decide⟩)
  case case5 hloop =>
    have hother : c.loop ≠ .admitting := by rw [hloop]; decide
    cases h
    unfold permit
    split
    · exact .admitted hloop
    · exact .touched .same (.inr ⟨hother, by simp⟩)
  case case7 hloop =>
    cases h
    exact admitStream_move hloop
  case case9 res hloop => exact publish_move hloop h
  case case12 =>
    cases h
    exact take_move
  case case13 =>
    obtain ⟨_, hj, hstream⟩ := Option.bind_eq_some_iff.mp h
    exact release_move hj hstream
  -- the others are not enabled
  all_goals cases h

end Client

end PaperboatTunnel.Datacarrier
