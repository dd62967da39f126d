import PaperboatTunnel.Datacarrier.Client

/-!
# `ClientAccounts` — permits and request ids of the host

The permits are out for the streams that are not closed and for the opens and accepts in progress, and a request id is
reserved exactly while an accepted stream with it is not closed. An accepted stream counts as closed when its request
id is free; until its permit is back too, its close is in progress and has the permit.
-/

namespace PaperboatTunnel.Datacarrier

open TransitionSystem ConnectorProtocol Datacarrier.Stream List Table

/-! ## Streams -/

variable {stream : Stream} {pref : StreamOpen}

namespace Stream

variable (stream)

/-- The stream is not closed: it is live, or its `Close` has not come to the callback. -/
def unclosed : Bool := stream.state == .live || stream.state == .closing

/-- The close has given back the request id and not yet the permit. -/
def halfClosed : Bool := stream.state == .unreserved

def accepted : Bool :=
  match stream.release with
  | .request _ => true
  | _ => false

def reservation : Option String :=
  match stream.release with
  | .request key => if stream.unclosed then some key else none
  | _ => none

/-- An opened stream, or an accepted one with the key of its own preface, which was checked. -/
def Fits : Prop := stream.release = .permit
    ∨ stream.release = .request (requestKey stream.preface.sessionID stream.preface.requestID)
      ∧ stream.preface.validate = none

variable {stream}

theorem Fits.not_control (h : stream.Fits) : stream.release ≠ .control := by
  rcases h with hperm | ⟨hreq, _⟩
  · rw [hperm]
    decide
  · rw [hreq]
    simp

end Stream

/-! ## Keys -/

theorem bytes_append (a b : String) : bytes (a ++ b) = bytes a ++ bytes b := by
  simp [bytes]

theorem bytes_injective {a b : String} (h : bytes a = bytes b) : a = b := by
  apply String.toByteArray_inj.mp
  apply ByteArray.ext
  exact Array.toList_inj.mp h

theorem nul_not_mem_identifier {value : String} (h : validateIdentifier value = none) :
    (0 : UInt8) ∉ bytes value := by
  have hpattern : identifierPattern value = true := by
    by_contra hno
    simp [validateIdentifier, hno] at h
  intro hin
  unfold identifierPattern at hpattern
  split at hpattern
  · cases hpattern
  next b bs heq =>
    rw [Bool.and_eq_true, Bool.and_eq_true, all_eq_true] at hpattern
    obtain ⟨⟨hfirst, _⟩, hrest⟩ := hpattern
    rw [heq] at hin
    rcases mem_cons.mp hin with rfl | hbs
    · exact absurd hfirst (by decide)
    · exact absurd (hrest 0 hbs) (by decide)

theorem StreamOpen.ids_of_validate (h : pref.validate = none) :
    (0 : UInt8) ∉ bytes pref.sessionID ∧ (0 : UInt8) ∉ bytes pref.requestID := by
  unfold StreamOpen.validate at h
  split at h
  · cases h
  next hids =>
    simp only [not_or, Option.not_isSome_iff_eq_none] at hids
    exact ⟨nul_not_mem_identifier hids.2.2.2.2.2.1, nul_not_mem_identifier hids.2.2.2.2.2.2.2.1⟩

/-- **The key of a checked preface belongs to its session and request only.** -/
theorem requestKey_inj {sid rid : String} (hval : pref.validate = none)
    (h : requestKey sid rid = requestKey pref.sessionID pref.requestID) :
    sid = pref.sessionID ∧ rid = pref.requestID := by
  obtain ⟨hsess, hreq⟩ := StreamOpen.ids_of_validate hval
  have hbytes : bytes sid ++ 0 :: bytes rid = bytes pref.sessionID ++ 0 :: bytes pref.requestID := by
    have heq := congrArg bytes h
    unfold requestKey at heq
    rw [bytes_append, bytes_append, bytes_append, bytes_append, append_assoc, append_assoc] at heq
    exact heq
  obtain ⟨hs, _, hr⟩ := (append_cons_inj_of_notMem hsess hreq).mp hbytes.symm
  exact ⟨bytes_injective hs.symm, bytes_injective hr.symm⟩

namespace Carrier

def unclosed (c : Carrier) : Nat := c.streams.countP Stream.unclosed

/-- The closes between their two parts. -/
def halfClosed (c : Carrier) : Nat := c.streams.countP Stream.halfClosed

/-- A stream without a control callback owes its permit as long as it is not closed, or half closed. -/
theorem owed_eq {c : Carrier} (h : ∀ stream ∈ c.streams, stream.release ≠ .control) :
    c.owed = c.unclosed + c.halfClosed := by
  unfold owed unclosed halfClosed
  generalize c.streams = streams at h
  induction streams with
  | nil => rfl
  | cons stream _ ih =>
    have hrest := ih (fun other hin => h other (mem_cons_of_mem _ hin))
    have hother : (stream.release == .control) = false := beq_eq_false_iff_ne.mpr (h stream mem_cons_self)
    have hone : unit stream.owes = unit stream.unclosed + unit stream.halfClosed := by
      unfold owes Stream.unclosed Stream.halfClosed
      rw [hother]
      cases stream.state <;> rfl
    rw [countP_cons, countP_cons, countP_cons]
    simp only [unit] at hone
    omega

end Carrier

/-! ## The permits -/

namespace Client

variable {c c' : Client} {carrier carrier' : Carrier} {key : String}

def accepting (c : Client) : Nat := Carrier.unit (c.loop == .admitting)

theorem accepting_eq {loop : Loop} (h : loop = c.loop ∨ c.loop ≠ .admitting ∧ loop ≠ .admitting) :
    Carrier.unit (loop == .admitting) = c.accepting := by
  unfold accepting
  rcases h with rfl | ⟨hbefore, hafter⟩
  · rfl
  · rw [beq_eq_false_iff_ne.mpr hbefore, beq_eq_false_iff_ne.mpr hafter]

theorem accepting_of_admitting (h : c.loop = .admitting) : c.accepting = 0 + 1 := by
  rw [accepting, h]
  rfl

theorem Touches.accounts {extra : Nat} (h : Touches carrier carrier') (ha : carrier.Accounts extra) :
    carrier'.Accounts extra := by
  cases h with
  | same => exact ha
  | stopped => exact ⟨ha.permits, ha.openings⟩
  | closing hj hlive =>
    apply ha.setStream_same hj
    unfold owes
    rw [hlive]
    rfl
  | owned hj => exact ha.setStream_same hj rfl

/-- The stream that is released has not been closed, and it gives its permit back. -/
theorem released_accounts {j : Nat} {extra : Nat} (ha : c.carrier.Accounts extra)
    (hj : c.carrier.streams[j]? = some stream) (hcontrol : stream.release ≠ .control)
    (hst : stream.state ≠ .closed) :
    ((c.carrier.setStream j { stream with state := .closed }).releasePermit).Accounts extra := by
  have hafter : ({ stream with state := .closed } : Stream).owes = false := by simp [owes, hcontrol]
  have hbefore : stream.owes = true := by simp [owes, hst]
  apply ha.setStream hj
  rw [hafter, hbefore]
  rfl

theorem Move.accounts (h : Move c c') (ha : c.carrier.Accounts c.accepting) : c'.carrier.Accounts c'.accepting := by
  cases h with
  | carrier hmove => exact hmove.accounts ha
  | @touched _ _ _ htouches hloop =>
    have hnext := htouches.accounts ha
    rw [← accepting_eq hloop] at hnext
    exact hnext
  | admitted hloop =>
    rw [show c.accepting = 0 by rw [accepting, hloop]; rfl] at ha
    exact ha.takePermit
  | rejected hloop =>
    rw [accepting_of_admitting hloop] at ha
    exact ha.releasePermit
  | reserved hloop =>
    rw [accepting_of_admitting hloop] at ha
    exact ha.addStream rfl
  | unreserved hj hst =>
    apply ha.setStream_same hj
    unfold owes
    rw [hst]
    rfl
  | released hj hst =>
    rcases hst with ⟨hrel, hst⟩ | ⟨⟨key, hrel⟩, hst⟩
    · exact released_accounts ha hj (by rw [hrel]; decide) (by rw [hst]; decide)
    · exact released_accounts ha hj (by rw [hrel]; simp) (by rw [hst]; decide)

/-! ## The request ids -/

/-- The streams are opened or accepted ones, and the request ids are those that the accepted ones reserve. -/
structure Requests (streams : List Stream) (requests : List String) : Prop where
  fits : ∀ stream ∈ streams, stream.Fits
  keyed : Table.Keyed reservation streams requests

section Requests

variable {streams : List Stream} {requests : List String} {j : Nat} {stream' : Stream} (h : Requests streams requests)

include h

theorem Requests.set (hj : streams[j]? = some stream) (hrel : stream'.release = stream.release)
    (hpreface : stream'.preface = stream.preface)
    (hkey : stream'.reservation = stream.reservation) : Requests (streams.set j stream') requests := by
  refine ⟨forall_mem_set h.fits ?_, h.keyed.set hj hkey⟩
  unfold Fits
  rw [hrel, hpreface]
  exact h.fits stream (mem_of_getElem? hj)

theorem Requests.closing (hj : streams[j]? = some stream) (hlive : stream.state = .live) :
    Requests (streams.set j { stream with state := .closing }) requests := by
  refine h.set hj rfl rfl ?_
  unfold reservation unclosed
  rw [hlive]
  rfl

theorem Requests.opened (hperm : stream.release = .permit) : Requests (streams ++ [stream]) requests := by
  refine ⟨forall_mem_snoc h.fits (.inl hperm), h.keyed.snoc_none ?_⟩
  unfold reservation
  rw [hperm]

theorem Requests.accepted (hlive : stream.state = .live) (hrel : stream.release = .request key)
    (hval : stream.preface.validate = none)
    (hkey : key = requestKey stream.preface.sessionID stream.preface.requestID) (hfree : key ∉ requests) :
    Requests (streams ++ [stream]) (requests ++ [key]) := by
  refine ⟨forall_mem_snoc h.fits (.inr ⟨hkey ▸ hrel, hval⟩), h.keyed.snoc ?_ hfree⟩
  unfold reservation unclosed
  rw [hrel, hlive]
  rfl

theorem Requests.unreserved (hj : streams[j]? = some stream) (hst : stream.state = .closing)
    (hrel : stream.release = .request key) :
    Requests (streams.set j { stream with state := .unreserved }) (requests.filter (· != key)) := by
  refine ⟨forall_mem_set h.fits ?_, h.keyed.drop hj ?_ ?_⟩
  · exact h.fits stream (mem_of_getElem? hj)
  · unfold reservation unclosed
    rw [hrel, hst]
    rfl
  · unfold reservation
    rw [hrel]
    rfl

end Requests

/-- What holds of a client at every point of a run. -/
structure Sound (c : Client) : Prop where
  accounts : c.carrier.Accounts c.accepting
  kinds : ∀ call ∈ c.carrier.calls, call.kind ≠ .acceptControl
  requests : Requests c.carrier.streams c.requests

theorem Sound.of_new {cfg : Config} (h : new cfg = .ok c) : Sound c := by
  unfold new at h
  split at h
  · cases h
  next carrier hnew =>
    cases h
    have haccounts := Carrier.Accounts.of_new hnew
    unfold Carrier.new at hnew
    split at hnew
    · cases hnew
    cases hnew
    refine ⟨haccounts, fun call hin => ?_, ⟨fun stream hin => ?_, .nil⟩⟩
    · cases hin
    · cases hin

theorem Touches.kinds (h : Touches carrier carrier') : carrier'.calls = carrier.calls := by
  cases h <;> rfl

theorem Touches.requests {requests : List String} (h : Touches carrier carrier')
    (hr : Requests carrier.streams requests) : Requests carrier'.streams requests := by
  cases h with
  | same | stopped => exact hr
  | closing hj hlive => exact hr.closing hj hlive
  | owned hj => exact hr.set hj rfl rfl rfl

/-- **One step keeps the books of the client.** -/
theorem Move.sound (h : Move c c') (hs : Sound c) : Sound c' := by
  have haccounts := h.accounts hs.accounts
  obtain ⟨_, hkinds, hrequests⟩ := hs
  cases h with
  | carrier hmove =>
    refine ⟨haccounts, hmove.no_acceptControl hkinds, ?_⟩
    -- the opens reserve nothing
    rcases hmove.streams with heq | ⟨added, heq, _, hrel⟩ | ⟨j, stream, hj, hlive, heq⟩
    · exact heq ▸ hrequests
    · rw [heq]
      rcases hrel with hperm | ⟨call, hin, hcontrol⟩
      · exact hrequests.opened hperm
      · exact absurd hcontrol (hkinds call hin)
    · rw [heq]
      exact hrequests.closing hj hlive
  | touched htouches =>
    refine ⟨haccounts, ?_, htouches.requests hrequests⟩
    intro call hin
    exact hkinds call (htouches.kinds ▸ hin)
  | admitted | rejected => exact ⟨haccounts, hkinds, hrequests⟩
  | reserved _ hval hkey hfree => exact ⟨haccounts, hkinds, hrequests.accepted rfl rfl hval hkey hfree⟩
  | unreserved hj hst hrel => exact ⟨haccounts, hkinds, hrequests.unreserved hj hst hrel⟩
  | released hj hst =>
    refine ⟨haccounts, hkinds, hrequests.set hj rfl rfl ?_⟩
    -- its request id, if it had one, is free already
    unfold reservation unclosed
    rcases hst with ⟨hrel, _⟩ | ⟨⟨key, hrel⟩, hst⟩
    · rw [hrel]
    · rw [hrel, hst]
      rfl

/-! ## Whole runs -/

theorem reservation_eq (hfits : stream.Fits) (hacc : stream.accepted) (hunclosed : stream.unclosed) :
    stream.reservation = some (requestKey stream.preface.sessionID stream.preface.requestID) := by
  rcases hfits with hperm | ⟨hreq, _⟩
  · unfold Stream.accepted at hacc
    rw [hperm] at hacc
    cases hacc
  · unfold reservation
    rw [hreq]
    exact if_pos hunclosed

theorem of_reservation (hfits : stream.Fits) (h : stream.reservation = some key) :
    stream.accepted ∧ stream.unclosed ∧ stream.preface.validate = none
      ∧ key = requestKey stream.preface.sessionID stream.preface.requestID := by
  rcases hfits with hperm | ⟨hreq, hval⟩
  · unfold reservation at h
    rw [hperm] at h
    cases h
  unfold reservation at h
  rw [hreq] at h
  dsimp only at h
  split at h
  next hunclosed =>
    refine ⟨?_, hunclosed, hval, (Option.some.inj h).symm⟩
    unfold Stream.accepted
    rw [hreq]
  · cases h

/-- **The books of a client.** In every run of a new client: the permits are as many as the streams that are not
    closed and what is in progress (opens, the accept of `acceptLoop`, closes that have given back their request
    id only); a session and request id are reserved exactly while an accepted stream with them is not closed; and
    so no two accepted streams that are not closed have the same request id of one session. -/
theorem client_accounts (config : Config) (c : Client) (hnew : new config = .ok c)
    (tr : Trace Client Action) (q : Client) (hrun : Run step c tr q) :
    q.carrier.permits = q.carrier.unclosed + (q.carrier.inProgress + q.accepting + q.carrier.halfClosed) ∧
    (∀ sessionID requestID, requestKey sessionID requestID ∈ q.requests ↔
      ∃ (j : Nat) (stream : Stream), q.carrier.streams[j]? = some stream ∧ stream.accepted ∧ stream.unclosed
        ∧ stream.preface.sessionID = sessionID ∧ stream.preface.requestID = requestID) ∧
    (∀ (j j' : Nat) (stream stream' : Stream), q.carrier.streams[j]? = some stream →
      q.carrier.streams[j']? = some stream' → stream.accepted → stream.unclosed → stream'.accepted →
      stream'.unclosed → stream.preface.sessionID = stream'.preface.sessionID →
      stream.preface.requestID = stream'.preface.requestID → j = j') := by
  have hs : Sound q := hrun.invariant (fun hs hstep => (step_move hstep).sound hs) (Sound.of_new hnew)
  have hfits {j : Nat} {stream : Stream} (hj : q.carrier.streams[j]? = some stream) : stream.Fits :=
    hs.requests.fits stream (mem_of_getElem? hj)
  refine ⟨?_, ?_, ?_⟩
  · have hpermits := hs.accounts.permits
    rw [Carrier.owed_eq (fun stream hin => (hs.requests.fits stream hin).not_control)] at hpermits
    omega
  · intro sessionID requestID
    rw [hs.requests.keyed.reserved]
    constructor
    · rintro ⟨j, stream, hj, hkey⟩
      obtain ⟨hacc, hunclosed, hval, heq⟩ := of_reservation (hfits hj) hkey
      obtain ⟨hsess, hreq⟩ := requestKey_inj hval heq
      exact ⟨j, stream, hj, hacc, hunclosed, hsess.symm, hreq.symm⟩
    · rintro ⟨j, stream, hj, hacc, hunclosed, rfl, rfl⟩
      exact ⟨j, stream, hj, reservation_eq (hfits hj) hacc hunclosed⟩
  · intro j j' stream stream' hj hj' hacc hunclosed hacc' hunclosed' hsess hreq
    have hkey := reservation_eq (hfits hj) hacc hunclosed
    rw [hsess, hreq] at hkey
    exact hs.requests.keyed.unique hj hj' hkey (reservation_eq (hfits hj') hacc' hunclosed')

/-! ## A small client -/

def hostConfig : Config := { maximumStreams := 2, acceptBacklog := 1, identity := smallIdentity, authorize := true }

def hostClient : Client := { carrier := { identity := smallIdentity, maximumStreams := 2, queueDepth := 16 } }

def hostPreface : StreamOpen :=
  { protocol := protocolName, version := protocolVersion, accountID := "account", tunnelID := "tunnel",
    connectorID := "connector", sessionID := "session", processGeneration := 1, generation := 1,
    routeID := "route", requestID := "request", kind := "http" }

/-- A stream is accepted, and a second one with the same request id is refused. -/
def acceptTwice : List Action :=
  [.receive none, .permit, .admitStream (.complete hostPreface) none, .publish .taken, .take,
    .receive none, .permit, .admitStream (.complete hostPreface) none]

/-- The first stream has its permit and its request id, and the second one has neither. -/
theorem client_accounts_twice :
    ∃ q : Client, exec step hostClient acceptTwice = some q ∧ q.loop = .publishing (.error .requestInUse)
      ∧ q.carrier.permits = 1 ∧ requestKey "session" "request" ∈ q.requests := by
  have h : (exec step hostClient acceptTwice).isSome = true := by decide +kernel
  obtain ⟨hpermits, hreserved, _⟩ := client_accounts hostConfig hostClient (by decide +kernel) _ _ (exec_getD_run h)
  let stream : Stream := { preface := hostPreface, release := .request (requestKey "session" "request") }
  refine ⟨_, exec_getD h, by decide +kernel, hpermits.trans (by decide +kernel), (hreserved _ _).mpr ?_⟩
  exact ⟨0, stream, by decide +kernel, rfl, rfl, rfl, rfl⟩

end Client

end PaperboatTunnel.Datacarrier
