import PaperboatTunnel.Datacarrier.Carrier

/-!
# `SessionStreams` — streams between yamux and a canceled call

`openRaw` and `acceptRaw` wait for `yamuxSession` in a goroutine, and `yamuxSession.AcceptStream` waits for yamux in
another one. Each leaves its answer in a channel with room for it, whether somebody still reads it or not.

The pointer that yamux returns is put into a `StreamLink`. With an error it is nil, but the interface that holds it is
not, so the cleanup of a canceled call closes the nil stream (`nil_stream_closed`). And a stream that the goroutine of
a canceled `AcceptStream` takes is neither returned nor closed (`stream_swallowed`).
-/

namespace PaperboatTunnel.Datacarrier

open TransitionSystem List Option

/-- An interface value: nil, or one that holds a pointer to a stream, which may be nil. -/
abbrev StreamLink := Option (Option Nat)

structure OpenResult where
  stream : StreamLink := none
  err : Option Error := none
deriving DecidableEq

/-- The results of yamux, converted: a pointer becomes an interface value, also a nil pointer. -/
def OpenResult.ofYamux : Except Error Nat → OpenResult
  | .ok stream => { stream := some (some stream) }
  | .error err => { stream := some none, err }

/-- Where `openRaw` or `acceptRaw` stands: before its last `select`, at its end, or at the end of
    `finishCanceledOpen` or `finishCanceledAccept`. -/
inductive RawStage where
  | waiting
  | returned (result : OpenResult)
  | abandoned (err : Error)
  | finished
deriving DecidableEq

/-- A call of `openRaw` or `acceptRaw` from its goroutine on: what yamux has returned, what `yamuxSession` has returned
    into the channel of the call, and the pointers on which `Close` was called. -/
structure RawCall where
  opens : Bool
  canceled : Bool := false
  yamux : Option (Except Error Nat) := none
  result : Option OpenResult := none
  stage : RawStage := .waiting
  closed : List (Option Nat) := []

inductive RawAction where
  | cancel
  | yamux (answer : Except Error Nat)
  | answer (choice : Choice)
  | receive (choice : Choice)
  | finish

namespace RawCall

/-- `yamuxSession` returns: what yamux has returned, or for `AcceptStream` another case of its `select`. -/
def answer (closeChan : Bool) (c : RawCall) : Choice → Option RawCall
  | .taken => c.yamux.map (fun answer => { c with result := some (.ofYamux answer) })
  | .closed =>
    if c.opens = false ∧ closeChan then some { c with result := some { err := some .carrierClosed } } else none
  | .canceled =>
    if c.opens = false ∧ c.canceled then some { c with result := some { err := some .context } } else none
  | .full => none

/-- The last `select` of `openRaw` and `acceptRaw`. -/
def receive (done : Bool) (c : RawCall) : Choice → Option RawCall
  | .taken => c.result.map (fun r =>
    match r.err with
    | some err => { c with stage := .returned { err := some (if done then .carrierClosed else err) } }
    | none =>
      if c.canceled then { c with stage := .returned { err := some .context }, closed := r.stream.toList }
      else { c with stage := .returned r })
  | .closed => if done then some { c with stage := .abandoned .carrierClosed } else none
  | .canceled => if c.canceled then some { c with stage := .abandoned .context } else none
  | .full => none

/-- `finishCanceledOpen` and `finishCanceledAccept`: `Close` is called on an interface that is not nil. -/
def finish (c : RawCall) : Option RawCall :=
  match c.stage with
  | .abandoned _ => c.result.map (fun r => { c with stage := .finished, closed := r.stream.toList })
  | _ => none

def act (done closeChan : Bool) (c : RawCall) : RawAction → Option RawCall
  | .cancel => some { c with canceled := true }
  | .yamux answer => if c.yamux = none then some { c with yamux := some answer } else none
  | .answer choice => if c.result = none then c.answer closeChan choice else none
  | .receive choice => if c.stage = .waiting then c.receive done choice else none
  | .finish => c.finish

variable {c c' : RawCall} {a : RawAction} {done closeChan : Bool}

/-- **What an action can do**: yamux returns, `yamuxSession` returns, the cleanup is done, or the answers stay. -/
inductive Acted (c : RawCall) : RawAction → RawCall → Prop where
  | delivered (y : Except Error Nat) (hnone : c.yamux = none) : Acted c (.yamux y) { c with yamux := some y }
  | passedOn (y : Except Error Nat) (hnone : c.result = none) (hy : c.yamux = some y) :
      Acted c (.answer .taken) { c with result := some (.ofYamux y) }
  | gaveUp (choice : Choice) (err : Error) (hnone : c.result = none) (hchoice : choice = .closed ∨ choice = .canceled) :
      Acted c (.answer choice) { c with result := some { err := some err } }
  | finished (r : OpenResult) (hr : c.result = some r) :
      Acted c .finish { c with stage := .finished, closed := r.stream.toList }
  | canceled : Acted c .cancel { c with canceled := true }
  | moved (choice : Choice) (stage : RawStage) (closed : List (Option Nat)) (hstage : stage ≠ .finished) :
      Acted c (.receive choice) { c with stage, closed }

theorem acted_of_act (h : c.act done closeChan a = some c') : Acted c a c' := by
  cases a with
  | cancel =>
    cases h
    exact .canceled
  | yamux y =>
    obtain ⟨hnone, rfl⟩ := of_guard h
    exact .delivered y hnone
  | answer choice =>
    obtain ⟨hnone, hanswer⟩ := ite_none_right_eq_some.mp h
    cases choice with
    | taken =>
      obtain ⟨y, hy, rfl⟩ := map_eq_some_iff.mp hanswer
      exact .passedOn y hnone hy
    | closed | canceled =>
      obtain ⟨_, rfl⟩ := of_guard hanswer
      exact .gaveUp _ _ hnone (by simp)
    | full => cases hanswer
  | receive choice =>
    obtain ⟨_, hreceive⟩ := ite_none_right_eq_some.mp h
    cases choice with
    | taken =>
      obtain ⟨r, _, rfl⟩ := map_eq_some_iff.mp hreceive
      split
      · exact .moved _ _ c.closed RawStage.noConfusion
      split
      · exact .moved _ _ _ RawStage.noConfusion
      · exact .moved _ _ c.closed RawStage.noConfusion
    | closed | canceled =>
      obtain ⟨_, rfl⟩ := of_guard hreceive
      exact .moved _ _ c.closed RawStage.noConfusion
    | full => cases hreceive
  | finish =>
    change c.finish = some c' at h
    unfold finish at h
    split at h
    · obtain ⟨r, hr, rfl⟩ := map_eq_some_iff.mp h
      exact .finished r hr
    · cases h

/-- The answer of `yamuxSession` is that of yamux, or an error with a nil interface; the cleanup has closed what it
    was given. -/
structure Answered (c : RawCall) : Prop where
  result : ∀ r, c.result = some r → (∃ y, c.yamux = some y ∧ r = .ofYamux y) ∨ ∃ err, r = { err := some err }
  finished : c.stage = .finished → ∃ r, c.result = some r ∧ c.closed = r.stream.toList

theorem Answered.act (h : c.Answered) (hact : Acted c a c') : c'.Answered := by
  -- the cleanup waits for the answer
  have hopen : c.result = none → c.stage ≠ .finished := by
    intro hnone hstage
    obtain ⟨_, hsome, _⟩ := h.finished hstage
    rw [hnone] at hsome
    cases hsome
  cases hact with
  | delivered _ hnone =>
    refine ⟨fun r hr => (h.result r hr).imp (fun ⟨_, hy, _⟩ => ?_) id, h.finished⟩
    rw [hnone] at hy
    cases hy
  | passedOn y hnone hy =>
    refine ⟨fun r hr => ?_, fun hstage => absurd hstage (hopen hnone)⟩
    cases hr
    exact .inl ⟨y, hy, rfl⟩
  | gaveUp _ err hnone =>
    refine ⟨fun r hr => ?_, fun hstage => absurd hstage (hopen hnone)⟩
    cases hr
    exact .inr ⟨err, rfl⟩
  | finished r hr => exact ⟨h.result, fun _ => ⟨r, hr, rfl⟩⟩
  | canceled => exact ⟨h.result, h.finished⟩
  | moved _ _ _ hstage => exact ⟨h.result, hstage.elim⟩

/-- The action loses no stream: `AcceptStream` does not return without a stream that yamux has delivered to its
    goroutine, and yamux delivers none to the goroutine when it has returned. -/
def Keeps (c : RawCall) : RawAction → Prop
  | .yamux (.ok _) => c.result = none
  | .answer .closed | .answer .canceled => ∀ stream, c.yamux ≠ some (.ok stream)
  | _ => True

/-- A stream that yamux has delivered is on its way to the caller, or returned. -/
def Tracked (c : RawCall) : Prop :=
  ∀ stream, c.yamux = some (.ok stream) → c.result = none ∨ c.result = some (.ofYamux (.ok stream))

theorem Tracked.act (h : c.Tracked) (hkeeps : c.Keeps a) (hact : Acted c a c') : c'.Tracked := by
  intro stream hstream
  cases hact with
  | delivered =>
    cases hstream
    exact .inl hkeeps
  | passedOn _ _ hy =>
    obtain rfl := mem_unique hy hstream
    exact .inr rfl
  | gaveUp _ _ _ hchoice =>
    rcases hchoice with rfl | rfl <;> exact absurd hstream (hkeeps stream)
  | finished | canceled | moved => exact h stream hstream

end RawCall

/-- The calls on one session; `done` is closed by the carrier, `closeChan` by yamux. -/
structure YamuxSession where
  calls : List RawCall := []
  (done closeChan : Bool := false)

inductive SessionAction where
  | call (opens : Bool)
  | shutdown (done closeChan : Bool)
  | act (i : Nat) (a : RawAction)

namespace YamuxSession

def step (s : YamuxSession) : SessionAction → Option YamuxSession
  | .call opens => some { s with calls := s.calls ++ [{ opens }] }
  | .shutdown done closeChan => some { s with done := s.done || done, closeChan := s.closeChan || closeChan }
  | .act i a =>
    (s.calls[i]?.bind (fun c => c.act s.done s.closeChan a)).map (fun c => { s with calls := s.calls.set i c })

def Meets (C : RawCall → RawAction → Prop) (s : YamuxSession) : SessionAction → Prop
  | .act i a => ∀ c, s.calls[i]? = some c → C c a
  | _ => True

/-- **What every action keeps, every call of a run has.** -/
theorem forall_calls {P : RawCall → Prop} {C : RawCall → RawAction → Prop} {q : YamuxSession}
    {tr : Trace YamuxSession SessionAction} (hnew : ∀ opens, P { opens })
    (hact : ∀ c a c', C c a → P c → c.Acted a c' → P c') (hrun : Run step {} tr q)
    (hmeets : ∀ t ∈ tr, Meets C t.pre t.label) : ∀ c ∈ q.calls, P c := by
  refine hrun.invariant_of (I := fun s => ∀ c ∈ s.calls, P c) ?_ hmeets (fun c hc => by cases hc)
  intro s l s' hC hs hstep
  cases l with
  | call opens =>
    cases hstep
    exact Table.forall_mem_snoc hs (hnew opens)
  | shutdown =>
    cases hstep
    exact hs
  | act i a =>
    obtain ⟨c', hbind, rfl⟩ := map_eq_some_iff.mp hstep
    obtain ⟨c, hc, hnext⟩ := bind_eq_some_iff.mp hbind
    have hkept := hact c a c' (hC c hc) (hs c (mem_of_getElem? hc)) (RawCall.acted_of_act hnext)
    exact Table.forall_mem_set hs hkept

/-- **The cleanup closes what was delivered.** In every run, when the background cleanup of a canceled open or accept
    is done and `yamuxSession` has not passed on an error of yamux: `Close` was called if and only if `yamuxSession`
    returned no error, and not on a nil stream. -/
theorem cleanup_closes_delivered (tr : Trace YamuxSession SessionAction) (q : YamuxSession)
    (hrun : Run step {} tr q) (c : RawCall) (hc : c ∈ q.calls) (hfinished : c.stage = .finished)
    (hyamux : ∀ err, c.result ≠ some (.ofYamux (.error err))) :
    ∃ r, c.result = some r ∧ (c.closed ≠ [] ↔ r.err = none) ∧ none ∉ c.closed := by
  have hanswered : c.Answered := by
    refine forall_calls (C := fun _ _ => True) (fun _ => { result := by simp, finished := by simp })
      (fun _ _ _ _ h hact => h.act hact) hrun (fun t _ => ?_) c hc
    cases t.label <;> simp [Meets]
  obtain ⟨r, hr, hcl⟩ := hanswered.finished hfinished
  refine ⟨r, hr, ?_⟩
  rw [hcl]
  rcases hanswered.result r hr with ⟨y, hy, rfl⟩ | ⟨err, rfl⟩
  · cases y with
    | error err => exact absurd hr (hyamux err)
    | ok stream => simp [OpenResult.ofYamux]
  · simp

/-- An accept whose stream comes when its context is canceled. -/
def deliveredLate : List SessionAction :=
  [.call false, .act 0 (.yamux (.ok 7)), .act 0 (.answer .taken), .act 0 .cancel, .act 0 (.receive .canceled),
    .act 0 .finish]

theorem cleanup_closes_delivered_late : ∃ q c r, exec step {} deliveredLate = some q ∧ q.calls[0]? = some c
      ∧ c.result = some r ∧ (c.closed ≠ [] ↔ r.err = none) ∧ c.closed = [some 7] := by
  have hrun := exec_run (show exec step {} deliveredLate = some _ from rfl)
  obtain ⟨r, hr, hiff, _⟩ := cleanup_closes_delivered _ _ hrun _ mem_cons_self rfl (fun _ hy => by cases hy)
  exact ⟨_, _, r, rfl, rfl, hr, hiff, rfl⟩

/-- **`Close` is called on the nil stream of a failed open**: the context is canceled, and yamux answers with it. -/
theorem nil_stream_closed : ∃ q c, exec step {} [.call true, .act 0 .cancel, .act 0 (.receive .canceled),
      .act 0 (.yamux (.error .context)), .act 0 (.answer .taken), .act 0 .finish] = some q
      ∧ q.calls[0]? = some c ∧ c.yamux = some (.error .context) ∧ c.stage = .finished ∧ c.closed = [none] :=
  ⟨_, _, rfl, rfl, rfl, rfl, rfl⟩

/-- **No stream is swallowed** in a run whose actions lose none: a stream that was taken from yamux has been returned
    by `yamuxSession`, or the call is still out and returns it when it goes on. -/
theorem taken_stream_returned (tr : Trace YamuxSession SessionAction) (q : YamuxSession)
    (hrun : Run step {} tr q) (hkeeps : ∀ t ∈ tr, Meets RawCall.Keeps t.pre t.label) (c : RawCall)
    (hc : c ∈ q.calls) (stream : Nat) (htaken : c.yamux = some (.ok stream)) :
    c.result = some { stream := some (some stream) } ∨ (c.result = none ∧
      c.act q.done q.closeChan (.answer .taken) = some { c with result := some { stream := some (some stream) } }) := by
  have htracked : c.Tracked :=
    forall_calls (fun _ _ hstream => by cases hstream) (fun _ _ _ hkeeps h hact => h.act hkeeps hact) hrun hkeeps c hc
  rcases htracked stream htaken with hout | hreturned
  · refine .inr ⟨hout, ?_⟩
    simp [RawCall.act, RawCall.answer, hout, htaken, OpenResult.ofYamux]
  · exact .inl hreturned

/-- The accept above loses nothing. -/
theorem taken_stream_returned_late : ∃ q c, exec step {} deliveredLate = some q ∧ q.calls[0]? = some c
      ∧ c.yamux = some (.ok 7) ∧ c.result = some { stream := some (some 7) } := by
  have hkeeps : ∀ t ∈ trace step {} deliveredLate, Meets RawCall.Keeps t.pre t.label := by
    simp [trace, deliveredLate, step, Meets, RawCall.Keeps, RawCall.act, RawCall.answer, RawCall.receive, RawCall.finish]
  have hrun := exec_run (show exec step {} deliveredLate = some _ from rfl)
  have hreturned := taken_stream_returned _ _ hrun hkeeps _ mem_cons_self 7 rfl
  exact ⟨_, _, rfl, rfl, rfl, hreturned.resolve_right (fun hout => by cases hout.1)⟩

/-- **A stream is swallowed.** `AcceptStream` is canceled, its goroutine stays and takes the stream that the next call
    waits for; the cleanup of the canceled call finds no stream, and nothing refers to it any more. -/
theorem stream_swallowed : ∃ q c, exec step {} [.call false, .act 0 .cancel, .act 0 (.answer .canceled), .call false,
      .act 0 (.yamux (.ok 7)), .act 0 (.receive .canceled), .act 0 .finish] = some q ∧ q.calls = [c, { opens := false }]
      ∧ c.yamux = some (.ok 7) ∧ c.result = some { err := some .context } ∧ c.stage = .finished ∧ c.closed = [] :=
  ⟨_, _, rfl, rfl, rfl, rfl, rfl, rfl⟩

end YamuxSession

end PaperboatTunnel.Datacarrier
