import PaperboatTunnel.Datacarrier.Carrier

/-!
# `CarrierMoves` — what a step of a carrier can do, and what it keeps

Every step changes one row: a call, a finisher or a stream. `Move` lists the ways, each with what happens to the two
counters. The books of the carrier follow (`Move.accounts`): a permit is held by a call past its first `select`, by a
finisher or on behalf of a stream, and nobody else holds one.
-/

namespace PaperboatTunnel.Datacarrier

open TransitionSystem Call Table List Option

/-! ## Holders -/

/-- The call has not ended, and it has no wrapped stream. -/
def Phase.early : Phase → Bool
  | .admitting | .queueing | .waiting _ | .handed => true
  | _ => false

/-- Where a call goes as long as it has no wrapped stream: on, or to its end, which `AcceptControlStream` has still
    in front of it. -/
def Call.Goes (call : Call) (phase : Phase) : Prop :=
  phase.early ∨ (∃ err, phase = .failed err ∧ call.kind = .acceptControl)
    ∨ ∃ result, phase = .returned result ∧ call.kind ≠ .acceptControl

/-- A permit is out on behalf of the stream. The callback of an accepted control stream does not give the permit
    back, so there it stays out. -/
def Stream.owes (stream : Stream) : Bool := stream.state != .closed || stream.release == .control

/-- The stream is not closed; a stream inside of its `Close` is not closed yet. -/
def Stream.isOpen (stream : Stream) : Bool := stream.state != .closed

variable {strm : Stream}

theorem Stream.isOpen_closing (h : strm.isOpen) :
    isOpen { strm with state := if strm.state = .live then .closing else strm.state } := by
  unfold isOpen at h ⊢
  cases hst : strm.state with
  | live => rfl
  | closing | unreserved => rfl
  | closed => rw [hst] at h; cases h

namespace Finisher

def holds (finisher : Finisher) : Bool := !finisher.finished

def occupies (finisher : Finisher) : Bool := finisher.opens && !finisher.finished

end Finisher

namespace Carrier

/-- The opens and accepts in progress that have been admitted; one that was canceled is in progress until its
    finisher has taken the answer of the session. -/
def inProgress (c : Carrier) : Nat := c.calls.countP holds + c.finishers.countP Finisher.holds

def owed (c : Carrier) : Nat := c.streams.countP Stream.owes

def openStreams (c : Carrier) : Nat := c.streams.countP Stream.isOpen

def occupied (c : Carrier) : Nat := c.calls.countP occupies + c.finishers.countP Finisher.occupies

/-! ## Moves -/

/-- One in a count, or none. -/
abbrev unit (b : Bool) : Nat := if b then 1 else 0

inductive Move (c : Carrier) : Carrier → Prop
  | entered {kind phase} (hkind : kind ≠ .acceptControl)
      (hphase : phase = .admitting ∨ ∃ err, phase = .returned (.error err)) : Move c (c.enter kind phase)
  | marked {i call call'} (hi : c.calls[i]? = some call) (hkind : call'.kind = call.kind)
      (hphase : call'.phase = call.phase) : Move c (c.setCall i call')
  | advanced {i call phase permits openings} (hi : c.calls[i]? = some call) (hfrom : call.phase.early)
      (hto : call.Goes phase)
      (hpermits : permits = c.permits + unit ({ call with phase } : Call).holds - unit call.holds)
      (hopenings : openings = c.openings + unit ({ call with phase } : Call).occupies - unit call.occupies) :
      Move c { c.setCall i { call with phase } with permits, openings }
  | abandoned {i call session err} (hi : c.calls[i]? = some call) (hphase : call.phase = .waiting session) :
      Move c (c.abandon i call session err)
  | wrapped {i call stream phase} (hi : c.calls[i]? = some call) (hphase : call.phase = .handed)
      (hlive : stream.state = .live)
      (hkind : (call.kind = .acceptControl ∧ stream.release = .control ∧ phase = .wrapped)
        ∨ (call.kind ≠ .acceptControl ∧ stream.release = .permit ∧ phase = fun j => .returned (.ok j))) :
      Move c (c.wrap i call stream phase)
  | answered {k finisher session} (hk : c.finishers[k]? = some finisher) :
      Move c (c.setFinisher k { finisher with session })
  | finished {k finisher} (hk : c.finishers[k]? = some finisher) (hbusy : finisher.finished = false) :
      Move c (c.finish k finisher)
  | closing {j stream} (hj : c.streams[j]? = some stream) (hlive : stream.state = .live) :
      Move c (c.setStream j { stream with state := .closing })
  | stopped : Move c { c with done := true }

variable (call : Call) (err : Error)

theorem goes_failure : call.Goes (call.failure err) := by
  unfold Call.failure
  split
  next hkind => exact .inr (.inl ⟨err, rfl, hkind⟩)
  next hkind => exact .inr (.inr ⟨_, rfl, hkind⟩)

theorem failure_free : ({ call with phase := call.failure err } : Call).holds = false
    ∧ ({ call with phase := call.failure err } : Call).occupies = false := by
  unfold Call.failure
  split
  · exact ⟨rfl, rfl⟩
  · exact ⟨rfl, rfl⟩

section Moves

variable {c c' : Carrier} {i : Nat} {call : Call} (hi : c.calls[i]? = some call)

include hi

theorem Move.failed (hearly : call.phase.early) (err : Error) {permits openings : Nat}
    (hpermits : permits = c.permits - unit call.holds)
    (hopenings : openings = c.openings - unit call.occupies) :
    Move c { c.fail i call err with permits, openings } := by
  obtain ⟨hholds, hoccupies⟩ := failure_free call err
  refine .advanced hi hearly (goes_failure call err) ?_ ?_
  · rw [hpermits, hholds]
    rfl
  · rw [hopenings, hoccupies]
    rfl

omit hi in
theorem start_move {kind : CallKind} {authorized : Option String} (h : c.start kind authorized = some c') :
    Move c c' := by
  unfold start at h
  split at h
  · cases h
  next hkind =>
  split at h
  next err _ =>
    cases h
    exact .entered hkind (.inr ⟨err, rfl⟩)
  · cases h
    exact .entered hkind (.inl rfl)

variable {choice : Choice}

theorem admitCall_move (hphase : call.phase = .admitting) (h : c.admitCall i call choice = some c') : Move c c' := by
  obtain ⟨kind, phase, canceled, lifetimeCanceled⟩ := call
  obtain rfl : phase = .admitting := hphase
  cases choice with
  | taken =>
    obtain ⟨_, rfl⟩ := of_guard h
    cases hops : kind.opens with
    | true => exact .advanced hi rfl (.inl rfl) rfl rfl
    | false =>
      refine .advanced hi rfl (.inl rfl) rfl ?_
      -- an accept takes no place among the openings
      show c.openings = c.openings + unit kind.opens - 0
      rw [hops]
      rfl
  | closed | canceled | full =>
    obtain ⟨_, rfl⟩ := of_guard h
    exact Move.failed hi rfl _ rfl rfl

theorem queue_move (hops : call.kind.opens) (hphase : call.phase = .queueing)
    (h : c.queue i call choice = some c') : Move c c' := by
  obtain ⟨kind, phase, canceled, lifetimeCanceled⟩ := call
  obtain rfl : phase = .queueing := hphase
  cases choice with
  | taken =>
    obtain ⟨_, rfl⟩ := of_guard h
    refine .advanced hi rfl (.inl rfl) rfl ?_
    show c.openings + 1 = c.openings + unit kind.opens - 0
    rw [show kind.opens = true from hops]
    rfl
  | closed | canceled =>
    obtain ⟨_, rfl⟩ := of_guard h
    exact Move.failed hi rfl _ rfl rfl
  | full => cases h

theorem receive_move {session : SessionCall} (hphase : call.phase = .waiting session)
    (h : c.receive i call session choice = some c') : Move c c' := by
  obtain ⟨kind, phase, canceled, lifetimeCanceled⟩ := call
  obtain rfl : phase = .waiting session := hphase
  have hopenings : (c.releaseOpening kind.opens).openings = c.openings - unit kind.opens := by
    cases kind.opens <;> rfl
  cases choice with
  | taken =>
    cases session with
    | running => cases h
    | failed =>
      cases h
      exact Move.failed hi rfl _ rfl hopenings
    | delivered =>
      simp only [receive] at h
      split at h
      · cases h
        exact Move.failed hi rfl _ rfl hopenings
      · cases h
        exact .advanced hi rfl (.inl rfl) rfl hopenings
  | closed | canceled =>
    obtain ⟨_, rfl⟩ := of_guard h
    exact .abandoned hi rfl
  | full => cases h

theorem handOff_move {exchange : Exchange} (hphase : call.phase = .handed) : Move c (c.handOff i call exchange) := by
  obtain ⟨kind, phase, canceled, lifetimeCanceled⟩ := call
  obtain rfl : phase = .handed := hphase
  unfold handOff
  cases kind with
  | openStream | acceptAccess =>
    dsimp only
    split
    · exact Move.failed hi rfl _ rfl rfl
    · exact .wrapped hi rfl rfl (.inr ⟨nofun, rfl, rfl⟩)
  | openControl => exact .wrapped hi rfl rfl (.inr ⟨nofun, rfl, rfl⟩)
  | acceptControl => exact .wrapped hi rfl rfl (.inl ⟨rfl, rfl, rfl⟩)

omit hi

/-- **Every step is one of the moves.** -/
theorem step_move {a : Action} (h : c.step a = some c') : Move c c' := by
  cases a with
  | start => exact start_move h
  | cancel =>
    obtain ⟨_, hi, rfl⟩ := map_eq_some_iff.mp h
    exact .marked hi rfl rfl
  | shutdown =>
    cases h
    exact .stopped
  | admitCall =>
    obtain ⟨_, hi, hcall⟩ := bind_eq_some_iff.mp h
    obtain ⟨hphase, hcall⟩ := ite_none_right_eq_some.mp hcall
    exact admitCall_move hi hphase hcall
  | queue =>
    obtain ⟨_, hi, hcall⟩ := bind_eq_some_iff.mp h
    obtain ⟨⟨hops, hphase⟩, hcall⟩ := ite_none_right_eq_some.mp hcall
    exact queue_move hi hops hphase hcall
  | answer =>
    obtain ⟨⟨kind, phase, canceled, lifetimeCanceled⟩, hi, hphase, rfl⟩ := of_guarded_row h
    obtain rfl : phase = .waiting .running := hphase.1
    exact .advanced hi rfl (.inl rfl) rfl (Nat.add_sub_cancel _ _).symm
  | receive =>
    obtain ⟨_, hi, hcall⟩ := bind_eq_some_iff.mp h
    split at hcall
    next hphase => exact receive_move hi hphase hcall
    · cases hcall
  | answerLate =>
    obtain ⟨_, hk, _, rfl⟩ := of_guarded_row h
    exact .answered hk
  | finish =>
    obtain ⟨_, hk, hready, rfl⟩ := of_guarded_row h
    exact .finished hk hready.2
  | handOff =>
    obtain ⟨_, hi, hphase, rfl⟩ := of_guarded_row h
    exact handOff_move hi hphase
  | close =>
    obtain ⟨_, hj, hlive, rfl⟩ := of_guarded_row h
    exact .closing hj hlive.1

end Moves

theorem Move.options {c c' : Carrier} (h : Move c c') :
    c'.maximumStreams = c.maximumStreams ∧ c'.queueDepth = c.queueDepth := by
  cases h <;> exact ⟨rfl, rfl⟩

/-! ## Streams -/

variable {c c' : Carrier}

/-- **What a move does to the streams**: nothing, or it adds a live one, or a live one begins to close. Only an
    `AcceptControlStream` adds a control stream. -/
theorem Move.streams (h : Move c c') : c'.streams = c.streams
    ∨ (∃ strm, c'.streams = c.streams ++ [strm] ∧ strm.state = .live
        ∧ (strm.release = .permit ∨ ∃ call ∈ c.calls, call.kind = .acceptControl))
    ∨ ∃ (j : Nat) (strm : Stream), c.streams[j]? = some strm ∧ strm.state = .live
        ∧ c'.streams = c.streams.set j { strm with state := .closing } := by
  cases h with
  | entered | marked | advanced | abandoned | answered | finished | stopped => exact .inl rfl
  | @wrapped _ call strm _ hi _ hlive hkind =>
    refine .inr (.inl ⟨strm, rfl, hlive, ?_⟩)
    rcases hkind with ⟨hcontrol, _, _⟩ | ⟨_, hperm, _⟩
    · exact .inr ⟨call, mem_of_getElem? hi, hcontrol⟩
    · exact .inl hperm
  | closing hj hlive => exact .inr (.inr ⟨_, _, hj, hlive, rfl⟩)

theorem Move.closed_before (h : Move c c') (hin : strm ∈ c'.streams) (hcl : strm.state = .closed) :
    strm ∈ c.streams := by
  rcases h.streams with heq | ⟨added, heq, hlive, _⟩ | ⟨j, before, hj, hlive, heq⟩
  · exact heq ▸ hin
  · rw [heq] at hin
    rcases mem_snoc hin with hold | rfl
    · exact hold
    · rw [hlive] at hcl
      cases hcl
  · rw [heq] at hin
    rcases mem_or_eq_of_mem_set hin with hold | rfl
    · exact hold
    · cases hcl

theorem Move.open_after (h : Move c c') {j : Nat} (hj : c.streams[j]? = some strm) (hopen : strm.isOpen) :
    ∃ strm', c'.streams[j]? = some strm' ∧ strm'.release = strm.release ∧ strm'.isOpen := by
  rcases h.streams with heq | ⟨added, heq, hlive, _⟩ | ⟨k, before, hk, hlive, heq⟩
  · rw [heq]
    exact ⟨strm, hj, rfl, hopen⟩
  · rw [heq]
    exact ⟨strm, get_snoc_old hj, rfl, hopen⟩
  rw [heq]
  by_cases hjk : j = k
  · subst hjk
    rw [hk] at hj
    cases hj
    exact ⟨_, get_set_self hk, rfl, rfl⟩
  · exact ⟨strm, (get_set_ne hjk).trans hj, rfl, hopen⟩

theorem Move.no_acceptControl (h : Move c c') (hc : ∀ call ∈ c.calls, call.kind ≠ .acceptControl) :
    ∀ call ∈ c'.calls, call.kind ≠ .acceptControl := by
  cases h with
  | entered hkind => exact forall_mem_snoc hc hkind
  | @marked _ before _ hi hkind =>
    refine forall_mem_set hc ?_
    rw [hkind]
    exact hc before (mem_of_getElem? hi)
  | advanced hi | abandoned hi | wrapped hi =>
    have hkind := hc _ (mem_of_getElem? hi)
    exact forall_mem_set hc hkind
  | answered | finished | closing | stopped => exact hc

/-! ## The books -/

/-- The two counters are what the rows say; `extra` permits are held by someone else. -/
structure Accounts (extra : Nat) (c : Carrier) : Prop where
  permits : c.permits = c.inProgress + c.owed + extra
  openings : c.openings = c.occupied

variable {extra : Nat}

theorem accounts_iff : Accounts extra c
    ↔ c.permits = c.calls.countP holds + c.finishers.countP Finisher.holds + c.streams.countP Stream.owes + extra
      ∧ c.openings = c.calls.countP occupies + c.finishers.countP Finisher.occupies :=
  ⟨fun ⟨hpermits, hopenings⟩ => ⟨hpermits, hopenings⟩, fun ⟨hpermits, hopenings⟩ => ⟨hpermits, hopenings⟩⟩

theorem Accounts.of_new {cfg : Config} (h : Carrier.new cfg = .ok c) : Accounts 0 c := by
  unfold Carrier.new at h
  split at h
  · cases h
  · cases h
    exact ⟨rfl, rfl⟩

variable {call : Call} {i permits : Nat} (ha : Accounts extra c)

include ha

theorem Accounts.setCall {call' : Call} {openings : Nat} (hi : c.calls[i]? = some call)
    (hpermits : permits = c.permits + unit call'.holds - unit call.holds)
    (hopenings : openings = c.openings + unit call'.occupies - unit call.occupies) :
    Accounts extra { c.setCall i call' with permits, openings } := by
  have hholds := countP_set (p := holds) (b := call') hi
  have hoccupies := countP_set (p := occupies) (b := call') hi
  simp only [accounts_iff, Carrier.setCall, unit] at ha hpermits hopenings ⊢
  omega

theorem Accounts.setCall_same {call' : Call} (hi : c.calls[i]? = some call) (hholds : call'.holds = call.holds)
    (hoccupies : call'.occupies = call.occupies) :
    Accounts extra (c.setCall i call') := by
  refine ha.setCall hi ?_ ?_
  · rw [hholds]
    exact (Nat.add_sub_cancel _ _).symm
  · rw [hoccupies]
    exact (Nat.add_sub_cancel _ _).symm

theorem Accounts.setFinisher {k : Nat} {finisher finisher' : Finisher} {openings : Nat}
    (hk : c.finishers[k]? = some finisher)
    (hpermits : permits = c.permits + unit finisher'.holds - unit finisher.holds)
    (hopenings : openings = c.openings + unit finisher'.occupies - unit finisher.occupies) :
    Accounts extra { c.setFinisher k finisher' with permits, openings } := by
  have hholds := countP_set (p := Finisher.holds) (b := finisher') hk
  have hoccupies := countP_set (p := Finisher.occupies) (b := finisher') hk
  simp only [accounts_iff, Carrier.setFinisher, unit] at ha hpermits hopenings ⊢
  omega

theorem Accounts.setStream {j : Nat} {strm' : Stream} (hj : c.streams[j]? = some strm)
    (hpermits : permits = c.permits + unit strm'.owes - unit strm.owes) :
    Accounts extra { c.setStream j strm' with permits } := by
  have howes := countP_set (p := Stream.owes) (b := strm') hj
  simp only [accounts_iff, Carrier.setStream, unit] at ha hpermits ⊢
  omega

theorem Accounts.setStream_same {j : Nat} {strm' : Stream} (hj : c.streams[j]? = some strm)
    (howes : strm'.owes = strm.owes) :
    Accounts extra (c.setStream j strm') := by
  refine ha.setStream hj ?_
  rw [howes]
  exact (Nat.add_sub_cancel _ _).symm

theorem Accounts.takePermit : Accounts (extra + 1) c.takePermit := by
  simp only [accounts_iff, Carrier.takePermit] at ha ⊢
  omega

omit ha in
theorem Accounts.releasePermit (ha : Accounts (extra + 1) c) : Accounts extra c.releasePermit := by
  simp only [accounts_iff, Carrier.releasePermit] at ha ⊢
  omega

omit ha in
theorem Accounts.addStream (ha : Accounts (extra + 1) c) (howes : strm.owes) :
    Accounts extra { c with streams := c.streams ++ [strm] } := by
  simp only [accounts_iff, countP_snoc, howes, if_true] at ha ⊢
  omega

theorem Accounts.enter {kind : CallKind} {phase : Phase}
    (hphase : phase = .admitting ∨ ∃ err, phase = .returned (.error err)) :
    Accounts extra (c.enter kind phase) := by
  rcases hphase with rfl | ⟨err, rfl⟩
  all_goals
    simp only [accounts_iff, Carrier.enter, countP_snoc, holds, occupies] at ha ⊢
    exact ha

theorem Accounts.abandon {session : SessionCall} (hi : c.calls[i]? = some call)
    (hphase : call.phase = .waiting session) (err : Error) : Accounts extra (c.abandon i call session err) := by
  obtain ⟨hfree, hempty⟩ := failure_free call err
  have hholds := countP_set (p := holds) (b := { call with phase := call.failure err }) hi
  rw [hfree, show call.holds = true by unfold holds; rw [hphase]] at hholds
  have hoccupies := countP_set (p := occupies) (b := { call with phase := call.failure err }) hi
  rw [hempty, show call.occupies = call.kind.opens by unfold occupies; rw [hphase]] at hoccupies
  simp only [accounts_iff, Carrier.abandon, fail, Carrier.setCall, countP_snoc, Finisher.holds,
    Finisher.occupies, Bool.not_false, Bool.and_true, if_true, Bool.false_eq_true, if_false] at ha hholds hoccupies ⊢
  omega

theorem Accounts.wrap {phase : Nat → Phase} (hi : c.calls[i]? = some call) (hphase : call.phase = .handed)
    (hlive : strm.state = .live)
    (hnext : ∀ j, (phase j = .wrapped j) ∨ phase j = .returned (.ok j)) :
    Accounts extra (c.wrap i call strm phase) := by
  have hset (p : Call → Bool) := countP_set (p := p) (b := { call with phase := phase c.streams.length }) hi
  have hholds := hset holds
  have hoccupies := hset occupies
  have howes : strm.owes = true := by unfold Stream.owes; rw [hlive]; rfl
  simp only [holds, occupies, hphase] at hholds hoccupies
  simp only [accounts_iff, Carrier.wrap, Carrier.setCall, countP_snoc, howes, if_true] at ha ⊢
  rcases hnext c.streams.length with heq | heq
  all_goals
    simp only [heq, if_true, Bool.false_eq_true, if_false] at hholds hoccupies ⊢
    omega

/-- **The books stay balanced.** -/
theorem Move.accounts (h : Move c c') : Accounts extra c' := by
  cases h with
  | entered _ hphase => exact ha.enter hphase
  | @marked _ _ _ hi hkind hphase =>
    apply ha.setCall_same hi
    · unfold holds
      rw [hphase]
    · unfold occupies
      rw [hphase, hkind]
  | advanced hi _ _ hpermits hopenings => exact ha.setCall hi hpermits hopenings
  | abandoned hi hphase => exact ha.abandon hi hphase _
  | wrapped hi hphase hlive hkind =>
    refine ha.wrap hi hphase hlive (fun j => ?_)
    rcases hkind with ⟨_, _, rfl⟩ | ⟨_, _, rfl⟩
    · exact .inl rfl
    · exact .inr rfl
  | answered hk => exact ha.setFinisher hk (Nat.add_sub_cancel _ _).symm (Nat.add_sub_cancel _ _).symm
  | @finished _ finisher hk hbusy =>
    refine ha.setFinisher hk ?_ ?_
    · show c.permits - 1 = c.permits + unit false - unit (!finisher.finished)
      rw [hbusy]
      rfl
    show (if finisher.opens then c.openings - 1 else c.openings)
      = c.openings + unit (finisher.opens && false) - unit (finisher.opens && !finisher.finished)
    rw [hbusy]
    cases finisher.opens <;> rfl
  | @closing _ _ hj hlive =>
    apply ha.setStream_same hj
    unfold Stream.owes
    rw [hlive]
    rfl
  | stopped => exact ⟨ha.permits, ha.openings⟩

end Carrier

end PaperboatTunnel.Datacarrier
