import PaperboatTunnel.Datacarrier.Server

/-!
# `ControlSlot` — the control stream of the edge

`AcceptControlStream` wraps the stream before it puts it into the slot, and `wrapStream` arms the context of the call
at once. When the context is canceled in between, `abort` runs `clearControl` on the empty slot, and the call then
puts the closed stream into it: every later call is refused (`slot_stuck`). Where no callback comes before its stream
was stored, the stream in the slot is not closed (`control_slot_live`).
-/

namespace PaperboatTunnel.Datacarrier

open TransitionSystem Table List

/-! ## Accepts in progress -/

def Phase.ended : Phase → Bool
  | .returned _ => true
  | _ => false

/-- A place of `AcceptControlStream` after `acceptRaw`. -/
def Phase.late : Phase → Bool
  | .wrapped _ | .failed _ => true
  | _ => false

def Call.accepting (call : Call) : Bool := call.kind == .acceptControl && !call.phase.ended

variable {phase : Phase}

theorem Phase.ended_of_early (h : phase.early) : phase.ended = false := by
  cases phase <;> first | rfl | cases h

theorem Phase.not_late_of_early (h : phase.early) : phase.late = false := by
  cases phase <;> first | rfl | cases h

/-- An early call stays an accept in progress, or stays none, wherever it goes. -/
theorem Call.Goes.accepting {call : Call} (h : call.Goes phase) (hearly : call.phase.early) :
    ({ call with phase } : Call).accepting = call.accepting := by
  unfold Call.accepting
  rw [Phase.ended_of_early hearly]
  rcases h with hnext | ⟨err, rfl, _⟩ | ⟨res, rfl, hkind⟩
  · rw [Phase.ended_of_early hnext]
  · rfl
  · rw [beq_eq_false_iff_ne.mpr hkind]
    rfl

namespace Carrier

variable {c c' : Carrier}

def accepts (c : Carrier) : Nat := c.calls.countP Call.accepting

def Controls (c : Carrier) (j : Nat) : Prop :=
  ∃ stream, c.streams[j]? = some stream ∧ stream.release = .control ∧ stream.isOpen

variable {j : Nat} {call : Call}

theorem Controls.move (h : c.Controls j) (hmove : Move c c') : c'.Controls j := by
  obtain ⟨_, hj, hcontrol, hopen⟩ := h
  obtain ⟨strm', hj', hrel, hopen'⟩ := hmove.open_after hj hopen
  exact ⟨strm', hj', hrel.trans hcontrol, hopen'⟩

theorem Move.accepts (h : Move c c') : c'.accepts = c.accepts := by
  cases h with
  | entered hkind =>
    refine countP_snoc.trans ?_
    rw [show ({ kind := _, phase := _ } : Call).accepting = false by
      unfold Call.accepting; rw [beq_eq_false_iff_ne.mpr hkind]; rfl]
    rfl
  | marked hi hkind hphase =>
    apply countP_set_of_eq hi
    unfold Call.accepting
    rw [hkind, hphase]
  | advanced hi hfrom hto => exact countP_set_of_eq hi (hto.accepting hfrom)
  | @abandoned _ call _ err hi hphase =>
    have hearly : call.phase.early := by rw [hphase]; rfl
    exact countP_set_of_eq hi ((goes_failure call err).accepting hearly)
  | @wrapped _ _ _ _ hi hphase _ hkind =>
    apply countP_set_of_eq hi
    unfold Call.accepting
    rw [hphase]
    rcases hkind with ⟨_, _, rfl⟩ | ⟨hother, _, rfl⟩
    · rfl
    · rw [beq_eq_false_iff_ne.mpr hother]
      rfl
  | answered | finished | closing | stopped => rfl

/-- Only an accept of a control stream goes on after `acceptRaw`, and the stream it has wrapped is a control stream
    that is not closed. -/
structure CallSound (c : Carrier) (call : Call) : Prop where
  late : call.phase.late → call.kind = .acceptControl
  wrapped : ∀ j, call.phase = .wrapped j → c.Controls j

theorem CallSound.mono (hs : c.CallSound call) (hkept : ∀ j, call.phase = .wrapped j → c.Controls j → c'.Controls j) :
    c'.CallSound call :=
  ⟨hs.late, fun j hj => hkept j hj (hs.wrapped j hj)⟩

theorem CallSound.move (hs : c.CallSound call) (h : Move c c') : c'.CallSound call :=
  hs.mono (fun _ _ hcontrols => hcontrols.move h)

theorem CallSound.of_not_late (h : call.phase.late = false) : c.CallSound call := by
  refine ⟨fun hlate => ?_, fun j hj => ?_⟩
  · rw [h] at hlate
    cases hlate
  · rw [hj] at h
    cases h

theorem CallSound.of_goes {phase : Phase} (h : call.Goes phase) : c.CallSound { call with phase } := by
  rcases h with hnext | ⟨err, rfl, hkind⟩ | ⟨res, rfl, _⟩
  · exact .of_not_late (Phase.not_late_of_early hnext)
  · exact ⟨fun _ => hkind, fun j hj => by cases hj⟩
  · exact .of_not_late rfl

theorem Move.callSound (h : Move c c') (hs : ∀ call ∈ c.calls, c.CallSound call) :
    ∀ call ∈ c'.calls, c'.CallSound call := by
  have hold : ∀ call ∈ c.calls, c'.CallSound call := fun call hin => (hs call hin).move h
  cases h with
  | entered _ hphase =>
    refine forall_mem_snoc hold ?_
    rcases hphase with rfl | ⟨err, rfl⟩
    · exact .of_not_late rfl
    · exact .of_not_late rfl
  | @marked _ before _ hi hkind hphase =>
    have hbefore := hold before (mem_of_getElem? hi)
    refine forall_mem_set hold ⟨fun hlate => hkind.trans (hbefore.late (hphase ▸ hlate)), fun j hj => ?_⟩
    exact hbefore.wrapped j (hphase.symm.trans hj)
  | advanced _ _ hto => exact forall_mem_set hold (.of_goes hto)
  | @abandoned _ before _ err => exact forall_mem_set hold (.of_goes (goes_failure before err))
  | @wrapped _ _ stream _ _ _ hlive hkind =>
    refine forall_mem_set hold ?_
    rcases hkind with ⟨hcontrol, hrel, rfl⟩ | ⟨_, _, rfl⟩
    · refine ⟨fun _ => hcontrol, fun j hj => ?_⟩
      obtain rfl := Phase.wrapped.inj hj
      refine ⟨stream, get_snoc_new, hrel, ?_⟩
      unfold Stream.isOpen
      rw [hlive]
      rfl
    · exact .of_not_late rfl
  | answered | finished | closing | stopped => exact hold

/-- A stream that changes without being closed leaves every control stream as it is. -/
theorem Controls.setStream {k : Nat} {strm strm' : Stream} (h : c.Controls j) (hk : c.streams[k]? = some strm)
    (hrel : strm'.release = strm.release) (hopen : strm.isOpen → strm'.isOpen) :
    (c.setStream k strm').Controls j := by
  obtain ⟨controlled, hj, hcontrol, hlive⟩ := h
  by_cases hjk : j = k
  · subst hjk
    rw [hk] at hj
    cases hj
    exact ⟨strm', get_set_self hk, hrel.trans hcontrol, hopen hlive⟩
  · exact ⟨controlled, (get_set_ne hjk).trans hj, hcontrol, hlive⟩

theorem Controls.setStream_ne {k : Nat} {strm : Stream} (h : c.Controls j) (hjk : j ≠ k) :
    (c.setStream k strm).Controls j := by
  obtain ⟨controlled, hj, hcontrol, hlive⟩ := h
  exact ⟨controlled, (get_set_ne hjk).trans hj, hcontrol, hlive⟩

end Carrier

/-! ## The slot -/

namespace Server

variable {s s' : Server} {a : Action}

/-- The callback of a stream does not run while the accept that has wrapped the stream has yet to store it. -/
def StoredFirst (s : Server) : Action → Prop
  | .release j => ∀ call ∈ s.carrier.calls, call.phase ≠ .wrapped j
  | _ => True

instance (s : Server) (a : Action) : Decidable (StoredFirst s a) := by
  unfold StoredFirst; split <;> infer_instance

/-- The flag says whether an accept is in progress, and the stream in the slot is a control stream that is not
    closed. -/
structure SlotLive (s : Server) : Prop where
  opening : s.carrier.accepts = Carrier.unit s.controlOpening
  calls : ∀ call ∈ s.carrier.calls, s.carrier.CallSound call
  slot : ∀ j, s.control = some j → s.carrier.Controls j

variable {res : Except Error Nat}

theorem accepts_returned {i : Nat} {call : Call} (hopening : s.carrier.accepts = Carrier.unit s.controlOpening)
    (hi : s.carrier.calls[i]? = some call) (hkind : call.kind = .acceptControl) (hlate : call.phase.late) :
    (s.carrier.calls.set i { call with phase := .returned res }).countP Call.accepting = 0 := by
  have hbefore : call.accepting = true := by
    unfold Call.accepting
    rw [hkind]
    cases hphase : call.phase <;> rw [hphase] at hlate <;> first | rfl | cases hlate
  have hafter : ({ call with phase := .returned res } : Call).accepting = false := by
    unfold Call.accepting
    rw [hkind]
    rfl
  have hset := countP_set (p := Call.accepting) (b := { call with phase := .returned res }) hi
  have hone : Carrier.unit s.controlOpening ≤ 1 := by
    cases s.controlOpening <;> decide
  rw [hbefore, hafter] at hset
  unfold Carrier.accepts at hopening
  simp only [if_true, Bool.false_eq_true, if_false] at hset
  omega

theorem callSound_returned {c : Carrier} {i : Nat} {bef : Call}
    (hs : ∀ call ∈ s.carrier.calls, s.carrier.CallSound call)
    (hcalls : c.calls = s.carrier.calls.set i { bef with phase := .returned res })
    (hkept : ∀ j, s.carrier.Controls j → c.Controls j) : ∀ call ∈ c.calls, c.CallSound call := by
  rw [hcalls]
  exact forall_mem_set (fun call hin => (hs call hin).mono (fun j _ => hkept j)) (.of_not_late rfl)

theorem SlotLive.of_new {cfg : Config} (h : new cfg = .ok s) : SlotLive s := by
  unfold new at h
  split at h
  · cases h
  next carrier hnew =>
    cases h
    unfold Carrier.new at hnew
    split at hnew
    · cases hnew
    cases hnew
    refine ⟨rfl, fun call hin => ?_, fun j hj => ?_⟩
    · cases hin
    · cases hj

/-- **One step keeps the slot live**, unless a callback comes before its stream is stored. -/
theorem SlotLive.step (hl : SlotLive s) (hfirst : StoredFirst s a) (h : Move s a s') : SlotLive s' := by
  obtain ⟨hopening, hcalls, hslot⟩ := hl
  cases h with
  | carrier hmove =>
    refine ⟨hmove.accepts.trans hopening, hmove.callSound hcalls, fun j hj => ?_⟩
    exact (hslot j hj).move hmove
  | refused =>
    refine ⟨countP_snoc.trans hopening, forall_mem_snoc (fun call hin => ?_) (.of_not_late rfl), hslot⟩
    exact (hcalls call hin).mono (fun _ _ => id)
  | entered _ hidle =>
    refine ⟨?_, forall_mem_snoc (fun call hin => ?_) (.of_not_late rfl), hslot⟩
    · rw [hidle] at hopening
      exact countP_snoc.trans (congrArg (· + 1) hopening)
    · exact (hcalls call hin).mono (fun _ _ => id)
  | @settled _ call _ hi hphase =>
    have hlate : call.phase.late := by rw [hphase]; rfl
    have hkind := (hcalls call (mem_of_getElem? hi)).late hlate
    exact ⟨accepts_returned hopening hi hkind hlate, callSound_returned hcalls rfl (fun _ => id), hslot⟩
  | @dropped _ call j strm hi hphase hj =>
    have hlate : call.phase.late := by rw [hphase]; rfl
    have hkind := (hcalls call (mem_of_getElem? hi)).late hlate
    -- the stream is being closed, but it is not closed by this section
    have hkept (k : Nat) (hk : s.carrier.Controls k) : (s.carrier.setStream j
        { strm with state := if strm.state = .live then .closing else strm.state }).Controls k :=
      hk.setStream hj rfl Stream.isOpen_closing
    exact ⟨accepts_returned hopening hi hkind hlate, callSound_returned hcalls rfl hkept,
      fun k hk => hkept k (hslot k hk)⟩
  | @stored _ call j strm hi hphase hj =>
    have hlate : call.phase.late := by rw [hphase]; rfl
    have hsound := hcalls call (mem_of_getElem? hi)
    have hkept (k : Nat) (hk : s.carrier.Controls k) :
        (s.carrier.setStream j { strm with owned := true }).Controls k := hk.setStream hj rfl id
    refine ⟨accepts_returned hopening hi (hsound.late hlate) hlate, callSound_returned hcalls rfl hkept, ?_⟩
    intro k hk
    cases hk
    exact hkept j (hsound.wrapped j hphase)
  | @released j strm hj _ hrel =>
    -- a stream that is not a control stream is neither wrapped nor in the slot
    have hkept (k : Nat) (hk : s.carrier.Controls k) :
        (s.carrier.setStream j { strm with state := .closed }).Controls k := by
      apply hk.setStream_ne
      rintro rfl
      obtain ⟨_, hcontrolled, hcontrol, _⟩ := hk
      rw [hj] at hcontrolled
      cases hcontrolled
      rw [hrel] at hcontrol
      cases hcontrol
    exact ⟨hopening, fun call hin => (hcalls call hin).mono (fun k _ => hkept k), fun k hk => hkept k (hslot k hk)⟩
  | cleared =>
    refine ⟨hopening, fun call hin => ?_, fun k hk => by cases hk⟩
    refine (hcalls call hin).mono (fun k hk hcontrols => hcontrols.setStream_ne ?_)
    rintro rfl
    exact hfirst call hin hk

/-- **The control slot is live** in every run where no callback of a stream runs before the accept that has wrapped
    the stream stores it: whenever the slot is occupied, its stream is not closed. So the slot refuses a call of
    `AcceptControlStream` only while a control stream that is not closed, or another accept, is there. -/
theorem control_slot_live (config : Config) (s : Server) (hnew : new config = .ok s)
    (tr : Trace Server Action) (q : Server) (hrun : Run step s tr q)
    (hfirst : ∀ t ∈ tr, StoredFirst t.pre t.label) :
    (∀ j, q.control = some j → ∃ stream, q.carrier.streams[j]? = some stream ∧ stream.isOpen) ∧
    (q.acceptControl.carrier.calls
        = q.carrier.calls ++ [{ kind := .acceptControl, phase := .returned (.error .streamLimit) }] →
      (∃ j stream, q.control = some j ∧ q.carrier.streams[j]? = some stream ∧ stream.isOpen)
        ∨ ∃ call ∈ q.carrier.calls, call.accepting) := by
  have hlive : SlotLive q :=
    hrun.invariant_of (fun hc hl hs => hl.step hc (step_move hs)) hfirst (SlotLive.of_new hnew)
  have hopen (j : Nat) (hj : q.control = some j) : ∃ stream, q.carrier.streams[j]? = some stream ∧ stream.isOpen := by
    obtain ⟨stream, hstream, _, hopen⟩ := hlive.slot j hj
    exact ⟨stream, hstream, hopen⟩
  refine ⟨hopen, fun hrefused => ?_⟩
  unfold acceptControl at hrefused
  split at hrefused
  next hbusy =>
    rcases hbusy with hslot | hflag
    · obtain ⟨j, hj⟩ := Option.isSome_iff_exists.mp hslot
      obtain ⟨stream, hstream, hlive⟩ := hopen j hj
      exact .inl ⟨j, stream, hj, hstream, hlive⟩
    have haccepts := hlive.opening
    rw [hflag] at haccepts
    have hpos : 0 < q.carrier.calls.countP Call.accepting := by
      rw [show q.carrier.calls.countP Call.accepting = 1 from haccepts]
      exact Nat.one_pos
    exact .inr (countP_pos_iff.mp hpos)
  · -- the call was let in
    have hlast := append_cancel_left hrefused
    cases hlast

/-! ## Cancellation -/

/-- An edge that has accepted the control stream of the host: the stream in the slot is not closed. -/
theorem control_slot_live_accepted :
    ∃ (q : Server) (stream : Stream), exec step edgeServer acceptActions = some q ∧ q.control = some 0
      ∧ q.carrier.streams[0]? = some stream ∧ stream.isOpen := by
  have h : (exec step edgeServer acceptActions).isSome = true := by decide +kernel
  obtain ⟨stream, hstream, hopen⟩ := (control_slot_live edgeConfig edgeServer (by decide +kernel) _ _ (exec_getD_run h)
    (by decide +kernel)).1 0 (by decide +kernel)
  exact ⟨_, stream, exec_getD h, by decide +kernel, hstream, hopen⟩

/-- The context of the first call is canceled after `acceptRaw`, and `abort` is done before the call goes on. -/
def canceledActions : List Action :=
  [.acceptControl, .carrier (.admitCall 0 .taken), .carrier (.answer 0 .delivered), .carrier (.receive 0 .taken),
    .carrier (.handOff 0 (.complete {})), .carrier (.cancel 0 false), .carrier (.close 0 true), .release 0, .store 0]

/-- **A closed stream stays in the slot.** The server is open, the only stream is closed and no accept is in progress,
    but the slot is occupied, and the next call is refused with `ErrStreamLimit`. -/
theorem slot_stuck : ∃ q : Server, new edgeConfig = .ok edgeServer ∧ exec step edgeServer canceledActions = some q
      ∧ q.carrier.done = false ∧ (∀ call ∈ q.carrier.calls, call.accepting = false) ∧ q.control = some 0
      ∧ (q.carrier.streams[0]?).map Stream.state = some .closed
      ∧ q.acceptControl.carrier.calls
        = q.carrier.calls ++ [{ kind := .acceptControl, phase := .returned (.error .streamLimit) }] := by
  rw [exists_and_left]
  decide +kernel

end Server

end PaperboatTunnel.Datacarrier
