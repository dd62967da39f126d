import PaperboatTunnel.PeerRelay.Moves

/-!
# `Released` — when every stream is released

A relay is finalized by `terminate`, if it had not been started when `terminate` read its legs, or by `run`, which waits
for both copies and closes both streams. As long as the legs that `terminate` has read are the legs of the relay, both
ways close every stream before the `done` channel is closed (`Relay.Sound`).

But `terminate` does not hold the lock all the time, and an `Attach` that pairs the relay meanwhile has its stream left
open (`paired_while_revoked`). Only the expiry of a pending relay is fenced off against that, by `expired`.
-/

namespace PaperboatTunnel.PeerRelay

open GoTime TransitionSystem RunStage List Option Table Bool

/-! ## One relay -/

def Copier.isFinished (c : Copier) : Bool :=
  match c.stage with
  | .finished _ => true
  | _ => false

theorem Copier.isFinished_eq_false {c : Copier} (h : ∀ e, c.stage ≠ .finished e) : c.isFinished = false := by
  unfold Copier.isFinished
  split
  next e he => exact absurd he (h e)
  · rfl

def StopStage.rank : StopStage → Nat
  | .read => 0
  | .stored => 1
  | .initiatorClosed => 2
  | .hostClosed => 3

def RunStage.rank : RunStage → Nat
  | .idle => 0
  | .copying => 1
  | .initiatorClosed => 2
  | .hostClosed => 3
  | .finishing _ => 4

variable {now : Time}

namespace Relay

variable {r r' : Relay} {a : Move} {closed streams streams' : List Nat} {s : Stop}

/-- **The goroutines of a relay agree on its legs**, and have closed what they have passed. -/
structure Sound (streams : List Nat) (r : Relay) : Prop where
  paired : r.started = true → r.Paired
  idle : r.run = .idle ↔ r.started = false
  read : ∀ s, r.stop = some s → s.initiator = r.initiator ∧ s.host = r.host ∧ s.started = r.started
  stopInitiator : ∀ s, r.stop = some s → 2 ≤ s.stage.rank → streamOf s.initiator ⊆ streams
  stopHost : ∀ s, r.stop = some s → 3 ≤ s.stage.rank → streamOf s.host ⊆ streams
  results : r.results.length = r.toInitiator.isFinished.toNat + r.toHost.isFinished.toNat
  finished : 2 ≤ r.run.rank → r.results.length = 2
  runInitiator : 2 ≤ r.run.rank → streamOf r.initiator ⊆ streams
  runHost : 3 ≤ r.run.rank → streamOf r.host ⊆ streams
  final : r.final ≠ .pending → r.legStreams ⊆ streams ∧ (r.run = .idle ∨ r.results.length = 2)

variable (h : r.Sound streams)

include h

theorem Sound.mono (hsub : streams ⊆ streams') : r.Sound streams' where
  paired := h.paired
  idle := h.idle
  read := h.read
  stopInitiator s hs hrank := Subset.trans (h.stopInitiator s hs hrank) hsub
  stopHost s hs hrank := Subset.trans (h.stopHost s hs hrank) hsub
  results := h.results
  finished := h.finished
  runInitiator hrank := Subset.trans (h.runInitiator hrank) hsub
  runHost hrank := Subset.trans (h.runHost hrank) hsub
  final hfin := ⟨Subset.trans (h.final hfin).1 hsub, (h.final hfin).2⟩

variable {dir : Direction} {l : Leg} {role : Role}

theorem Sound.copying_of_stage (hstage : ∀ e, (r.copier dir).stage ≠ .finished e) : r.results.length < 2 := by
  have hnot := Copier.isFinished_eq_false hstage
  have hcount := h.results
  have hle := fun b : Bool => toNat_le b
  cases dir with
  | toInitiator =>
    rw [show r.toInitiator.isFinished = false from hnot, toNat_false] at hcount
    have hother := hle r.toHost.isFinished
    omega
  | toHost =>
    rw [show r.toHost.isFinished = false from hnot, toNat_false] at hcount
    have hother := hle r.toInitiator.isFinished
    omega

/-- **Nothing is copied once the relay is finalized.** -/
theorem Sound.pending_of_copying (hrun : r.run ≠ .idle) (hstage : ∀ e, (r.copier dir).stage ≠ .finished e) :
    r.final = .pending := by
  by_contra hfin
  rcases (h.final hfin).2 with hidle | hresults
  · exact hrun hidle
  · have hlt := h.copying_of_stage hstage
    omega

omit h in
theorem results_afterCopy {c : Copier}
    (hresults : r.results.length = r.toInitiator.isFinished.toNat + r.toHost.isFinished.toNat)
    (hstage : (r.copier dir).isFinished = false) :
    (r.afterCopy dir c).results.length
      = (r.afterCopy dir c).toInitiator.isFinished.toNat + (r.afterCopy dir c).toHost.isFinished.toNat := by
  have hset : (r.setCopier dir c).toInitiator.isFinished.toNat
      + (r.setCopier dir c).toHost.isFinished.toNat = r.results.length + c.isFinished.toNat := by
    cases dir <;> simp_all [setCopier, copier]
    omega
  unfold afterCopy
  split
  next e he =>
    have hc : c.isFinished = true := by simp [Copier.isFinished, he]
    simpa [hc] using hset.symm
  next hstage' =>
    rw [hset, Copier.isFinished_eq_false hstage']
    cases dir <;> rfl

/-- `terminate` gets to a stage, with the legs closed that it has passed. -/
theorem Sound.advanceStop (hs : r.stop = some s) {stage : StopStage}
    (hinit : 2 ≤ stage.rank → streamOf s.initiator ⊆ streams)
    (hhost : 3 ≤ stage.rank → streamOf s.host ⊆ streams) :
    Relay.Sound streams { r with stop := some { s with stage := stage } } :=
  { h with
    read := by
      rintro _ ⟨⟩
      exact h.read s hs
    stopInitiator := by
      rintro _ ⟨⟩
      exact hinit
    stopHost := by
      rintro _ ⟨⟩
      exact hhost }

/-- `run` gets to a stage after both copies are over. -/
theorem Sound.advanceRun {stage : RunStage} (hrun : r.run ≠ .idle) (hstage : stage ≠ .idle)
    (hresults : r.results.length = 2) (hinit : 2 ≤ stage.rank → streamOf r.initiator ⊆ streams)
    (hhost : 3 ≤ stage.rank → streamOf r.host ⊆ streams) : Relay.Sound streams { r with run := stage } :=
  { h with
    idle := ⟨hstage.elim, fun hstarted => absurd (h.idle.mpr hstarted) hrun⟩
    finished := fun _ => hresults
    runInitiator := hinit
    runHost := hhost
    final := fun hfin => ⟨(h.final hfin).1, .inr hresults⟩ }

/-- **Every step of the goroutines keeps that**, with the streams it closes. -/
theorem Sound.stepped (hstep : Stepped r a r' closed) : r'.Sound (streams ++ closed) := by
  have hsub : streams ⊆ streams ++ closed := subset_append_left _ _
  have hmono := h.mono hsub
  cases hstep with
  | stopStored _ hs =>
    exact hmono.advanceStop hs (fun hrank => absurd hrank (by decide)) (fun hrank => absurd hrank (by decide))
  | stopInitiator _ hs =>
    exact hmono.advanceStop hs (fun _ => subset_append_right _ _) (fun hrank => absurd hrank (by decide))
  | stopHost s hs hstage =>
    refine hmono.advanceStop hs (fun _ => ?_) (fun _ => subset_append_right _ _)
    exact hmono.stopInitiator s hs (by simp [hstage, StopStage.rank])
  | copied _ dir c hrun hcopying =>
    have hpend := h.pending_of_copying hrun hcopying
    have hlt := h.copying_of_stage hcopying
    have hresults := results_afterCopy (c := c) h.results (Copier.isFinished_eq_false hcopying)
    -- only the copier and the results change
    revert hresults
    unfold afterCopy
    split <;> cases dir <;> intro hresults <;> exact
      { hmono with
        results := hresults
        finished := fun hrank => absurd (h.finished hrank) hlt.ne
        final := fun hne => absurd hpend hne }
  | runInitiator hrun hresults =>
    exact hmono.advanceRun (by simp [hrun]) nofun hresults (fun _ => subset_append_right _ _)
      (fun hrank => absurd hrank (by decide))
  | runHost hrun =>
    exact hmono.advanceRun (by simp [hrun]) nofun (h.finished (by simp [hrun, rank]))
      (fun _ => hmono.runInitiator (by simp [hrun, rank])) (fun _ => subset_append_right _ _)
  | runFinishing hrun =>
    exact hmono.advanceRun (by simp [hrun]) nofun (h.finished (by simp [hrun, rank]))
      (fun _ => hmono.runInitiator (by simp [hrun, rank]))
      (fun _ => hmono.runHost (by simp [hrun, rank]))
  | doneClosed hfin =>
    refine { hmono with final := ?_ }
    exact fun _ => hmono.final (by simp [hfin])

omit h in
theorem sound_of_live (hpaired : r.started = true → r.Paired) (hidle : r.run = .idle ↔ r.started = false)
    (hrank : r.run.rank < 2) (hstop : r.stop = none) (hfin : r.final = .pending)
    (hresults : r.results.length = r.toInitiator.isFinished.toNat + r.toHost.isFinished.toNat) : r.Sound streams := by
  have hnone : ∀ s, r.stop ≠ some s := by simp [hstop]
  exact
    { paired := hpaired
      idle := hidle
      read := fun s hs => absurd hs (hnone s)
      stopInitiator := fun s hs => absurd hs (hnone s)
      stopHost := fun s hs => absurd hs (hnone s)
      results := hresults
      finished := fun hr => absurd hr (by omega)
      runInitiator := fun hr => absurd hr (by omega)
      runHost := fun hr => absurd hr (by omega)
      final := fun hne => absurd hfin hne }

omit h in
theorem sound_new {key : RelayKey} : ((Relay.new key).setLeg role l).Sound streams := by
  cases role <;> exact sound_of_live (fun hs => by cases hs) ⟨fun _ => rfl, fun _ => rfl⟩ Nat.zero_lt_two rfl rfl rfl

omit h in
theorem not_paired_of_leg (h : r.leg role = none) : ¬ r.Paired := by
  rintro ⟨hinit, hhost⟩
  cases role <;> simp [leg] at h <;> simp [h] at hinit hhost

/-- **The second leg**, while no `terminate` has read the first. -/
theorem Sound.join (hleg : r.leg role = none) (hstop : r.stop = none) (hfin : r.final = .pending) :
    ((r.setLeg role l).start now).Sound streams := by
  have hstarted : r.started = false := by
    cases hs : r.started with
    | false => rfl
    | true => exact absurd (h.paired hs) (not_paired_of_leg hleg)
  have hidle := h.idle.mpr hstarted
  have hset : (r.setLeg role l).results = r.results ∧ (r.setLeg role l).toInitiator = r.toInitiator
      ∧ (r.setLeg role l).toHost = r.toHost ∧ (r.setLeg role l).run = r.run := by
    cases role <;> exact ⟨rfl, rfl, rfl, rfl⟩
  obtain ⟨hresults, htoInitiator, htoHost, hrun⟩ := hset
  have hcount : (r.setLeg role l).results.length
      = (r.setLeg role l).toInitiator.isFinished.toNat + (r.setLeg role l).toHost.isFinished.toNat := by
    rw [hresults, htoInitiator, htoHost]
    exact h.results
  have hnone : (r.setLeg role l).stop = none := setLeg_stop.trans hstop
  have hpend : (r.setLeg role l).final = .pending := setLeg_final.trans hfin
  rcases start_cases (r.setLeg role l) now with hsame | ⟨_, hpaired, _, _, hstart⟩
  · have hidle' := hrun.trans hidle
    rw [hsame]
    exact sound_of_live (fun hs => absurd hs (by simp [hstarted])) (by simp [hidle', hstarted])
      (by rw [hidle']; exact Nat.zero_lt_two) hnone hpend hcount
  · rw [hstart]
    exact sound_of_live (fun _ => hpaired) ⟨fun hi => (by cases hi), fun hs => (by cases hs)⟩ Nat.one_lt_two hnone
      hpend hcount

theorem Sound.readLegs {cause : RelayError} : (r.readLegs cause).Sound streams := { h with
    read := by
      rintro _ ⟨⟩
      exact ⟨rfl, rfl, rfl⟩
    stopInitiator := by
      rintro _ ⟨⟩ hrank
      exact absurd hrank (by simp [StopStage.rank])
    stopHost := by
      rintro _ ⟨⟩ hrank
      exact absurd hrank (by simp [StopStage.rank]) }

/-- **Whoever finalizes has closed the legs**, and the copies are over. -/
theorem Sound.closed_of_finalCause {finisher : Finisher} {cause : List RelayError}
    (hcause : r.finalCause finisher = some cause) :
    r.legStreams ⊆ streams ∧ (r.run = .idle ∨ r.results.length = 2) := by
  cases finisher with
  | stop =>
    cases hs : r.stop with
    | none => simp [finalCause, hs] at hcause
    | some s =>
      simp only [finalCause, hs, ite_none_right_eq_some] at hcause
      obtain ⟨⟨hstage, hstarted⟩, _⟩ := hcause
      obtain ⟨hinit, hhost, hsame⟩ := h.read s hs
      have hcl := h.stopInitiator s hs (by simp [hstage, StopStage.rank])
      have hcl' := h.stopHost s hs (by simp [hstage, StopStage.rank])
      rw [hinit] at hcl
      rw [hhost] at hcl'
      exact ⟨append_subset.mpr ⟨hcl, hcl'⟩, .inl (h.idle.mpr (hsame ▸ hstarted))⟩
  | run =>
    cases hrun : r.run with
    | finishing =>
      have hrank : r.run.rank = 4 := by rw [hrun]; rfl
      exact ⟨append_subset.mpr ⟨h.runInitiator (by omega), h.runHost (by omega)⟩, .inr (h.finished (by omega))⟩
    | idle => simp [finalCause, hrun] at hcause
    | copying => simp [finalCause, hrun] at hcause
    | initiatorClosed | hostClosed => simp [finalCause, hrun] at hcause

omit h

theorem legStreams_setLeg (hleg : r.leg role = none) :
    r.legStreams ⊆ (r.setLeg role l).legStreams ∧ l.stream ∈ (r.setLeg role l).legStreams := by
  cases role <;> simp [leg] at hleg <;> simp [legStreams, setLeg, streamOf, hleg]

theorem legStreams_start : (r.start now).legStreams = r.legStreams := by
  obtain ⟨_, hinit, hhost, _⟩ := start_framed r now
  unfold legStreams
  rw [hinit, hhost]

end Relay

/-! ## The manager -/

/-- **A call knows where its stream is**: in a leg of its relay while it waits, and closed once it has returned. -/
def Call.Sound (heap : List Relay) (streams : List Nat) (call : Call) : Prop :=
  match call.status with
  | .entering => True
  | .waiting i => ∃ r, heap[i]? = some r ∧ call.stream.toList ⊆ r.legStreams
  | .returned _ _ => call.stream.toList ⊆ streams

theorem Call.Sound.mono {heap heap' : List Relay} {streams streams' : List Nat} {call : Call}
    (h : call.Sound heap streams)
    (hheap : ∀ (i : Nat) (r : Relay), heap[i]? = some r → ∃ r', heap'[i]? = some r' ∧ r.legStreams ⊆ r'.legStreams)
    (hstreams : streams ⊆ streams') : call.Sound heap' streams' := by
  unfold Call.Sound at h ⊢
  split
  · trivial
  next i hstatus =>
    rw [hstatus] at h
    obtain ⟨r, hr, hsub⟩ := h
    obtain ⟨r', hr', hsub'⟩ := hheap i r hr
    exact ⟨r', hr', Subset.trans hsub hsub'⟩
  next usage err hstatus =>
    rw [hstatus] at h
    exact Subset.trans h hstreams

/-- **The streams are accounted for.** -/
structure Released (heap : List Relay) (calls : List Call) (streams : List Nat) : Prop where
  relays : ∀ (i : Nat) (r : Relay), heap[i]? = some r → r.Sound streams
  calls : ∀ call ∈ calls, call.Sound heap streams

section Released

variable {heap : List Relay} {calls : List Call} {streams : List Nat} {i c : Nat} {r r' : Relay} {call : Call}
  (h : Released heap calls streams)

include h

theorem Released.write (closed : List Nat) (hr : heap[i]? = some r) (hlegs : r.legStreams ⊆ r'.legStreams)
    (hsound : r'.Sound (streams ++ closed)) :
    Released (heap.set i r') calls (streams ++ closed) := by
  have hsub : streams ⊆ streams ++ closed := subset_append_left _ _
  refine ⟨forall_set (fun j s hs => (h.relays j s hs).mono hsub) hsound,
    fun call hcall => (h.calls call hcall).mono (fun j s hs => ?_) hsub⟩
  · by_cases hj : j = i
    · subst hj
      obtain rfl := mem_unique hr hs
      exact ⟨r', get_set_self hr, hlegs⟩
    · exact ⟨s, (get_set_ne hj).trans hs, Subset.refl _⟩

theorem Released.rewrite (hr : heap[i]? = some r) (hlegs : r.legStreams ⊆ r'.legStreams) (hsound : r'.Sound streams) :
    Released (heap.set i r') calls streams := by
  have hwritten := h.write [] hr hlegs (by rw [append_nil]; exact hsound)
  rw [append_nil] at hwritten
  exact hwritten

theorem Released.status {status : CallStatus} (hsound : Call.Sound heap streams { call with status := status }) :
    Released heap (calls.set c { call with status := status }) streams := by
  exact ⟨h.relays, forall_mem_set h.calls hsound⟩

theorem Released.close {closed : List Nat} : Released heap calls (streams ++ closed) :=
  ⟨fun i r hr => (h.relays i r hr).mono (subset_append_left _ _),
    fun call hcall => (h.calls call hcall).mono (fun _ r hr => ⟨r, hr, fun _ hs => hs⟩) (subset_append_left _ _)⟩

theorem Released.refuse {usage : Usage} {err : List RelayError} :
    Released heap (calls.set c { call with status := .returned usage err }) (streams ++ call.stream.toList) :=
  h.close.status (subset_append_right _ _)

theorem Released.called (hsound : call.Sound heap streams) : Released heap (calls ++ [call]) streams := by
  exact ⟨h.relays, forall_mem_snoc h.calls hsound⟩

theorem Released.create (hsound : r.Sound streams) (hlegs : call.stream.toList ⊆ r.legStreams) :
    Released (heap ++ [r]) (calls.set c { call with status := .waiting heap.length }) streams := by
  have hgrown : Released (heap ++ [r]) calls streams := by
    refine ⟨forall_snoc h.relays hsound, fun x hx => (h.calls x hx).mono (fun i s hs => ?_) (Subset.refl _)⟩
    exact ⟨s, get_snoc_old hs, Subset.refl _⟩
  exact hgrown.status ⟨r, get_snoc_new, hlegs⟩

end Released

namespace Manager

variable {m m' : Manager} {a : Action}

/-- **No `terminate` has read the legs** of the relay that this call is going to pair. -/
def untouched (m : Manager) : Action → Bool
  | .enter c _ _ =>
    match m.calls[c]? with
    | some call =>
      match (m.relays.lookup call.key).bind (fun i => m.heap[i]?) with
      | some r => r.expired || (r.leg call.admission.role).isSome || r.stop.isNone
      | none => true
    | none => true
  | _ => true

theorem released_step (h : Released m.heap m.calls m.streams) (hidx : m.Indexed)
    (hunt : m.untouched a) (hstep : m.step a = some m') : Released m'.heap m'.calls m'.streams := by
  cases step_effect hidx hstep with
  | quiet => exact h
  | called _ _ _ _ _ _ hstatus =>
    refine h.called ?_
    unfold Call.Sound
    rw [hstatus]
    trivial
  | rejected _ _ _ _ _ _ hstatus =>
    refine h.close.called ?_
    unfold Call.Sound
    rw [hstatus]
    exact subset_append_right _ _
  | refused => exact h.refuse
  | created _ call _ _ _ _ hstream =>
    refine h.create Relay.sound_new ?_
    rw [hstream]
    intro x hx
    rw [mem_singleton.mp hx]
    exact (Relay.legStreams_setLeg (by cases call.admission.role <;> rfl)).2
  | joined _ call strm _ startd i r hcall hstream _ hi hr hexp hleg =>
    have hstop : r.stop = none := by
      simpa [untouched, hcall, hi, hr, hexp, hleg] using hunt
    have hfin := (hidx.pending_of_lookup hi hr).1
    obtain ⟨hkept, hnew⟩ := Relay.legStreams_setLeg (l := ⟨strm, call.admission.carrier⟩) hleg
    have hjoined : Released
        (m.heap.set i ((r.setLeg call.admission.role ⟨strm, call.admission.carrier⟩).start startd)) m.calls
        m.streams := by
      refine h.rewrite hr ?_ ((h.relays i r hr).join hleg hstop hfin)
      rw [Relay.legStreams_start]
      exact hkept
    refine hjoined.status ⟨_, get_set_self hr, ?_⟩
    rw [Relay.legStreams_start, hstream]
    intro x hx
    rw [mem_singleton.mp hx]
    exact hnew
  | finished _ call i r hcall hstatus hr hdone =>
    refine h.status ?_
    have hsound := h.calls call (mem_of_getElem? hcall)
    unfold Call.Sound at hsound
    rw [hstatus] at hsound
    obtain ⟨_, hr', hstream⟩ := hsound
    obtain rfl := mem_unique hr hr'
    exact Subset.trans hstream ((h.relays i r hr).final (by rw [hdone]; exact FinalStage.noConfusion)).1
  | expired i r hr =>
    have hsound := h.relays i r hr
    exact h.rewrite hr (Subset.refl _) { hsound with }
  | terminated _ i _ r hr => exact h.rewrite hr (Subset.refl _) (h.relays i r hr).readLegs
  | moved i r _ _ closed hr hmove =>
    refine h.write closed hr ?_ ((h.relays i r hr).stepped hmove)
    rw [Relay.legStreams, Relay.legStreams, hmove.framed.initiator, hmove.framed.host]
    exact Subset.refl _
  | finalized i r _ _ hr _ hcause =>
    have hsound := h.relays i r hr
    exact h.rewrite hr (Subset.refl _) { hsound with final := fun _ => hsound.closed_of_finalCause hcause }
  | recorded i r _ _ _ _ hr hfin =>
    have hsound := h.relays i r hr
    refine h.rewrite hr (Subset.refl _) { hsound with final := fun _ => hsound.final ?_ }
    rw [hfin]
    exact FinalStage.noConfusion

theorem released_of_run {cfg : Config} {q : Manager} {tr : Trace Manager Action}
    (hnew : newManager cfg now = .ok m) (hrun : Run step m tr q)
    (hunt : ∀ t ∈ tr, t.pre.untouched t.label = true) :
    q.Indexed ∧ Released q.heap q.calls q.streams := by
  refine hrun.invariant_of (I := fun s => s.Indexed ∧ Released s.heap s.calls s.streams)
    (C := fun s a => s.untouched a = true) (fun {s a s'} hC hs hstep => ?_) hunt ?_
  · exact ⟨hs.1.step hstep, released_step hs.2 hs.1 hC hstep⟩
  · refine ⟨indexed_new hnew, ?_⟩
    rw [(eq_of_newManager hnew).2]
    exact ⟨fun i r hr => by simp at hr, fun call hcall => by cases hcall⟩

/-- **Peer relay streams are released.** In every run in which no `Attach` pairs a relay after a `terminate` has read
    its legs: the stream of every call that has returned is closed, and nothing is written between the streams of a
    relay whose `done` channel is closed. -/
theorem streams_released (config : Config) (now : Time) (m q : Manager) (tr : Trace Manager Action)
    (hnew : newManager config now = .ok m) (hrun : Run step m tr q)
    (huntouched : ∀ t ∈ tr, t.pre.untouched t.label = true) :
    (∀ call ∈ q.calls, ∀ usage err stream, call.status = .returned usage err → call.stream = some stream →
      stream ∈ q.streams)
    ∧ ∀ t ∈ tr, ∀ i r direction n e, t.label = .move i (.write direction n e) → t.pre.heap[i]? = some r →
        r.final ≠ .done := by
  constructor
  · intro call hcall usage err stream hstatus hstream
    have hsound := (released_of_run hnew hrun huntouched).2.calls call hcall
    unfold Call.Sound at hsound
    rw [hstatus, hstream] at hsound
    exact hsound (mem_singleton.mpr rfl)
  · intro t ht i r direction n e hlabel hr hdone
    obtain ⟨_, _, rfl, hbefore, hstep, _⟩ := hrun.split ht
    have hsound := (released_of_run hnew hbefore (fun u hu => huntouched u (mem_append_left _ hu))).2.relays i r hr
    rw [hlabel] at hstep
    simp only [step, hr] at hstep
    obtain ⟨⟨_, _⟩, hs, _⟩ := map_eq_some_iff.mp hstep
    have hpend : r.final = .pending := by
      cases Relay.stepped_of_step hs with
      | copied _ _ _ hrun hcopying => exact hsound.pending_of_copying hrun hcopying
    rw [hdone] at hpend
    cases hpend

/-! ## Runs -/

/-- A relay waits for its host and is revoked; its only call returns. -/
def revokedPending : List Action := attachAt (sampleBinding ⟨Duration.hour, 0⟩) .initiator 0 0 ⟨0, 0⟩
    ++ [.revoke (sampleBinding ⟨Duration.hour, 0⟩), .terminate 0, .move 0 .advanceStop, .move 0 .advanceStop,
        .move 0 .advanceStop, .finalize 0 .stop, .record 0 ⟨0, 0⟩ none, .move 0 .closeDone, .finish 0]

theorem streams_released_revoked : ∃ (m q : Manager) (call : Call), newManager developmentConfig ⟨0, 0⟩ = .ok m
    ∧ exec step m revokedPending = some q ∧ call ∈ q.calls ∧ call.status = .returned { } [.revoked]
    ∧ call.stream = some 0 ∧ 0 ∈ q.streams := by
  let m : Manager := { config := developmentConfig, clock := ⟨0, 0⟩ }
  obtain ⟨q, hq, call, hget, hstatus, hstream⟩ : ∃ q, exec step m revokedPending = some q
      ∧ ∃ call, q.calls[0]? = some call ∧ call.status = .returned { } [.revoked] ∧ call.stream = some 0 := by
    decide +kernel
  have hnew : newManager developmentConfig ⟨0, 0⟩ = .ok m := rfl
  have hmem := mem_of_getElem? hget
  have hcl := (streams_released developmentConfig ⟨0, 0⟩ m q _ hnew (exec_run hq)
    (by decide +kernel)).1 call hmem _ _ 0 hstatus hstream
  exact ⟨m, q, call, hnew, hq, hmem, hstatus, hstream, hcl⟩

/-- A `Revoke` has read the legs of a waiting relay when the host attaches and the relay starts. A chunk from the
    initiator is read; then the `terminate` goes on, closes the one stream it knows of and the `done` channel, and the
    host's call returns. -/
def pairedWhileRevoked : List Action := attachAt (sampleBinding ⟨Duration.hour, 0⟩) .initiator 0 0 ⟨0, 0⟩
    ++ [.revoke (sampleBinding ⟨Duration.hour, 0⟩), .terminate 0]
    ++ attachAt (sampleBinding ⟨Duration.hour, 0⟩) .host 1 1 ⟨0, 0⟩
    ++ [.move 0 (.read .toHost 5 none), .move 0 .advanceStop, .move 0 .advanceStop, .move 0 .advanceStop,
        .finalize 0 .stop, .record 0 ⟨0, 0⟩ none, .move 0 .closeDone, .finish 1]

/-- **The host's call has returned, its stream is open**, and the chunk is written to it after `done` is closed. -/
theorem paired_while_revoked : ∃ m p q : Manager, newManager developmentConfig ⟨0, 0⟩ = .ok m
    ∧ exec step m pairedWhileRevoked = some p
    ∧ (p.calls[1]?).any (fun call : Call => decide (call.stream = some 1)
        && (match call.status with | .returned _ _ => true | _ => false)) = true
    ∧ 1 ∉ p.streams ∧ (p.heap[0]?).any (fun r : Relay => decide (r.final = .done)) = true
    ∧ p.step (.move 0 (.write .toHost 5 none)) = some q
    ∧ (q.heap[0]?).any (fun r : Relay => decide (r.toHost.counter = 5)) = true := by
  refine ⟨{ config := developmentConfig, clock := ⟨0, 0⟩ }, ?_⟩
  simp only [exists_and_left]
  exact ⟨rfl, by decide +kernel⟩

end Manager

end PaperboatTunnel.PeerRelay
