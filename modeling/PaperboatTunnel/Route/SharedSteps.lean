import PaperboatTunnel.Route.Promotion
import PaperboatTunnel.Route.SharedRegistry

/-!
# `SharedSteps` — what a section can do to the memory

`Effect` says once, for every section of every call, how the memory changes and where the call is afterwards
(`step_effect`). The invariants of the registry are proved from it, one case for each effect.
-/

namespace PaperboatTunnel.Route

open TransitionSystem Memory Table List Option Bool

/-- The section stages these rules under this generation. -/
def Section.Stages (s : Section) (generation : UInt64) (supplied : List RouteRule) : Prop :=
  s = .stage generation supplied ∨ s = .apply generation supplied true

def Section.call : Section → Option Nat
  | .confirm i _ => some i
  | .applyMark i => some i
  | .applyActivate i => some i
  | .markDrained i => some i
  | .drainEnd i _ => some i
  | _ => none

/-- The call has not activated a generation: it is on its way to that, or it has failed before. -/
def CallState.Early : CallState → Prop
  | .applying _ => True
  | .confirmed _ => True
  | .marked _ => True
  | .returned (some _) => True
  | _ => False

variable {toASCII : ToASCII}

namespace Point

def Marks (p : Point) (s : Section) (generation : UInt64) : Prop :=
  s = .markReady generation ∨ ∃ i, s = .applyMark i ∧ p.calls[i]? = some (.confirmed generation)

/-- The number of the call that the section belongs to. -/
def callOf (p : Point) (s : Section) : Nat := s.call.getD p.calls.length

variable (toASCII : ToASCII) (p : Point) (s : Section) in
/-- **What a section can do**: the memory afterwards, and where its call is then. -/
inductive Effect : Memory → CallState → Prop
  | idle {c} (hc : ∀ k, c ≠ .emptied k) : Effect p.memory c
  | staged {generation supplied normalized c} (hs : s.Stages generation supplied) (hzero : generation ≠ 0)
      (hrules : normalizeRules toASCII generation supplied p.memory.maximumRoutes = .ok normalized)
      (hopen : p.memory.closed = false)
      (hactive : ∀ o, p.memory.activeState = some o → o.generation < generation)
      (hpending : ∀ o, p.memory.pendingState = some o → o.generation < generation)
      (hc : c = .returned none ∨ c = .applying generation) :
      Effect (p.memory.cancelPending.add { generation, rules := normalized }) c
  | readied {generation k o c} (hs : p.Marks s generation) (hopen : p.memory.closed = false)
      (hk : p.memory.pending = some k) (ho : p.memory.objects[k]? = some o) (hgen : o.generation = generation)
      (hc : c = .returned none ∨ c = .marked generation) :
      Effect (p.memory.write k { o with ready := true }) c
  | promoted {k o} (hopen : p.memory.closed = false) (hk : p.memory.pending = some k)
      (ho : p.memory.objects[k]? = some o) (hready : o.ready = true) :
      Effect (p.memory.promote k o) p.memory.handOver
  | discarded {err} : Effect p.memory.cancelPending.drop (.returned err)
  | acquired {k o found} (hk : p.memory.active = some k) (ho : p.memory.objects[k]? = some o)
      (haccepting : o.accepting = true) (hfree : o.streams < p.memory.maximumStreams) :
      Effect (p.memory.lend k o found) (.returned none)
  | released {l lease} (hl : p.memory.leases[l]? = some lease) (hlive : lease.closed = false) :
      Effect (p.memory.closeLease l lease).1 (p.memory.closeLease l lease).2
  | drained {i k : Nat} (hi : p.calls[i]? = some (.emptied k)) : Effect (p.memory.markDrained k) (.returned none)
  | forced {i k : Nat} {drain : Drain} (hi : p.calls[i]? = some (.draining k)) :
      Effect (p.memory.cancel k) (.drainEnded drain)
  | closed (hs : s = .close) : Effect p.memory.close (.returned none)

variable {p : Point} {s : Section} {gen : UInt64}

theorem restage_free {o : Option GenerationObject} {rules : List RouteRule}
    (h : o.bind (fun o => GenerationRegistry.restage o.toGenerationState gen rules) = none) :
    ∀ state, o = some state → state.generation < gen := by
  intro state hst
  rw [hst] at h
  exact GenerationRegistry.restage_none (show GenerationRegistry.restage state.toGenerationState _ _ = none from h)

variable {m : Memory} {err : Option Error} {c : CallState}

theorem stageGeneration_effect {supplied : List RouteRule} (hs : s.Stages gen supplied)
    (h : p.memory.stageGeneration toASCII gen supplied = (m, err))
    (hc : err = none → c = .returned none ∨ c = .applying gen) (herr : ∀ k, c ≠ .emptied k) :
    Effect toASCII p s m c := by
  revert h
  fun_cases stageGeneration toASCII p.memory gen supplied <;> intro h
  case case6 hzero _ hrules hcl hact hpend =>
    cases h
    exact .staged hs hzero hrules (eq_false_of_not_eq_true hcl) (restage_free hact) (restage_free hpend) (hc rfl)
  all_goals
    cases h
    exact .idle herr

theorem objects_of_pendingState {k : Nat} {o : GenerationObject} (hk : p.memory.pending = some k)
    (ho : p.memory.pendingState = some o) : p.memory.objects[k]? = some o := by
  rw [pendingState, hk] at ho
  exact ho

theorem markGenerationReady_effect (hs : p.Marks s gen) (h : p.memory.markGenerationReady gen = (m, err))
    (hc : err = none → c = .returned none ∨ c = .marked gen) (herr : ∀ k, c ≠ .emptied k) :
    Effect toASCII p s m c := by
  revert h
  fun_cases markGenerationReady p.memory gen <;> intro h
  case case3 hcl _ _ _ ho hk hgen =>
    cases h
    exact .readied hs (eq_false_of_not_eq_true hcl) hk (objects_of_pendingState hk ho) hgen (hc rfl)
  all_goals
    cases h
    exact .idle herr

theorem activateGeneration_effect :
    Effect toASCII p s (p.memory.activateGeneration gen).1 (p.memory.activateGeneration gen).2 := by
  fun_cases activateGeneration p.memory gen with
  | case5 hcl _ _ _ ho hk _ hready =>
    exact .promoted (eq_false_of_not_eq_true hcl) hk (objects_of_pendingState hk ho) (not_not.mp hready)
  | _ => exact .idle nofun

theorem discardPending_effect : Effect toASCII p s (p.memory.discardPending gen) (.returned err) := by
  unfold discardPending
  split
  · exact .discarded
  · exact .idle nofun

theorem acquire_effect {host : String} {path : Path} : Effect toASCII p s (p.memory.acquire toASCII host path).1
      (.returned (p.memory.acquire toASCII host path).2) := by
  fun_cases acquire toASCII p.memory host path with
  | case4 _ _ _ _ k o ho hk haccepting _ _ hfree =>
    have hobject : p.memory.objects[k]? = some o := by
      rw [activeState, hk] at ho
      exact ho
    exact .acquired hk hobject (not_not.mp haccepting) (not_le.mp hfree)
  | _ => exact .idle nofun

/-! ## Every section -/

/-- The calls after a section: a new one, or one that went on. A call that has activated nothing and is not about
    to return had not activated anything before. -/
inductive Records (p : Point) (s : Section) (c : CallState) : List CallState → Prop
  | start (hs : s.call = none) : Records p s c (p.calls ++ [c])
  | resume {i before} (hs : s.call = some i) (hi : p.calls[i]? = some before)
      (hearly : c.Early → before.Early) : Records p s c (p.calls.set i c)

/-- What a step does to the memory and to the call of its section. -/
def Performs (toASCII : ToASCII) (p : Point) (s : Section) (q : Point) : Prop :=
  ∃ c, Effect toASCII p s q.memory c ∧ Records p s c q.calls

variable {q : Point} {i : Nat}

theorem apply_performs {rules : List RouteRule} {callback : Bool}
    (h : p.step toASCII (.apply gen rules callback) = some q) : Performs toASCII p (.apply gen rules callback) q := by
  simp only [step] at h
  split at h
  · cases h
    exact ⟨.returned _, .idle nofun, .start rfl⟩
  next hcallback =>
  obtain rfl : callback = true := not_not.mp hcallback
  split at h
  next hstage =>
    cases h
    exact ⟨.returned _, stageGeneration_effect (.inr rfl) hstage nofun nofun, .start rfl⟩
  next hstage =>
    cases h
    exact ⟨.applying _, stageGeneration_effect (.inr rfl) hstage (fun _ => .inr rfl) nofun, .start rfl⟩

theorem confirm_performs {ready : Option Error} (h : p.step toASCII (.confirm i ready) = some q) :
    Performs toASCII p (.confirm i ready) q := by
  simp only [step] at h
  split at h
  case h_2 => cases h
  next hi =>
  cases ready with
  | some =>
    cases h
    exact ⟨_, discardPending_effect, .resume rfl hi (fun _ => trivial)⟩
  | none =>
    cases h
    exact ⟨.confirmed _, .idle nofun, .resume rfl hi (fun _ => trivial)⟩

theorem applyMark_performs (h : p.step toASCII (.applyMark i) = some q) : Performs toASCII p (.applyMark i) q := by
  simp only [step] at h
  split at h
  case h_2 => cases h
  next hi =>
  split at h
  next hmark =>
    cases h
    exact ⟨.returned _, markGenerationReady_effect (.inr ⟨i, rfl, hi⟩) hmark nofun nofun,
      .resume rfl hi (fun _ => trivial)⟩
  next hmark =>
    cases h
    exact ⟨.marked _, markGenerationReady_effect (.inr ⟨i, rfl, hi⟩) hmark (fun _ => .inr rfl) nofun,
      .resume rfl hi (fun _ => trivial)⟩

theorem drainEnd_performs {drain : Drain} (h : p.step toASCII (.drainEnd i drain) = some q) :
    Performs toASCII p (.drainEnd i drain) q := by
  simp only [step] at h
  split at h
  case h_2 => cases h
  next hi =>
  split at h
  · split at h
    · cases h
      exact ⟨.drainEnded _, .idle nofun, .resume rfl hi (fun hc => hc.elim)⟩
    · cases h
  · cases h
    exact ⟨_, .forced hi, .resume rfl hi (fun hc => hc.elim)⟩

theorem closeLease_effect {l : Nat} {lease : StreamLease} (hl : p.memory.leases[l]? = some lease) :
    Effect toASCII p s (p.memory.closeLease l lease).1 (p.memory.closeLease l lease).2 := by
  by_cases hclosed : lease.closed = true
  · unfold Memory.closeLease
    rw [if_pos hclosed]
    exact .idle nofun
  · exact .released hl (eq_false_of_not_eq_true hclosed)

/-- **What every section does.** -/
theorem step_effect (h : p.step toASCII s = some q) : Performs toASCII p s q := by
  cases s with
  | stage =>
    cases h
    exact ⟨_, stageGeneration_effect (.inl rfl) rfl (fun hnone => .inl (congrArg _ hnone)) nofun, .start rfl⟩
  | markReady =>
    cases h
    exact ⟨_, markGenerationReady_effect (.inl rfl) rfl (fun hnone => .inl (congrArg _ hnone)) nofun, .start rfl⟩
  | activate =>
    cases h
    exact ⟨_, activateGeneration_effect, .start rfl⟩
  | apply => exact apply_performs h
  | confirm => exact confirm_performs h
  | applyMark => exact applyMark_performs h
  | applyActivate =>
    simp only [step] at h
    split at h <;> cases h
    next hi => exact ⟨_, activateGeneration_effect, .resume rfl hi (fun _ => trivial)⟩
  | discard =>
    cases h
    exact ⟨_, discardPending_effect, .start rfl⟩
  | markDrained =>
    simp only [step] at h
    split at h <;> cases h
    next hi => exact ⟨_, .drained hi, .resume rfl hi (fun hc => hc.elim)⟩
  | drainEnd => exact drainEnd_performs h
  | acquire =>
    cases h
    exact ⟨_, acquire_effect, .start rfl⟩
  | closeLease =>
    simp only [step] at h
    split at h <;> cases h
    next hl => exact ⟨_, closeLease_effect hl, .start rfl⟩
  | close =>
    cases h
    exact ⟨_, .closed rfl, .start rfl⟩

end Point

/-! ## What callers see -/

namespace Memory

variable {m : Memory} {k : Nat} {o o' : GenerationObject}

/-- The numbers of the active and of the pending object are numbers of objects, and not the same one. -/
structure Wired (m : Memory) : Prop where
  active : ∀ k, m.active = some k → k < m.objects.length
  pending : ∀ k, m.pending = some k → k < m.objects.length
  apart : ∀ k, m.pending = some k → m.active ≠ some k

/-- The memory as it is apart from the objects: the two generations, the leases and the options. -/
structure Frame (m m' : Memory) : Prop where
  active : m'.active = m.active
  pending : m'.pending = m.pending
  closed : m'.closed = m.closed
  length : m'.objects.length = m.objects.length
  leases : m'.leases = m.leases
  routes : m'.maximumRoutes = m.maximumRoutes
  streams : m'.maximumStreams = m.maximumStreams

theorem Frame.refl (m : Memory) : Frame m m := ⟨rfl, rfl, rfl, rfl, rfl, rfl, rfl⟩

theorem Frame.trans {m' m'' : Memory} (h : Frame m m') (h' : Frame m' m'') : Frame m m'' :=
  ⟨h'.active.trans h.active, h'.pending.trans h.pending, h'.closed.trans h.closed, h'.length.trans h.length,
    h'.leases.trans h.leases, h'.routes.trans h.routes, h'.streams.trans h.streams⟩

theorem frame_write : Frame m (m.write k o) := ⟨rfl, rfl, rfl, length_set, rfl, rfl, rfl⟩

/-- The objects of the two memories agree in what `f` reads of them. -/
def Agree {β : Type} (f : GenerationObject → β) (m m' : Memory) : Prop := m'.objects.map f = m.objects.map f

variable {β : Type} {f : GenerationObject → β} {m' : Memory}

theorem Agree.row (h : Agree f m m') (ho' : m'.objects[k]? = some o') : ∃ o, m.objects[k]? = some o ∧ f o' = f o := by
  obtain ⟨o, ho, hsame⟩ := get_of_map_eq h.symm ho'
  exact ⟨o, ho, hsame.symm⟩

theorem Agree.read (h : Agree f m m') (i : Option Nat) :
    (i.bind (fun k => m'.objects[k]?)).map f = (i.bind (fun k => m.objects[k]?)).map f := by
  cases i with
  | none => rfl
  | some k =>
    rw [bind_some, bind_some, ← getElem?_map, ← getElem?_map]
    exact congrArg (fun rows => rows[k]?) h

/-- **The memory but for its objects**, and what `f` reads of them, is as it was. -/
structure Calm {β : Type} (f : GenerationObject → β) (m m' : Memory) : Prop where
  frame : Frame m m'
  agree : Agree f m m'

theorem Calm.refl (f : GenerationObject → β) (m : Memory) : Calm f m m := ⟨Frame.refl m, rfl⟩

theorem Calm.trans {m'' : Memory} (h : Calm f m m') (h' : Calm f m' m'') : Calm f m m'' :=
  ⟨h.frame.trans h'.frame, Eq.trans h'.agree h.agree⟩

theorem calm_write (ho : m.objects[k]? = some o) (hf : f o' = f o) : Calm f m (m.write k o') :=
  ⟨frame_write, map_set_of_eq ho hf⟩

theorem calm_cancel (hf : ∀ o, f { o with canceled := true } = f o) : Calm f m (m.cancel k) := by
  unfold cancel
  split
  · exact .refl f m
  · next o ho => exact calm_write ho (hf o)

theorem calm_cancelPending (hf : ∀ o, f { o with canceled := true } = f o) : Calm f m m.cancelPending := by
  unfold cancelPending
  split
  · exact .refl f m
  · exact calm_cancel hf

theorem calm_markDrained (hf : ∀ o, f { o with drained := true, canceled := true } = f o) :
    Calm f m (m.markDrained k) := by
  unfold markDrained
  split
  · exact .refl f m
  next o ho =>
  split
  · exact .refl f m
  · exact calm_write ho (hf o)

theorem calm_close (hf : ∀ o drained, f { o with drained, canceled := true } = f o) :
    Calm f { m with closed := true } m.close := by
  unfold close
  split
  · next hcl => exact ⟨⟨rfl, rfl, hcl, rfl, rfl, rfl, rfl⟩, rfl⟩
  obtain ⟨h, hobjects⟩ : Calm f m m.cancelPending := calm_cancelPending (fun o => hf o o.drained)
  have hpend : Calm f { m with closed := true } { m.cancelPending with closed := true } :=
    ⟨⟨h.active, h.pending, rfl, h.length, h.leases, h.routes, h.streams⟩, hobjects⟩
  dsimp only
  split
  · exact hpend
  · exact (hpend.trans (calm_cancel (fun o => hf o o.drained))).trans (calm_markDrained (fun o => hf o true))

/-- Callers see the states of the objects, and no other part of them. -/
abbrev Unseen (m m' : Memory) : Prop := Calm GenerationObject.toGenerationState m m'

theorem unseen_cancel : Unseen m (m.cancel k) := calm_cancel (fun _ => rfl)

theorem unseen_cancelPending : Unseen m m.cancelPending := calm_cancelPending (fun _ => rfl)

theorem unseen_markDrained : Unseen m (m.markDrained k) := calm_markDrained (fun _ => rfl)

theorem unseen_close : Unseen { m with closed := true } m.close := calm_close (fun _ _ => rfl)

theorem Calm.view (h : Unseen m m') : m'.view = m.view := by
  obtain ⟨hf, hobjects⟩ := h
  unfold Memory.view activeState pendingState
  rw [hf.active, hf.pending, hf.closed, hf.routes, hobjects.read, hobjects.read]

theorem Wired.of_frame {m' : Memory} (h : Wired m) (hf : Frame m m') : Wired m' := by
  refine ⟨?_, ?_, ?_⟩
  · intro k hk
    rw [hf.length]
    exact h.active k (hf.active ▸ hk)
  · intro k hk
    rw [hf.length]
    exact h.pending k (hf.pending ▸ hk)
  · intro k hk
    rw [hf.active]
    exact h.apart k (hf.pending ▸ hk)

/-! ### The effects on the two generations -/

variable (hw : Wired m)

include hw

theorem activeState_add : (m.add o).activeState = m.activeState :=
  bind_congr (fun k hk => getElem?_append_left (hw.active k hk))

theorem view_add : (m.add o).view = { m.view with pending := some o.toGenerationState } := by
  unfold view
  rw [activeState_add hw, show (m.add o).pendingState = some o from get_snoc_new]
  rfl

omit hw in
theorem view_drop : m.drop.view = { m.view with pending := none } := rfl

theorem Wired.add : Wired (m.add o) := by
  have hlen : (m.add o).objects.length = m.objects.length + 1 := by simp [Memory.add]
  refine ⟨?_, ?_, ?_⟩
  · intro k hk
    have hlt := hw.active k hk
    omega
  · intro k hk
    obtain rfl : m.objects.length = k := some.inj hk
    omega
  · intro k hk hact
    obtain rfl : m.objects.length = k := some.inj hk
    exact absurd (hw.active _ hact) (Nat.lt_irrefl _)

theorem Wired.lend {found : RouteMatch} : Wired (m.lend k o found) := by
  have hwritten : Wired (m.write k { o with streams := o.streams + 1 }) := hw.of_frame frame_write
  exact ⟨hwritten.active, hwritten.pending, hwritten.apart⟩

omit hw in
theorem Wired.of_no_pending (hact : ∀ k, m.active = some k → k < m.objects.length)
    (hnone : m.pending = none) : Wired m := by
  refine ⟨hact, fun k hk => ?_, fun k hk => ?_⟩ <;>
  · rw [hnone] at hk
    cases hk

theorem Wired.drop : Wired m.drop := Wired.of_no_pending hw.active rfl

theorem Wired.activeState (hk : m.active = some k) : ∃ o, m.objects[k]? = some o := by
  exact ⟨_, getElem?_eq_getElem (hw.active k hk)⟩

omit hw in
theorem of_new {maxRoutes maxStreams : Int} (h : new maxRoutes maxStreams = .ok m) :
    m.objects = [] ∧ m.active = none ∧ m.pending = none ∧ m.leases = [] ∧ Wired m := by
  unfold new at h
  split at h
  · cases h
  cases h
  exact ⟨rfl, rfl, rfl, rfl, nofun, nofun, nofun⟩

/-- **A promotion**: the object is the active one, and the old one, if there is one, only stops to accept. -/
structure Promoted (m : Memory) (k : Nat) (o : GenerationObject) (m' : Memory) : Prop where
  active : m'.active = some k
  pending : m'.pending = none
  closed : m'.closed = m.closed
  length : m'.objects.length = m.objects.length
  leases : m'.leases = m.leases
  routes : m'.maximumRoutes = m.maximumRoutes
  streams : m'.maximumStreams = m.maximumStreams
  row : m'.objects[k]? = some { o with accepting := true }
  others : ∀ (i : Nat) (x : GenerationObject), i ≠ k → m'.objects[i]? = some x →
    ∃ x₀ : GenerationObject, m.objects[i]? = some x₀
      ∧ (m.active ≠ some i ∧ x = x₀ ∨ m.active = some i ∧ x = { x₀ with accepting := false })

variable (hk : m.pending = some k) (ho : m.objects[k]? = some o)

include hk ho

theorem promoted : Promoted m k o (m.promote k o) := by
  unfold promote
  cases hact : m.active with
  | none =>
    refine ⟨rfl, rfl, rfl, length_set, rfl, rfl, rfl, get_set_self ho, fun i x hi hx => ?_⟩
    exact ⟨x, (get_set_ne hi).symm.trans hx, .inl ⟨by simp [hact], rfl⟩⟩
  | some old =>
    have hne : old ≠ k := by
      rintro rfl
      exact hw.apart old hk hact
    obtain ⟨oldState, hold⟩ := hw.activeState hact
    have hkept : (m.objects.set k { o with accepting := true })[old]? = some oldState :=
      (get_set_ne hne).trans hold
    simp only [write, hkept]
    refine ⟨rfl, rfl, rfl, by simp, rfl, rfl, rfl, ?_, fun i x hi hx => ?_⟩
    · exact (get_set_ne hne.symm).trans (get_set_self ho)
    · rcases get_set hx with ⟨rfl, rfl⟩ | ⟨hi', hx⟩
      · exact ⟨oldState, hold, .inr ⟨hact, rfl⟩⟩
      · exact ⟨x, (get_set_ne hi).symm.trans hx, .inl ⟨by simp [hact, hi'.symm], rfl⟩⟩

theorem Wired.promote : Wired (m.promote k o) := by
  have h := promoted hw hk ho
  refine Wired.of_no_pending (fun i hi => ?_) h.pending
  rw [h.active] at hi
  rw [h.length, ← some.inj hi]
  exact lt_of_get ho

theorem view_promote : (m.promote k o).view
      = { m.view with active := some { o.toGenerationState with accepting := true }, pending := none } := by
  have h := promoted hw hk ho
  unfold view activeState pendingState
  rw [h.active, h.pending, h.closed, h.routes, bind_some, h.row]
  rfl

omit hk ho

omit hw in
theorem closeLease_view {l : Nat} {lease : StreamLease} : (m.closeLease l lease).1.view = m.view := by
  unfold closeLease
  split
  · rfl
  dsimp only
  split
  · rfl
  next o ho =>
  have hwritten :
      Unseen { m with leases := m.leases.set l { lease with closed := true } } (write _ lease.state o.release) :=
    calm_write ho rfl
  exact hwritten.view

theorem Wired.closeLease {l : Nat} {lease : StreamLease} : Wired (m.closeLease l lease).1 := by
  unfold Memory.closeLease
  split
  · exact hw
  dsimp only
  have hleases : Wired { m with leases := m.leases.set l { lease with closed := true } } :=
    ⟨hw.active, hw.pending, hw.apart⟩
  split
  · exact hleases
  · exact hleases.of_frame frame_write

theorem Wired.close : Wired m.close := by
  have hcl : Wired { m with closed := true } := ⟨hw.active, hw.pending, hw.apart⟩
  exact hcl.of_frame unseen_close.frame

end Memory

/-- **Every section keeps the memory wired.** -/
theorem Point.Effect.wired {p : Point} {s : Section} {m' : Memory} {c : CallState} (h : p.Effect toASCII s m' c)
    (hw : p.memory.Wired) : m'.Wired := by
  cases h with
  | idle => exact hw
  | staged => exact (hw.of_frame unseen_cancelPending.frame).add
  | readied => exact hw.of_frame frame_write
  | promoted _ hk ho => exact hw.promote hk ho
  | discarded => exact (hw.of_frame unseen_cancelPending.frame).drop
  | acquired => exact hw.lend
  | released => exact hw.closeLease
  | drained => exact hw.of_frame unseen_markDrained.frame
  | forced => exact hw.of_frame unseen_cancel.frame
  | closed => exact hw.close

end PaperboatTunnel.Route
