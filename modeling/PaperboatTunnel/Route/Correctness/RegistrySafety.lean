import PaperboatTunnel.Route.Acceptance
import PaperboatTunnel.Route.SharedSteps

/-!
# `RegistrySafety` — generations become active in order, and only after they were staged and marked

The invariant of one call after the other (`Ordered`) also holds when calls interleave, because each section does
to what callers see (`Memory.view`) what one of the calls does, or nothing. The rest is history.
-/

namespace PaperboatTunnel.Route

open TransitionSystem Memory List Option Table

/-! ## What callers see -/

namespace GenerationRegistry

/-- What one section can do to what callers see. -/
inductive Sees (g : GenerationRegistry) : GenerationRegistry → Prop
  | same : Sees g g
  | staged {generation normalized g'} (hzero : generation ≠ 0) (h : StagedAs g generation normalized g') : Sees g g'
  | marked {g'} (h : MarkedAs g g') : Sees g g'
  | activated {generation g'} (h : ActivatedAs g generation g') : Sees g g'
  | dropped : Sees g { g with pending := none }
  | closed : Sees g g.close

theorem Ordered.sees {g g' : GenerationRegistry} (ho : Ordered g) (h : Sees g g') : Ordered g' := by
  cases h with
  | same => exact ho
  | staged hzero h => exact ho.staged hzero h
  | marked h => exact ho.marked h
  | activated h => exact ho.activated h
  | dropped =>
    refine ⟨ho.accepting, ?_, ?_⟩
    · intro p hp
      cases hp
    · intro s p _ hp
      cases hp
  | closed => exact ⟨ho.accepting, ho.pending, ho.order⟩

end GenerationRegistry

variable {k : Nat} {tr : Trace Point Section}

namespace Memory

variable {m : Memory} {o : GenerationObject} {state : GenerationState}

theorem view_active (h : m.activeState = some o) : m.view.active = some o.toGenerationState := by
  unfold view
  rw [h]
  rfl

theorem view_pending (h : m.pendingState = some o) : m.view.pending = some o.toGenerationState := by
  unfold view
  rw [h]
  rfl

theorem pendingState_eq (hk : m.pending = some k) (ho : m.objects[k]? = some o) : m.pendingState = some o := by
  rw [pendingState, hk]
  exact ho

end Memory

variable {toASCII : ToASCII} {p : Point} {s : Section} {m' : Memory} {c : CallState}

/-- **Each section does to what callers see what one call does, or nothing.** -/
theorem Point.Effect.sees (h : p.Effect toASCII s m' c) (hw : p.memory.Wired) : p.memory.view.Sees m'.view := by
  cases h with
  | idle => exact .same
  | @staged _ _ _ _ _ hzero _ _ hact hpend =>
    rw [view_add (hw.of_frame unseen_cancelPending.frame), unseen_cancelPending.view]
    refine .staged hzero (.added ?_ ?_)
    · intro state hst
      obtain ⟨o, ho, rfl⟩ := map_eq_some_iff.mp hst
      exact hact o ho
    · intro state hst
      obtain ⟨o, ho, rfl⟩ := map_eq_some_iff.mp hst
      exact hpend o ho
  | @readied _ k o _ _ _ hk ho =>
    have hact : (p.memory.write k { o with ready := true }).activeState = p.memory.activeState := by
      refine bind_congr (fun i hi => get_set_ne ?_)
      rintro rfl
      exact hw.apart i hk hi
    have hpend : (p.memory.write k { o with ready := true }).pendingState = some { o with ready := true } :=
      pendingState_eq hk (get_set_self ho)
    have hview : (p.memory.write k { o with ready := true }).view
        = { p.memory.view with pending := some { o.toGenerationState with ready := true } } := by
      unfold view
      rw [hact, hpend]
      rfl
    rw [hview]
    exact .marked (.ready (view_pending (pendingState_eq hk ho)))
  | @promoted _ _ _ hk ho hready =>
    rw [view_promote hw hk ho]
    exact .activated (.promoted (view_pending (pendingState_eq hk ho)) rfl hready)
  | discarded =>
    rw [view_drop, unseen_cancelPending.view]
    exact .dropped
  | @acquired k o found _ ho =>
    have hwritten : Unseen p.memory (p.memory.write k { o with streams := o.streams + 1 }) := calm_write ho rfl
    have hview : (p.memory.lend k o found).view = p.memory.view := hwritten.view
    rw [hview]
    exact .same
  | released =>
    rw [closeLease_view]
    exact .same
  | drained =>
    rw [unseen_markDrained.view]
    exact .same
  | forced =>
    rw [unseen_cancel.view]
    exact .same
  | closed =>
    rw [unseen_close.view]
    exact .closed

/-! ## Objects keep their number and their rules -/

namespace Memory

/-- Every object of the second memory is one of the first, up to what callers do not see. -/
def Keeps (m m' : Memory) : Prop := ∀ (k : Nat) (o' : GenerationObject), m'.objects[k]? = some o' →
    ∃ o : GenerationObject, m.objects[k]? = some o ∧ o'.toGenerationState = o.toGenerationState

variable {m : Memory} {o o' : GenerationObject}

theorem Keeps.refl (m : Memory) : Keeps m m := fun _ o h => ⟨o, h, rfl⟩

theorem Calm.keeps (h : Unseen m m') : Keeps m m' := fun _ _ ho' => h.agree.row ho'

theorem keeps_write (ho : m.objects[k]? = some o) (hsame : o'.toGenerationState = o.toGenerationState) :
    Keeps m (m.write k o') :=
  (calm_write ho hsame).keeps

theorem keeps_closeLease {l : Nat} {lease : StreamLease} : Keeps m (m.closeLease l lease).1 := by
  unfold closeLease
  split
  · exact Keeps.refl m
  dsimp only
  split
  · exact Keeps.refl m
  · next o ho => exact keeps_write ho rfl

end Memory

/-! ## The history of an object -/

/-- The transition staged the object under its generation, with the rules that `normalizeRules` returned. -/
def StagedBy (toASCII : ToASCII) (t : Transition Point Section) (k : Nat)
    (generation : UInt64) (rules : List RouteRule) : Prop :=
  ∃ supplied, t.label.Stages generation supplied
    ∧ normalizeRules toASCII generation supplied t.pre.memory.maximumRoutes = .ok rules
    ∧ t.post.memory.pending = some k

/-- The transition marked the object under its generation, while it was pending. -/
def MarkedBy (t : Transition Point Section) (k : Nat) (generation : UInt64) : Prop :=
  t.pre.Marks t.label generation ∧ t.pre.memory.pending = some k

/-- Where an object after a section comes from: it was there with the same number and rules, and it is ready
    only if it was or if the section marked it; or the section staged it. -/
inductive From (toASCII : ToASCII) (p : Point) (s : Section) (m' : Memory) (k : Nat)
    (o' : GenerationObject) : Prop
  | kept {o} (ho : p.memory.objects[k]? = some o) (hgen : o'.generation = o.generation) (hrules : o'.rules = o.rules)
      (hready : o'.ready = o.ready ∨ (p.Marks s o.generation ∧ p.memory.pending = some k))
  | staged {supplied} (hs : s.Stages o'.generation supplied)
      (hrules : normalizeRules toASCII o'.generation supplied p.memory.maximumRoutes = .ok o'.rules)
      (hpending : m'.pending = some k) (hready : o'.ready = false)

variable {o' : GenerationObject}

theorem From.of_state {o : GenerationObject} (ho : p.memory.objects[k]? = some o)
    (hsame : o'.toGenerationState = o.toGenerationState) : From toASCII p s m' k o' := by
  have hgen : o'.generation = o.generation := congrArg GenerationState.generation hsame
  have hrules : o'.rules = o.rules := congrArg GenerationState.rules hsame
  have hready : o'.ready = o.ready := congrArg GenerationState.ready hsame
  exact .kept ho hgen hrules (.inl hready)

theorem From.of_keeps (h : p.memory.Keeps m') (ho' : m'.objects[k]? = some o') : From toASCII p s m' k o' := by
  obtain ⟨_, ho, hsame⟩ := h k o' ho'
  exact .of_state ho hsame

/-- **Where every object comes from.** -/
theorem Point.Effect.from (h : p.Effect toASCII s m' c) (hw : p.memory.Wired) (ho' : m'.objects[k]? = some o') :
    From toASCII p s m' k o' := by
  cases h with
  | idle => exact From.of_keeps (Memory.Keeps.refl _) ho'
  | @staged _ _ _ _ hs _ hrules =>
    rcases get_snoc ho' with hold | ⟨rfl, rfl⟩
    · obtain ⟨_, ho, hsame⟩ := unseen_cancelPending.keeps k o' hold
      exact .of_state ho hsame
    · exact .staged hs hrules rfl rfl
  | @readied _ _ _ _ hs _ hi ho hgen =>
    rcases get_set ho' with ⟨rfl, rfl⟩ | ⟨_, hold⟩
    · exact .kept ho rfl rfl (.inr ⟨hgen ▸ hs, hi⟩)
    · exact .kept hold rfl rfl (.inl rfl)
  | @promoted i _ _ hi ho =>
    have hpromote := Memory.promoted hw hi ho
    by_cases hk : k = i
    · subst hk
      obtain rfl := mem_unique hpromote.row ho'
      exact .kept ho rfl rfl (.inl rfl)
    · obtain ⟨x, hx, ⟨_, rfl⟩ | ⟨_, rfl⟩⟩ := hpromote.others k o' hk ho'
      · exact .kept hx rfl rfl (.inl rfl)
      · exact .kept hx rfl rfl (.inl rfl)
  | discarded =>
    have hkeeps : p.memory.Keeps p.memory.cancelPending.drop := (unseen_cancelPending (m := p.memory)).keeps
    exact From.of_keeps hkeeps ho'
  | @acquired i o found _ ho =>
    have hkeeps : p.memory.Keeps (p.memory.lend i o found) := keeps_write ho rfl
    exact From.of_keeps hkeeps ho'
  | released => exact From.of_keeps keeps_closeLease ho'
  | drained => exact From.of_keeps unseen_markDrained.keeps ho'
  | forced => exact From.of_keeps unseen_cancel.keeps ho'
  | closed => exact From.of_keeps unseen_close.keeps ho'

/-- What a run has recorded about the objects and the calls of the point it reaches. -/
structure History (toASCII : ToASCII) (tr : Trace Point Section) (p : Point) :
    Prop where
  wired : p.memory.Wired
  ordered : p.memory.view.Ordered
  staged : ∀ k o, p.memory.objects[k]? = some o → ∃ t ∈ tr, StagedBy toASCII t k o.generation o.rules
  marked : ∀ k o, p.memory.objects[k]? = some o → o.ready = true →
    ∃ tr₁ t tr₂, tr = tr₁ ++ t :: tr₂ ∧ MarkedBy t k o.generation
      ∧ ∃ u ∈ tr₁, StagedBy toASCII u k o.generation o.rules

theorem History.init {m : Memory} {maxRoutes maxStreams : Int}
    (h : new maxRoutes maxStreams = .ok m) : History toASCII [] ⟨m, []⟩ := by
  obtain ⟨hobjects, hact, hpend, _, hwired⟩ := Memory.of_new h
  refine ⟨hwired, ⟨?_, ?_, ?_⟩, ?_, ?_⟩
  · simp [view, activeState, hact]
  · simp [view, pendingState, hpend]
  · simp [view, activeState, hact]
  · simp [hobjects]
  · simp [hobjects]

theorem History.step {q : Point} (h : History toASCII tr p) (hstep : p.step toASCII s = some q) :
    History toASCII (tr ++ [⟨p, s, q⟩]) q := by
  obtain ⟨_, heff, _⟩ := Point.step_effect hstep
  refine ⟨heff.wired h.wired, h.ordered.sees (heff.sees h.wired), ?_, ?_⟩
  · intro k o' ho'
    cases heff.from h.wired ho' with
    | @kept o ho hgen hrules =>
      obtain ⟨t, ht, hstaged⟩ := h.staged k o ho
      rw [hgen, hrules]
      exact ⟨t, mem_append_left _ ht, hstaged⟩
    | @staged supplied hs hrules hpend => exact ⟨⟨p, s, q⟩, by simp, supplied, hs, hrules, hpend⟩
  · intro k o' ho' hready
    cases heff.from h.wired ho' with
    | @kept o ho hgen hrules hcases =>
      rw [hgen, hrules]
      by_cases hold : o.ready = true
      · -- it was ready before: the same two transitions
        obtain ⟨tr₁, t, tr₂, rfl, hmarked, hstaged⟩ := h.marked k o ho hold
        exact ⟨tr₁, t, tr₂ ++ [⟨p, s, q⟩], by simp, hmarked, hstaged⟩
      rcases hcases with hsame | ⟨hmarks, hpend⟩
      · rw [hsame] at hready
        exact absurd hready hold
      · -- this section marked it, and it was staged before
        exact ⟨tr, ⟨p, s, q⟩, [], rfl, ⟨hmarks, hpend⟩, h.staged k o ho⟩
    | staged _ _ _ hnot =>
      rw [hnot] at hready
      cases hready

/-! ## Activations -/

/-- The number and the rules that requests are matched against. -/
def Memory.serving (m : Memory) : Option (UInt64 × List RouteRule) :=
  m.activeState.map (fun o => (o.generation, o.rules))

theorem Memory.serving_eq {m m' : Memory} (h : m'.view.active = m.view.active) : m'.serving = m.serving := by
  have hview (m : Memory) : m.serving = m.view.active.map (fun s => (s.generation, s.rules)) := by
    unfold serving view
    rw [Option.map_map]
    rfl
  rw [hview, hview, h]

/-- **Only a promotion changes what is active**, and the call that does it has not failed. -/
theorem Point.Effect.activity (h : p.Effect toASCII s m' c) (hw : p.memory.Wired) :
    (m'.active = p.memory.active ∧ m'.serving = p.memory.serving)
      ∨ ∃ k o, p.memory.pending = some k ∧ p.memory.objects[k]? = some o ∧ o.ready = true
          ∧ m' = p.memory.promote k o ∧ ¬ c.Early := by
  have hpend : p.memory.Frame p.memory.cancelPending := unseen_cancelPending.frame
  cases h with
  | idle => exact .inl ⟨rfl, rfl⟩
  | staged =>
    refine .inl ⟨hpend.active, serving_eq ?_⟩
    rw [view_add (hw.of_frame hpend), unseen_cancelPending.view]
  | readied _ _ _ ho | acquired _ ho =>
    refine .inl ⟨rfl, Agree.read (f := fun o => (o.generation, o.rules)) ?_ p.memory.active⟩
    exact map_set_of_eq ho rfl
  | @promoted k o _ hk ho hready =>
    refine .inr ⟨k, o, hk, ho, hready, rfl, ?_⟩
    unfold handOver
    split
    · split
      · exact id
      · exact id
    · exact id
  | discarded =>
    refine .inl ⟨hpend.active, serving_eq ?_⟩
    rw [view_drop, unseen_cancelPending.view]
  | @released _ _ _ hlive =>
    refine .inl ⟨?_, serving_eq (by rw [closeLease_view])⟩
    unfold closeLease
    rw [if_neg (by simp [hlive])]
    dsimp only
    split
    · rfl
    · rfl
  | drained => exact .inl ⟨unseen_markDrained.frame.active, serving_eq (by rw [unseen_markDrained.view])⟩
  | forced => exact .inl ⟨unseen_cancel.frame.active, serving_eq (by rw [unseen_cancel.view])⟩
  | closed => exact .inl ⟨unseen_close.frame.active, serving_eq (by rw [unseen_close.view]; rfl)⟩

/-! ## Calls that fail -/

/-- No section of a call that has activated nothing has changed what is active. -/
structure Blameless (tr : Trace Point Section) (p : Point) : Prop where
  calls : ∀ t ∈ tr, t.pre.callOf t.label < p.calls.length
  early : ∀ i c, p.calls[i]? = some c → c.Early → ∀ t ∈ tr, t.pre.callOf t.label = i →
    t.post.memory.serving = t.pre.memory.serving

theorem Blameless.init {m : Memory} : Blameless [] ⟨m, []⟩ := by
  constructor
  · intro t ht
    cases ht
  · intro i c hc
    simp at hc

theorem Blameless.step {q : Point} (h : Blameless tr p) (hw : p.memory.Wired) (hstep : p.step toASCII s = some q) :
    Blameless (tr ++ [⟨p, s, q⟩]) q := by
  obtain ⟨c, heff, hrecords⟩ := Point.step_effect hstep
  -- this section is blameless if its call is early afterwards
  have hnow : c.Early → q.memory.serving = p.memory.serving := by
    intro hearly
    rcases heff.activity hw with ⟨_, hsame⟩ | ⟨_, _, _, _, _, _, hnot⟩
    · exact hsame
    · exact absurd hearly hnot
  obtain ⟨_, _⟩ := q
  cases hrecords with
  | start hs =>
    have hcall : p.callOf s = p.calls.length := congrArg (Option.getD · p.calls.length) hs
    constructor
    · intro t ht
      show _ < (p.calls ++ [c]).length
      rw [length_append, length_singleton]
      rcases mem_snoc ht with hold | rfl
      · have hlt := h.calls t hold
        omega
      · rw [hcall]
        omega
    · intro i c' hc' hearly t ht hcallOf
      rcases mem_snoc ht with hold | rfl
      · rcases get_snoc hc' with hin | ⟨rfl, _⟩
        · exact h.early i c' hin hearly t hold hcallOf
        · have hlt := h.calls t hold
          omega
      · rcases get_snoc hc' with hin | ⟨_, rfl⟩
        · have hlt := lt_of_get hin
          have heq : p.calls.length = i := hcall.symm.trans hcallOf
          omega
        · exact hnow hearly
  | @resume j before hs hj hbefore =>
    have hcall : p.callOf s = j := congrArg (Option.getD · p.calls.length) hs
    constructor
    · intro t ht
      show _ < (p.calls.set j c).length
      rw [length_set]
      rcases mem_snoc ht with hold | rfl
      · exact h.calls t hold
      · rw [hcall]
        exact lt_of_get hj
    · intro i c' hc' hearly t ht hcallOf
      rcases get_set hc' with ⟨rfl, rfl⟩ | ⟨hne, hin⟩
      · rcases mem_snoc ht with hold | rfl
        · exact h.early i before hj (hbefore hearly) t hold hcallOf
        · exact hnow hearly
      · rcases mem_snoc ht with hold | rfl
        · exact h.early i c' hin hearly t hold hcallOf
        · exact absurd (hcallOf.symm.trans hcall) hne

/-- **Generations become active in order.** In every interleaving of the calls of a new registry: a pending
    generation is later than the active one. What is active changes only to an object with a later number, which
    an earlier section staged under that number, with the rules `normalizeRules` returned, and a section between
    marked while it was pending. And no section of a call that returns an error, other than from the wait for the
    old streams, has changed the active number or its rules. -/
theorem registry_safe (toASCII : ToASCII) (maximumRoutes maximumStreams : Int) (m : Memory)
    (hnew : new maximumRoutes maximumStreams = .ok m) (tr : Trace Point Section) (q : Point)
    (hrun : Run (Point.step toASCII) ⟨m, []⟩ tr q) :
    (∀ a b, q.memory.activeState = some a → q.memory.pendingState = some b → a.generation < b.generation) ∧
    (∀ before t after, tr = before ++ t :: after →
      (t.post.memory.active ≠ t.pre.memory.active ∨ t.post.memory.serving ≠ t.pre.memory.serving) →
      ∃ k o, t.post.memory.active = some k ∧ t.post.memory.objects[k]? = some o
        ∧ (∀ a, t.pre.memory.activeState = some a → a.generation < o.generation)
        ∧ ∃ tr₁ v tr₂, before = tr₁ ++ v :: tr₂ ∧ MarkedBy v k o.generation
          ∧ ∃ u ∈ tr₁, StagedBy toASCII u k o.generation o.rules) ∧
    (∀ i err, q.calls[i]? = some (.returned (some err)) → ∀ t ∈ tr, t.pre.callOf t.label = i →
      t.post.memory.serving = t.pre.memory.serving) := by
  have hhistory {tr : Trace Point Section} {q : Point}
      (hrun : Run (Point.step toASCII) ⟨m, []⟩ tr q) : History toASCII tr q :=
    hrun.trace_invariant (History.init hnew) (·.step ·)
  refine ⟨?_, ?_, ?_⟩
  · intro a b ha hb
    exact (hhistory hrun).ordered.order _ _ (view_active ha) (view_pending hb)
  · intro before t after heq hchange
    rw [heq] at hrun
    obtain ⟨hpre, hstep, _⟩ := hrun.through
    have h := hhistory hpre
    obtain ⟨_, heff, _⟩ := Point.step_effect hstep
    rcases heff.activity h.wired with ⟨hact, hserving⟩ | ⟨k, o, hk, ho, hready, hpost, _⟩
    · exact absurd hchange (by simp [hact, hserving])
    have hpromote := promoted h.wired hk ho
    rw [← hpost] at hpromote
    refine ⟨k, _, hpromote.active, hpromote.row, ?_, h.marked k o ho hready⟩
    intro a ha
    have hlater : a.generation < o.generation :=
      h.ordered.order _ _ (view_active ha) (view_pending (pendingState_eq hk ho))
    exact hlater
  · have hboth : History toASCII tr q ∧ Blameless tr q :=
      hrun.trace_invariant (I := fun tr q => History toASCII tr q ∧ Blameless tr q)
        ⟨History.init hnew, Blameless.init⟩
        (fun h hs => ⟨h.1.step hs, h.2.step h.1.wired hs⟩)
    intro i err hi t ht hcall
    exact hboth.2.early i _ hi trivial t ht hcall

/-! ## A generation that is replaced while a stream is open -/

def smallRegistry : Memory := { maximumRoutes := 8, maximumStreams := 2 }

/-- The zone is active under 1 and has a stream. `ApplyGeneration` replaces it by the wildcard alone under 2 and
    waits; in that gap a stale stage is refused, generation 3 is staged, and the stream ends. -/
def handoverSections : List Section :=
  [ .stage 1 zoneRules, .markReady 1, .activate 1, .acquire "app.example.test" [slash],
    .apply 2 (zoneRules.drop 1) true, .confirm 4 none, .applyMark 4, .applyActivate 4, .stage 1 zoneRules,
    .stage 3 zoneRules, .closeLease 0, .markDrained 7, .drainEnd 4 .drained ]

/-- Generation 2 is active and 3 is pending after it; the stale stage has changed nothing. -/
theorem registry_safe_handover :
    let q := (exec (Point.step some) ⟨smallRegistry, []⟩ handoverSections).getD ⟨smallRegistry, []⟩
    q.memory.activeState.map (fun o => o.generation) = some 2
      ∧ q.memory.pendingState.map (fun o => o.generation) = some 3
      ∧ q.calls[5]? = some (.returned (some .generationStale))
      ∧ (∀ a b, q.memory.activeState = some a → q.memory.pendingState = some b → a.generation < b.generation)
      ∧ ∀ t ∈ trace (Point.step some) ⟨smallRegistry, []⟩ handoverSections, t.pre.callOf t.label = 5 →
          t.post.memory.serving = t.pre.memory.serving := by
  intro q
  obtain ⟨horder, _, hfailed⟩ := registry_safe some 8 2 smallRegistry rfl _ q (exec_getD_run (by decide +kernel))
  have hstale : q.calls[5]? = some (.returned (some .generationStale)) := by decide +kernel
  exact ⟨by decide +kernel, by decide +kernel, hstale, horder, hfailed 5 _ hstale⟩

end PaperboatTunnel.Route
