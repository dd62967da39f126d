import PaperboatTunnel.Route.Generations

/-!
# `Promotion` — what a generation that was staged, marked and activated leaves behind

One case lemma for each of the three calls, and what the three together establish: the rules that were staged are the
rules of the active generation (`Promotes.active_rules`). `Ordered` is the invariant they rest on.
-/

namespace PaperboatTunnel.Route.GenerationRegistry

open Option

variable {toASCII : ToASCII} {g g' : GenerationRegistry} {gen : UInt64}
  {rules normalized : List RouteRule} {drain : Drain}

/-! ## The invariant -/

/-- Generations are never 0, the active one accepts requests, and a pending one is later than it. -/
structure Ordered (g : GenerationRegistry) : Prop where
  accepting : ∀ s, g.active = some s → s.accepting = true ∧ s.generation ≠ 0
  pending : ∀ p, g.pending = some p → p.generation ≠ 0
  order : ∀ s p, g.active = some s → g.pending = some p → s.generation < p.generation

theorem Ordered.new (maxRoutes : Int) : Ordered (new maxRoutes) := ⟨nofun, nofun, nofun⟩

theorem Ordered.generation_eq {s : GenerationState} (h : Ordered g) (hs : g.active = some s) :
    g.generation = s.generation := by
  unfold GenerationRegistry.generation
  rw [hs]
  simp [(h.accepting s hs).1]

def top (g : GenerationRegistry) : UInt64 :=
  match g.pending, g.active with
  | some p, _ => p.generation
  | none, some s => s.generation
  | none, none => 0

/-! ## Staging -/

variable (g : GenerationRegistry) (generation : UInt64) (normalized : List RouteRule) in
/-- **The ways a stage succeeds**: a new pending generation, or the rules are already there. -/
inductive StagedAs : GenerationRegistry → Prop
  | added (hactive : ∀ s, g.active = some s → s.generation < generation)
      (hpending : ∀ p, g.pending = some p → p.generation < generation) :
      StagedAs { g with pending := some { generation, rules := normalized } }
  | active {s} (hs : g.active = some s) (hgen : s.generation = generation) (hrules : s.rules = normalized) :
      StagedAs g
  | pending {p} (hp : g.pending = some p) (hgen : p.generation = generation) (hrules : p.rules = normalized) :
      StagedAs g

theorem restage_none {state : GenerationState} (h : restage state gen rules = none) : state.generation < gen := by
  unfold restage at h
  split at h
  · cases h
  next hge =>
  split at h
  · split at h <;> cases h
  next hne =>
  exact UInt64.lt_of_le_of_ne (UInt64.not_lt.mp hge) (fun heq => hne heq.symm)

theorem restage_ok {state : Option GenerationState} (h : state.bind (fun s => restage s gen rules) = some none) :
    ∃ s, state = some s ∧ s.generation = gen ∧ s.rules = rules := by
  obtain ⟨s, hs, h⟩ := bind_eq_some_iff.mp h
  unfold restage at h
  split at h
  · cases h
  split at h
  · next heq =>
    split at h
    · next hrules => exact ⟨s, hs, heq.symm, hrules⟩
    · cases h
  · cases h

/-- **A stage is refused and changes nothing, or it succeeds.** -/
theorem stageGeneration_cases : (∃ err, g.stageGeneration toASCII gen rules = (g, some err)) ∨
    ∃ g' normalized, g.stageGeneration toASCII gen rules = (g', none)
      ∧ normalizeRules toASCII gen rules g.maximumRoutes = .ok normalized
      ∧ gen ≠ 0 ∧ StagedAs g gen normalized g' := by
  fun_cases stageGeneration toASCII g gen rules with
  | case4 hzero normalized hnorm _ res hactive =>
    cases res with
    | some err => exact .inl ⟨err, rfl⟩
    | none =>
      obtain ⟨_, hs, hgen, hrules⟩ := restage_ok hactive
      exact .inr ⟨_, _, rfl, hnorm, hzero, .active hs hgen hrules⟩
  | case5 hzero normalized hnorm _ _ res hpending =>
    cases res with
    | some err => exact .inl ⟨err, rfl⟩
    | none =>
      obtain ⟨_, hp, hgen, hrules⟩ := restage_ok hpending
      exact .inr ⟨_, _, rfl, hnorm, hzero, .pending hp hgen hrules⟩
  | case6 hzero normalized hnorm _ hactive hpending =>
    refine .inr ⟨_, _, rfl, hnorm, hzero, .added (fun s hs => ?_) (fun p hp => ?_)⟩
    · rw [hs] at hactive
      exact restage_none hactive
    · rw [hp] at hpending
      exact restage_none hpending
  | _ => exact .inl ⟨_, rfl⟩

theorem stageGeneration_ok (h : g.stageGeneration toASCII gen rules = (g', none)) :
    ∃ normalized, normalizeRules toASCII gen rules g.maximumRoutes = .ok normalized
      ∧ gen ≠ 0 ∧ StagedAs g gen normalized g' := by
  rcases stageGeneration_cases (g := g) with ⟨err, heq⟩ | ⟨_, normalized, heq, hstaged⟩
  · cases heq.symm.trans h
  · cases heq.symm.trans h
    exact ⟨normalized, hstaged⟩

theorem StagedAs.frame (h : StagedAs g gen normalized g') : g' = { g with pending := g'.pending } := by
  cases h with
  | added | active | pending => rfl

theorem Ordered.staged (ho : Ordered g) (hzero : gen ≠ 0) (h : StagedAs g gen normalized g') : Ordered g' := by
  cases h with
  | added hactive =>
    refine ⟨ho.accepting, fun p hp => ?_, fun s p hs hp => ?_⟩
    · rw [← some.inj hp]
      exact hzero
    · rw [← some.inj hp]
      exact hactive s hs
  | active | pending => exact ho

/-! ## Marking -/

/-- A mark changes at most whether the pending generation is ready. -/
inductive MarkedAs (g : GenerationRegistry) : GenerationRegistry → Prop
  | same : MarkedAs g g
  | ready {p} (hp : g.pending = some p) : MarkedAs g { g with pending := some { p with ready := true } }

theorem markGenerationReady_cases : MarkedAs g (g.markGenerationReady gen).1 := by
  fun_cases markGenerationReady g gen with
  | case3 _ _ _ hp => exact .ready hp
  | _ => exact .same

theorem MarkedAs.pending (h : MarkedAs g g') :
    g'.pending.map (fun p => (p.generation, p.rules)) = g.pending.map (fun p => (p.generation, p.rules)) := by
  cases h with
  | same => rfl
  | ready hp => rw [hp]; rfl

theorem StagedAs.marked {g₁ : GenerationRegistry} (h : StagedAs g gen normalized g₁) (hmark : MarkedAs g₁ g') :
    g' = { g with pending := g'.pending } := by
  cases hmark with
  | same => exact h.frame
  | ready => rw [h.frame]

theorem Ordered.marked (ho : Ordered g) (h : MarkedAs g g') : Ordered g' := by
  cases h with
  | same => exact ho
  | @ready p hp =>
    refine ⟨ho.accepting, fun p' hp' => ?_, fun s p' hs hp' => ?_⟩
    · cases hp'
      exact ho.pending p hp
    · cases hp'
      exact ho.order s p hs hp

/-! ## Activation -/

/-- **An activation changes nothing, or makes the pending generation the active one.** -/
inductive ActivatedAs (g : GenerationRegistry) (generation : UInt64) : GenerationRegistry → Prop
  | same : ActivatedAs g generation g
  | promoted {p} (hp : g.pending = some p) (hgen : p.generation = generation) (hready : p.ready = true) :
      ActivatedAs g generation { g with active := some { p with accepting := true }, pending := none }

/-- The call ends with the generation active, also when the wait for the old one was given up or cancelled. -/
def Activates (err : Option Error) : Prop := err = none ∨ err = some .drainTimeout ∨ err = some .context

theorem not_activates_stale (stale : Prop) [Decidable stale] :
    ¬ Activates (some (if stale then .generationStale else .generationNotReady)) := by
  rintro (h | h | h)
  · cases h
  · split at h <;> cases h
  · split at h <;> cases h

variable (g : GenerationRegistry) (generation : UInt64) (drain : Drain) in
/-- How an activation ends: it is refused, or there is nothing to do, or the pending generation is promoted and only
    the wait for the old one can fail. -/
inductive Activation : GenerationRegistry × Option Error → Prop
  | refused {err} (herr : ¬ Activates (some err)) : Activation (g, some err)
  | already (hactive : g.active.any (fun state => state.generation == generation) = true)
      (hpending : g.pending = none) : Activation (g, none)
  | promoted {p} (hp : g.pending = some p) (hgen : p.generation = generation) (hready : p.ready = true) :
      Activation ({ g with active := some { p with accepting := true }, pending := none },
          if g.active.isNone then none else drain.error)

theorem activateGeneration_activation : Activation g gen drain (g.activateGeneration gen drain) := by
  fun_cases activateGeneration g gen drain with
  | case1 | case5 => exact .refused (by simp [Activates])
  | case2 _ hactive => exact .already hactive.1 (isNone_iff_eq_none.mp hactive.2)
  | case3 | case4 => exact .refused (not_activates_stale _)
  | case6 _ _ p hp hgen hready => exact .promoted hp (not_not.mp hgen) (not_not.mp hready)

theorem activateGeneration_cases : ActivatedAs g gen (g.activateGeneration gen drain).1 := by
  have h : Activation g gen drain (g.activateGeneration gen drain) := activateGeneration_activation
  generalize g.activateGeneration gen drain = result at h
  cases h with
  | refused | already => exact .same
  | promoted hp hgen hready => exact .promoted hp hgen hready

/-- **When the call ends so, the generation is active and nothing is pending.** -/
theorem activateGeneration_active {err : Option Error}
    (h : g.activateGeneration gen drain = (g', err)) (herr : Activates err) :
    g'.active.any (fun state => state.generation == gen) = true ∧ g'.pending = none := by
  have hact : Activation g gen drain (g', err) := h ▸ activateGeneration_activation
  cases hact with
  | refused hrefused => exact absurd herr hrefused
  | already hactive hpending => exact ⟨hactive, hpending⟩
  | promoted _ hgen => exact ⟨by simpa using hgen, rfl⟩

theorem activateGeneration_refused {err : Option Error}
    (h : g.activateGeneration gen drain = (g', err)) (herr : ¬ Activates err) : g' = g := by
  have hact : Activation g gen drain (g', err) := h ▸ activateGeneration_activation
  cases hact with
  | refused | already => rfl
  | promoted =>
    -- the generation is promoted, and only the wait can fail
    refine absurd ?_ herr
    split
    · exact .inl rfl
    cases drain with
    | drained => exact .inl rfl
    | canceled => exact .inr (.inr rfl)
    | timedOut => exact .inr (.inl rfl)

theorem activateGeneration_context (h : g.activateGeneration gen drain = (g', some .context)) :
    drain = .canceled := by
  have hact : Activation g gen drain (g', some .context) := h ▸ activateGeneration_activation
  generalize hend : (g', some Error.context) = result at hact
  cases hact with
  | refused hrefused =>
    rw [← (Prod.mk.inj hend).2] at hrefused
    exact absurd (.inr (.inr rfl)) hrefused
  | already => cases (Prod.mk.inj hend).2
  | promoted =>
    have herr := (Prod.mk.inj hend).2
    split at herr
    · cases herr
    · cases drain with
      | canceled => rfl
      | drained | timedOut => cases herr

theorem Ordered.activated (ho : Ordered g) (h : ActivatedAs g gen g') : Ordered g' := by
  cases h with
  | same => exact ho
  | @promoted p hp =>
    refine ⟨fun s hs => ?_, nofun, nofun⟩
    cases hs
    exact ⟨rfl, ho.pending p hp⟩

/-! ## Every call -/

structure Kept (toASCII : ToASCII) (I : GenerationRegistry → Prop) : Prop where
  staged : ∀ {g g' generation rules normalized}, I g → generation ≠ 0 →
    normalizeRules toASCII generation rules g.maximumRoutes = .ok normalized → StagedAs g generation normalized g' → I g'
  marked : ∀ {g g'}, I g → MarkedAs g g' → I g'
  activated : ∀ {g g' generation}, I g → ActivatedAs g generation g' → I g'
  discarded : ∀ {g : GenerationRegistry}, I g → I { g with pending := none }
  closed : ∀ {g : GenerationRegistry}, I g → I g.close

variable {I : GenerationRegistry → Prop}

theorem Kept.stage (hI : Kept toASCII I) (h : I g) : I (g.stageGeneration toASCII gen rules).1 := by
  rcases stageGeneration_cases (g := g) with ⟨_, heq⟩ | ⟨_, _, heq, hnorm, hzero, hstaged⟩
  · rw [heq]
    exact h
  · rw [heq]
    exact hI.staged h hzero hnorm hstaged

theorem Kept.discard (hI : Kept toASCII I) (h : I g) : I (g.discardPending gen) := by
  unfold discardPending
  split
  · exact hI.discarded h
  · exact h

/-- **What the parts keep, every call keeps.** -/
theorem Kept.step {call : Call} (hI : Kept toASCII I) (h : I g) (hstep : g.step toASCII call = some g') : I g' := by
  cases call with
  | stage =>
    cases hstep
    exact hI.stage h
  | markReady =>
    cases hstep
    exact hI.marked h markGenerationReady_cases
  | activate =>
    cases hstep
    exact hI.activated h activateGeneration_cases
  | apply gen rules =>
    cases hstep
    have hstaged : I (g.stageGeneration toASCII gen rules).1 := hI.stage h
    unfold applyGeneration
    split
    · next g₁ err hstage =>
      rw [hstage] at hstaged
      exact hstaged
    next g₁ hstage =>
    rw [hstage] at hstaged
    split
    · exact hI.discard hstaged
    have hmarked : I (g₁.markGenerationReady gen).1 := hI.marked hstaged markGenerationReady_cases
    split
    · next g₂ err hmark =>
      rw [hmark] at hmarked
      exact hmarked
    next g₂ hmark =>
    rw [hmark] at hmarked
    exact hI.activated hmarked activateGeneration_cases
  | close =>
    cases hstep
    exact hI.closed h

/-- **Every call keeps the registry ordered.** -/
theorem Ordered.step {call : Call} (ho : Ordered g) (h : g.step toASCII call = some g') : Ordered g' := by
  refine Kept.step ?_ ho h
  exact
    { staged := fun ho hzero _ hstaged => ho.staged hzero hstaged
      marked := fun ho hmarked => ho.marked hmarked
      activated := fun ho hactivated => ho.activated hactivated
      discarded := fun ho => ⟨ho.accepting, nofun, nofun⟩
      closed := fun ho => ⟨ho.accepting, ho.pending, ho.order⟩ }

/-! ## The three together -/

/-- The rules were staged under this generation, and after marking and activating it is the active one. -/
structure Promotes (toASCII : ToASCII) (g : GenerationRegistry) (generation : UInt64)
    (rules : List RouteRule) (g' : GenerationRegistry) : Prop where
  staged : ∃ g₁ g₂, g.stageGeneration toASCII generation rules = (g₁, none) ∧ MarkedAs g₁ g₂
              ∧ ActivatedAs g₂ generation g'
  active : g'.active.any (fun state => state.generation == generation) = true
  pending : g'.pending = none

section Accepts

variable (hopen : g.closed = false) (hzero : gen ≠ 0)
  (hnorm : normalizeRules toASCII gen rules g.maximumRoutes = .ok normalized)
  (hactive : ∀ s, g.active = some s → s.generation < gen)
  (hpending : ∀ p, g.pending = some p → p.generation < gen ∨ (p.generation = gen ∧ p.rules = normalized))

include hopen hzero hnorm hactive hpending

theorem stageGeneration_accepts : ∃ g', g.stageGeneration toASCII gen rules = (g', none) := by
  have hnone (s : GenerationState) (hlt : s.generation < gen) : restage s gen normalized = none := by
    have hge : ¬ gen < s.generation := UInt64.not_lt.mpr (UInt64.le_of_lt hlt)
    have hne : gen ≠ s.generation := fun heq => UInt64.lt_irrefl _ (heq ▸ hlt)
    rw [restage, if_neg hge, if_neg hne]
  have hbind : g.active.bind (fun state => restage state gen normalized) = none := by
    cases hs : g.active with
    | none => rfl
    | some s => exact hnone s (hactive s hs)
  unfold stageGeneration
  rw [if_neg hzero, hnorm]
  simp only [hopen, hbind, Bool.false_eq_true, if_false]
  cases hp : g.pending with
  | none => exact ⟨_, rfl⟩
  | some p =>
    rcases hpending p hp with hlt | ⟨hgen, hrules⟩
    · rw [bind_some, hnone p hlt]
      exact ⟨_, rfl⟩
    have hsame : restage p gen normalized = some none := by
      rw [restage, hgen, if_neg (UInt64.lt_irrefl _), if_pos rfl, if_pos hrules]
    rw [bind_some, hsame]
    exact ⟨_, rfl⟩

/-- **A later generation with acceptable rules goes through all three calls**; only the wait for the old one can
    end with an error. -/
theorem promotion_accepts : ∃ g₁ g₂ g₃ err, g.stageGeneration toASCII gen rules = (g₁, none)
      ∧ g₁.markGenerationReady gen = (g₂, none)
      ∧ g₂.activateGeneration gen drain = (g₃, err) ∧ (err = none ∨ err = drain.error) := by
  obtain ⟨g₁, hstage⟩ := stageGeneration_accepts hopen hzero hnorm hactive hpending
  obtain ⟨_, _, _, hstaged⟩ := stageGeneration_ok hstage
  obtain ⟨p, hp, hgen⟩ : ∃ p, g₁.pending = some p ∧ p.generation = gen := by
    cases hstaged with
    | added => exact ⟨_, rfl, rfl⟩
    | pending hp hgen => exact ⟨_, hp, hgen⟩
    | active hs hgen => exact absurd hgen (UInt64.ne_of_lt (hactive _ hs))
  have hother : g₁.active.any (fun state => state.generation == gen) = false := by
    rw [hstaged.frame, any_eq_false]
    exact fun s hs => by simpa using UInt64.ne_of_lt (hactive s hs)
  have hopen₁ : g₁.closed = false := by
    rw [hstaged.frame]
    exact hopen
  have hmark : g₁.markGenerationReady gen = ({ g₁ with pending := some { p with ready := true } }, none) := by
    simp [markGenerationReady, hopen₁, hother, hp, hgen]
  refine ⟨g₁, _, _, _, hstage, hmark, Prod.mk.eta.symm, ?_⟩
  cases g₁.active with
  | none => exact .inl (by simp [activateGeneration, hopen₁, hgen])
  | some => exact .inr (by simp [activateGeneration, hopen₁, hgen])

end Accepts

theorem promotion_repeats {s : GenerationState} (hopen : g.closed = false)
    (hs : g.active = some s) (hpending : g.pending = none) (hgen : s.generation = gen)
    (hzero : gen ≠ 0) (hnorm : normalizeRules toASCII gen rules g.maximumRoutes = .ok s.rules) :
    g.stageGeneration toASCII gen rules = (g, none) ∧ g.markGenerationReady gen = (g, none)
      ∧ g.activateGeneration gen drain = (g, none) := by
  have hsame : restage s gen s.rules = some none := by
    unfold restage
    rw [if_neg (by rw [hgen]; exact UInt64.lt_irrefl _), if_pos hgen.symm, if_pos rfl]
  refine ⟨?_, by simp [markGenerationReady, hopen, hs, hgen], ?_⟩
  · unfold stageGeneration
    rw [if_neg hzero, hnorm]
    simp [hopen, hs, hsame]
  · unfold activateGeneration
    simp [hopen, hs, hgen, hpending]

/-- **The rules that were staged are the rules of the active generation.** -/
theorem Promotes.active_rules (h : Promotes toASCII g gen rules g') (ho : Ordered g) :
    ∃ s, g'.active = some s ∧ s.generation = gen
      ∧ normalizeRules toASCII gen rules g.maximumRoutes = .ok s.rules ∧ Ordered g'
      ∧ g'.closed = g.closed ∧ g'.maximumRoutes = g.maximumRoutes ∧ g'.top = gen := by
  obtain ⟨_, _, hstage, hmark, hact⟩ := h.staged
  obtain ⟨normalized, hnorm, hzero, hs⟩ := stageGeneration_ok hstage
  have ho₁ := ho.staged hzero hs
  have ho₂ := ho₁.marked hmark
  have ho₃ := ho₂.activated hact
  have hframe := hs.marked hmark
  have hactive := congrArg GenerationRegistry.active hframe
  have hcl := congrArg closed hframe
  have hmax := congrArg maximumRoutes hframe
  have hpend₂ := hmark.pending
  cases hact with
  | @promoted p hp hgen =>
    -- the pending generation carries the rules that were staged
    have hrules : p.rules = normalized := by
      rw [hp] at hpend₂
      cases hs with
      | added =>
        have := some.inj hpend₂
        exact (Prod.ext_iff.mp this).2
      | pending hp₁ _ hrules₁ =>
        rw [hp₁] at hpend₂
        have := some.inj hpend₂
        exact (Prod.ext_iff.mp this).2.trans hrules₁
      | active hs₁ hgen₁ =>
        -- an active generation of this number would be earlier than the pending one
        exact absurd (hgen₁.trans hgen.symm) (UInt64.ne_of_lt (ho₂.order _ p (hactive.trans hs₁) hp))
    refine ⟨_, rfl, hgen, ?_, ho₃, hcl, hmax, hgen⟩
    rw [hnorm, hrules]
  | same =>
    obtain ⟨s, hs', hgen⟩ := (any_eq_true ..).mp h.active
    rw [beq_iff_eq] at hgen
    have hs₁ : g.active = some s := hactive.symm.trans hs'
    cases hs with
    | active hs₀ _ hrules₀ =>
      obtain rfl := mem_unique hs₁ hs₀
      refine ⟨s, hs', hgen, by rw [hnorm, hrules₀], ho₃, hcl, hmax, ?_⟩
      rw [top, h.pending, hs']
      exact hgen
    | added hlt => exact absurd hgen (UInt64.ne_of_lt (hlt s hs₁))
    | pending hp hgen₀ => exact absurd (hgen.trans hgen₀.symm) (UInt64.ne_of_lt (ho.order s _ hs₁ hp))

end PaperboatTunnel.Route.GenerationRegistry
