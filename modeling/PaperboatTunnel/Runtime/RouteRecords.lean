import PaperboatTunnel.Runtime.RouteStep

/-!
# `RouteRecords` — what the worker's records say about the matcher

The history of a run is the list of the events of its reconciles. It determines which rows the active generation was
activated for (`activeAfter`). `Coherent` relates them to the worker: the rules of the active generation are those of
these rows, and as long as the recorded generation is the active one, they are the recorded rows. Between an activation
and its record the worker is not in step.
-/

namespace PaperboatTunnel.Runtime.RouteWorker

open Datacarrier Route TransitionSystem GenerationRegistry List Option

variable {Digest : Type} [DecidableEq Digest]

/-! ## History -/

/-- The rows of the active generation after the events, if it was `rows` before. -/
def activeAfter (rows : Rows) : List RouteEvent → Rows
  | [] => rows
  | .activated _ active :: rest => activeAfter active rest
  | _ :: rest => activeAfter rows rest

def history (codec : RouteCodec Digest) (tr : Trace (RouteWorker Digest) ReconcileInput) : List RouteEvent :=
  tr.flatMap (fun t => (t.pre.reconcileRoutes codec t.label).events)

variable {evs evs' : List RouteEvent} {rows active : Rows} {rep : List RouteObservation}

theorem activeAfter_append : activeAfter rows (evs ++ evs') = activeAfter (activeAfter rows evs) evs' := by
  induction evs generalizing rows with
  | nil => rfl
  | cons e _ ih =>
    cases e with
    | activated => exact ih
    | _ => exact ih

theorem history_snoc (codec : RouteCodec Digest) (tr : Trace (RouteWorker Digest) ReconcileInput)
    (t : Transition (RouteWorker Digest) ReconcileInput) :
    history codec (tr ++ [t]) = history codec tr ++ (t.pre.reconcileRoutes codec t.label).events := by
  simp [history]

def Quiet (events : List RouteEvent) : Prop := ∀ generation active, .activated generation active ∉ events

theorem Quiet.activeAfter_eq : ∀ {evs : List RouteEvent} {rows : Rows}, Quiet evs → activeAfter rows evs = rows
  | [], _, _ => rfl
  | e :: evs, rows, h => by
      have hrest : Quiet evs := fun gen active hin => h gen active (mem_cons_of_mem _ hin)
      cases e with
      | activated gen active => exact absurd mem_cons_self (h gen active)
      | _ => exact hrest.activeAfter_eq

theorem Quiet.append (h : Quiet evs) (h' : Quiet evs') : Quiet (evs ++ evs') := by
  intro gen active hin
  rcases mem_append.mp hin with hl | hr
  · exact h gen active hl
  · exact h' gen active hr

variable (w : RouteWorker Digest)

theorem quiet_probes (codec : RouteCodec Digest) (sel : Rows) : Quiet (w.probes codec sel) := by
  intro gen active hin
  unfold probes at hin
  split at hin
  · simp at hin
  · cases hin

theorem quiet_ready (h : evs = [] ∨ ∃ accepted, evs = [.ready rep accepted]) : Quiet evs := by
  rcases h with rfl | ⟨accepted, rfl⟩ <;> simp [Quiet]

/-! ## The report of detached rows -/

omit [DecidableEq Digest] in
/-- What a flush can do: nothing, a report that is refused, or one that empties the pending set. -/
theorem flush_cases (input : ReconcileInput) :
    (w.canonicalPendingDetached = [] ∧ flushCanonicalDetached w input = { worker := w }) ∨
    (w.canonicalPendingDetached ≠ [] ∧ ∃ accepted, (flushCanonicalDetached w input).events
        = [.detached (canonicalRouteObservations w.canonicalPendingDetached "detached") accepted]
      ∧ (flushCanonicalDetached w input).worker
        = if accepted then { w with canonicalPendingDetached := [] } else w) := by
  unfold flushCanonicalDetached
  split
  · next hnil => exact .inl ⟨hnil, rfl⟩
  next hne =>
  refine .inr ⟨hne, input.detachedAccepted, ?_⟩
  dsimp only
  cases input.detachedAccepted
  · exact ⟨rfl, rfl⟩
  · exact ⟨rfl, rfl⟩

omit [DecidableEq Digest] in
theorem flush_frame (input : ReconcileInput) : (flushCanonicalDetached w input).worker = { w with
        canonicalPendingDetached := (flushCanonicalDetached w input).worker.canonicalPendingDetached } := by
  rcases flush_cases w input with ⟨_, h⟩ | ⟨_, accepted, _, h⟩
  · rw [h]
  · rw [h]
    cases accepted <;> rfl

omit [DecidableEq Digest] in
theorem quiet_flush (input : ReconcileInput) : Quiet (flushCanonicalDetached w input).events := by
  rcases flush_cases w input with ⟨_, h⟩ | ⟨_, accepted, h, _⟩
  · rw [h]
    simp [Quiet]
  · rw [h]
    simp [Quiet]

theorem activeAfter_promotion {accepted : Bool} {gen : UInt64} (h : Quiet evs') :
    activeAfter rows (evs ++ (.ready rep accepted :: .activated gen active :: evs')) = active := by
  rw [activeAfter_append]
  exact h.activeAfter_eq

/-! ## Coherence -/

/-- The recorded generation is the active one. -/
def InStep (w : RouteWorker Digest) : Prop := w.canonicalGeneration = w.registry.generation

instance (w : RouteWorker Digest) : Decidable w.InStep := by unfold InStep; infer_instance

/-- **The records of a worker whose active generation was activated for `rows`.** -/
structure Coherent (codec : RouteCodec Digest) (w : RouteWorker Digest) (rows : Rows) :
    Prop where
  isOpen : w.registry.closed = false
  ordered : w.registry.Ordered
  recorded : w.canonicalGeneration ≤ w.registry.generation
  latest : w.registry.pending = none → w.canonicalPendingGeneration = w.registry.generation
  ahead : w.registry.pending = none → w.canonicalPendingSet = true → w.canonicalGeneration < w.registry.generation
  inStep : w.InStep → w.canonicalAssignments = rows
  rules : ∀ s, w.registry.active = some s → Route.normalizeRules codec.toASCII s.generation
                 ((publishedRules rows).map (fun rule => { rule with generation := s.generation }))
                 w.registry.maximumRoutes = .ok s.rules
  idle : w.registry.active = none → rows = []
  hash : w.canonicalSet = true → w.canonicalHash = canonicalRouteHash codec w.canonicalAssignments
                 ∧ w.registry.active.isSome = true
  unset : w.canonicalSet = false → w.canonicalAssignments = []

variable {codec : RouteCodec Digest} {w w₁ : RouteWorker Digest} {input : ReconcileInput} {des sel : Rows}

omit [DecidableEq Digest] in
theorem Coherent.new [Inhabited Digest] (cfg : RouteWorkerConfig) (maxRoutes : Int)
    (durable : DurableAdmissionRegistry) :
    Coherent codec (RouteWorker.new cfg maxRoutes durable) [] where
  isOpen := rfl
  ordered := GenerationRegistry.Ordered.new maxRoutes
  recorded := UInt64.le_refl _
  latest _ := rfl
  ahead _ h := by cases h
  inStep _ := rfl
  rules s h := by cases h
  idle _ := rfl
  hash h := by cases h
  unset _ := rfl

variable (h : Coherent codec w rows)

include h

theorem Coherent.admitted (hadm : Admitted codec w input sel des w₁) : Coherent codec w₁ rows := by
  rw [hadm.frame]
  exact { h with }

variable {hash : Digest} {gen : UInt64} {g₁ g₂ g₃ : GenerationRegistry} {rules : List RouteRule}
  {res : Resolution} {durable : DurableAdmissionRegistry}

/-- **A set that differs is staged under another number than the active one on record.** -/
theorem Coherent.localGeneration_ne (hpend : w.registry.pending = none)
    (heq : w.localGeneration hash = w.registry.generation) : w.canonicalGeneration < w.registry.generation := by
  unfold localGeneration at heq
  have hlatest := h.latest hpend
  dsimp only at heq
  by_cases hretry : w.canonicalPendingSet = true ∧ hash = w.canonicalPendingHash
  · exact h.ahead hpend hretry.1
  rw [if_neg hretry] at heq
  -- the number after the latest one cannot be the latest one
  have hmax : (if w.canonicalPendingGeneration > w.canonicalGeneration then w.canonicalPendingGeneration
      else w.canonicalGeneration) = w.registry.generation := by
    split
    · exact hlatest
    · next hle =>
      rw [hlatest] at hle
      exact UInt64.le_antisymm h.recorded (UInt64.not_lt.mp hle)
  rw [hmax] at heq
  exact absurd heq (by grind)

variable (hgen : gen = w.localGeneration hash)

include hgen

theorem Coherent.staged_active {norm : List RouteRule} (hstage : StagedAs w.registry gen norm g₁)
    (hmark : MarkedAs g₁ g₂) (hnone : g₂.pending = none) :
    w.registry.generation = gen ∧ w.canonicalGeneration < gen := by
  have hnone₁ : g₁.pending = none := by
    have hpend := hmark.pending
    rw [hnone] at hpend
    exact map_eq_none_iff.mp hpend.symm
  cases hstage with
  | added => cases hnone₁
  | pending hp => rw [hp] at hnone₁; cases hnone₁
  | active hs hs' =>
    have heq : w.registry.generation = gen := (h.ordered.generation_eq hs).trans hs'
    have hlt := h.localGeneration_ne hnone₁ (hgen.symm.trans heq.symm)
    rw [heq] at hlt
    exact ⟨heq, hlt⟩

/-- **A promotion goes beyond the generation on record.** -/
theorem Coherent.lt_promotion (hpromote : Promotes codec.toASCII w.registry gen rules g₃) :
    w.canonicalGeneration < gen := by
  obtain ⟨_, g₂, hstage, hmark, hact⟩ := hpromote.staged
  obtain ⟨_, _, hzero, hstaged⟩ := stageGeneration_ok hstage
  cases hact with
  | same => exact (h.staged_active hgen hstaged hmark hpromote.pending).2
  | @promoted p hp hp' =>
    have hordered := (h.ordered.staged hzero hstaged).marked hmark
    have hactive : g₂.active = w.registry.active := by rw [hstaged.marked hmark]
    have hlt : w.registry.generation < gen := by
      cases hs : w.registry.active with
      | none =>
        have hgen₀ : w.registry.generation = 0 := by rw [GenerationRegistry.generation, hs]
        rw [hgen₀]
        exact UInt64.pos_iff_ne_zero.mpr hzero
      | some s =>
        rw [h.ordered.generation_eq hs, ← hp']
        exact hordered.order s p (hactive.trans hs) hp
    exact UInt64.lt_of_le_of_lt h.recorded hlt

theorem Coherent.staged (hadm : Admitted codec w input sel des w₁)
    (hstage : w.registry.stageGeneration codec.toASCII gen rules = (g₁, none))
    (hmark : MarkedAs g₁ g₂) : Coherent codec (w₁.withStaged g₂ hash gen) rows := by
  obtain ⟨_, _, hzero, hstaged⟩ := stageGeneration_ok hstage
  have hordered := (h.ordered.staged hzero hstaged).marked hmark
  have hunchanged := h.staged_active hgen hstaged hmark
  -- the matcher is as before, apart from what is pending
  rw [hstaged.marked hmark] at hordered ⊢
  rw [hadm.frame]
  refine { h with ordered := hordered, latest := fun hnone => ?_, ahead := fun hnone _ => ?_ }
  · exact (hunchanged hnone).1.symm
  · show w.canonicalGeneration < w.registry.generation
    rw [(hunchanged hnone).1]
    exact (hunchanged hnone).2

variable (hpromote : Promotes codec.toASCII w.registry gen (stagedRules res gen) g₃)

include hpromote

theorem Coherent.promotion :
    g₃.closed = false ∧ g₃.Ordered ∧ g₃.generation = gen ∧ w.canonicalGeneration < gen ∧ g₃.active ≠ none
      ∧ ∀ s, g₃.active = some s → normalizeRules codec.toASCII s.generation
          ((publishedRules res.effective).map (fun rule => { rule with generation := s.generation }))
          g₃.maximumRoutes = .ok s.rules := by
  obtain ⟨_, hs, hsgen, hrules, hordered, hcl, hmax, _⟩ := hpromote.active_rules h.ordered
  refine ⟨hcl.trans h.isOpen, hordered, (hordered.generation_eq hs).trans hsgen,
    h.lt_promotion hgen hpromote, by rw [hs]; nofun, fun s' hs' => ?_⟩
  obtain rfl := mem_unique hs hs'
  rw [hmax, hsgen]
  exact hrules

theorem Coherent.activated (hadm : Admitted codec w input sel des w₁) :
    Coherent codec (w₁.withStaged g₃ hash gen) res.effective ∧ ¬ (w₁.withStaged g₃ hash gen).InStep := by
  obtain ⟨hcl, hordered, rfl, hlt, hact, hrules⟩ := h.promotion hgen hpromote
  rw [hadm.frame]
  have hout : w.canonicalGeneration ≠ g₃.generation := UInt64.ne_of_lt hlt
  refine ⟨?_, hout⟩
  exact
    { isOpen := hcl
      ordered := hordered
      recorded := UInt64.le_of_lt hlt
      latest := fun _ => rfl
      ahead := fun _ _ => hlt
      inStep := hout.elim
      rules := hrules
      idle := hact.elim
      hash := fun hset => ⟨(h.hash hset).1, isSome_iff_ne_none.mpr hact⟩
      unset := h.unset }

theorem Coherent.promoted {sup : Rows} (w₁ : RouteWorker Digest) (input : ReconcileInput)
    (hhash : hash = canonicalRouteHash codec res.effective) :
    Coherent codec (flushCanonicalDetached ((w₁.withStaged g₃ hash gen).withPromoted durable
      gen hash res.effective sup) input).worker res.effective := by
  obtain ⟨hcl, hordered, rfl, _, hact, hrules⟩ := h.promotion hgen hpromote
  rw [flush_frame]
  exact
    { isOpen := hcl
      ordered := hordered
      recorded := UInt64.le_refl _
      latest := fun _ => rfl
      ahead := nofun
      inStep := fun _ => rfl
      rules := hrules
      idle := hact.elim
      hash := fun _ => ⟨hhash, isSome_iff_ne_none.mpr hact⟩
      unset := nofun }

omit hgen hpromote

/-- **Every reconcile keeps the records coherent.** -/
theorem Coherent.effect {r : Reconciled Digest} (heff : Effect codec w input r) :
    Coherent codec r.worker (activeAfter rows r.events) := by
  cases heff with
  | idle => exact h
  | blocked _ hadm =>
    rw [(quiet_probes _ _ _).activeAfter_eq]
    exact h.admitted hadm
  | staged _ hadm _ _ hgen hstage hmark hevents =>
    rw [((quiet_probes _ _ _).append (quiet_ready hevents)).activeAfter_eq]
    exact h.staged hgen hadm hstage hmark
  | activated _ hadm _ _ hgen _ hpromote =>
    rw [activeAfter_promotion (by simp [Quiet])]
    exact (h.activated hgen hpromote hadm).1
  | promoted _ _ _ hhash hgen _ _ hpromote _ _ hflushed =>
    subst hflushed
    rw [activeAfter_promotion (quiet_flush _ _)]
    exact h.promoted hgen hpromote _ _ hhash
  | refreshed _ hadm _ _ _ hrefreshed hflushed hevents =>
    subst hflushed
    rw [((quiet_probes _ _ _).append ((quiet_flush _ _).append (quiet_ready hevents))).activeAfter_eq, flush_frame]
    rw [hrefreshed.frame]
    exact { h.admitted hadm with }

omit h

/-- **Over a whole run the records stay coherent** with the rows of the active generation. -/
theorem coherent_run [Inhabited Digest] {cfg : RouteWorkerConfig} {maxRoutes : Int}
    {tr : Trace (RouteWorker Digest) ReconcileInput} {w : RouteWorker Digest}
    (hrun : Run (RouteWorker.step codec) (RouteWorker.new cfg maxRoutes durable) tr w) :
    Coherent codec w (activeAfter [] (history codec tr)) := by
  refine hrun.trace_invariant (I := fun tr w => Coherent codec w (activeAfter [] (history codec tr)))
    (Coherent.new cfg maxRoutes durable) ?_
  intro tr w input w' h hstep
  obtain ⟨heff, rfl⟩ := effect_of_step hstep
  rw [history_snoc, activeAfter_append]
  exact h.effect heff

end PaperboatTunnel.Runtime.RouteWorker
