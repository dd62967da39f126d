import PaperboatTunnel.Lib.Table

/-!
# `Transition` — runs of a partial deterministic machine

A machine is a step function `step : S → L → Option S`: a label carries everything the environment chooses (arguments,
clock readings, answers of external calls), and `none` means the label is not enabled. A `Run` records its transitions
front to back, so statements can speak about *earlier* and *later* points of one run.

## Contents
- **Runs.** `Transition`, `Run` and their composition (`Run.trans`, `Run.split`).
- **Invariant rules.** `Run.invariant`, `Run.invariant_on` (when the transitions meet a condition),
  `Run.forall_mem_on` (at each transition), `Run.trace_invariant_on` (with the transitions so far).
- **Execution.** `exec` runs a list of labels, and `exec_run` turns the result into a `Run`.
-/

namespace TransitionSystem

open List Option

variable {S L : Type}

/-- One transition of a run, with the state it left and the state it reached. -/
structure Transition (S L : Type) where
  pre : S
  label : L
  post : S

/-- The transitions of a run, oldest first. -/
abbrev Trace (S L : Type) : Type := List (Transition S L)

/-- `Run step s tr s'`: the machine goes from `s` to `s'` by the transitions `tr`, oldest first. -/
inductive Run (step : S → L → Option S) : S → Trace S L → S → Prop where
  | refl {s} : Run step s [] s
  | tail {s s' s'' tr l} : Run step s tr s' → step s' l = some s'' → Run step s (tr ++ [⟨s', l, s''⟩]) s''

variable {step : S → L → Option S} {s s' : S} {tr : Trace S L} {t : Transition S L} {C : Transition S L → Prop}
  {I : S → Prop}

theorem Run.single {l : L} (h : step s l = some s') : Run step s [⟨s, l, s'⟩] s' := Run.tail Run.refl h

theorem Run.trans {s'' : S} {tr' : Trace S L} (h : Run step s tr s') (h' : Run step s' tr' s'') :
    Run step s (tr ++ tr') s'' := by
  induction h' with
  | refl => rw [append_nil]; exact h
  | tail _ hs ih => rw [← append_assoc]; exact Run.tail ih hs

theorem Run.head {s'' : S} {l : L} (h : step s l = some s') (h' : Run step s' tr s'') :
    Run step s (⟨s, l, s'⟩ :: tr) s'' :=
  Run.trans (Run.single h) h'

variable {tr₁ tr₂ : Trace S L}

theorem Run.of_append (h : Run step s (tr₁ ++ tr₂) s') : ∃ m, Run step s tr₁ m ∧ Run step m tr₂ s' := by
  generalize htr : tr₁ ++ tr₂ = tr at h
  induction h generalizing tr₂ with
  | refl =>
    obtain ⟨rfl, rfl⟩ := append_eq_nil_iff.mp htr
    exact ⟨s, Run.refl, Run.refl⟩
  | @tail _ u' _ _ hr hs ih =>
    -- the last transition belongs to the second part, unless that part is empty
    rcases eq_nil_or_concat tr₂ with rfl | ⟨tr₂', t, rfl⟩
    · rw [append_nil] at htr
      exact ⟨u', htr ▸ Run.tail hr hs, Run.refl⟩
    rw [concat_eq_append, ← append_assoc] at htr
    obtain ⟨hinit, hlast⟩ := append_inj' htr rfl
    obtain ⟨m, hm₁, hm₂⟩ := ih hinit
    rw [concat_eq_append, hlast]
    exact ⟨m, hm₁, Run.tail hm₂ hs⟩

theorem Run.eq_of_nil (h : Run step s [] s') : s' = s := by
  generalize htr : ([] : Trace S L) = tr at h
  cases h with
  | refl => rfl
  | tail => simp at htr

theorem Run.of_cons (h : Run step s (t :: tr) s') :
    t.pre = s ∧ step t.pre t.label = some t.post ∧ Run step t.post tr s' := by
  have h' : Run step s ([t] ++ tr) s' := h
  obtain ⟨m, hm₁, hm₂⟩ := h'.of_append
  generalize htr : [t] = tr₁ at hm₁
  cases hm₁ with
  | refl => cases htr
  | @tail u _ tr' l hr hs =>
    rcases tr' with _ | ⟨x, tr'⟩
    · obtain rfl : t = ⟨u, l, m⟩ := by simpa using htr
      exact ⟨hr.eq_of_nil, hs, hm₂⟩
    · simp at htr

/-- The parts of a run before and after one of its transitions. -/
theorem Run.through (h : Run step s (tr₁ ++ t :: tr₂) s') :
    Run step s tr₁ t.pre ∧ step t.pre t.label = some t.post ∧ Run step t.post tr₂ s' := by
  obtain ⟨_, hm₁, hm₂⟩ := h.of_append
  obtain ⟨rfl, hs, hr⟩ := hm₂.of_cons
  exact ⟨hm₁, hs, hr⟩

variable (h : Run step s tr s')

include h

/-- **A run splits at each of its transitions.** -/
theorem Run.split (ht : t ∈ tr) :
    ∃ tr₁ tr₂, tr = tr₁ ++ t :: tr₂ ∧ Run step s tr₁ t.pre ∧ step t.pre t.label = some t.post
      ∧ Run step t.post tr₂ s' := by
  obtain ⟨tr₁, tr₂, rfl⟩ := append_of_mem ht
  exact ⟨tr₁, tr₂, rfl, h.through⟩

theorem Run.mem_step (ht : t ∈ tr) : step t.pre t.label = some t.post := by
  obtain ⟨_, _, _, _, hst, _⟩ := h.split ht
  exact hst

/-! ## Invariant rules -/

/-- **Conditional trace invariant.** A property of the transitions so far and the state reached holds at
    the end of every run whose transitions all meet `C`, when it holds at the start and each transition that
    meets `C` extends it. -/
theorem Run.trace_invariant_on {I : Trace S L → S → Prop}
    (hstep : ∀ {tr s l s'}, C ⟨s, l, s'⟩ → I tr s → step s l = some s' → I (tr ++ [⟨s, l, s'⟩]) s')
    (hok : ∀ t ∈ tr, C t) (h0 : I [] s) : I tr s' := by
  induction h with
  | refl => exact h0
  | @tail s' s'' tr l _ hs ih =>
    have hpre := ih (fun t ht => hok t (mem_append_left _ ht))
    have hlast : C ⟨s', l, s''⟩ := hok _ (mem_append_right _ (by simp))
    exact hstep hlast hpre hs

/-- **Trace invariant** of every run. -/
theorem Run.trace_invariant {I : Trace S L → S → Prop} (h0 : I [] s)
    (hstep : ∀ {tr s l s'}, I tr s → step s l = some s' → I (tr ++ [⟨s, l, s'⟩]) s') : I tr s' :=
  h.trace_invariant_on (C := fun _ => True) (fun _ => hstep) (fun _ _ => trivial) h0

/-- **Conditional invariant.** A property of states that every transition meeting `C` preserves is kept
    along every run whose transitions all meet `C`. -/
theorem Run.invariant_on (hstep : ∀ {s l s'}, C ⟨s, l, s'⟩ → I s → step s l = some s' → I s')
    (hok : ∀ t ∈ tr, C t) (h0 : I s) : I s' :=
  h.trace_invariant_on (I := fun _ => I) hstep hok h0

/-- The same for a condition on the state before the step and on the label. -/
theorem Run.invariant_of {C : S → L → Prop} (hstep : ∀ {s l s'}, C s l → I s → step s l = some s' → I s')
    (hok : ∀ t ∈ tr, C t.pre t.label) (h0 : I s) : I s' :=
  h.invariant_on (C := fun t => C t.pre t.label) hstep hok h0

/-- **Invariant.** A property of states preserved by every step is kept along every run. -/
theorem Run.invariant (hstep : ∀ {s l s'}, I s → step s l = some s' → I s') (h0 : I s) : I s' :=
  h.invariant_of (C := fun _ _ => True) (fun _ => hstep) (fun _ _ => trivial) h0

/-- Under a conditional invariant every transition of the run starts and ends inside it. -/
theorem Run.forall_mem_on (hstep : ∀ {s l s'}, C ⟨s, l, s'⟩ → I s → step s l = some s' → I s')
    (hok : ∀ t ∈ tr, C t) (h0 : I s) : ∀ t ∈ tr, I t.pre ∧ I t.post := by
  intro t ht
  obtain ⟨_, _, heq, hr₁, hst, _⟩ := h.split ht
  have hpre : I t.pre := by
    refine hr₁.invariant_on hstep (fun u hu => hok u ?_) h0
    rw [heq]; exact mem_append_left _ hu
  exact ⟨hpre, hstep (hok t ht) hpre hst⟩

omit h

/-! ## Execution -/

/-- Run a list of labels; `none` as soon as one is not enabled. -/
def exec (step : S → L → Option S) : S → List L → Option S
  | s, [] => some s
  | s, l :: ls => (step s l).bind (fun s' => exec step s' ls)

theorem exec_append (step : S → L → Option S) : ∀ (ls ls' : List L) (s : S),
    exec step s (ls ++ ls') = (exec step s ls).bind (fun m => exec step m ls')
  | [], _, _ => rfl
  | l :: ls, ls', s => by
      cases hs : step s l with
      | none => simp [exec, hs]
      | some u => simp [exec, hs, exec_append step ls ls' u]

/-- The transitions `exec` goes through. -/
def trace (step : S → L → Option S) : S → List L → Trace S L
  | _, [] => []
  | s, l :: ls =>
    match step s l with
    | none => []
    | some s' => ⟨s, l, s'⟩ :: trace step s' ls

/-- An execution takes no label it was not given. -/
theorem label_mem_of_mem_trace : ∀ {ls : List L} {s : S} {t : Transition S L}, t ∈ trace step s ls → t.label ∈ ls
  | l :: ls, s, t, h => by
      unfold trace at h
      split at h
      · cases h
      · rcases mem_cons.mp h with rfl | hin
        · exact mem_cons_self
        · exact mem_cons_of_mem _ (label_mem_of_mem_trace hin)

/-- **A successful execution is a run.** -/
theorem exec_run : ∀ {ls : List L} {s s' : S}, exec step s ls = some s' → Run step s (trace step s ls) s'
  | [], s, s', h => by
      rw [some.inj h]
      exact Run.refl
  | l :: ls, s, s', h => by
      cases hs : step s l with
      | none => simp [exec, hs] at h
      | some u =>
        have hu : exec step u ls = some s' := by simpa [exec, hs] using h
        have htr : trace step s (l :: ls) = ⟨s, l, u⟩ :: trace step u ls := by simp [trace, hs]
        rw [htr]
        exact Run.head hs (exec_run hu)

/-- The run to the state where an execution ends, named by `getD` so that it can be evaluated. -/
theorem exec_getD_run {ls : List L} (h : (exec step s ls).isSome) :
    Run step s (trace step s ls) ((exec step s ls).getD s) := by
  obtain ⟨_, hs'⟩ := isSome_iff_exists.mp h
  rw [hs']
  exact exec_run hs'

theorem exec_getD {ls : List L} (h : (exec step s ls).isSome) : exec step s ls = some ((exec step s ls).getD s) := by
  obtain ⟨_, hs'⟩ := isSome_iff_exists.mp h
  rw [hs', getD_some]

/-- A step that is taken under a guard. -/
theorem of_guard {p : Prop} [Decidable p] (h : (if p then some s else none) = some s') : p ∧ s = s' :=
  (ite_none_right_eq_some.mp h).imp id some.inj

/-- A step of one row, under a guard on the row. -/
theorem of_guarded_row {α : Type} {row : Option α} {p : α → Prop} [DecidablePred p] {f : α → S}
    (h : row.bind (fun a => if p a then some (f a) else none) = some s) : ∃ a, row = some a ∧ p a ∧ f a = s := by
  obtain ⟨a, ha, hguard⟩ := bind_eq_some_iff.mp h
  exact ⟨a, ha, of_guard hguard⟩

/-- What holds where an execution ends is decided by running it. -/
instance decidableExists {α : Type} {o : Option α} {P : α → Prop} [DecidablePred P] :
    Decidable (∃ a, o = some a ∧ P a) :=
  decidable_of_iff (o.any (fun a => decide (P a)) = true) (by simp [Option.any_eq_true])

end TransitionSystem
