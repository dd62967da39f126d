import PaperboatTunnel.PeerRelay.Moves

/-!
# `SingleAllocation` — when an allocation is used once

The table of live relays is keyed by the whole binding, the consumed table by route allocation, stream handle and carrier
alone. As long as one binding is presented under each such combination, two live relays of a combination are the same
relay, and one that has been finalized is remembered until its binding has expired (`Once`). With two bindings under one
combination both relays are started (`two_bindings_started`).
-/

namespace PaperboatTunnel.PeerRelay

open GoTime TransitionSystem Relay Table Option

namespace Manager

variable {asg : StreamKey → Binding} {m m' : Manager} {a : Action} (assigned : StreamKey → Binding)

/-- **One binding is presented under each combination, and the clock does not go back.** -/
def presented (m : Manager) : Action → Bool
  | .attach _ _ _ now | .record _ now _ => decide (m.clock.nanos ≤ now.nanos)
  | .enter c now startedAt =>
    decide (m.clock.nanos ≤ now.nanos) && decide (now.nanos ≤ startedAt.nanos)
      && (m.calls[c]?).all (fun call => decide (call.key.binding = assigned (keyFor call.key)))
  | _ => true

variable {now : Time} {r : Relay} {clock clock' : Time}

theorem enter_of_presented {c : Nat} {startd : Time} {call : Call}
    (h : m.presented asg (.enter c now startd)) (hcall : m.calls[c]? = some call) :
    m.clock.nanos ≤ now.nanos ∧ now.nanos ≤ startd.nanos ∧ call.key.binding = asg (keyFor call.key) := by
  simp only [presented, hcall, all_some, Bool.and_eq_true, decide_eq_true_eq] at h
  exact ⟨h.1.1, h.1.2, h.2⟩

/-- The relay was started before its combination expires. -/
def StartedInTime (r : Relay) : Prop :=
  r.started = true ∧ r.baseUsage.startedAt.nanos < (assigned (keyFor r.key)).expiresAt.nanos

/-- A combination cannot be used again in time: it is remembered, or it has expired. -/
def Spent (consumed : GoMap StreamKey Time) (clock : Time) (k : StreamKey) : Prop :=
  consumed.lookup k = some (assigned k).expiresAt ∨ (assigned k).expiresAt.nanos ≤ clock.nanos

theorem Spent.later {used : GoMap StreamKey Time} {k : StreamKey} (h : Spent asg used clock k)
    (hle : clock.nanos ≤ clock'.nanos) : Spent asg used clock' k := by
  rcases h with hused | hexp
  · exact .inl hused
  · exact .inr (Int.le_trans hexp hle)

theorem Spent.prune {k : StreamKey} (h : Spent asg m.consumed clock k) (hnow : clock.nanos ≤ now.nanos)
    (hlater : now.nanos ≤ clock'.nanos) :
    Spent asg (m.pruneConsumedLocked now).consumed clock' k := by
  rcases h with hused | hexp
  · by_cases hafter : (asg k).expiresAt.after now = true
    · left
      show (m.consumed.filter _).lookup k = _
      rw [GoMap.lookup_filter, hused, filter_some, if_pos hafter]
    · right
      rw [Time.after, decide_eq_true_eq] at hafter
      omega
  · right
    omega

/-- **The invariant of single use.** -/
structure Once (assigned : StreamKey → Binding) (heap : List Relay) (consumed : GoMap StreamKey Time) (clock : Time) :
    Prop where
  own : ∀ (i : Nat) (r : Relay), heap[i]? = some r → r.key.binding = assigned (keyFor r.key)
  past : ∀ (i : Nat) (r : Relay), heap[i]? = some r → r.final ≠ .pending →
    Spent assigned consumed clock (keyFor r.key)
  unique : ∀ (i j : Nat) (r s : Relay), heap[i]? = some r → heap[j]? = some s → keyFor r.key = keyFor s.key →
    StartedInTime assigned r → StartedInTime assigned s → i = j

section Once

variable {heap : List Relay} {used used' : GoMap StreamKey Time} {i : Nat} {r' : Relay} (h : Once asg heap used clock)

include h

theorem Once.mono (hspent : ∀ k, Spent asg used clock k → Spent asg used' clock' k) : Once asg heap used' clock' :=
  ⟨h.own, fun i r hr hfin => hspent _ (h.past i r hr hfin), h.unique⟩

theorem Once.write (hr : heap[i]? = some r) (hkey : r'.key = r.key)
    (hstarted : StartedInTime asg r' → StartedInTime asg r)
    (hpast : r'.final ≠ .pending → Spent asg used clock (keyFor r.key)) :
    Once asg (heap.set i r') used clock := by
  -- every row reads as one from before, as far as keys and starts are concerned
  have hread : ∀ (j : Nat) (s : Relay), (heap.set i r')[j]? = some s →
      ∃ s₀, heap[j]? = some s₀ ∧ s.key = s₀.key ∧ (StartedInTime asg s → StartedInTime asg s₀) := by
    intro j s hs
    rcases get_set hs with ⟨rfl, rfl⟩ | ⟨_, hold⟩
    · exact ⟨r, hr, hkey, hstarted⟩
    · exact ⟨s, hold, rfl, fun hin => hin⟩
  refine ⟨forall_set h.own ?_, forall_set h.past ?_, fun j k s t hs ht hsame hin hin' => ?_⟩
  · rw [hkey]
    exact h.own i r hr
  · rw [hkey]
    exact hpast
  obtain ⟨s₀, hs₀, hkey₀, hstart₀⟩ := hread j s hs
  obtain ⟨t₀, ht₀, hkey₁, hstart₁⟩ := hread k t ht
  rw [hkey₀, hkey₁] at hsame
  exact h.unique j k s₀ t₀ hs₀ ht₀ hsame (hstart₀ hin) (hstart₁ hin')

theorem Once.create (hown : r.key.binding = asg (keyFor r.key)) (hstarted : r.started = false)
    (hfin : r.final = .pending) : Once asg (heap ++ [r]) used clock := by
  have hnot : ¬ StartedInTime asg r := by
    rintro ⟨hs, _⟩
    rw [hstarted] at hs
    cases hs
  refine ⟨forall_snoc h.own hown, forall_snoc h.past (absurd hfin), fun j k s t hs ht hsame hin hin' => ?_⟩
  rcases get_snoc hs with hold | ⟨_, rfl⟩
  · rcases get_snoc ht with hold' | ⟨_, rfl⟩
    · exact h.unique j k s t hold hold' hsame hin hin'
    · exact absurd hin' hnot
  · exact absurd hin hnot

/-- **A start**, when every other relay of the combination that was started in time excludes this one. -/
theorem Once.start (hr : heap[i]? = some r) (hkey : r'.key = r.key) (hfin : r'.final = .pending)
    (hothers : ∀ (j : Nat) (s : Relay), heap[j]? = some s → j ≠ i → keyFor s.key = keyFor r.key →
      StartedInTime asg s → ¬ StartedInTime asg r') :
    Once asg (heap.set i r') used clock := by
  refine ⟨forall_set h.own ?_, forall_set h.past (absurd hfin), fun j k s t hs ht hsame hin hin' => ?_⟩
  · rw [hkey]
    exact h.own i r hr
  rcases get_set hs with ⟨rfl, rfl⟩ | ⟨hj, hold⟩
  · rcases get_set ht with ⟨rfl, rfl⟩ | ⟨hk, hold'⟩
    · rfl
    · rw [hkey] at hsame
      exact absurd hin (hothers k t hold' hk hsame.symm hin')
  · rcases get_set ht with ⟨rfl, rfl⟩ | ⟨hk, hold'⟩
    · rw [hkey] at hsame
      exact absurd hin' (hothers j s hold hj hsame hin)
    · exact h.unique j k s t hold hold' hsame hin hin'

end Once

/-- **Nobody else of the combination was started in time**, when a call gets through to its relay. -/
theorem Once.late (h : Once asg m.heap m.consumed m.clock) (hidx : m.Indexed) {i j : Nat} {s : Relay}
    {startd : Time} (hr : m.heap[i]? = some r) (hpend : r.final = .pending) (hs : m.heap[j]? = some s)
    (hne : j ≠ i) (hsame : keyFor s.key = keyFor r.key)
    (hunused : (m.pruneConsumedLocked now).consumed.lookup (keyFor r.key) = none) (hnow : m.clock.nanos ≤ now.nanos)
    (hlater : now.nanos ≤ startd.nanos) : (asg (keyFor r.key)).expiresAt.nanos ≤ startd.nanos := by
  by_cases hfin : s.final = .pending
  · -- both are live under the same key, so they are the same relay
    have hkey : s.key = r.key := by
      have hbind : s.key.binding = r.key.binding := by
        rw [h.own j s hs, h.own i r hr, hsame]
      have hcarrier : s.key.carrier = r.key.carrier := congrArg StreamKey.carrier hsame
      calc s.key = ⟨s.key.binding, s.key.carrier⟩ := rfl
        _ = ⟨r.key.binding, r.key.carrier⟩ := by rw [hbind, hcarrier]
    have hlookup := hidx.lookup hs hfin
    rw [hkey, hidx.lookup hr hpend] at hlookup
    exact absurd (some.inj hlookup).symm hne
  · have hspent := h.past j s hs hfin
    rw [hsame] at hspent
    rcases hspent.prune hnow hlater with hused | hexp
    · rw [hunused] at hused
      cases hused
    · exact hexp

theorem startedInTime_congr {r' : Relay} (hkey : r'.key = r.key) (hstarted : r'.started = r.started)
    (hbase : r'.baseUsage = r.baseUsage) (h : StartedInTime asg r') : StartedInTime asg r := by
  unfold StartedInTime at h ⊢
  rw [hkey, hstarted, hbase] at h
  exact h

theorem baseUsage_setLeg {role : Role} {l : Leg} : (r.setLeg role l).baseUsage = r.baseUsage := by
  cases role <;> rfl

theorem once_step (h : Once asg m.heap m.consumed m.clock) (hidx : m.Indexed)
    (hpresent : m.presented asg a) (hstep : m.step a = some m') :
    Once asg m'.heap m'.consumed m'.clock := by
  cases step_effect hidx hstep with
  | quiet | finished => exact h
  | called | rejected => exact h.mono (fun k hspent => hspent.later (of_decide_eq_true hpresent))
  | refused _ _ _ _ _ hcall =>
    obtain ⟨hnow, hlater, _⟩ := enter_of_presented hpresent hcall
    exact h.mono (fun k hspent => hspent.prune hnow hlater)
  | created _ _ _ _ _ hcall =>
    obtain ⟨hnow, hlater, hassigned⟩ := enter_of_presented hpresent hcall
    have hpruned := h.mono (fun k hspent => hspent.prune hnow hlater)
    refine hpruned.create ?_ (by simp [new]) (by simp [new])
    rw [setLeg_key]
    exact hassigned
  | joined _ _ _ _ _ i r hcall _ hunused hi hr =>
    obtain ⟨hnow, hlater, _⟩ := enter_of_presented hpresent hcall
    obtain ⟨hpend, hkey⟩ := hidx.pending_of_lookup hi hr
    have hpruned := h.mono (fun k hspent => hspent.prune hnow hlater)
    refine hpruned.start hr (by simp) (by simp [hpend]) ?_
    intro j s hs hne hsame hin hin'
    rcases start_cases (r.setLeg _ _) _ with hrunning | ⟨_, _, _, _, hstart⟩
    · rw [hrunning] at hin'
      have hold := startedInTime_congr setLeg_key setLeg_started baseUsage_setLeg hin'
      exact hne (h.unique j i s r hs hr hsame hin hold)
    rw [← hkey] at hunused
    have hexpiry := h.late hidx hr hpend hs hne hsame hunused hnow hlater
    rw [hstart] at hin'
    have hbefore := hin'.2
    rw [show keyFor _ = keyFor r.key from congrArg keyFor setLeg_key] at hbefore
    exact absurd hbefore (Int.not_lt.mpr hexpiry)
  | expired i r hr | terminated _ i _ r hr => exact h.write hr rfl (fun hin => hin) (h.past i r hr)
  | moved i r _ _ _ hr hmove =>
    have hframed := hmove.framed
    refine h.write hr hframed.key (startedInTime_congr hframed.key hframed.started hframed.baseUsage) ?_
    exact fun hne => h.past i r hr (fun hp => hne ((final_pending_iff hmove).mpr hp))
  | finalized i r _ _ hr =>
    -- the combination is written down with the expiry of its binding
    have hown := h.own i r hr
    have hinserted : Spent asg (m.consumed.insert (keyFor r.key) r.key.binding.expiresAt) m.clock (keyFor r.key) := by
      left
      rw [AList.lookup_insert, hown]
    have hmono : Once asg m.heap (m.consumed.insert (keyFor r.key) r.key.binding.expiresAt) m.clock := by
      refine h.mono (fun k hspent => ?_)
      by_cases hk : k = keyFor r.key
      · rw [hk]
        exact hinserted
      rcases hspent with hused | hexp
      · left
        rw [AList.lookup_insert_ne hk]
        exact hused
      · exact .inr hexp
    exact hmono.write hr rfl (fun hin => hin) (fun _ => hinserted)
  | recorded i r _ _ _ _ hr hfin =>
    have hlater := h.mono (fun k hspent => hspent.later (of_decide_eq_true hpresent))
    exact hlater.write hr rfl (fun hin => hin)
      (fun _ => hlater.past i r hr (by rw [hfin]; exact FinalStage.noConfusion))

/-- **A relay allocation is used once.** In every run in which one binding is presented under each combination of route
    allocation, stream handle and carrier, and the clock does not go back, at most one relay of a combination is
    started before that binding expires. -/
theorem allocation_used_once (assigned : StreamKey → Binding) (config : Config) (now : Time) (m q : Manager)
    (tr : Trace Manager Action) (hnew : newManager config now = .ok m) (hrun : Run step m tr q)
    (hpresented : ∀ t ∈ tr, t.pre.presented assigned t.label = true) :
    ∀ (k : StreamKey) (i j : Nat) (r s : Relay), q.heap[i]? = some r → q.heap[j]? = some s →
      keyFor r.key = k → keyFor s.key = k → r.started = true → s.started = true →
      r.baseUsage.startedAt.nanos < (assigned k).expiresAt.nanos →
      s.baseUsage.startedAt.nanos < (assigned k).expiresAt.nanos → i = j := by
  have honce : q.Indexed ∧ Once assigned q.heap q.consumed q.clock := by
    refine hrun.invariant_of (I := fun s => s.Indexed ∧ Once assigned s.heap s.consumed s.clock)
      (C := fun s a => s.presented assigned a = true) (fun {s a s'} hC hs hstep => ?_) hpresented ?_
    · exact ⟨hs.1.step hstep, once_step hs.2 hs.1 hC hstep⟩
    · refine ⟨indexed_new hnew, ?_⟩
      rw [(eq_of_newManager hnew).2]
      exact ⟨fun i r hr => by simp at hr, fun i r hr => by simp at hr, fun i j r s hr => by simp at hr⟩
  intro k i j r s hr hs hkr hks hstarted hstarted' hbefore hbefore'
  refine honce.2.unique i j r s hr hs (hkr.trans hks.symm) ⟨hstarted, ?_⟩ ⟨hstarted', ?_⟩
  · rw [hkr]
    exact hbefore
  · rw [hks]
    exact hbefore'

/-! ## Runs -/

/-- Four calls with one binding are checked in time; two of them are paired at once, the others at the expiry. -/
def secondPairLate : List Action :=
  let binding := sampleBinding ⟨Duration.hour, 0⟩
  let call (role : Role) (stream : Nat) : Action := .attach ⟨binding, role, .quic⟩ (some stream) .live ⟨0, 0⟩
  [call .initiator 0, call .host 1, call .initiator 2, call .host 3, .enter 0 ⟨0, 0⟩ ⟨0, 0⟩, .enter 1 ⟨0, 0⟩ ⟨0, 0⟩,
    .move 0 (.read .toHost 0 (some .eof)), .move 0 (.read .toInitiator 0 (some .eof)), .move 0 .advanceRun,
    .move 0 .advanceRun, .move 0 .advanceRun, .finalize 0 .run, .record 0 ⟨0, 0⟩ none, .move 0 .closeDone,
    .enter 2 ⟨Duration.hour, 0⟩ ⟨Duration.hour, 0⟩, .enter 3 ⟨Duration.hour, 0⟩ ⟨Duration.hour, 0⟩]

theorem allocation_used_once_late : ∃ (m q : Manager) (r s : Relay), newManager developmentConfig ⟨0, 0⟩ = .ok m
    ∧ exec step m secondPairLate = some q ∧ q.heap[0]? = some r ∧ q.heap[1]? = some s
    ∧ keyFor s.key = keyFor r.key ∧ r.started = true ∧ s.started = true
    ∧ r.baseUsage.startedAt.nanos < Duration.hour ∧ ¬ s.baseUsage.startedAt.nanos < Duration.hour := by
  let m : Manager := { config := developmentConfig, clock := ⟨0, 0⟩ }
  let assigned : StreamKey → Binding := fun _ => sampleBinding ⟨Duration.hour, 0⟩
  obtain ⟨q, hq, ⟨r, hr, hstarted, hkey, hbefore⟩, s, hs, hstarted', hkey'⟩ :
      ∃ q, exec step m secondPairLate = some q ∧ (∃ r, q.heap[0]? = some r ∧ r.started = true
          ∧ keyFor r.key = keyFor ⟨sampleBinding ⟨Duration.hour, 0⟩, .quic⟩
          ∧ r.baseUsage.startedAt.nanos < Duration.hour)
        ∧ ∃ s, q.heap[1]? = some s ∧ s.started = true
          ∧ keyFor s.key = keyFor ⟨sampleBinding ⟨Duration.hour, 0⟩, .quic⟩ := by
    decide +kernel
  have hnew : newManager developmentConfig ⟨0, 0⟩ = .ok m := rfl
  refine ⟨m, q, r, s, hnew, hq, hr, hs, hkey'.trans hkey.symm, hstarted, hstarted', hbefore, fun hbefore' => ?_⟩
  have hsame := allocation_used_once assigned developmentConfig ⟨0, 0⟩ m q _ hnew (exec_run hq)
    (by decide +kernel) _ 0 1 r s hr hs hkey hkey' hstarted hstarted' hbefore hbefore'
  cases hsame

/-- Two pairs of endpoints, each with its own binding: the intents differ, allocation and handle do not. -/
def twoIntents : List Action :=
  let first := sampleBinding ⟨Duration.hour, 0⟩
  let second := { sampleBinding ⟨Duration.hour, 0⟩ with intentID := "other" }
  attachAt first .initiator 0 0 ⟨0, 0⟩ ++ attachAt second .initiator 1 1 ⟨0, 0⟩
    ++ attachAt first .host 2 2 ⟨0, 0⟩ ++ attachAt second .host 3 3 ⟨0, 0⟩

/-- **Two relays of one combination are running at the same time**, before either binding expires. -/
theorem two_bindings_started : ∃ (m q : Manager) (r s : Relay), newManager developmentConfig ⟨0, 0⟩ = .ok m
    ∧ exec step m twoIntents = some q ∧ q.heap[0]? = some r ∧ q.heap[1]? = some s
    ∧ keyFor r.key = keyFor s.key ∧ r.started = true ∧ s.started = true
    ∧ r.baseUsage.startedAt.nanos < r.key.binding.expiresAt.nanos
    ∧ s.baseUsage.startedAt.nanos < s.key.binding.expiresAt.nanos := by
  refine ⟨{ config := developmentConfig, clock := ⟨0, 0⟩ }, ?_⟩
  simp only [exists_and_left]
  exact ⟨rfl, by decide +kernel⟩

end Manager

end PaperboatTunnel.PeerRelay
