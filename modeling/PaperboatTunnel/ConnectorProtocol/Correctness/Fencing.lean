import PaperboatTunnel.ConnectorProtocol.ServerStep

/-!
# `Fencing` — sessions that share one registry

Any number of servers accept sessions against one `SessionRegistry`, with fresh session ids. A session is **fenced**
once it is closed or no longer the current session of its connector. A call only ever disconnects its own session
(`Step.registry`) and an `Accept` claims the connector for a fresh reference, so a fenced session stays fenced
(`fenced_step`).
-/

namespace PaperboatTunnel.ConnectorProtocol

open GoTime Fencing TransitionSystem System SessionRegistry Sample ServerSession List Option Table

/-! ## The system -/

/-- The shared registry and all sessions accepted so far, in order. -/
structure System where
  reg : SessionRegistry
  sessions : List ServerSession

inductive SystemLabel where
  | accept (sv : Server) (ctx : Option Context) (hello : Hello) (env : AcceptEnv)
  | call (i : Nat) (op : ServerCall)

namespace System

def init : System := ⟨FencedMap.empty, []⟩

/-- The session id source returns no id that was used before. -/
def fresh (σ : System) (env : AcceptEnv) : Bool :=
  match env.sessionID with
  | .error _ => true
  | .ok id => σ.sessions.all (fun s => s.ref.sessionID != id)

def step (codec : PayloadCodec) (σ : System) : SystemLabel → Option System
  | .accept sv ctx hello env =>
    if σ.fresh env then
      match sv.accept codec σ.reg ctx hello env with
      | (reg, .error _) => some ⟨reg, σ.sessions⟩
      | (reg, .ok (s, _, _)) => some ⟨reg, σ.sessions ++ [s]⟩
    else none
  | .call i op =>
    match σ.sessions[i]? with
    | none => none
    | some s => some ⟨(s.call codec σ.reg op).1, σ.sessions.set i (s.call codec σ.reg op).2.1⟩

/-- Session `s` has been superseded, disconnected or closed. -/
def Fenced (σ : System) (s : ServerSession) : Prop := s.state = .closed ∨ σ.reg.active s.ref.connectorID ≠ some s.ref

end System

/-- Every call but `Close`, which is no operation of the protocol. -/
def ServerCall.isOperation : ServerCall → Bool
  | .close _ => false
  | _ => true

variable {codec : PayloadCodec} {σ σ' : System} {l : SystemLabel}

/-- What one step does: an `Accept` that failed, one that added a session under a fresh reference, or a
    call on one of the sessions. -/
theorem System.step_cases (h : σ.step codec l = some σ') : σ' = σ ∨
    (∃ s, (∀ t ∈ σ.sessions, t.ref.sessionID ≠ s.ref.sessionID) ∧ σ' = ⟨σ.reg.claim s.ref, σ.sessions ++ [s]⟩) ∨
    (∃ i s op, σ.sessions[i]? = some s
      ∧ σ' = ⟨(s.call codec σ.reg op).1, σ.sessions.set i (s.call codec σ.reg op).2.1⟩) := by
  cases l with
  | accept sv ctx hello env =>
    simp only [step] at h
    split at h
    · next hfresh =>
      rcases sv.accept_cases codec σ.reg ctx hello env with ⟨err, heq⟩ | ⟨s, w, snapshot, heq, hacc⟩
      · rw [heq] at h
        exact .inl (some.inj h).symm
      rw [heq] at h
      refine .inr (.inl ⟨s, ?_, (some.inj h).symm⟩)
      intro t ht
      simp only [fresh, hacc.sessionID, List.all_eq_true, bne_iff_ne] at hfresh
      exact hfresh t ht
    · cases h
  | call i op =>
    simp only [step] at h
    split at h
    · cases h
    · next s hs => exact .inr (.inr ⟨i, s, op, hs, (some.inj h).symm⟩)

/-! ## Session ids stay distinct -/

def System.Distinct (σ : System) : Prop :=
  ∀ (i j : Nat) (s t : ServerSession), σ.sessions[i]? = some s → σ.sessions[j]? = some t →
    s.ref.sessionID = t.ref.sessionID → i = j

variable {op : ServerCall} {s : ServerSession} {c : String} {ref : SessionRef} {reg : SessionRegistry}

theorem System.distinct_step (hd : σ.Distinct) (h : σ.step codec l = some σ') : σ'.Distinct := by
  rcases step_cases h with rfl | ⟨s, hfresh, rfl⟩ | ⟨k, s, op, hs, rfl⟩
  · exact hd
  · intro i j t u ht hu hid
    rcases get_snoc ht with ht' | ⟨hi, rfl⟩
    · rcases get_snoc hu with hu' | ⟨hj, rfl⟩
      · exact hd i j t u ht' hu' hid
      · exact absurd hid (hfresh t (mem_of_getElem? ht'))
    · rcases get_snoc hu with hu' | ⟨hj, rfl⟩
      · exact absurd hid.symm (hfresh u (mem_of_getElem? hu'))
      · rw [hi, hj]
  · intro i j t u ht hu hid
    -- a call keeps the reference, so the sessions before it already shared their ids
    have hrefs := map_set_of_eq (f := ServerSession.ref) hs (call_step codec s σ.reg op).frame.1
    obtain ⟨t₀, ht₀, htr⟩ := get_of_map_eq hrefs.symm ht
    obtain ⟨u₀, hu₀, hur⟩ := get_of_map_eq hrefs.symm hu
    exact hd i j t₀ u₀ ht₀ hu₀ (by rw [htr, hur, hid])

/-! ## Fenced sessions -/

theorem active_of_call (h : (s.call codec reg op).1.active c = some ref) : reg.active c = some ref := by
  rcases (call_step codec s reg op).registry with heq | heq
  · rw [heq] at h; exact h
  · rw [heq, active_eq_some_iff] at h
    exact active_eq_some_iff.mpr ⟨h.1, FencedMap.holder_of_release h.2⟩

/-- **A call never removes another session.** -/
theorem active_call_of_ne (op : ServerCall) (h : reg.active c = some ref) (hne : ref ≠ s.ref) :
    (s.call codec reg op).1.active c = some ref := by
  rcases (call_step codec s reg op).registry with heq | heq
  · rw [heq]; exact h
  · rw [active_eq_some_iff] at h
    rw [heq, active_eq_some_iff]
    exact ⟨h.1, FencedMap.holder_release_of_ne h.2 hne⟩

def System.FencedAt (i : Nat) (σ : System) : Prop := ∃ s, σ.sessions[i]? = some s ∧ σ.Fenced s

/-- **A fenced session stays fenced.** -/
theorem System.fenced_step {i : Nat} (hf : σ.FencedAt i) (h : σ.step codec l = some σ') : σ'.FencedAt i := by
  obtain ⟨s, hs, hf⟩ := hf
  rcases step_cases h with rfl | ⟨t, hfresh, rfl⟩ | ⟨k, t, op, ht, rfl⟩
  · exact ⟨s, hs, hf⟩
  · refine ⟨s, get_snoc_old hs, ?_⟩
    rcases hf with hcl | hstale
    · exact .inl hcl
    -- a claim makes no other reference current
    refine .inr (fun hcur => hstale ?_)
    rw [active_eq_some_iff] at hcur ⊢
    refine ⟨hcur.1, FencedMap.holder_of_claim hcur.2 (fun href => ?_)⟩
    exact hfresh s (mem_of_getElem? hs) (by rw [href])
  · by_cases hik : i = k
    · subst hik
      have hst : t = s := mem_unique ht hs
      subst hst
      refine ⟨(t.call codec σ.reg op).2.1, get_set_self ht, ?_⟩
      have hstep := call_step codec t σ.reg op
      rcases hf with hcl | hstale
      · exact .inl (by rw [hstep.of_closed hcl]; exact hcl)
      · refine .inr (fun hcur => hstale ?_)
        rw [hstep.frame.1] at hcur
        exact active_of_call hcur
    · refine ⟨s, (get_set_ne hik).trans hs, ?_⟩
      rcases hf with hcl | hstale
      · exact .inl hcl
      · exact .inr (fun hcur => hstale (active_of_call hcur))

theorem System.Fenced.call_fails (hf : σ.Fenced s) (hop : op.isOperation) :
    ∃ err, (s.call codec σ.reg op).2.2 = .error err := by
  generalize ho : s.call codec σ.reg op = o
  have hstep : Step codec σ.reg s op o := by
    rw [← ho]; exact call_step codec s σ.reg op
  cases hstep with
  | refused | shut => exact ⟨_, rfl⟩
  | closed | closedAgain => cases hop
  | ran hlive =>
    rcases hf with hcl | hstale
    · exact absurd hcl hlive.notClosed
    · exact absurd hlive.current hstale

/-- **Connector session fencing.** After every interleaving of accepts, operations and closes: a connector
    has at most one current session; a call on one session, closing or expiring it included, leaves the
    current reference of every other session in place; and on a session that was superseded, disconnected
    or closed no operation succeeds from then on. -/
theorem session_fencing {tr : Trace System SystemLabel} (hrun : Run (System.step codec) System.init tr σ) :
    (∀ (c : String) (i j : Nat) (s t : ServerSession), σ.sessions[i]? = some s → σ.sessions[j]? = some t →
      σ.reg.active c = some s.ref → σ.reg.active c = some t.ref → i = j) ∧
    (∀ (c : String) (i : Nat) (s : ServerSession) (op : ServerCall) (ref : SessionRef),
      σ.sessions[i]? = some s → σ.reg.active c = some ref → ref ≠ s.ref →
      (s.call codec σ.reg op).1.active c = some ref) ∧
    (∀ (i : Nat) (s : ServerSession) (tr' : Trace System SystemLabel) (σ' : System),
      σ.sessions[i]? = some s → σ.Fenced s → Run (System.step codec) σ tr' σ' →
      ∃ t, σ'.sessions[i]? = some t ∧
        ∀ op, op.isOperation = true → ∃ err, (t.call codec σ'.reg op).2.2 = .error err) := by
  refine ⟨?_, ?_, ?_⟩
  · intro c i j s t hs ht hcs hct
    have hd : σ.Distinct := by
      refine hrun.invariant System.distinct_step ?_
      intro i j s t hs
      exact absurd hs (by simp [System.init])
    have href : s.ref = t.ref := mem_unique hcs hct
    exact hd i j s t hs ht (by rw [href])
  · intro c i s op ref _ hcur hne
    exact active_call_of_ne op hcur hne
  · intro i s tr' σ' hs hf hrun'
    obtain ⟨t, ht, hft⟩ : σ'.FencedAt i := hrun'.invariant System.fenced_step ⟨s, hs, hf⟩
    exact ⟨t, ht, fun op hop => hft.call_fails hop⟩

/-- A connector process restarts: its second session replaces the first. -/
def System.restart : List SystemLabel :=
  [.accept server (some {}) (hello 1) (env 1 "sess_1" config1),
   .accept server (some {}) (hello 2) (env 2 "sess_2" config1)]

def System.restarted : System := (exec (step sampleCodec) init restart).getD init

/-- After the restart both sessions exist and no operation on the first one succeeds. -/
theorem session_fencing_restarted :
    System.restarted.sessions.length = 2 ∧ ∃ t, System.restarted.sessions[0]? = some t ∧
      ∀ op, op.isOperation = true → ∃ err, (t.call sampleCodec System.restarted.reg op).2.2 = .error err := by
  have hstale : System.restarted.sessions[0]?.any
      (fun s => System.restarted.reg.active s.ref.connectorID ≠ some s.ref) = true := by decide +kernel
  have hrun : Run (System.step sampleCodec) System.init _ System.restarted := exec_getD_run (by decide +kernel)
  obtain ⟨s, hs, hne⟩ := (any_eq_true _ _).mp hstale
  refine ⟨by decide +kernel, ?_⟩
  exact (session_fencing hrun).2.2 0 s [] System.restarted hs (.inr (by simpa using hne)) Run.refl

end PaperboatTunnel.ConnectorProtocol
