import PaperboatTunnel.EdgeHTTP.PublicTCPListeners

/-!
# `TCPShutdown` — what is open after `Shutdown`

Nothing tells a section that comes after `withdrawAll` that the set is shut down: a reconcile that already has its
snapshot binds it, and so does `PrepareTCPRoutes`. Where no such section opens a listener, they stay closed.
-/

namespace PaperboatTunnel.EdgeHTTP.PublicTCPListeners

open GoTime ConnectorProtocol TransitionSystem

variable (p : PublicTCPListeners)

def withdrawn : Bool := p.shutdowns.any (· != .begun)

/-- The section opens a listener in a set that has none: its first rule is valid, or its first listener is in the
    snapshot, and the port can be bound. -/
def opens : Section → Bool
  | .prepareTCPRoutes (rule :: _) listen _ =>
    rule.kind = .tunnelTCP ∧ rule.publicTCPListenerID ≠ "" ∧ rule.publicTCPPort ≠ 0 ∧ listen rule.publicTCPPort
  | .reconcile (id :: _) listen _ =>
    match p.worker with
    | .fetched desired => (desired.lookup id).any (fun d => listen d.binding.publicPort)
    | _ => false
  | _ => false

/-- What `Shutdown` relies on: no section opens a listener after it has withdrawn them. -/
def Undisturbed (s : Section) : Prop := p.withdrawn = true → p.opens s = false

instance (s : Section) : Decidable (p.Undisturbed s) := inferInstanceAs (Decidable (_ → _))

def Closed : Prop := p.withdrawn = true → p.listeners = ∅

variable {lib : AddressLib} {p q : PublicTCPListeners} {s : Section}

theorem withdrawn_of_stage {j : Nat} {stage : ShutdownCall} (hj : p.shutdowns[j]? = some stage)
    (hstage : stage ≠ .begun) : p.withdrawn = true := by
  refine List.any_eq_true.mpr ⟨stage, List.mem_of_getElem? hj, ?_⟩
  simpa using hstage

theorem Closed.advance {j : Nat} {next : ShutdownCall} (h : p.Closed) (hstep : p.advance j .withdrawn next = some q) :
    q.Closed := by
  obtain ⟨hj, rfl⟩ := of_guard hstep
  intro _
  exact h (withdrawn_of_stage hj (by decide))

theorem prepareTCPRoutes_closed {rules : List Route.RouteRule} {listen : UInt16 → Bool} {now : Time}
    (hopens : p.opens (.prepareTCPRoutes rules listen now) = false) :
    (prepareTCPRoutes p.interval listen now rules ∅).1 = ∅ := by
  cases rules with
  | nil => rfl
  | cons rule rules =>
    have hfirst := of_decide_eq_false hopens
    unfold prepareTCPRoutes
    dsimp only
    split
    next => rfl
    next hvalid =>
      have hbusy : ¬ listen rule.publicTCPPort = true := by grind
      simp [hbusy]

theorem reconcile_closed {desired : GoMap String IngressDecision} {order : List String} {listen : UInt16 → Bool}
    {now : Time} (hclosed : p.listeners = ∅) (hworker : p.worker = .fetched desired)
    (horder : order.Perm desired.keys) (hopens : p.opens (.reconcile order listen now) = false) :
    (p.reconcile desired order listen now).1 = ∅ := by
  unfold reconcile
  rw [hclosed]
  show (bindDesired listen desired order ∅).1 = ∅
  cases order with
  | nil => rfl
  | cons id order =>
    have hin : id ∈ desired := AList.mem_keys.mpr (horder.subset List.mem_cons_self)
    obtain ⟨d, hd⟩ := Option.isSome_iff_exists.mp (AList.lookup_isSome.mpr hin)
    simp only [opens, hworker, hd, Option.any_some] at hopens
    simp [bindDesired, hd, hopens]

theorem Closed.step (h : p.Closed) (hok : p.Undisturbed s) (hstep : p.step lib s = some q) : q.Closed := by
  revert hok hstep
  fun_cases PublicTCPListeners.step lib p s <;> intro hok hstep
  case case1 | case3 | case10 =>
    cases hstep
    exact h
  case case5 =>
    cases hstep
    exact fun _ => rfl
  case case7 hworker horder =>
    cases hstep
    exact fun hw => reconcile_closed (h hw) hworker horder (hok hw)
  case case13 =>
    cases hstep
    exact fun hw => h hw ▸ prepareTCPRoutes_closed (hok hw)
  case case14 =>
    cases hstep
    intro hw
    refine h ?_
    simpa [withdrawn] using hw
  case case15 =>
    obtain ⟨_, rfl⟩ := of_guard hstep
    exact fun _ => rfl
  case case16 | case18 => exact h.advance hstep
  -- the others are not enabled
  all_goals cases hstep

/-- **After `Shutdown` no public listener is open.** In every interleaving of the sections of a started set in which
    none opens a listener after a `Shutdown` has withdrawn them: once a `Shutdown` has returned without an error, no
    listener is open, there and at every later step. -/
theorem shutdown_closes_listeners (lib : AddressLib) (interval : Duration) (maximumListeners : Nat)
    (tr : Trace PublicTCPListeners Section) (q : PublicTCPListeners)
    (hrun : Run (step lib) { interval, maximumListeners } tr q) (hok : ∀ t ∈ tr, t.pre.Undisturbed t.label)
    (j : Nat) (hreturned : q.shutdowns[j]? = some .returned) : q.listeners = ∅ := by
  have hcl : q.Closed := hrun.invariant_of (fun hok h hstep => h.step hok hstep) hok nofun
  exact hcl (withdrawn_of_stage hreturned (by decide))

def tcpRule : Route.RouteRule := { kind := .tunnelTCP, publicTCPListenerID := "listener_1", publicTCPPort := 20000 }

/-- The sections of a set that binds a route, before or after the listeners are withdrawn. -/
def shutdownSections (before after : List Section) : List Section :=
  .snapshot none {} :: .withdrawAll :: before ++ [.shutdown, .shutdownWithdraw 0] ++ after ++ [.exit, .shutdownDone 0]

def smallSet : PublicTCPListeners := { interval := 2 * Duration.second, maximumListeners := 4096 }

/-- The listener of a route that was prepared before is closed, and afterwards the port cannot be bound. -/
theorem shutdown_closes_prepared : ∃ q, exec (step sampleLib) smallSet
        (shutdownSections [.prepareTCPRoutes [tcpRule] (fun _ => true) {}]
          [.prepareTCPRoutes [tcpRule] (fun _ => false) {}]) = some q
      ∧ q.shutdowns[0]? = some .returned ∧ q.listeners = ∅ := by
  have h : (exec (step sampleLib) smallSet (shutdownSections [.prepareTCPRoutes [tcpRule] (fun _ => true) {}]
      [.prepareTCPRoutes [tcpRule] (fun _ => false) {}])).isSome = true := by decide +kernel
  refine ⟨_, exec_getD h, by decide +kernel, ?_⟩
  exact shutdown_closes_listeners _ _ _ _ _ (exec_getD_run h) (by decide +kernel) 0 (by decide +kernel)

/-- A route is prepared between `withdrawAll` and the end of `Shutdown`: its listener is open when `Shutdown` has
    returned without an error. -/
theorem listener_open_after_shutdown : ∃ q, exec (step sampleLib) smallSet
        (shutdownSections [] [.prepareTCPRoutes [tcpRule] (fun _ => true) {}]) = some q
      ∧ q.shutdowns[0]? = some .returned ∧ (q.listeners.lookup "listener_1").isSome = true := by
  decide +kernel

end PaperboatTunnel.EdgeHTTP.PublicTCPListeners
