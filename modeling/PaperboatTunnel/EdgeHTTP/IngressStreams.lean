import PaperboatTunnel.ConnectorProtocol.Ingress

/-!
# `IngressStreams` — who releases the lease of an ingress stream

A call that opens a carrier stream releases its `IngressLease` in a deferred function, unless it has handed it to the
stream it returns (`lease.Wrap`, and then `lease = nil`). What the lease counts for is `IngressLimits`.
-/

namespace PaperboatTunnel.EdgeHTTP.IngressStreams

open ConnectorProtocol

/-- The lease and the carrier stream of a call: how often the one was released, and the other closed. -/
structure CallState where
  (leased opened : Bool := false)
  /-- The variable `lease` of the call is not nil. -/
  lease : Bool := false
  (releases closes : Nat := 0)
  /-- The application gets a `meteredIngressStream`, and has closed it. -/
  (metered meteredClosed : Bool := false)

namespace CallState

variable (s : CallState)

/-- `IngressLease.Release`, of which `once` runs the first only. -/
def release : CallState := if s.leased ∧ s.releases = 0 then { s with releases := 1 } else s

def deferred : CallState := if s.lease then s.release else s

def closeStream : CallState := { s with closes := s.closes + 1 }

def close : CallState :=
  if s.metered then if s.meteredClosed then s else { s.closeStream.release with meteredClosed := true }
  else s.closeStream

end CallState

/-- The answers that a call gets. `decision` is `some false` for a route without a decision. -/
structure Answers where
  (authority entry : Bool := true)
  decision : Option Bool := some true
  (acquires opens writes : Bool := true)

/-- An opening call from the `defer` on, with whether a stream is returned. -/
def openLeased (leased : Bool) (a : Answers) : CallState × Bool :=
  let s : CallState := { leased, lease := leased }
  if !a.opens then (s, false)
  else
    let s := { s with opened := true }
    if leased && !a.writes then (s.closeStream, false)
    -- `lease.Wrap`, and `lease = nil`
    else if s.lease then ({ s with metered := true, lease := false }, true)
    else (s, true)

/-- `OpenRouteStream` and `openWithTimeout` after their own check. -/
def openStream (valid : Bool) (a : Answers) : CallState × Bool :=
  if !valid || !a.entry then ({}, false)
  else
    match a.decision with
    | none => ({}, false)
    | some leased =>
      if leased && !a.acquires then ({}, false)
      else ((openLeased leased a).1.deferred, (openLeased leased a).2)

def openRouteStream (ctx : Bool) (requestID : String) : Answers → CallState × Bool :=
  openStream (ctx && requestID != "" && (validateIdentifier requestID).isNone)

def openWithTimeout (openCtx lifetimeCtx : Bool) : Answers → CallState × Bool := openStream (openCtx && lifetimeCtx)

/-- `ForwardPublicTCP` from the first `defer` on, which `bridgePublicTCP` ends after `n` calls of `Close`. The deferred
    `applicationStream.Close` and `stream.Close` run where they were reached. -/
def forwardLeased (a : Answers) (n : Nat) : CallState :=
  if !a.entry || !a.opens then { leased := true }
  else
    let s : CallState := { leased := true, opened := true }
    (if !a.writes then s else (CallState.close^[n] { s with metered := true }).close).closeStream

def forwardPublicTCP (valid : Bool) (a : Answers) (n : Nat) : CallState :=
  if !valid || !a.authority || !a.acquires then {}
  else (forwardLeased a n).release

/-- Nothing is left of the call: the lease was released once, and the stream is closed. -/
def CallState.Finished (s : CallState) : Prop := s.releases = s.leased.toNat ∧ (s.opened = true → 0 < s.closes)

namespace CallState

/-- A stream without a lease has none to release, however often it is closed. -/
theorem releases_close {s : CallState} (h : s.metered = false) (n : Nat) : (close^[n] s).releases = s.releases := by
  induction n generalizing s with
  | zero => rfl
  | succ n ih => simp [ih, close, closeStream, h]

/-- **The first `Close` of a metered stream** closes the carrier stream and releases the lease, and no other does. -/
theorem close_metered (n : Nat) : close^[n + 1] { leased := true, opened := true, metered := true }
      = { leased := true, opened := true, releases := 1, closes := 1, metered := true, meteredClosed := true } := by
  induction n with
  | zero => rfl
  | succ n ih => rw [Function.iterate_succ_apply', ih]; rfl

end CallState

/-- What is left of an opening call, and what becomes of the stream that it returns. -/
theorem openStream_released (valid : Bool) (a : Answers) :
    ((openStream valid a).2 = false → (openStream valid a).1.Finished) ∧
    ((openStream valid a).2 = true → ∀ n, (CallState.close^[n] (openStream valid a).1).releases
      = if (openStream valid a).1.leased ∧ n ≠ 0 then 1 else 0) := by
  fun_cases openStream valid a with
  | case4 _ leased =>
    cases leased with
    | false =>
      cases hopens : a.opens <;>
        simp [openLeased, hopens, CallState.deferred, CallState.Finished, CallState.releases_close]
    | true =>
      fun_cases openLeased true a with
      | case3 =>
        refine ⟨nofun, fun _ n => ?_⟩
        cases n with
        | zero => rfl
        | succ n =>
          have hclosed := congrArg CallState.releases (CallState.close_metered n)
          exact hclosed
      | case4 _ _ _ _ hnil => exact absurd rfl hnil
      | _ => exact ⟨fun _ => ⟨rfl, by decide⟩, nofun⟩
  | _ => simp [CallState.Finished]

/-- **No ingress lease outlives its stream.** A call of `OpenRouteStream` or `openWithTimeout` that fails has released
    its lease once and left no stream open. The lease of a stream that is returned is released once, when the stream
    is closed first. `ForwardPublicTCP` has always released its lease once, and left no stream open. -/
theorem lease_never_outlives_stream (a : Answers) (ctx lifetimeCtx valid : Bool) (requestID : String) :
    (∀ r ∈ [openRouteStream ctx requestID a, openWithTimeout ctx lifetimeCtx a], (r.2 = false → r.1.Finished) ∧
      (r.2 = true → ∀ n, (CallState.close^[n] r.1).releases = if r.1.leased ∧ n ≠ 0 then 1 else 0)) ∧
    ∀ n, (forwardPublicTCP valid a n).Finished := by
  refine ⟨?_, fun n => ?_⟩
  · intro r hr
    simp only [List.mem_cons, List.not_mem_nil, or_false] at hr
    rcases hr with rfl | rfl
    · exact openStream_released _ a
    · exact openStream_released _ a
  · unfold forwardPublicTCP
    split
    · exact ⟨rfl, nofun⟩
    fun_cases forwardLeased a n with
    | case1 => exact ⟨rfl, nofun⟩
    | case2 =>
      cases a.writes with
      | false => exact ⟨rfl, fun _ => Nat.one_pos⟩
      | true =>
        -- the deferred calls come after those of the bridge
        have hclosed := CallState.close_metered n
        rw [Function.iterate_succ_apply'] at hclosed
        change (CallState.closeStream (CallState.close _)).release.Finished
        rw [hclosed]
        exact ⟨rfl, fun _ => Nat.two_pos⟩

end PaperboatTunnel.EdgeHTTP.IngressStreams
