import Mathlib.Data.List.Basic

/-!
# `CompositeRouteMatcher` — one request, several owners of routes

A matcher is what its `Acquire` answers to a request; an error that `errors.Is` takes for `ErrNoMatch` is `noMatch`.
A composite without matchers answers as a nil one does.
-/

namespace PaperboatTunnel.EdgeHTTP

/-- An error of `Acquire`; the other errors come from the matchers. -/
inductive AcquireError (ε : Type) where
  | noMatch | matchConflict
  | other (err : ε)

variable {Request Lease Match ε : Type}

abbrev RouteMatcher (Request Lease Match ε : Type) := Request → Except (AcquireError ε) (Lease × Match)

/-- What a call of `Acquire` returns, with the leases it has acquired and those it has closed. -/
structure Acquisition (Lease Match ε : Type) where
  result : Except (AcquireError ε) (Lease × Match)
  acquired : List Lease
  closed : List Lease := []

namespace CompositeRouteMatcher

/-- The loop of `Acquire`, and what follows it. -/
def acquireFrom (request : Request) (leases : List Lease) (matched : Match) :
    List (RouteMatcher Request Lease Match ε) → Acquisition Lease Match ε
  | [] =>
    match leases with
    | [] => { result := .error .noMatch, acquired := leases }
    | [lease] => { result := .ok (lease, matched), acquired := leases }
    | _ => { result := .error .matchConflict, acquired := leases, closed := leases }
  | matcher :: matchers =>
    match matcher request with
    | .error .noMatch => acquireFrom request leases matched matchers
    | .error err => { result := .error err, acquired := leases, closed := leases }
    | .ok (lease, candidate) => acquireFrom request (leases ++ [lease]) candidate matchers

def acquire [Inhabited Match] (matchers : List (RouteMatcher Request Lease Match ε)) (request : Request) :
    Acquisition Lease Match ε :=
  acquireFrom request [] default matchers

/-- The matcher does not answer that it has no match. -/
def answers (request : Request) (matcher : RouteMatcher Request Lease Match ε) : Bool :=
  match matcher request with
  | .error .noMatch => false
  | _ => true

variable {req : Request} {found : Lease × Match}

/-- By induction over the matchers: what is found is the only lease so far and no matcher answers any more, or there is
    no lease so far and one matcher answers with it. -/
theorem acquireFrom_ok (ms : List (RouteMatcher Request Lease Match ε)) (leases : List Lease) (matched : Match) :
    (acquireFrom req leases matched ms).result = .ok found ↔
      (leases = [found.1] ∧ matched = found.2 ∧ ms.filter (answers req) = [])
        ∨ (leases = [] ∧ ∃ owner, ms.filter (answers req) = [owner] ∧ owner req = .ok found) := by
  induction ms generalizing leases matched with
  | nil =>
    unfold acquireFrom
    split <;> simp_all [Prod.ext_iff]
  | cons matcher ms ih =>
    unfold acquireFrom
    split
    next hanswer => rw [ih, List.filter_cons_of_neg (by simp [answers, hanswer])]
    next err hne hanswer =>
      rw [List.filter_cons_of_pos (by grind [answers])]
      simp [hanswer]
    next hanswer =>
      rw [ih, List.filter_cons_of_pos (by simp [answers, hanswer])]
      simp [hanswer, List.append_eq_singleton_iff, Prod.ext_iff]
      grind

theorem closed_of_error {err : AcquireError ε} (ms : List (RouteMatcher Request Lease Match ε))
    (leases : List Lease) (matched : Match) :
    let a := acquireFrom req leases matched ms
    a.result = .error err → a.closed = a.acquired := by
  fun_induction acquireFrom req leases matched ms <;> simp_all

/-- **A request is acquired only by its one owner.** `Acquire` succeeds exactly if one matcher acquires the request and
    every other one has no match, and returns what that matcher has returned. Otherwise it closes each lease it has
    acquired. Neither the success nor the lease and the match depend on the order of the matchers. -/
theorem acquires_only_owner [Inhabited Match] (matchers : List (RouteMatcher Request Lease Match ε))
    (request : Request) :
    let a := acquire matchers request
    (∀ found, a.result = .ok found ↔ ∃ owner, matchers.filter (answers request) = [owner] ∧ owner request = .ok found)
    ∧ (∀ err, a.result = .error err → a.closed = a.acquired)
    ∧ ∀ matchers', matchers.Perm matchers' → ∀ found,
        (acquire matchers' request).result = .ok found ↔ a.result = .ok found := by
  have hok (matchers : List (RouteMatcher Request Lease Match ε)) (found : Lease × Match) :
      (acquire matchers request).result = .ok found ↔
        ∃ owner, matchers.filter (answers request) = [owner] ∧ owner request = .ok found := by
    simpa [acquire] using acquireFrom_ok matchers [] default
  refine ⟨hok matchers, fun err => closed_of_error matchers [] default, fun matchers' hperm found => ?_⟩
  have hfilter := hperm.filter (answers request)
  simp only [hok, ← List.perm_singleton, hfilter.congr_left]

end CompositeRouteMatcher

end PaperboatTunnel.EdgeHTTP
