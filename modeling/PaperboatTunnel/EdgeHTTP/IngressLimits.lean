import PaperboatTunnel.Lib.GoMap
import PaperboatTunnel.Lib.GoTime
import PaperboatTunnel.Lib.Transition

/-!
# `IngressLimits` — connection limits per publication and per account

Before the edge opens a carrier stream for an ingress connection it takes a lease (`acquire`). The lease charges the
counters of the publication and of the account, and gives both back on `Release`. Entries that have been idle for a
minute leave the tables on the next acquire (`expireIdle`), so the same key may be counted in a new state object later;
a lease keeps pointers to the objects it charged.

The two tables have the same shape (`Scope`). The token buckets of `golang.org/x/time/rate` are a parameter
(`RateLimiter`). Everything but the paced transfer of bytes happens under the mutex, so each call is one step.
-/

namespace PaperboatTunnel.EdgeHTTP

open GoTime TransitionSystem

def maximumIngressLimitEntries : Nat := 4096

def ingressPacingChunk : Int := 32 * 1024

/-- `ErrIngressLimitExceeded`, the only error of the package. -/
inductive IngressError where
  | ingressLimitExceeded
deriving DecidableEq

/-- What the limiter uses of `golang.org/x/time/rate`. -/
structure RateLimiter (Limit Limiter : Type) where
  limit : Nat → Limit
  positive : Limit → Bool
  newLimiter : Limit → Int → Limiter
  burst : Limiter → Int
  /-- `limiter.TokensAt(now) < float64(n)` -/
  tokensBelow : Limiter → Time → Int → Bool
  /-- `limiter.TokensAt(now) >= float64(n)` -/
  tokensAtLeast : Limiter → Time → Int → Bool
  allowN : Limiter → Time → Int → Limiter

structure IngressLimitConfig (Limit : Type) where
  connections : Int
  openRate : Limit
  openBurst : Int
  byteRate : Limit
  byteBurst : Int

structure IngressLimitState (Limiter : Type) where
  active : Int := 0
  (opens bytes : Limiter)
  lastUsed : Time

variable {Limit Limiter : Type} (rate : RateLimiter Limit Limiter)

def validIngressLimit (config : IngressLimitConfig Limit) : Bool :=
  decide (0 < config.connections) && rate.positive config.openRate && decide (0 < config.openBurst)
    && rate.positive config.byteRate && decide (ingressPacingChunk ≤ config.byteBurst)

def newIngressLimitState (config : IngressLimitConfig Limit) (now : Time) : IngressLimitState Limiter where
  opens := rate.newLimiter config.openRate config.openBurst
  bytes := rate.newLimiter config.byteRate config.byteBurst
  lastUsed := now

/-! ## One table -/

/-- A table of the limiter: the map holds pointers into the list of all the state objects ever stored. -/
structure Scope (Limit Limiter : Type) where
  config : IngressLimitConfig Limit
  table : GoMap String Nat := ∅
  states : List (IngressLimitState Limiter) := []

namespace Scope

variable (s : Scope Limit Limiter)

/-- The condition under which `expireIdle` deletes an entry. -/
def idle (now : Time) (state : IngressLimitState Limiter) : Bool :=
  state.active == 0 && decide (Duration.minute ≤ now.sub state.lastUsed)
    && rate.tokensAtLeast state.opens now (rate.burst state.opens)
    && rate.tokensAtLeast state.bytes now (rate.burst state.bytes)

/-- One of the two loops of `expireIdle`. -/
def expireIdle (now : Time) : Scope Limit Limiter :=
  { s with table := s.table.filter (fun _ i => !(s.states[i]?.any (idle rate now))) }

/-- The state object of a key, made afresh when the table has none. -/
def entry (key : String) (now : Time) : IngressLimitState Limiter :=
  ((s.table.lookup key).bind (fun i => s.states[i]?)).getD (newIngressLimitState rate s.config now)

def pointer (key : String) : Nat := (s.table.lookup key).getD s.states.length

def full (now : Time) (state : IngressLimitState Limiter) : Bool :=
  decide (s.config.connections ≤ state.active) || rate.tokensBelow state.opens now 1

/-- What an acquire does to each of its two objects. -/
def charge (now : Time) (state : IngressLimitState Limiter) : IngressLimitState Limiter :=
  { state with opens := rate.allowN state.opens now 1, active := state.active + 1, lastUsed := now }

/-- Write a key's object and store its pointer in the map. -/
def store (key : String) (state : IngressLimitState Limiter) : Scope Limit Limiter :=
  match s.table.lookup key with
  | some i => { s with states := s.states.set i state }
  | none => { s with table := s.table.insert key s.states.length, states := s.states ++ [state] }

/-- What a release does to each of its two objects. -/
def giveBack (i : Nat) (now : Time) : Scope Limit Limiter :=
  match s.states[i]? with
  | none => s
  | some state => { s with states := s.states.set i { state with active := state.active - 1, lastUsed := now } }

/-- Waiting for byte tokens changes the byte limiter of an object. -/
def pace (i : Nat) (bytes : Limiter) : Option (Scope Limit Limiter) :=
  (s.states[i]?).map (fun state => { s with states := s.states.set i { state with bytes := bytes } })

end Scope

/-! ## The limiter -/

/-- The fields of the decision's binding that name the counters. -/
structure IngressBinding where
  (accountID publicationID : String)
deriving DecidableEq

def IngressBinding.publicationKey (binding : IngressBinding) : String :=
  binding.accountID ++ "\x00" ++ binding.publicationID

/-- `IngressLease`; `released` says that its `once` has run. -/
structure IngressLease where
  (publication account : Nat)
  binding : IngressBinding
  released : Bool := false

structure IngressLimits (Limit Limiter : Type) where
  (publication account : Scope Limit Limiter)
  /-- Every lease ever handed out. -/
  leases : List IngressLease := []

def defaultIngressLimits : IngressLimitConfig Limit × IngressLimitConfig Limit :=
  ({ connections := 64, openRate := rate.limit 10, openBurst := 32, byteRate := rate.limit (8 * 1024 * 1024),
     byteBurst := 256 * 1024 },
   { connections := 128, openRate := rate.limit 50, openBurst := 128, byteRate := rate.limit (32 * 1024 * 1024),
     byteBurst := 1024 * 1024 })

def newIngressLimits (config : Option (IngressLimitConfig Limit × IngressLimitConfig Limit)) :
    Except IngressError (IngressLimits Limit Limiter) :=
  let config := config.getD (defaultIngressLimits rate)
  if !validIngressLimit rate config.1 || !validIngressLimit rate config.2 then .error .ingressLimitExceeded
  else .ok { publication := { config := config.1 }, account := { config := config.2 } }

namespace IngressLimits

variable (l : IngressLimits Limit Limiter)

def entries : Nat := l.publication.table.entries.length + l.account.table.entries.length

def expireIdle (now : Time) : IngressLimits Limit Limiter :=
  { l with publication := l.publication.expireIdle rate now, account := l.account.expireIdle rate now }

variable (binding : IngressBinding) (now : Time)

def newEntries : Nat :=
  (if l.publication.table.lookup binding.publicationKey = none then 1 else 0)
    + (if l.account.table.lookup binding.accountID = none then 1 else 0)

/-- The checks of `acquire`, on the tables left by `expireIdle`. -/
def refuses : Bool :=
  decide (maximumIngressLimitEntries < l.entries + l.newEntries binding)
    || l.publication.full rate now (l.publication.entry rate binding.publicationKey now)
    || l.account.full rate now (l.account.entry rate binding.accountID now)

/-- What `acquire` does once its checks have passed. -/
def grant : IngressLimits Limit Limiter where
  publication := l.publication.store binding.publicationKey
    (Scope.charge rate now (l.publication.entry rate binding.publicationKey now))
  account := l.account.store binding.accountID (Scope.charge rate now (l.account.entry rate binding.accountID now))
  leases := l.leases ++
    [{ publication := l.publication.pointer binding.publicationKey, account := l.account.pointer binding.accountID,
       binding := binding }]

/-- `acquire`: the lease is named by its position. -/
def acquire : IngressLimits Limit Limiter × Except IngressError Nat :=
  let l := l.expireIdle rate now
  if l.refuses rate binding now then (l, .error .ingressLimitExceeded)
  else (l.grant rate binding now, .ok l.leases.length)

/-- `Release` of a lease: nothing from the second call on. -/
def release (j : Nat) (lease : IngressLease) (now : Time) : IngressLimits Limit Limiter :=
  if lease.released then l
  else
    { publication := l.publication.giveBack lease.publication now
      account := l.account.giveBack lease.account now
      leases := l.leases.set j { lease with released := true } }

end IngressLimits

inductive IngressAction (Limiter : Type) where
  | acquire (binding : IngressBinding) (now : Time)
  | expireIdle (now : Time)
  | release (lease : Nat) (now : Time)
  | pacePublication (state : Nat) (bytes : Limiter)
  | paceAccount (state : Nat) (bytes : Limiter)

def IngressLimits.step (l : IngressLimits Limit Limiter) :
    IngressAction Limiter → Option (IngressLimits Limit Limiter)
  | .acquire binding now => some (l.acquire rate binding now).1
  | .expireIdle now => some (l.expireIdle rate now)
  | .release j now => (l.leases[j]?).map (fun lease => l.release j lease now)
  | .pacePublication state bytes => (l.publication.pace state bytes).map (fun s => { l with publication := s })
  | .paceAccount state bytes => (l.account.pace state bytes).map (fun s => { l with account := s })

end PaperboatTunnel.EdgeHTTP
