import PaperboatTunnel.EdgeHTTP.IngressLimits
import Mathlib.Algebra.Ring.Nat

/-!
# `MeteredTransfer` — one metered `Read` or `Write`

`meteredIngressStream.transfer`. The stream under the meter, the two byte limiters and the usage recorder answer as
they like, from a state `σ` of their own, which also has what a `Read` puts into the buffer and what other calls do.
-/

namespace PaperboatTunnel.EdgeHTTP

/-- `Write` or `Read`; as `io.Writer` and `io.Reader` ask, it moves no more than it was called with. -/
abbrev StreamOperation (σ ε : Type) := (payload : List UInt8) → σ → Fin (payload.length + 1) × Option ε × σ

/-- `meteredIngressStream`, with the fields of its lease. -/
structure MeteredIngressStream (σ ε : Type) where
  (write read : StreamOperation σ ε)
  /-- `WaitN` of the byte limiters. -/
  (publication account : Nat → σ → Option ε × σ)
  /-- `Record` -/
  usage : Option (String → String → UInt64 → UInt64 → UInt64 → σ → Option ε × σ)
  (environmentID routeID : String)
  routeGeneration : UInt64
  errNoProgress : ε

/-- The direction is `true` for ingress. -/
structure UsageRecord (ε : Type) where
  bytes : Bool → UInt64
  err : Option ε

structure TransferCall (σ ε : Type) where
  outside : σ
  moved : List Nat := []
  recorded : List (UsageRecord ε) := []

namespace MeteredIngressStream

variable {σ ε : Type} (s : MeteredIngressStream σ ε) (ingress : Bool)

def wait (bytes : Nat) (c : TransferCall σ ε) : Option ε × TransferCall σ ε :=
  match s.publication bytes c.outside with
  | (some err, outside) => (some err, { c with outside })
  | (none, outside) =>
    let (err, outside) := s.account bytes outside
    (err, { c with outside })

def move (payload : List UInt8) (c : TransferCall σ ε) : Nat × Option ε × TransferCall σ ε :=
  let (n, err, outside) := if ingress then s.write payload c.outside else s.read payload c.outside
  (n, err, { c with outside, moved := c.moved ++ [n.val] })

def record (n : Nat) (c : TransferCall σ ε) : Option ε × TransferCall σ ε :=
  match s.usage with
  | none => (none, c)
  | some usage =>
    if n = 0 then (none, c)
    else
      let bytes := fun direction => if direction = ingress then UInt64.ofNat n else 0
      let (err, outside) := usage s.environmentID s.routeID s.routeGeneration (bytes true) (bytes false) c.outside
      (err, { c with outside, recorded := c.recorded ++ [{ bytes, err }] })

/-- The loop of `transfer`, from the bytes moved before; `Read` and `Write` call it for their direction from 0. -/
def transfer (payload : List UInt8) (total : Nat) (c : TransferCall σ ε) : Nat × Option ε × TransferCall σ ε :=
  if payload.length = 0 then (total, none, c)
  else
    let chunk := min payload.length ingressPacingChunk.toNat
    match s.wait chunk c with
    | (some err, c) => (total, some err, c)
    | (none, c) =>
      let (n, err, c) := s.move ingress (payload.take chunk) c
      let total := total + n
      match s.record ingress n c with
      | (some usageErr, c) => (total, some usageErr, c)
      | (none, c) =>
        if err.isSome then (total, err, c)
        else if n = 0 then (total, some s.errNoProgress, c)
        else if !ingress then (total, none, c)
        else transfer (payload.drop n) total c
termination_by payload.length

/-! ## The three totals -/

/-- What was moved is the count, in pieces of a chunk at most, and is recorded in its direction unless a recording
    has failed. -/
structure Exact (total : Nat) (c : TransferCall σ ε) : Prop where
  moved : c.moved.sum = total
  chunk : ∀ n ∈ c.moved, n ≤ 32 * 1024
  recorded : s.usage.isSome → (∀ r ∈ c.recorded, r.err = none) →
    (c.recorded.map fun r => (r.bytes ingress).toNat).sum = total ∧ ∀ r ∈ c.recorded, r.bytes (!ingress) = 0

variable {s ingress} {total n : Nat} {c c₁ c₂ c₃ : TransferCall σ ε} {err : Option ε}

namespace Exact

theorem wait (h : s.Exact ingress total c) (hwait : s.wait n c = (err, c₁)) : s.Exact ingress total c₁ := by
  unfold MeteredIngressStream.wait at hwait
  split at hwait
  all_goals
    cases hwait
    exact ⟨h.moved, h.chunk, h.recorded⟩

theorem record {payload : List UInt8} {usageErr : Option ε} (h : s.Exact ingress total c₁)
    (hmove : s.move ingress (payload.take (min payload.length ingressPacingChunk.toNat)) c₁ = (n, err, c₂))
    (hrec : s.record ingress n c₂ = (usageErr, c₃)) : s.Exact ingress (total + n) c₃ := by
  unfold move at hmove
  generalize (if ingress = true then s.write _ c₁.outside else s.read _ c₁.outside) = answer at hmove
  obtain ⟨k, err, outside⟩ := answer
  cases hmove
  have hk : (k : Nat) ≤ 32 * 1024 := k.is_le.trans ((List.length_take_le _ _).trans (Nat.min_le_right _ _))
  have hmoved : (c₁.moved ++ [k.val]).sum = total + k := by simp [h.moved]
  have hchunk : ∀ n ∈ c₁.moved ++ [k.val], n ≤ 32 * 1024 := by
    simpa [or_imp, forall_and, hk] using h.chunk
  unfold MeteredIngressStream.record at hrec
  split at hrec
  next husage =>
    cases hrec
    exact ⟨hmoved, hchunk, fun hsome => by simp [husage] at hsome⟩
  next usage _ =>
    split at hrec
    next hzero =>
      cases hrec
      exact ⟨hmoved, hchunk, by simpa [hzero] using h.recorded⟩
    next =>
      cases hrec
      refine ⟨hmoved, hchunk, fun hsome hok => ?_⟩
      -- the records before this one have not failed either
      obtain ⟨hsum, hother⟩ := h.recorded hsome (fun r hr => hok r (List.mem_append_left _ hr))
      have hex : (UInt64.ofNat k).toNat = k := UInt64.toNat_ofNat_of_lt' (lt_of_le_of_lt hk (by decide))
      simpa [or_imp, forall_and, hsum, hex] using hother

/-- The loop keeps the totals. By induction over its turns. -/
theorem transfer (h : s.Exact ingress total c) (payload : List UInt8) :
    s.Exact ingress (s.transfer ingress payload total c).1 (s.transfer ingress payload total c).2.2 := by
  fun_induction MeteredIngressStream.transfer s ingress payload total c with
  | case1 => exact h
  | case2 payload total c hne chunk err c₁ hwait => exact h.wait hwait
  | case7 payload total c hne chunk c₁ hwait n err c₂ hmove total' c₃ hrec _ _ _ ih =>
    exact ih ((h.wait hwait).record hmove hrec)
  | _ => exact (h.wait ‹_›).record ‹_› ‹_›

end Exact

/-- **A metered transfer is exact.** Whatever the stream, the limiters and the recorder do, the count that `Read` or
    `Write` returns is the number of bytes that the stream moved in the call, at most 32 KiB in each operation; if no
    recording fails, the records of the call add up to it in their direction and have nothing in the other. -/
theorem metered_transfer_exact (s : MeteredIngressStream σ ε) (ingress : Bool) (payload : List UInt8) (outside : σ) :
    let (total, _, c) := s.transfer ingress payload 0 { outside }
    s.Exact ingress total c := by
  have h : s.Exact ingress 0 { outside } := ⟨rfl, by simp, by simp⟩
  exact h.transfer payload

end MeteredIngressStream

end PaperboatTunnel.EdgeHTTP
