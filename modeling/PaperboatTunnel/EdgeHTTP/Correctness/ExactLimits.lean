import PaperboatTunnel.EdgeHTTP.IngressLimits
import PaperboatTunnel.Lib.RefCount

/-!
# `ExactLimits` — the counters of the ingress limiter are exact

Each of the two tables is a reference-counted table (`Lib.RefCount`) whose references are the leases. A release goes
through the pointer of the lease and not through the table, so the counters are exact only because a live lease keeps
its object in the table (`RefCount.Exact.found`). `Scope.Sound` is the invariant of one table.
-/

namespace PaperboatTunnel.EdgeHTTP

open GoTime TransitionSystem RefCount Scope List Option GoMap Nat

variable {Limit Limiter : Type} {rate : RateLimiter Limit Limiter}

/-! ## One table -/

namespace Scope

variable {s : Scope Limit Limiter} {refs : List (Ref String)} {key : String} {now : Time} {i : Nat}

def counter (s : Scope Limit Limiter) (key : String) : Int :=
  RefCount.counter IngressLimitState.active s.table s.states key

structure Sound (s : Scope Limit Limiter) (refs : List (Ref String)) : Prop where
  exact : Exact IngressLimitState.active s.table s.states refs
  bounded : ∀ key, (held key refs : Int) ≤ s.config.connections

theorem Sound.counter_le (h : s.Sound refs) (key : String) : s.counter key ≤ s.config.connections :=
  (h.exact.counter_eq key).trans_le (h.bounded key)

theorem lookup_expireIdle : (s.expireIdle rate now).table.lookup key
      = (s.table.lookup key).filter (fun i => !(s.states[i]?.any (idle rate now))) :=
  lookup_filter

variable {state : IngressLimitState Limiter} {s' : Scope Limit Limiter}

theorem active_of_idle (h : idle rate now state) : state.active = 0 := by
  simp only [idle, Bool.and_eq_true, beq_iff_eq] at h
  exact h.1.1.1

theorem Sound.expireIdle (h : s.Sound refs) : (s.expireIdle rate now).Sound refs := by
  refine ⟨h.exact.evict (fun k i hk => ?_) (fun k i state hk hgone hst => ?_), h.bounded⟩
  · rw [lookup_expireIdle, filter_eq_some_iff] at hk
    exact hk.1
  rw [lookup_expireIdle, hk, filter_eq_none_iff] at hgone
  have hidle := hgone i rfl
  rw [hst, any_some, Bool.not_eq_true, Bool.not_eq_false'] at hidle
  exact active_of_idle hidle

@[simp] theorem config_store : (s.store key state).config = s.config := by
  unfold store
  split <;> rfl

/-- **A granted connection** is one more live reference, to the entry it found or to the one it made. -/
theorem Sound.charge (h : s.Sound refs) (hroom : s.full rate now (s.entry rate key now) = false) :
    (s.store key (charge rate now (s.entry rate key now))).Sound (refs ++ [⟨key, s.pointer key, true⟩]) := by
  have hbelow : (s.entry rate key now).active < s.config.connections := by
    simp only [full, Bool.or_eq_false_iff, decide_eq_false_iff_not, Int.not_le] at hroom
    exact hroom.1
  have hact : (s.entry rate key now).active = held key refs := by
    unfold entry
    cases hk : s.table.lookup key with
    | none =>
      rw [h.exact.held_eq_zero hk]
      rfl
    | some i =>
      obtain ⟨_, hst, hcount⟩ := h.exact.counts key i hk
      rw [bind_some, hst]
      exact hcount
  constructor
  case exact =>
    unfold store pointer
    cases hk : s.table.lookup key with
    | none =>
      have hone : (Scope.charge rate now (s.entry rate key now)).active = 1 := by
        show (s.entry rate key now).active + 1 = 1
        rw [hact, h.exact.held_eq_zero hk]
        rfl
      exact h.exact.enter hk hone
    | some i =>
      obtain ⟨state, hst, hcount⟩ := h.exact.counts key i hk
      have hone : (Scope.charge rate now (s.entry rate key now)).active = state.active + 1 := by
        show (s.entry rate key now).active + 1 = state.active + 1
        rw [hact, hcount]
      exact h.exact.hold hk hst hone
  case bounded =>
    intro k
    rw [config_store, held_snoc]
    by_cases hk : key = k
    · subst hk
      simp only [Bool.true_and, decide_true, if_true]
      omega
    · have hsame := h.bounded k
      simpa [hk] using hsame

/-- **A connection is given back** through the pointer of its lease. -/
theorem Sound.giveBack {j : Nat} {r : Ref String} (h : s.Sound refs) (hj : refs[j]? = some r)
    (hlive : r.live) : (s.giveBack r.row now).Sound (refs.set j { r with live := false }) := by
  have hfound := h.exact.found r (mem_of_getElem? hj) hlive
  obtain ⟨_, hst, _⟩ := h.exact.counts r.key r.row hfound
  unfold Scope.giveBack
  rw [hst]
  refine ⟨h.exact.drop hj hlive hst rfl, fun k => ?_⟩
  have hdrop := held_drop hj hlive k
  have hbefore := h.bounded k
  show (held k (refs.set j { r with live := false }) : Int) ≤ s.config.connections
  split at hdrop <;> omega

theorem Sound.pace {bytes : Limiter} (h : s.Sound refs) (hpace : s.pace i bytes = some s') : s'.Sound refs := by
  obtain ⟨_, hst, rfl⟩ := map_eq_some_iff.mp hpace
  exact ⟨h.exact.write hst rfl, h.bounded⟩

/-! What the operations leave of the table. -/

theorem lookup_store {k : String} (h : s.table.lookup k = some i) : (s.store key state).table.lookup k = some i := by
  unfold store
  cases hk : s.table.lookup key with
  | some => exact h
  | none =>
    have hne : k ≠ key := by
      rintro rfl
      rw [h] at hk
      cases hk
    exact (AList.lookup_insert_ne hne).trans h

theorem length_store : (s.store key state).table.entries.length
      = s.table.entries.length + if s.table.lookup key = none then 1 else 0 := by
  unfold store
  cases hk : s.table.lookup key with
  | some => simp
  | none =>
    rw [if_pos rfl]
    exact length_insert hk

@[simp] theorem table_giveBack : (s.giveBack i now).table = s.table := by
  unfold giveBack
  split <;> rfl

@[simp] theorem config_giveBack : (s.giveBack i now).config = s.config := by
  unfold giveBack
  split <;> rfl

theorem table_pace {bytes : Limiter} (h : s.pace i bytes = some s') : s'.table = s.table ∧ s'.config = s.config := by
  obtain ⟨_, _, rfl⟩ := map_eq_some_iff.mp h
  exact ⟨rfl, rfl⟩

end Scope

/-! ## The limiter -/

namespace IngressLimits

variable {l l' : IngressLimits Limit Limiter} {binding : IngressBinding} {now : Time}

def publicationRef (lease : IngressLease) : Ref String :=
  ⟨lease.binding.publicationKey, lease.publication, !lease.released⟩

def accountRef (lease : IngressLease) : Ref String := ⟨lease.binding.accountID, lease.account, !lease.released⟩

variable (l)

def livePublication (key : String) : Nat :=
  l.leases.countP (fun lease => !lease.released && decide (lease.binding.publicationKey = key))

def liveAccount (key : String) : Nat :=
  l.leases.countP (fun lease => !lease.released && decide (lease.binding.accountID = key))

/-- **The invariant of the limiter.** -/
structure Sound : Prop where
  publication : l.publication.Sound (l.leases.map publicationRef)
  account : l.account.Sound (l.leases.map accountRef)
  entries_le : l.entries ≤ maximumIngressLimitEntries

variable {l}

theorem sound_new {cfg : Option (IngressLimitConfig Limit × IngressLimitConfig Limit)}
    (h : newIngressLimits rate cfg = .ok l) : l.Sound := by
  unfold newIngressLimits at h
  generalize cfg.getD (defaultIngressLimits rate) = cfg at h
  obtain ⟨_, _⟩ := cfg
  dsimp only at h
  split at h
  · cases h
  next hval =>
  cases h
  simp only [Bool.or_eq_true, Bool.not_eq_true', not_or, Bool.not_eq_false, validIngressLimit, Bool.and_eq_true,
    decide_eq_true_eq] at hval
  obtain ⟨⟨⟨⟨⟨hpublished, _⟩, _⟩, _⟩, _⟩, ⟨⟨⟨haccount, _⟩, _⟩, _⟩, _⟩ := hval
  exact ⟨⟨Exact.empty, fun _ => Int.le_of_lt hpublished⟩, ⟨Exact.empty, fun _ => Int.le_of_lt haccount⟩,
    Nat.zero_le _⟩

variable (h : l.Sound)

include h

theorem Sound.expireIdle : (l.expireIdle rate now).Sound :=
  ⟨h.publication.expireIdle, h.account.expireIdle,
    le_trans (Nat.add_le_add length_filter_le length_filter_le) h.entries_le⟩

theorem Sound.grant (hok : l.refuses rate binding now = false) : (l.grant rate binding now).Sound := by
  simp only [refuses, Bool.or_eq_false_iff, decide_eq_false_iff_not, not_lt] at hok
  obtain ⟨⟨hentries, hpublished⟩, haccount⟩ := hok
  constructor
  case publication =>
    show Scope.Sound _ ((l.leases ++ [_]).map publicationRef)
    rw [map_append]
    exact h.publication.charge hpublished
  case account =>
    show Scope.Sound _ ((l.leases ++ [_]).map accountRef)
    rw [map_append]
    exact h.account.charge haccount
  case entries_le =>
    unfold newEntries at hentries
    show (l.publication.store _ _).table.entries.length + (l.account.store _ _).table.entries.length ≤ _
    rw [length_store, length_store]
    unfold entries at hentries
    omega

variable {lease : IngressLease} {a : IngressAction Limiter}
  {tr : Trace (IngressLimits Limit Limiter) (IngressAction Limiter)}

theorem Sound.release {j : Nat} (hj : l.leases[j]? = some lease) : (l.release j lease now).Sound := by
  unfold IngressLimits.release
  cases hreleased : lease.released with
  | true => exact h
  | false =>
    have hget : ∀ f : IngressLease → Ref String, (l.leases.map f)[j]? = some (f lease) := by
      intro f
      rw [getElem?_map, hj]
      rfl
    constructor
    case publication =>
      show Scope.Sound _ ((l.leases.set j { lease with released := true }).map publicationRef)
      rw [map_set]
      exact h.publication.giveBack (hget publicationRef) (by simp [publicationRef, hreleased])
    case account =>
      show Scope.Sound _ ((l.leases.set j { lease with released := true }).map accountRef)
      rw [map_set]
      exact h.account.giveBack (hget accountRef) (by simp [accountRef, hreleased])
    case entries_le =>
      show (l.publication.giveBack _ _).table.entries.length + (l.account.giveBack _ _).table.entries.length ≤ _
      rw [table_giveBack, table_giveBack]
      exact h.entries_le

/-- **Every step keeps the invariant.** -/
theorem Sound.step (hstep : l.step rate a = some l') : l'.Sound := by
  cases a with
  | acquire =>
    cases hstep
    unfold acquire
    dsimp only
    split
    case isTrue => exact h.expireIdle
    case isFalse hok => exact h.expireIdle.grant (Bool.eq_false_iff.mpr hok)
  | expireIdle =>
    cases hstep
    exact h.expireIdle
  | release =>
    obtain ⟨_, hj, rfl⟩ := map_eq_some_iff.mp hstep
    exact h.release hj
  | pacePublication =>
    obtain ⟨_, hs, rfl⟩ := map_eq_some_iff.mp hstep
    refine ⟨h.publication.pace hs, h.account, ?_⟩
    rw [entries, (table_pace hs).1]
    exact h.entries_le
  | paceAccount =>
    obtain ⟨_, hs, rfl⟩ := map_eq_some_iff.mp hstep
    refine ⟨h.publication, h.account.pace hs, ?_⟩
    rw [entries, (table_pace hs).1]
    exact h.entries_le

omit h in
theorem config_step (hstep : l.step rate a = some l') :
    l'.publication.config = l.publication.config ∧ l'.account.config = l.account.config := by
  cases a with
  | acquire =>
    cases hstep
    unfold acquire
    dsimp only
    split
    case isTrue => exact ⟨rfl, rfl⟩
    case isFalse => exact ⟨config_store, config_store⟩
  | expireIdle =>
    cases hstep
    exact ⟨rfl, rfl⟩
  | release =>
    obtain ⟨_, _, rfl⟩ := map_eq_some_iff.mp hstep
    unfold IngressLimits.release
    split
    case isTrue => exact ⟨rfl, rfl⟩
    case isFalse => exact ⟨config_giveBack, config_giveBack⟩
  | pacePublication | paceAccount =>
    obtain ⟨_, hs, rfl⟩ := map_eq_some_iff.mp hstep
    simp [table_pace hs]

/-- The entries a lease charged. -/
def Holds (l : IngressLimits Limit Limiter) (lease : IngressLease) : Prop :=
  l.publication.table.lookup lease.binding.publicationKey = some lease.publication
    ∧ l.account.table.lookup lease.binding.accountID = some lease.account

theorem Sound.holds (hmem : lease ∈ l.leases) (hlive : lease.released = false) : l.Holds lease :=
  ⟨h.publication.exact.found _ (mem_map_of_mem hmem) (by simp [publicationRef, hlive]),
    h.account.exact.found _ (mem_map_of_mem hmem) (by simp [accountRef, hlive])⟩

/-- **No step removes the entries of a live lease**, the one that releases it included. -/
theorem Sound.holds_step (hstep : l.step rate a = some l') (hmem : lease ∈ l.leases)
    (hlive : lease.released = false) : l'.Holds lease := by
  cases a with
  | acquire _ now =>
    cases hstep
    have hswept : (l.expireIdle rate now).Holds lease := h.expireIdle.holds hmem hlive
    unfold acquire
    dsimp only
    split
    case isTrue => exact hswept
    case isFalse => exact ⟨lookup_store hswept.1, lookup_store hswept.2⟩
  | expireIdle =>
    cases hstep
    exact h.expireIdle.holds hmem hlive
  | release =>
    obtain ⟨_, _, rfl⟩ := map_eq_some_iff.mp hstep
    have hholds := h.holds hmem hlive
    unfold IngressLimits.release
    split
    · exact hholds
    unfold Holds
    rw [table_giveBack, table_giveBack]
    exact hholds
  | pacePublication | paceAccount =>
    obtain ⟨_, hs, rfl⟩ := map_eq_some_iff.mp hstep
    unfold Holds
    rw [(table_pace hs).1]
    exact h.holds hmem hlive

/-- The counters and the leases two states agree on. -/
def SameCounts (l l' : IngressLimits Limit Limiter) : Prop :=
  (∀ key, l'.publication.counter key = l.publication.counter key)
    ∧ (∀ key, l'.account.counter key = l.account.counter key) ∧ l'.leases = l.leases

theorem Sound.sameCounts_expireIdle : l.SameCounts (l.expireIdle rate now) := by
  have hswept : (l.expireIdle rate now).Sound := h.expireIdle
  refine ⟨fun key => ?_, fun key => ?_, rfl⟩
  · exact (hswept.publication.exact.counter_eq key).trans (h.publication.exact.counter_eq key).symm
  · exact (hswept.account.exact.counter_eq key).trans (h.account.exact.counter_eq key).symm

theorem Sound.sameCounts_acquire {e : IngressError} (hrefused : (l.acquire rate binding now).2 = .error e) :
    l.SameCounts (l.acquire rate binding now).1 := by
  unfold acquire at hrefused ⊢
  dsimp only at hrefused ⊢
  split at hrefused
  case isTrue hrefs =>
    rw [if_pos hrefs]
    exact h.sameCounts_expireIdle
  case isFalse => cases hrefused

/-! ## Every run -/

theorem sound_of_run (hrun : Run (step rate) l tr l') : l'.Sound := hrun.invariant (·.step ·) h

omit h

theorem config_of_run (hrun : Run (step rate) l tr l') :
    l'.publication.config = l.publication.config ∧ l'.account.config = l.account.config :=
  hrun.invariant (I := fun m => m.publication.config = l.publication.config ∧ m.account.config = l.account.config)
    (fun hs hstep => ⟨(config_step hstep).1.trans hs.1, (config_step hstep).2.trans hs.2⟩) ⟨rfl, rfl⟩

/-- **Ingress limits are exact.** In every run of a new limiter, every counter is the number of the leases charged to
    it that are not released and is within the configured limit, the tables are within their bound, no step removes
    the entries of a live lease, and a refused acquire changes no counter. -/
theorem limits_exact (rate : RateLimiter Limit Limiter)
    (config : Option (IngressLimitConfig Limit × IngressLimitConfig Limit)) (l q : IngressLimits Limit Limiter)
    (tr : Trace (IngressLimits Limit Limiter) (IngressAction Limiter))
    (hnew : newIngressLimits rate config = .ok l) (hrun : Run (step rate) l tr q) :
    (∀ key, q.publication.counter key = q.livePublication key
      ∧ q.publication.counter key ≤ l.publication.config.connections)
    ∧ (∀ key, q.account.counter key = q.liveAccount key ∧ q.account.counter key ≤ l.account.config.connections)
    ∧ q.entries ≤ maximumIngressLimitEntries
    ∧ (∀ t ∈ tr, ∀ lease ∈ t.pre.leases, lease.released = false → t.pre.Holds lease ∧ t.post.Holds lease)
    ∧ ∀ t ∈ tr, ∀ binding now e, t.label = .acquire binding now →
        (t.pre.acquire rate binding now).2 = .error e → t.pre.SameCounts t.post := by
  have hsound := sound_of_run (sound_new hnew) hrun
  obtain ⟨hpublished, haccount⟩ := config_of_run hrun
  have hsteps : ∀ t ∈ tr, t.pre.Sound ∧ t.pre.step rate t.label = some t.post := by
    intro t ht
    obtain ⟨_, _, _, hbefore, hstep, _⟩ := hrun.split ht
    exact ⟨sound_of_run (sound_new hnew) hbefore, hstep⟩
  refine ⟨fun key => ⟨?_, ?_⟩, fun key => ⟨?_, ?_⟩, hsound.entries_le, ?_, ?_⟩
  · exact (hsound.publication.exact.counter_eq key).trans (congrArg Nat.cast List.countP_map)
  · rw [← hpublished]
    exact hsound.publication.counter_le key
  · exact (hsound.account.exact.counter_eq key).trans (congrArg Nat.cast List.countP_map)
  · rw [← haccount]
    exact hsound.account.counter_le key
  · intro t ht lease hmem hlive
    obtain ⟨hpre, hstep⟩ := hsteps t ht
    exact ⟨hpre.holds hmem hlive, hpre.holds_step hstep hmem hlive⟩
  intro t ht binding now e hlabel hrefused
  obtain ⟨hpre, hstep⟩ := hsteps t ht
  rw [hlabel] at hstep
  rw [← some.inj hstep]
  exact hpre.sameCounts_acquire hrefused

/-! ## A run -/

/-- Buckets that are full again a second after they were last used: burst, tokens and time of the last use. -/
def bucket : RateLimiter Nat (Int × Int × Int) where
  limit := id
  positive n := decide (0 < n)
  newLimiter _ burst := (burst, burst, 0)
  burst b := b.1
  tokensBelow b now n := decide ((if Duration.second ≤ now.nanos - b.2.2 then b.1 else b.2.1) < n)
  tokensAtLeast b now n := decide (n ≤ if Duration.second ≤ now.nanos - b.2.2 then b.1 else b.2.1)
  allowN b now n := (b.1, (if Duration.second ≤ now.nanos - b.2.2 then b.1 else b.2.1) - n, now.nanos)

/-- One connection per publication and two per account. -/
def narrow : IngressLimitConfig Nat × IngressLimitConfig Nat :=
  ({ connections := 1, openRate := 1, openBurst := 4, byteRate := 1, byteBurst := ingressPacingChunk },
   { connections := 2, openRate := 1, openBurst := 4, byteRate := 1, byteBurst := ingressPacingChunk })

/-- A connection is refused while the publication's only one is open; released twice, swept two minutes later, and
    opened again. -/
def reopening : List (IngressAction (Int × Int × Int)) :=
  let site : IngressBinding := ⟨"acct", "site"⟩
  [.acquire site ⟨Duration.hour, 0⟩, .acquire site ⟨Duration.hour, 0⟩, .release 0 ⟨Duration.hour, 0⟩,
    .release 0 ⟨Duration.hour, 0⟩, .expireIdle ⟨Duration.hour + 2 * Duration.minute, 0⟩,
    .acquire site ⟨Duration.hour + 3 * Duration.minute, 0⟩]

theorem limits_exact_reopening : ∃ l q : IngressLimits Nat (Int × Int × Int),
    newIngressLimits bucket (some narrow) = .ok l ∧ exec (step bucket) l reopening = some q
      ∧ q.publication.counter "acct\x00site" = q.livePublication "acct\x00site"
      ∧ q.livePublication "acct\x00site" = 1 ∧ q.leases.length = 2 := by
  let l : IngressLimits Nat (Int × Int × Int) :=
    { publication := { config := narrow.1 }, account := { config := narrow.2 } }
  have h : (exec (step bucket) l reopening).isSome = true := by decide +kernel
  obtain ⟨hpub, _⟩ := limits_exact bucket (some narrow) l _ _ rfl (exec_getD_run h)
  exact ⟨l, _, rfl, exec_getD h, (hpub _).1, by decide +kernel, by decide +kernel⟩

end IngressLimits

end PaperboatTunnel.EdgeHTTP
