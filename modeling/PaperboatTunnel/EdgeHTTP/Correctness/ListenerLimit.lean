import Mathlib.Data.List.Dedup
import PaperboatTunnel.EdgeHTTP.Correctness.TCPShutdown

/-!
# `ListenerLimit` — the number of open listeners

`reconcile` refuses a snapshot that asks for too many listeners. `PrepareTCPRoutes` counts nothing, and what it has
prepared stays open for a while next to the listeners of a snapshot.
-/

namespace PaperboatTunnel.EdgeHTTP.PublicTCPListeners

open GoTime ConnectorProtocol TransitionSystem

variable (p : PublicTCPListeners)

def asked : List String :=
  match p.worker with
  | .fetched desired => desired.keys
  | _ => []

/-- The listeners of the rules that are not open. -/
def added (rules : List Route.RouteRule) : List String :=
  (rules.map (fun rule => rule.publicTCPListenerID)).dedup.filter (fun id => id ∉ p.listeners.keys)

/-- The prepared listeners that stay open beside those of the snapshot. -/
def beside (now : Time) : List String :=
  (p.listeners.entries.filter (fun e => now.before e.2.preparedUntil ∧ e.1 ∉ p.asked)).map Sigma.fst

/-- There is room for these listeners next to the others. -/
def room (held extra : List String) : Bool :=
  extra = [] ∨ held.length + extra.length ≤ p.maximumListeners

/-- What the limit relies on: `PrepareTCPRoutes` has room for the listeners that are not open yet, and `reconcile` for
    the prepared ones that are not in its snapshot. -/
def Planned : Section → Bool
  | .prepareTCPRoutes rules _ _ => p.room p.listeners.keys (p.added rules)
  | .reconcile _ _ now => p.room p.asked (p.beside now)
  | _ => true

/-- What is open and what a snapshot in flight asks for stays within the limit. -/
structure Within (maximum : Nat) (p : PublicTCPListeners) : Prop where
  limit : p.maximumListeners = maximum
  listeners : p.listeners.entries.length ≤ maximum
  asked : p.asked.length ≤ maximum

variable {p} {lib : AddressLib} {q : PublicTCPListeners} {s : Section} {now : Time} {ids rest : List String} {id : String}
  {tables : GoMap String PublicTCPListener × GoMap String IngressDecision}

/-- The tables of `reconcile` while listeners are left to review: every other open one is asked for. -/
structure Reviewing (now : Time) (ids rest : List String)
    (tables : GoMap String PublicTCPListener × GoMap String IngressDecision) : Prop where
  kept : ∀ id live, tables.1.lookup id = some live → id ∈ ids ∨ id ∈ rest ∧ now.before live.preparedUntil = false
  desired : ∀ id d, tables.2.lookup id = some d → id ∈ ids

theorem Reviewing.review (h : Reviewing now ids (id :: rest) tables) : Reviewing now ids rest (review now tables id) := by
  have hother (id' : String) (live : PublicTCPListener) (hlive : tables.1.lookup id' = some live) (hne : id' ≠ id) :
      id' ∈ ids ∨ id' ∈ rest ∧ now.before live.preparedUntil = false := by
    simpa [hne] using h.kept id' live hlive
  have herase : ∀ id' live, (tables.1.erase id).lookup id' = some live →
      id' ∈ ids ∨ id' ∈ rest ∧ now.before live.preparedUntil = false := by
    intro id' live hlive
    obtain ⟨hne, hlive⟩ := GoMap.lookup_of_erase hlive
    exact hother id' live hlive hne
  unfold PublicTCPListeners.review
  split
  next hnone => exact ⟨fun id' live hlive => hother id' live hlive (by grind), h.desired⟩
  next live hlive _ =>
    split
    next hearly =>
      have hid : id ∈ ids := by simpa [hearly] using h.kept id live hlive
      exact ⟨fun id' live' hlive' => by grind, h.desired⟩
    next => exact ⟨herase, h.desired⟩
  next live next hlive hnext =>
    split
    next => exact ⟨herase, h.desired⟩
    next =>
      refine ⟨?_, fun id' d hd => h.desired id' d (GoMap.lookup_of_erase hd).2⟩
      intro id' live' hlive'
      rw [GoMap.lookup_insert_eq] at hlive'
      grind [h.desired id next hnext]

theorem Reviewing.foldl (h : Reviewing now ids rest tables) :
    Reviewing now ids [] (rest.foldl (PublicTCPListeners.review now) tables) := by
  induction rest generalizing tables with
  | nil => exact h
  | cons id rest ih => exact ih h.review

theorem bindDesired_asked {listen : UInt16 → Bool} {des : GoMap String IngressDecision}
    (hdesired : ∀ id d, des.lookup id = some d → id ∈ ids) (order : List String)
    (listeners : GoMap String PublicTCPListener) (hopen : ∀ id ∈ listeners, id ∈ ids) :
    ∀ id ∈ (bindDesired listen des order listeners).1, id ∈ ids := by
  fun_induction bindDesired listen des order listeners with
  | case1 => exact hopen
  | case2 id order listeners hnone ih => exact ih hopen
  | case3 id order listeners d hd hlisten ih =>
    refine ih (fun id' hid' => ?_)
    rcases (AList.mem_insert _).mp hid' with rfl | hin
    · exact hdesired _ d hd
    · exact hopen id' hin
  | case4 => exact hopen

/-- After `reconcile` only listeners of the snapshot are open, and those that were prepared. -/
theorem reconcile_asked {des : GoMap String IngressDecision} {order : List String} {listen : UInt16 → Bool}
    (hdesired : ∀ id ∈ des, id ∈ ids)
    (hprepared : ∀ e ∈ p.listeners.entries, now.before e.2.preparedUntil = true → e.1 ∈ ids) :
    ∀ id ∈ (p.reconcile des order listen now).1, id ∈ ids := by
  have hstart : Reviewing now ids p.listeners.keys (p.listeners, des) := by
    refine ⟨fun id live hlive => ?_, fun id d hd => hdesired id (AList.lookup_isSome.mp (by rw [hd]; rfl))⟩
    have hentry := hprepared ⟨id, live⟩ (GoMap.mem_entries_iff.mpr hlive)
    have hin : id ∈ p.listeners.keys := AList.mem_keys.mp (AList.lookup_isSome.mp (by rw [hlive]; rfl))
    grind
  have hend := hstart.foldl
  refine bindDesired_asked hend.desired order _ (fun id hid => ?_)
  obtain ⟨live, hlive⟩ := Option.isSome_iff_exists.mp (AList.lookup_isSome.mpr hid)
  simpa using hend.kept id live hlive

theorem prepareTCPRoutes_keys {interval : Duration} {listen : UInt16 → Bool} (rules : List Route.RouteRule)
    (listeners : GoMap String PublicTCPListener) : ∀ id ∈ (prepareTCPRoutes interval listen now rules listeners).1,
      id ∈ listeners ∨ id ∈ rules.map (fun rule => rule.publicTCPListenerID) := by
  fun_induction prepareTCPRoutes interval listen now rules listeners with
  | case1 | case2 | case3 | case6 => exact fun id hid => .inl hid
  | case4 _ _ _ _ _ _ _ _ _ ih | case5 _ _ _ _ _ _ _ _ _ ih =>
    intro id hid
    have hrest := ih id hid
    rw [AList.mem_insert] at hrest
    grind

theorem length_of_room {held extra : List String} {listeners : GoMap String PublicTCPListener}
    (hheld : held.length ≤ p.maximumListeners) (hroom : p.room held extra)
    (hids : ∀ id ∈ listeners, id ∈ held ++ extra) : listeners.entries.length ≤ p.maximumListeners := by
  refine (GoMap.length_le_of_keys hids).trans ?_
  rw [List.length_append]
  rcases of_decide_eq_true hroom with hnone | hfits
  · simpa [hnone] using hheld
  · exact hfits

theorem Within.step {lim : Nat} (h : p.Within lim) (hok : p.Planned s) (hstep : p.step lib s = some q) :
    q.Within lim := by
  revert hok hstep
  fun_cases PublicTCPListeners.step lib p s <;> intro hok hstep
  case case1 | case10 =>
    cases hstep
    exact ⟨h.limit, h.listeners, Nat.zero_le _⟩
  case case3 =>
    cases hstep
    refine ⟨h.limit, h.listeners, ?_⟩
    unfold PublicTCPListeners.asked fetch
    grind [h.limit]
  case case5 =>
    cases hstep
    exact ⟨h.limit, Nat.zero_le _, Nat.zero_le _⟩
  case case7 now des hworker _ =>
    cases hstep
    have hasked : p.asked = des.keys := by rw [PublicTCPListeners.asked, hworker]
    refine ⟨h.limit, h.limit ▸ length_of_room (h.limit ▸ h.asked) hok (reconcile_asked (fun id hid => ?_) ?_),
      Nat.zero_le _⟩
    · exact List.mem_append_left _ (hasked ▸ AList.mem_keys.mp hid)
    intro e he hearly
    by_cases hin : e.1 ∈ p.asked
    · exact List.mem_append_left _ hin
    · refine List.mem_append_right _ (List.mem_map_of_mem (List.mem_filter.mpr ⟨he, ?_⟩))
      exact decide_eq_true ⟨hearly, hin⟩
  case case13 rules listen now =>
    cases hstep
    have hkeys : p.listeners.keys.length ≤ p.maximumListeners := (List.length_map _).trans_le (h.limit ▸ h.listeners)
    refine ⟨h.limit, h.limit ▸ length_of_room hkeys hok (fun id hid => ?_), h.asked⟩
    by_cases hin : id ∈ p.listeners.keys
    · exact List.mem_append_left _ hin
    · have hrule := (prepareTCPRoutes_keys rules p.listeners id hid).resolve_left hin
      exact List.mem_append_right _ (List.mem_filter.mpr ⟨List.mem_dedup.mpr hrule, decide_eq_true hin⟩)
  case case14 =>
    cases hstep
    exact ⟨h.limit, h.listeners, h.asked⟩
  case case15 =>
    obtain ⟨_, rfl⟩ := of_guard hstep
    exact ⟨h.limit, Nat.zero_le _, h.asked⟩
  case case16 | case18 =>
    obtain ⟨_, rfl⟩ := of_guard hstep
    exact ⟨h.limit, h.listeners, h.asked⟩
  -- the others are not enabled
  all_goals cases hstep

/-- **The number of open listeners stays within `MaximumListeners`** in every interleaving of the sections of a started
    set in which `PrepareTCPRoutes` has room for what it opens and `reconcile` for what stays prepared. -/
theorem listeners_within_limit (lib : AddressLib) (interval : Duration) (maximumListeners : Nat)
    (tr : Trace PublicTCPListeners Section) (q : PublicTCPListeners)
    (hrun : Run (step lib) { interval, maximumListeners } tr q) (hok : ∀ t ∈ tr, t.pre.Planned t.label = true) :
    q.listeners.entries.length ≤ maximumListeners := by
  have hwithin : q.Within maximumListeners :=
    hrun.invariant_of (fun hok h hstep => h.step hok hstep) hok ⟨rfl, Nat.zero_le _, Nat.zero_le _⟩
  exact hwithin.listeners

def limitedTo (maximumListeners : Nat) : PublicTCPListeners := { interval := 2 * Duration.second, maximumListeners }

def otherRule : Route.RouteRule := { tcpRule with publicTCPListenerID := "listener_2", publicTCPPort := 20001 }

/-- A listener is prepared, and the authority asks for another one. -/
def plannedSections : List Section :=
  [.prepareTCPRoutes [otherRule] (fun _ => true) (sampleDecision 2).issuedAt,
    .snapshot (some [sampleDecision 1]) (sampleDecision 2).issuedAt,
    .reconcile ["listener_1"] (fun _ => true) (sampleDecision 2).issuedAt]

/-- Both listeners are opened, where two are allowed. -/
theorem listeners_within_limit_planned : ∃ q, exec (step sampleLib) (limitedTo 2) plannedSections = some q
      ∧ q.listeners.keys = ["listener_1", "listener_2"] ∧ q.listeners.entries.length ≤ 2 := by
  have h : (exec (step sampleLib) (limitedTo 2) plannedSections).isSome = true := by decide +kernel
  exact ⟨_, exec_getD h, by decide +kernel, listeners_within_limit _ _ _ _ _ (exec_getD_run h) (by decide +kernel)⟩

/-- **The limit is passed**: two routes are prepared where one listener is allowed. -/
theorem limit_passed : ∃ q, exec (step sampleLib) (limitedTo 1)
      [.prepareTCPRoutes [tcpRule, otherRule] (fun _ => true) {}] = some q
      ∧ q.maximumListeners < q.listeners.entries.length := by
  decide +kernel

end PaperboatTunnel.EdgeHTTP.PublicTCPListeners
