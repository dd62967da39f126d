import Mathlib.Data.Prod.Lex
import PaperboatTunnel.Lib.Checks
import PaperboatTunnel.Lib.Contest
import PaperboatTunnel.Route.Ambiguity
import PaperboatTunnel.Route.Promotion

/-!
# `Acceptance` — accepted rule sets, and matching over whole runs

`normalizeRules` accepts a set of rules, each acceptable alone, exactly when no two of them clash. The registry only
holds accepted sets, so a request never finds two candidates of equal rank.
-/

namespace PaperboatTunnel.Route

open GoStrings TransitionSystem RouteRule GenerationRegistry Checks Contest RouteCandidate List Except

/-! ## Normalized sets -/

section Normalized

variable {toASCII : ToASCII} {gen : UInt64}

/-- **What `normalizeRule` establishes.** -/
theorem normal_of_normalizeRule {rule norm : RouteRule} (h : normalizeRule toASCII gen rule = .ok norm) :
    Normal norm ∧ norm.id = rule.id := by
  unfold normalizeRule at h
  obtain ⟨_, h⟩ := ok_iff.mp h
  extract_lets ruleGeneration lowered matchType desiredState originScheme at h
  clear_value ruleGeneration lowered matchType desiredState originScheme
  obtain ⟨_, h⟩ := ok_iff.mp h
  obtain ⟨_, h⟩ := ok_iff.mp h
  split at h
  · cases h
  · cases h
  next hostname suffix path hhost hpath =>
  have hshape : norm.matchType = matchType ∧ norm.pathPrefix = path ∧ norm.id = rule.id := by
    extract_lets res at h
    obtain ⟨_, h⟩ := ok_iff.mp h
    obtain ⟨_, h⟩ := ok_iff.mp h
    obtain ⟨_, h⟩ := ok_iff.mp h
    obtain ⟨_, h⟩ := ok_iff.mp h
    have hres : res = norm := by
      clear_value res
      split at h
      · exact ok.inj (ok_iff.mp h).2
      split at h
      · exact ok.inj (ok_iff.mp h).2
      · exact ok.inj (ok_iff.mp h).2
    rw [← hres]
    exact ⟨rfl, rfl, rfl⟩
  obtain ⟨htype, hpre, hid⟩ := hshape
  refine ⟨⟨?_, rule.pathPrefix, hpre ▸ hpath⟩, hid⟩
  rw [htype]
  unfold normalizeRuleHost at hhost
  split at hhost
  · next hex => tauto
  split at hhost
  · next hwild => exact .inr (.inr (.inl hwild))
  split at hhost
  · next hany => exact .inr (.inr (.inr hany))
  · cases hhost

variable {res rules : List RouteRule} {lim : Nat}

/-- **The first loop** accepts rules that are accepted one by one, and refuses an id that it has seen. -/
theorem normalizeEach_ok_iff : ∀ {rules normalized : List RouteRule} {seen : List String},
    normalizeEach toASCII gen seen rules = .ok normalized ↔
      List.Forall₂ (fun rule n => normalizeRule toASCII gen rule = .ok n) rules normalized
        ∧ (rules.map RouteRule.id).Nodup ∧ ∀ r ∈ rules, r.id ∉ seen
  | [], normalized, seen => by simp [normalizeEach, eq_comm]
  | rule :: rules, normalized, seen => by
      rw [normalizeEach, forall₂_cons_left_iff]
      cases hrule : normalizeRule toASCII gen rule with
      | error => simp
      | ok first =>
        have hids : (first.id ∉ seen ∧ (rules.map RouteRule.id).Nodup ∧ ∀ r ∈ rules, r.id ∉ first.id :: seen) ↔
            ((rule :: rules).map RouteRule.id).Nodup ∧ ∀ r ∈ rule :: rules, r.id ∉ seen := by
          rw [(normal_of_normalizeRule hrule).2]
          grind
        rw [← hids]
        dsimp only
        rw [ok_iff, contains_iff_mem]
        constructor
        · rintro ⟨hseen, h⟩
          split at h
          · cases h
          next rest hrest =>
          obtain ⟨hforms, hnodup, hnew⟩ := normalizeEach_ok_iff.mp hrest
          exact ⟨⟨first, rest, rfl, hforms, (ok.inj h).symm⟩, hseen, hnodup, hnew⟩
        · rintro ⟨⟨_, rest, hfirst, hforms, rfl⟩, hseen, hnodup, hnew⟩
          obtain rfl := ok.inj hfirst
          rw [normalizeEach_ok_iff.mpr ⟨hforms, hnodup, hnew⟩]
          exact ⟨hseen, rfl⟩

variable (h : normalizeRules toASCII gen rules lim = .ok res)

include h

theorem normalizeRules_ok :
    ∃ norm, rules.length ≤ lim ∧ normalizeEach toASCII gen [] rules = .ok norm
      ∧ anyAmbiguous (sortBy RouteRule.id norm) = false ∧ res = sortBy RouteRule.id norm := by
  unfold normalizeRules at h
  obtain ⟨hlen, h⟩ := ok_iff.mp h
  split at h
  · cases h
  next norm heach =>
  obtain ⟨hclear, h⟩ := ok_iff.mp h
  exact ⟨norm, Nat.not_lt.mp hlen, heach, Bool.eq_false_of_not_eq_true hclear, (ok.inj h).symm⟩

omit h in
theorem normal_of_normalizeEach {seen : List String} (h : normalizeEach toASCII gen seen rules = .ok res) :
    ∀ r ∈ res, Normal r := by
  have hforms := (normalizeEach_ok_iff.mp h).1
  clear h
  induction hforms with
  | nil => simp
  | cons hrule _ ih => exact forall_mem_cons.mpr ⟨(normal_of_normalizeRule hrule).1, ih⟩

theorem nodup_of_normalizeRules : (rules.map RouteRule.id).Nodup := by
  obtain ⟨_, _, heach, _⟩ := normalizeRules_ok h
  exact (normalizeEach_ok_iff.mp heach).2.1

theorem normal_of_normalizeRules : ∀ r ∈ res, Normal r := by
  obtain ⟨_, _, heach, _, rfl⟩ := normalizeRules_ok h
  intro r hr
  exact normal_of_normalizeEach heach r (mem_sortBy.mp hr)

/-- **A set that is accepted is unambiguous.** -/
theorem unambiguous_of_normalizeRules : Unambiguous res := by
  have hnorm := normal_of_normalizeRules h
  obtain ⟨_, _, _, hclear, rfl⟩ := normalizeRules_ok h
  exact (anyAmbiguous_iff hnorm).mp hclear

omit h

theorem unambiguous_sortBy : Unambiguous (sortBy RouteRule.id rules) ↔ Unambiguous rules :=
  (sortBy_perm RouteRule.id rules).pairwise_iff (fun h hclash => h hclash.symm)

/-- **Accepted exactly when unambiguous**, for rules that are accepted one by one. -/
theorem normalizeRules_ok_iff {norm : List RouteRule} (hrules : rules.mapM (normalizeRule toASCII gen) = .ok norm)
    (hnodup : (rules.map RouteRule.id).Nodup) (hlen : rules.length ≤ lim) :
    (∃ res, normalizeRules toASCII gen rules lim = .ok res) ↔ Unambiguous norm := by
  have heach : normalizeEach toASCII gen [] rules = .ok norm :=
    normalizeEach_ok_iff.mpr ⟨mapM_ok_iff.mp hrules, hnodup, fun _ _ => not_mem_nil⟩
  have hnorm : ∀ r ∈ sortBy RouteRule.id norm, Normal r :=
    fun r hr => normal_of_normalizeEach heach r (mem_sortBy.mp hr)
  unfold normalizeRules
  rw [if_neg (not_lt.mpr hlen), heach, ← unambiguous_sortBy, ← anyAmbiguous_iff hnorm]
  dsimp only
  cases anyAmbiguous (sortBy RouteRule.id norm) <;> simp

end Normalized

/-! ## The generation of a set -/

/-- The rule under another generation. -/
def RouteRule.stamp (generation : UInt64) (rule : RouteRule) : RouteRule := { rule with generation }

variable {toASCII : ToASCII} (gen gen' : UInt64)

theorem normalizeRule_stamp (rule : RouteRule) : normalizeRule toASCII gen (rule.stamp gen) =
      (normalizeRule toASCII gen' (rule.stamp gen')).map (stamp gen) := by
  have hhost (matchType : String) : normalizeRuleHost toASCII (rule.stamp gen) matchType
      = normalizeRuleHost toASCII (rule.stamp gen') matchType := by
    unfold normalizeRuleHost stamp
    dsimp only
  unfold normalizeRule
  rw [show (rule.stamp gen).matchType = (rule.stamp gen').matchType from rfl]
  dsimp only
  rw [hhost]
  unfold stamp
  simp only [ite_self, ne_eq, not_true_eq_false, if_false, apply_ite (Except.map _)]
  generalize normalizeRuleHost toASCII _ _ = host
  generalize normalizeRequestPath rule.pathPrefix = path
  cases host with
  | error => simp only [Except.map]
  | ok =>
    cases path with
    | error => simp only [Except.map]
    | ok =>
      simp only [apply_ite (Except.map _)]
      simp only [Except.map]

theorem normalizeEach_stamp : ∀ (rules : List RouteRule) (seen : List String),
    normalizeEach toASCII gen seen (rules.map (stamp gen)) =
      (normalizeEach toASCII gen' seen (rules.map (stamp gen'))).map (List.map (stamp gen))
  | [], _ => rfl
  | rule :: rules, seen => by
      rw [List.map_cons, List.map_cons, normalizeEach, normalizeEach, normalizeRule_stamp gen gen' rule]
      cases normalizeRule toASCII gen' (rule.stamp gen') with
      | error => rfl
      | ok normalized =>
        dsimp only [Except.map]
        rw [show (normalized.stamp gen).id = normalized.id from rfl,
          normalizeEach_stamp rules (normalized.id :: seen)]
        split
        · rfl
        · cases normalizeEach toASCII gen' (normalized.id :: seen) (rules.map (stamp gen')) with
          | error err | ok res => rfl

theorem anyAmbiguous_stamp : ∀ rules : List RouteRule, anyAmbiguous (rules.map (stamp gen)) = anyAmbiguous rules
  | [] => rfl
  | left :: rules => by
      rw [map_cons, anyAmbiguous, anyAmbiguous, anyAmbiguous_stamp rules, any_map]
      rfl

/-- **A set that is accepted under one generation is accepted under every other.** -/
theorem normalizeRules_stamp (rules : List RouteRule) (lim : Nat) :
    normalizeRules toASCII gen (rules.map (stamp gen)) lim =
      (normalizeRules toASCII gen' (rules.map (stamp gen')) lim).map (List.map (stamp gen)) := by
  unfold normalizeRules
  rw [List.length_map, List.length_map, normalizeEach_stamp gen gen']
  split
  · rfl
  cases normalizeEach toASCII gen' [] (rules.map (stamp gen')) with
  | error => rfl
  | ok normalized =>
    dsimp only [Except.map]
    rw [sortBy_map (stamp gen), anyAmbiguous_stamp]
    show (if anyAmbiguous (sortBy RouteRule.id normalized) = true then _ else _) = _
    split
    · rfl
    · rfl

/-! ## The choice never meets two equal candidates -/

def RouteCandidate.rank (c : RouteCandidate) : ℕ ×ₗ ℕ ×ₗ ℕ ×ₗ ℤᵒᵈ := toLex (c.hostClass, toLex (c.suffixLabels,
    toLex (c.rule.pathPrefix.length, OrderDual.toDual c.rule.priority)))

theorem compareInt_lex {a b : Nat} {rest : Int} :
    (if a ≠ b then compareInt a b else rest) > 0 ↔ b < a ∨ b = a ∧ rest > 0 := by
  unfold compareInt
  grind

/-- **`compareCandidates` goes by the rank.** -/
theorem compares_rank : Compares compareCandidates rank := by
  constructor
  · intro a b
    unfold compareCandidates rank
    rw [Prod.Lex.toLex_lt_toLex, Prod.Lex.toLex_lt_toLex, Prod.Lex.toLex_lt_toLex, OrderDual.toDual_lt_toDual,
      compareInt_lex, compareInt_lex, compareInt_lex]
    have hpriority : (if a.rule.priority ≠ b.rule.priority then
        if a.rule.priority < b.rule.priority then (1 : Int) else -1 else 0) > 0 ↔ a.rule.priority < b.rule.priority := by
      grind
    rw [hpriority]
  · intro a b
    rw [compareCandidates_eq_zero]
    unfold rank
    simp

def eligible (host : String) (path : Path) (rule : RouteRule) : Bool :=
  !retiredStates.contains rule.desiredState && (hostMatch rule host).2.2 && pathMatches rule.pathPrefix path

variable {host : String} {path : Path} {rules : List RouteRule}

theorem eligible_eq_true {rule : RouteRule} :
    eligible host path rule = true ↔ rule.desiredState ∉ retiredStates ∧ Matches rule host path := by
  simp [eligible, Matches, and_assoc]

def outcome : Option (Option RouteCandidate) → Except Error RouteRule
  | none => .error .matchConflict
  | some none => .error .noMatch
  | some (some c) => .ok c.rule

/-- **The loop of `chooseRule` is a contest** among the candidates of the eligible rules. -/
theorem chooseLoop_eq : ∀ {rules : List RouteRule} {best : Option RouteCandidate}, chooseLoop host path best rules
      = outcome (contest compareCandidates best
          ((rules.filter (eligible host path)).map (fun rule => candidate rule host)))
  | [], best => by cases best <;> rfl
  | rule :: rules, best => by
      unfold chooseLoop
      by_cases hin : eligible host path rule = true
      · obtain ⟨henabled, hhost, hpath⟩ := eligible_eq_true.mp hin
        rw [if_neg (by simpa using henabled), if_neg (by simp [hhost, hpath]), filter_cons_of_pos hin, map_cons]
        cases best with
        | none => exact chooseLoop_eq
        | some current =>
          unfold contest
          dsimp only
          split
          · exact chooseLoop_eq
          split
          · rfl
          · exact chooseLoop_eq
      · rw [filter_cons_of_neg hin]
        split
        · exact chooseLoop_eq
        next henabled =>
        have hmatch : ¬ Matches rule host path :=
          fun hmatch => hin (eligible_eq_true.mpr ⟨by simpa using henabled, hmatch⟩)
        rw [if_pos (not_and_or.mp hmatch)]
        exact chooseLoop_eq

/-- The candidates of a request in an unambiguous set all rank differently: equal ranks would be a clash. -/
theorem Unambiguous.distinct (h : Unambiguous rules) (hpath : NormalPath path) :
    Distinct rank ((rules.filter (eligible host path)).map (fun rule => candidate rule host)) := by
  have hpair : (rules.filter (eligible host path)).Pairwise (fun a b => ¬ Clash a b) :=
    Pairwise.sublist filter_sublist h
  unfold Distinct
  rw [pairwise_map]
  refine Pairwise.imp_of_mem ?_ hpair
  intro a b ha hb hclash hrank
  have hmatches : ∀ r ∈ rules.filter (eligible host path), Matches r host path := by
    intro r hr
    exact (eligible_eq_true.mp (mem_filter.mp hr).2).2
  refine hclash ⟨host, path, hpath, hmatches a ha, hmatches b hb, ?_⟩
  exact (compares_rank.zero _ _).mpr hrank

/-- **Among unambiguous rules there is no conflict.** -/
theorem Unambiguous.chooseRule_ne_conflict (h : Unambiguous rules) (hpath : NormalPath path) :
    chooseRule rules host path ≠ .error .matchConflict := by
  have hchoice : chooseRule rules host path = _ := chooseLoop_eq
  rw [hchoice]
  rcases contest_spec compares_rank (h.distinct hpath) with ⟨_, hcontest⟩ | ⟨_, hcontest, _⟩
  · rw [hcontest]
    nofun
  · rw [hcontest]
    nofun

/-! ## The registry holds accepted sets only -/

namespace GenerationRegistry

/-- Both generations have `P`, a property of a number and of the rules under it. -/
structure Holds (P : UInt64 → List RouteRule → Prop) (g : GenerationRegistry) : Prop where
  active : ∀ state, g.active = some state → P state.generation state.rules
  pending : ∀ state, g.pending = some state → P state.generation state.rules

variable {P : UInt64 → List RouteRule → Prop} {g : GenerationRegistry}

theorem Holds.new (maxRoutes : Int) : Holds P (new maxRoutes) := ⟨nofun, nofun⟩

/-- **What every accepted set has, both generations of the registry have**, after any call: only `StageGeneration`
    brings in rules, and they are what `normalizeRules` returns. -/
theorem Holds.step (hP : ∀ gen rules lim norm, normalizeRules toASCII gen rules lim = .ok norm → P gen norm)
    {call : Call} {g' : GenerationRegistry} (h : Holds P g) (hstep : g.step toASCII call = some g') : Holds P g' := by
  refine Kept.step ⟨?staged, ?marked, ?activated, fun h => ⟨h.active, nofun⟩, fun h => ⟨h.active, h.pending⟩⟩ h hstep
  case staged =>
    intro g g' gen rules norm h _ hnorm hstaged
    cases hstaged with
    | added =>
      refine ⟨h.active, ?_⟩
      rintro _ ⟨⟩
      exact hP _ _ _ _ hnorm
    | active | pending => exact h
  case marked =>
    intro g g' h hmarked
    cases hmarked with
    | same => exact h
    | @ready p hp =>
      refine ⟨h.active, ?_⟩
      rintro _ ⟨⟩
      exact h.pending p hp
  case activated =>
    intro g g' gen h hactivated
    cases hactivated with
    | same => exact h
    | @promoted p hp =>
      refine ⟨?_, nofun⟩
      rintro _ ⟨⟩
      exact h.pending p hp

/-- The rules of both generations are unambiguous. -/
structure Sound (g : GenerationRegistry) : Prop where
  active : ∀ state, g.active = some state → Unambiguous state.rules
  pending : ∀ state, g.pending = some state → Unambiguous state.rules

/-- **A reachable registry is sound.** -/
theorem Sound.of_run {maxRoutes : Int} {tr : Trace GenerationRegistry Call}
    (hrun : Run (step toASCII) (new maxRoutes) tr g) : Sound g := by
  have hholds : Holds (fun _ => Unambiguous) g :=
    hrun.invariant (fun h hs => h.step (fun _ _ _ _ hok => unambiguous_of_normalizeRules hok) hs)
      (Holds.new maxRoutes)
  exact ⟨hholds.active, hholds.pending⟩

/-- **A request in a sound registry is never ambiguous.** -/
theorem Sound.matchRequest_ne_conflict (h : Sound g) (host : String) (path : Path) :
    g.matchRequest toASCII host path ≠ .error .matchConflict := by
  unfold matchRequest
  split
  · next host path hhost hpath =>
    split
    · simp
    next state hact =>
    split
    · simp
    split
    · next err herr =>
      intro hconflict
      rw [error.inj hconflict] at herr
      exact (h.active state hact).chooseRule_ne_conflict ⟨_, hpath⟩ herr
    · simp
  · simp

end GenerationRegistry

/-- **A set of rules is accepted exactly when it is unambiguous**, and so `Match` never reports a conflict,
    whatever was staged, marked ready and activated before. A host is any string here, also one that no
    client could send. -/
theorem route_sets_unambiguous (toASCII : ToASCII) : (∀ generation rules maximum normalized,
      rules.mapM (normalizeRule toASCII generation) = .ok normalized → (rules.map RouteRule.id).Nodup →
      rules.length ≤ maximum →
      ((∃ result, normalizeRules toASCII generation rules maximum = .ok result) ↔ Unambiguous normalized)) ∧
    (∀ maximumRoutes tr g, Run (step toASCII) (new maximumRoutes) tr g →
      ∀ host path, g.matchRequest toASCII host path ≠ .error .matchConflict) := by
  constructor
  · intro generation rules maximum normalized hrules hnodup hlen
    exact normalizeRules_ok_iff hrules hnodup hlen
  · intro maximumRoutes tr g hrun host path
    exact (GenerationRegistry.Sound.of_run hrun).matchRequest_ne_conflict host path

/-! ## Two rules for one zone -/

/-- An exact host and the wildcard of its zone, which rank differently. -/
def zoneRules : List RouteRule :=
  [ { id := "app", kind := .tunnelHTTPSWSS, hostname := "app.example.test", target := "binding-1" },
    { id := "zone", kind := .tunnelHTTPSWSS, matchType := matchOneLabelWildcard,
      wildcardSuffix := "Example.test", pathPrefix := [slash], target := "binding-2" } ]

def zoneCalls : List Call := [.stage 1 zoneRules, .markReady 1, .activate 1 .drained]

/-- The two rules are accepted, so no request is ambiguous between them; once they are active a request for
    the exact host finds its rule. -/
theorem route_sets_unambiguous_zone :
    let normalized := ((zoneRules.mapM (normalizeRule some 1)).toOption).getD []
    let g := (exec (step some) (new 8) zoneCalls).getD {}
    normalized.length = 2 ∧ Unambiguous normalized
      ∧ ((g.matchRequest some "app.example.test" [slash]).toOption.map (fun m => m.rule.id)) = some "app"
      ∧ g.matchRequest some "app.example.test" [slash] ≠ .error .matchConflict := by
  intro normalized g
  obtain ⟨hrules, haccepted⟩ : zoneRules.mapM (normalizeRule some 1) = .ok normalized
      ∧ ((normalizeRules some 1 zoneRules 8).toOption).isSome = true := by decide +kernel
  obtain ⟨hexact, hruns⟩ := route_sets_unambiguous some
  have hun : Unambiguous normalized := by
    refine (hexact 1 zoneRules 8 normalized hrules (by decide +kernel) (by decide)).mp ?_
    cases hresult : normalizeRules some 1 zoneRules 8 with
    | error => rw [hresult] at haccepted; cases haccepted
    | ok result => exact ⟨result, rfl⟩
  have hcalls : (exec (step some) (new 8) zoneCalls).isSome = true := by decide +kernel
  exact ⟨by decide +kernel, hun, by decide +kernel, hruns 8 _ g (exec_getD_run hcalls) _ _⟩

end PaperboatTunnel.Route
