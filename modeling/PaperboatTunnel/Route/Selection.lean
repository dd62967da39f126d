import Mathlib.Data.List.Perm.Basic
import PaperboatTunnel.Route.Acceptance

/-!
# `Selection` — which rule a request finds

`chooseRule` goes through the rules once and keeps the best candidate so far. It finds, among the enabled rules whose
pattern covers the host and whose path prefix covers the path, the one that is highest in a lexicographic order
(`Best`). The order in which the rules were supplied does not matter (`normalizeRules_perm`).
-/

namespace PaperboatTunnel.Route

open GoStrings TransitionSystem Contest GenerationRegistry RouteCandidate List

/-! ## The declarative choice -/

/-- The prefix covers the path on a segment boundary. -/
def PrefixCovers (pathPrefix path : Path) : Prop :=
  pathPrefix = [slash] ∨ path = pathPrefix ∨ pathPrefix ++ [slash] <+: path

/-- An enabled rule that matches the request. -/
structure Eligible (host : String) (path : Path) (rule : RouteRule) : Prop where
  enabled : rule.desiredState ∉ retiredStates
  host : (pattern rule).Covers host
  path : PrefixCovers rule.pathPrefix path

/-- The order of preference: exact hosts before wildcards before catch-alls, then more wildcard labels, then a
    longer path prefix, then a smaller priority number. -/
def preference (rule : RouteRule) : ℕ ×ₗ ℕ ×ₗ ℕ ×ₗ ℤᵒᵈ := toLex ((pattern rule).rank.1, toLex ((pattern rule).rank.2,
    toLex (rule.pathPrefix.length, OrderDual.toDual rule.priority)))

/-- **The rule a request should find**: eligible, and above every other eligible rule. -/
structure Best (rules : List RouteRule) (host : String) (path : Path) (rule : RouteRule) : Prop where
  mem : rule ∈ rules
  eligible : Eligible host path rule
  above : ∀ other ∈ rules, Eligible host path other → other ≠ rule → preference other < preference rule

/-! ## Candidates -/

variable {path : Path} {host : String} {rule : RouteRule}

theorem prefixCovers_iff {pathPrefix : Path} : pathMatches pathPrefix path = true ↔ PrefixCovers pathPrefix path := by
  simp [pathMatches, PrefixCovers, or_assoc]

theorem eligible_iff (hn : Normal rule) : eligible host path rule = true ↔ Eligible host path rule := by
  rw [eligible_eq_true, Matches, hostMatch_iff hn, prefixCovers_iff]
  constructor
  · rintro ⟨h₁, h₂, h₃⟩
    exact ⟨h₁, h₂, h₃⟩
  · intro h
    exact ⟨h.enabled, h.host, h.path⟩

theorem rank_candidate (hn : Normal rule) (h : Eligible host path rule) :
    (candidate rule host).rank = preference rule := by
  rw [candidate_of_covers hn h.host]
  rfl

/-! ## What an accepted set lets a request find -/

/-- The rules are what `normalizeRules` returned for some list under this generation. -/
def Accepted (toASCII : ToASCII) (generation : UInt64) (rules : List RouteRule) : Prop :=
  ∃ supplied maximum, normalizeRules toASCII generation supplied maximum = .ok rules

section Accepted

variable {toASCII : ToASCII} {gen : UInt64} {rules : List RouteRule} (h : Accepted toASCII gen rules)

include h

theorem Accepted.normal : ∀ r ∈ rules, Normal r := by
  obtain ⟨_, _, h⟩ := h
  exact normal_of_normalizeRules h

theorem Accepted.unambiguous : Unambiguous rules := by
  obtain ⟨_, _, h⟩ := h
  exact unambiguous_of_normalizeRules h

omit h in
theorem best_of_champion (hn : ∀ r ∈ rules, Normal r) {c : RouteCandidate} (h : Champion rank
      ((rules.filter (eligible host path)).map (fun rule => candidate rule host)) c) :
    Best rules host path c.rule := by
  obtain ⟨rule, hrule, rfl⟩ := mem_map.mp h.mem
  obtain ⟨hmem, htest⟩ := mem_filter.mp hrule
  have heligible : Eligible host path rule := (eligible_iff (hn rule hmem)).mp htest
  refine ⟨hmem, heligible, ?_⟩
  intro other hother heligible' hne
  have hin : candidate other host ∈ (rules.filter (eligible host path)).map (fun rule => candidate rule host) := by
    apply List.mem_map_of_mem
    exact mem_filter.mpr ⟨hother, (eligible_iff (hn other hother)).mpr heligible'⟩
  have hlt := h.above _ hin (fun heq => hne (congrArg RouteCandidate.rule heq))
  rw [rank_candidate (hn rule hmem) heligible, rank_candidate (hn other hother) heligible'] at hlt
  exact hlt

/-- **What `chooseRule` finds in an accepted set**: nothing if no rule is eligible, and else the best rule. -/
theorem Accepted.chooseRule (hpath : NormalPath path) (host : String) :
    (Route.chooseRule rules host path = .error .noMatch ∧ ∀ r ∈ rules, ¬ Eligible host path r)
      ∨ ∃ rule, Route.chooseRule rules host path = .ok rule ∧ Best rules host path rule := by
  have hchoice : Route.chooseRule rules host path = outcome (contest compareCandidates none
      ((rules.filter (eligible host path)).map (fun rule => candidate rule host))) := chooseLoop_eq
  rcases contest_spec compares_rank (h.unambiguous.distinct hpath) with ⟨hnil, hnone⟩ | ⟨c, hsome, hchampion⟩
  · left
    refine ⟨by rw [hchoice, hnone]; rfl, ?_⟩
    intro r hr heligible
    have hempty : rules.filter (eligible host path) = [] := map_eq_nil_iff.mp hnil
    exact filter_eq_nil_iff.mp hempty r hr ((eligible_iff (h.normal r hr)).mpr heligible)
  · right
    exact ⟨c.rule, by rw [hchoice, hsome]; rfl, best_of_champion h.normal hchampion⟩

omit h in
theorem Best.unique {r r' : RouteRule} (h : Best rules host path r) (h' : Best rules host path r') : r = r' := by
  by_contra hne
  have hlt := h.above r' h'.mem h'.eligible (fun heq => hne heq.symm)
  have hgt := h'.above r h.mem h.eligible hne
  exact lt_asymm hlt hgt

/-- **`chooseRule` returns a rule exactly if it is the best one.** -/
theorem Accepted.chooseRule_ok_iff (hpath : NormalPath path) :
    Route.chooseRule rules host path = .ok rule ↔ Best rules host path rule := by
  rcases h.chooseRule hpath host with ⟨herr, hnone⟩ | ⟨found, hfound, hbest⟩
  · constructor
    · intro hok
      rw [herr] at hok
      cases hok
    · intro hbest
      exact absurd hbest.eligible (hnone rule hbest.mem)
  · constructor
    · intro hok
      rw [hfound] at hok
      exact Except.ok.inj hok ▸ hbest
    · intro hbest'
      rw [hfound, hbest.unique hbest']

/-- **`chooseRule` reports no match exactly if no rule is eligible**, and it reports nothing else. -/
theorem Accepted.chooseRule_error_iff (hpath : NormalPath path) {err : Error} :
    Route.chooseRule rules host path = .error err ↔ err = .noMatch ∧ ∀ r ∈ rules, ¬ Eligible host path r := by
  rcases h.chooseRule hpath host with ⟨herr, hnone⟩ | ⟨found, hfound, hbest⟩
  · rw [herr]
    constructor
    · intro heq
      exact ⟨(Except.error.inj heq).symm, hnone⟩
    · rintro ⟨rfl, _⟩
      rfl
  · rw [hfound]
    constructor
    · intro heq
      cases heq
    · rintro ⟨_, hnone⟩
      exact absurd hbest.eligible (hnone found hbest.mem)

end Accepted

/-! ## The order of the rules -/

variable {toASCII : ToASCII} {gen : UInt64} {res rules : List RouteRule}

/-- **The order in which rules are supplied does not matter**: a reordered set is accepted with the same
    result. -/
theorem normalizeRules_perm {rules' : List RouteRule} {lim : Nat} (hperm : rules.Perm rules')
    (h : normalizeRules toASCII gen rules lim = .ok res) :
    normalizeRules toASCII gen rules' lim = .ok res := by
  have hnodup := nodup_of_normalizeRules h
  obtain ⟨norm, hlen, heach, hclear, rfl⟩ := normalizeRules_ok h
  obtain ⟨hforms, _⟩ := normalizeEach_ok_iff.mp heach
  -- the normal forms of the reordered rules are a reordering of the normal forms
  obtain ⟨norm', hforms', hperm'⟩ := perm_comp_forall₂ hperm.symm hforms
  have heach' : normalizeEach toASCII gen [] rules' = .ok norm' :=
    normalizeEach_ok_iff.mpr ⟨hforms', (hperm.map _).nodup_iff.mp hnodup, fun _ _ => not_mem_nil⟩
  have hids : (norm.map RouteRule.id).Nodup := by
    have hsame : List.Forall₂ (fun a b : String => a = b) (rules.map RouteRule.id) (norm.map RouteRule.id) := by
      rw [forall₂_map_left_iff, forall₂_map_right_iff]
      exact hforms.imp (fun _ _ hrule => (normal_of_normalizeRule hrule).2.symm)
    have heq : rules.map RouteRule.id = norm.map RouteRule.id := by
      rw [forall₂_eq_eq_eq] at hsame
      exact hsame
    rw [← heq]
    exact hnodup
  have hsort : sortBy RouteRule.id norm' = sortBy RouteRule.id norm :=
    (sortBy_eq_of_perm isStrictTotalOrder_string hperm'.symm hids).symm
  unfold normalizeRules
  rw [if_neg (Nat.not_lt.mpr (hperm.length_eq ▸ hlen)), heach']
  dsimp only
  rw [hsort, hclear]
  rfl

namespace GenerationRegistry

/-- The same call, with its rules possibly in another order. -/
inductive Reordered : Call → Call → Prop
  | stage {generation rules rules'} (hperm : rules.Perm rules') :
      Reordered (.stage generation rules) (.stage generation rules')
  | apply {generation rules rules' ready drain} (hperm : rules.Perm rules') :
      Reordered (.apply generation rules ready drain) (.apply generation rules' ready drain)
  | same (call : Call) : Reordered call call

/-- A reordered stage has the same effect, and it succeeds together with the other one. -/
theorem stageGeneration_perm (g : GenerationRegistry) (toASCII : ToASCII) (gen : UInt64)
    {rules rules' : List RouteRule} (hperm : rules.Perm rules') :
    g.stageGeneration toASCII gen rules = g.stageGeneration toASCII gen rules'
      ∨ ∃ err err', g.stageGeneration toASCII gen rules = (g, some err)
          ∧ g.stageGeneration toASCII gen rules' = (g, some err') := by
  unfold stageGeneration
  by_cases hzero : gen = 0
  · rw [if_pos hzero, if_pos hzero]
    exact .inl rfl
  rw [if_neg hzero, if_neg hzero]
  cases h : normalizeRules toASCII gen rules g.maximumRoutes with
  | ok =>
    rw [normalizeRules_perm hperm h]
    exact .inl rfl
  | error err =>
    cases h' : normalizeRules toASCII gen rules' g.maximumRoutes with
    | ok =>
      -- the reordering of an accepted set would have been accepted
      rw [normalizeRules_perm hperm.symm h'] at h
      cases h
    | error err' => exact .inr ⟨err, err', rfl, rfl⟩

theorem step_reordered {g : GenerationRegistry} {call call' : Call} (h : Reordered call call') :
    g.step toASCII call = g.step toASCII call' := by
  cases h with
  | same => rfl
  | @stage gen _ _ hperm =>
    show some _ = some _
    rcases stageGeneration_perm g toASCII gen hperm with heq | ⟨err, err', h, h'⟩
    · rw [heq]
    · rw [h, h']
  | @apply gen _ _ _ _ hperm =>
    show some _ = some _
    unfold applyGeneration
    rcases stageGeneration_perm g toASCII gen hperm with heq | ⟨err, err', h, h'⟩
    · rw [heq]
    · rw [h, h']

/-- **Reordering the rules of any calls of a run leaves every state as it is.** -/
theorem exec_reordered {calls calls' : List Call} (h : List.Forall₂ Reordered calls calls') :
    ∀ g : GenerationRegistry, exec (step toASCII) g calls = exec (step toASCII) g calls' := by
  induction h with
  | nil =>
    intro g
    rfl
  | cons hcall _ ih =>
    intro g
    show (g.step toASCII _).bind _ = (g.step toASCII _).bind _
    rw [step_reordered hcall]
    apply Option.bind_congr
    intro g' _
    exact ih g'

end GenerationRegistry

/-- **`Match` finds the best rule.** In every reachable registry, for every host and path that normalize, `Match`
    returns exactly the best rule of the active generation; it reports `ErrNoMatch` exactly if no rule of it is
    eligible, and no other error. Reordering the rules of any calls leads to the same registry, and so to the
    same answers. -/
theorem match_selects_best (toASCII : ToASCII) (maximumRoutes : Int) (calls : List Call) (g : GenerationRegistry)
    (hcalls : exec (step toASCII) (new maximumRoutes) calls = some g) :
    (∀ state, g.active = some state → ∀ rawHost rawPath host path,
      normalizeMatchHost toASCII rawHost = .ok host → normalizeRequestPath rawPath = .ok path →
      (∀ found, g.matchRequest toASCII rawHost rawPath = .ok found ↔ Best state.rules host path found.rule
          ∧ found = { rule := found.rule, host, path, generation := state.generation })
      ∧ (∀ err, g.matchRequest toASCII rawHost rawPath = .error err ↔
        err = .noMatch ∧ ∀ rule ∈ state.rules, ¬ Eligible host path rule)) ∧
    (∀ calls', List.Forall₂ Reordered calls calls' →
      ∃ g', exec (step toASCII) (new maximumRoutes) calls' = some g' ∧ g'.active = g.active
        ∧ ∀ rawHost rawPath, g'.matchRequest toASCII rawHost rawPath = g.matchRequest toASCII rawHost rawPath) := by
  have hrun := exec_run hcalls
  have hordered : g.Ordered := hrun.invariant (·.step ·) (GenerationRegistry.Ordered.new maximumRoutes)
  have hacc : g.Holds (Accepted toASCII) :=
    hrun.invariant (fun h hs => h.step (fun _ rules maximum _ hok => ⟨rules, maximum, hok⟩) hs)
      (GenerationRegistry.Holds.new maximumRoutes)
  constructor
  · intro state hact rawHost rawPath host path hhost hpath
    have hset : Accepted toASCII state.generation state.rules := hacc.active state hact
    have hnorm : NormalPath path := ⟨rawPath, hpath⟩
    have hmatch : g.matchRequest toASCII rawHost rawPath = (chooseRule state.rules host path).map
            (fun rule => { rule, host, path, generation := state.generation }) := by
      unfold matchRequest
      rw [hhost, hpath, hact]
      simp only [(hordered.accepting state hact).1]
      cases chooseRule state.rules host path <;> rfl
    rw [hmatch]
    constructor
    · intro found
      rw [← hset.chooseRule_ok_iff hnorm]
      cases hchoice : chooseRule state.rules host path with
      | error => simp [Except.map]
      | ok =>
        simp only [Except.map, Except.ok.injEq]
        constructor
        · rintro rfl
          exact ⟨rfl, rfl⟩
        · rintro ⟨rfl, hfound⟩
          exact hfound.symm
    · intro err
      rw [← hset.chooseRule_error_iff hnorm]
      cases chooseRule state.rules host path <;> simp [Except.map]
  · intro calls' hreordered
    exact ⟨g, (exec_reordered hreordered _).symm.trans hcalls, rfl, fun _ _ => rfl⟩

/-- An exact host and the wildcard of its zone: both rules are eligible for the exact host, whose rule is the
    best one, also when the two are supplied the other way round. -/
theorem match_selects_best_zone :
    ∃ g state found g', exec (step some) (new 8) zoneCalls = some g
      ∧ g.active = some state ∧ g.matchRequest some "app.example.test" [slash] = .ok found
      ∧ found.rule.id = "app" ∧ Best state.rules "app.example.test" [slash] found.rule
      ∧ exec (step some) (new 8) [.stage 1 zoneRules.reverse, .markReady 1, .activate 1 .drained] = some g'
      ∧ g'.matchRequest some "app.example.test" [slash] = .ok found := by
  obtain ⟨g, hg, hact, hid⟩ : ∃ g, exec (step some) (new 8) zoneCalls = some g ∧ g.active.isSome = true
      ∧ (g.matchRequest some "app.example.test" [slash]).toOption.map (fun m => m.rule.id) = some "app" := by
    decide +kernel
  obtain ⟨state, hst⟩ := Option.isSome_iff_exists.mp hact
  cases hfound : g.matchRequest some "app.example.test" [slash] with
  | error => rw [hfound] at hid; cases hid
  | ok found =>
    rw [hfound] at hid
    obtain ⟨hslot, hord⟩ := match_selects_best some 8 zoneCalls g hg
    have hbest :=
      (((hslot state hst _ _ "app.example.test" [slash] (by decide +kernel) (by decide +kernel)).1 found).mp hfound).1
    obtain ⟨g', hg', _, hsame⟩ := hord [.stage 1 zoneRules.reverse, .markReady 1, .activate 1 .drained]
      (.cons (.stage (reverse_perm _).symm) (.cons (.same _) (.cons (.same _) .nil)))
    exact ⟨g, state, found, g', hg, hst, hfound, Option.some.inj hid, hbest, hg', (hsame _ _).trans hfound⟩

end PaperboatTunnel.Route
