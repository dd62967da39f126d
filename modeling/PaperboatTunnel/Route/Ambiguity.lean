import PaperboatTunnel.Route.Generations

/-!
# `Ambiguity` — a set of rules is accepted exactly when no request is ambiguous

`normalizeRules` compares rules in pairs, on their patterns alone; `chooseRule` compares the candidates of one
request. `Clash` is between the two: some host and some normalized path are matched by both rules with the same rank.
`ambiguous_iff_clash` says that the test on patterns is exact for normalized rules.
-/

namespace PaperboatTunnel.Route

open GoStrings TransitionSystem List Except

/-! ## Requests -/

def Matches (rule : RouteRule) (host : String) (path : Path) : Prop :=
  (hostMatch rule host).2.2 = true ∧ pathMatches rule.pathPrefix path = true

/-- The two rules have the same rank for the host: host class, wildcard labels, length of the path prefix and
    priority. -/
def SameRank (left right : RouteRule) (host : String) : Prop :=
  compareCandidates (candidate left host) (candidate right host) = 0

/-- A path that `normalizeRequestPath` returns. -/
def NormalPath (path : Path) : Prop := ∃ raw, normalizeRequestPath raw = .ok path

/-- **Two rules clash** if one request is matched by both with the same rank. -/
def Clash (left right : RouteRule) : Prop :=
  ∃ host path, NormalPath path ∧ Matches left host path ∧ Matches right host path ∧ SameRank left right host

def Unambiguous (rules : List RouteRule) : Prop := rules.Pairwise (fun left right => ¬ Clash left right)

/-! ## Ranks -/

theorem compareInt_eq_zero {a b : Nat} {rest : Int} :
    (if a ≠ b then compareInt a b else rest) = 0 ↔ a = b ∧ rest = 0 := by
  unfold compareInt
  grind

/-- **Two candidates rank the same** when class, labels, prefix length and priority agree. -/
theorem compareCandidates_eq_zero {a b : RouteCandidate} :
    compareCandidates a b = 0 ↔ a.hostClass = b.hostClass ∧ a.suffixLabels = b.suffixLabels
      ∧ a.rule.pathPrefix.length = b.rule.pathPrefix.length ∧ a.rule.priority = b.rule.priority := by
  unfold compareCandidates
  rw [compareInt_eq_zero, compareInt_eq_zero, compareInt_eq_zero]
  grind

variable {host : String} {path a : Path} {rule : RouteRule} {left right : RouteRule}

theorem SameRank.symm (h : SameRank left right host) : SameRank right left host := by
  unfold SameRank at h ⊢
  rw [compareCandidates_eq_zero] at h ⊢
  exact ⟨h.1.symm, h.2.1.symm, h.2.2.1.symm, h.2.2.2.symm⟩

theorem Clash.symm (h : Clash left right) : Clash right left := by
  obtain ⟨host, path, hpath, hl, hr, hrank⟩ := h
  exact ⟨host, path, hpath, hr, hl, hrank.symm⟩

/-! ## Paths -/

theorem NormalPath.head (h : NormalPath path) : path.head? = some slash := by
  obtain ⟨raw, h⟩ := h
  unfold normalizeRequestPath at h
  split at h
  · rw [← ok.inj h]
    rfl
  split at h
  · cases h
  next hgood =>
  have hhead : raw.head? = some slash := by
    by_contra hne
    exact hgood (.inl hne)
  split at h
  · cases h
  split at h
  · next hlong =>
    -- more than one byte: the first one is not the one that is cut off
    rw [← ok.inj h]
    match raw, hlong.1, hhead with
    | a :: b :: rest, _, hhead => simpa using hhead
  · rw [← ok.inj h]
    exact hhead

theorem NormalPath.eq_root (h : NormalPath path) (hlen : path.length = 1) : path = [slash] := by
  have hhead := h.head
  match path, hlen, hhead with
  | [a], _, hhead => simpa using hhead

theorem prefix_of_pathMatches (ha : a ≠ [slash]) (h : pathMatches a path) : a <+: path := by
  simp only [pathMatches, Bool.or_eq_true, beq_iff_eq, isPrefixOf_iff_prefix] at h
  rcases h with (hroot | heq) | hpre
  · exact absurd hroot ha
  · rw [heq]
  · exact (prefix_append a [slash]).trans hpre

theorem prefixes_eq {b : Path} (ha : NormalPath a) (hb : NormalPath b) (hlen : a.length = b.length)
    (hma : pathMatches a path) (hmb : pathMatches b path) : a = b := by
  by_cases hroot : a = [slash]
  · have hone : b.length = 1 := by rw [← hlen, hroot]; rfl
    rw [hroot, hb.eq_root hone]
  have hroot' : b ≠ [slash] := by
    intro hb'
    exact hroot (ha.eq_root (by rw [hlen, hb']; rfl))
  have hpre := prefix_of_prefix_length_le (prefix_of_pathMatches hroot hma)
    (prefix_of_pathMatches hroot' hmb) (le_of_eq hlen)
  exact hpre.eq_of_length hlen

theorem pathMatches_self (a : Path) : pathMatches a a = true := by simp [pathMatches]

/-! ## Hosts -/

theorem beforeSuffix_eq_some {suffix : String} {label : List Char} (h : beforeSuffix host suffix = some label) :
    host.toList = label ++ '.' :: suffix.toList := by
  unfold beforeSuffix at h
  split at h
  · cases h
  next hsuffix =>
  rw [not_or, not_not, List.isSuffixOf_iff_suffix] at hsuffix
  obtain ⟨pre, hpre⟩ := hsuffix.2
  have hlen : host.toList.length - (suffix.toList.length + 1) = pre.length := by
    rw [← hpre]
    simp
  rw [← Option.some.inj h, hlen, ← hpre, List.take_left]

theorem beforeSuffix_edge (suffix : String) :
    beforeSuffix ("edge." ++ suffix) suffix = some ['e', 'd', 'g', 'e'] := by
  have hlist : ("edge." ++ suffix).toList = ['e', 'd', 'g', 'e'] ++ '.' :: suffix.toList := by
    simp [String.toList_append]
  have hne : "edge." ++ suffix ≠ suffix := by
    intro heq
    have hlen := congrArg (fun s => s.toList.length) heq
    simp only [hlist, length_append, length_cons] at hlen
    omega
  have hsuffix : ('.' :: suffix.toList).isSuffixOf ("edge." ++ suffix).toList = true := by
    rw [isSuffixOf_iff_suffix, hlist]
    exact suffix_append _ _
  unfold beforeSuffix
  rw [if_neg (not_or.mpr ⟨hne, not_not.mpr hsuffix⟩), hlist]
  simp

structure Normal (rule : RouteRule) : Prop where
  matchType : rule.matchType = matchExact ∨ rule.matchType = matchManagedExact
                 ∨ rule.matchType = matchOneLabelWildcard ∨ rule.matchType = matchCatchAll
  pathPrefix : NormalPath rule.pathPrefix

inductive Pattern where
  | exact (host : String)
  | wildcard (suffix : String)
  | any
deriving DecidableEq

def pattern (rule : RouteRule) : Pattern :=
  if isExactMatchType rule.matchType then .exact rule.hostname
  else if rule.matchType = matchOneLabelWildcard then .wildcard rule.wildcardSuffix
  else .any

def Pattern.rank : Pattern → Nat × Nat
  | .exact _ => (3, 0)
  | .wildcard suffix => (2, count suffix '.' + 1)
  | .any => (1, 0)

/-- The hosts of a pattern; a wildcard stands for one label. -/
def Pattern.Covers : Pattern → String → Prop
  | .exact name, host => host = name
  | .wildcard suffix, host => ∃ label, beforeSuffix host suffix = some label ∧ label ≠ [] ∧ '.' ∉ label
  | .any, _ => True

def Pattern.hostMatch : Pattern → String → Nat × Nat × Bool
  | .exact name, host => (3, 0, host == name)
  | .wildcard suffix, host =>
    match beforeSuffix host suffix with
    | none => (0, 0, false)
    | some label =>
      if label = [] ∨ label.contains '.' then (0, 0, false) else (2, count suffix '.' + 1, true)
  | .any, _ => (1, 0, true)

theorem wildcard_ne : matchOneLabelWildcard ≠ matchExact ∧ matchOneLabelWildcard ≠ matchManagedExact
    ∧ matchOneLabelWildcard ≠ matchCatchAll := by decide

theorem catchAll_ne : matchCatchAll ≠ matchExact ∧ matchCatchAll ≠ matchManagedExact
    ∧ matchCatchAll ≠ matchOneLabelWildcard := by decide

/-- `hostMatch` reads the pattern of a normalized rule. -/
theorem hostMatch_eq (h : Normal rule) (host : String) : hostMatch rule host = (pattern rule).hostMatch host := by
  rcases h.matchType with ht | ht | ht | ht
  · simp [hostMatch, pattern, Pattern.hostMatch, isExactMatchType, ht]
  · simp [hostMatch, pattern, Pattern.hostMatch, isExactMatchType, ht]
  · have hpattern : pattern rule = .wildcard rule.wildcardSuffix := by
      simp [pattern, isExactMatchType, ht, wildcard_ne]
    rw [hpattern, hostMatch, if_neg (by rw [ht]; simp [wildcard_ne]), if_pos ht]
    rfl
  · simp [hostMatch, pattern, Pattern.hostMatch, isExactMatchType, ht, catchAll_ne]

theorem Pattern.covers_of_hostMatch {p : Pattern} (h : (p.hostMatch host).2.2) : p.Covers host := by
  cases p with
  | exact => simpa [hostMatch, Covers] using h
  | any => trivial
  | wildcard suffix =>
    cases hb : beforeSuffix host suffix with
    | none => simp [hostMatch, hb] at h
    | some label =>
      by_cases hl : label = [] ∨ '.' ∈ label
      · simp [hostMatch, hb, hl] at h
      · exact ⟨label, hb, not_or.mp hl⟩

theorem Pattern.covers_sample (h : Normal rule) : (pattern rule).Covers (overlapHost rule) := by
  rcases h.matchType with ht | ht | ht | ht
  · simp [overlapHost, pattern, Covers, isExactMatchType, ht]
  · simp [overlapHost, pattern, Covers, isExactMatchType, ht]
  · simp [overlapHost, pattern, Covers, isExactMatchType, ht, wildcard_ne, beforeSuffix_edge]
  · simp [pattern, Covers, isExactMatchType, ht, catchAll_ne]

/-- **A covered host is matched**, with the rank of the pattern. -/
theorem Pattern.hostMatch_of_covers {p : Pattern} (h : p.Covers host) : p.hostMatch host = (p.rank.1, p.rank.2, true) := by
  cases p with
  | exact => simpa [hostMatch, Covers, rank] using h
  | any => rfl
  | wildcard =>
    obtain ⟨_, hb, hne, hdot⟩ := h
    simp [hostMatch, rank, hb, hne, hdot]

theorem hostMatch_iff (h : Normal rule) : (hostMatch rule host).2.2 = true ↔ (pattern rule).Covers host := by
  rw [hostMatch_eq h]
  exact ⟨Pattern.covers_of_hostMatch, fun hcovers => by rw [Pattern.hostMatch_of_covers hcovers]⟩

/-- Patterns of the same class that cover one host are the same: the first dot of the host ends the label. -/
theorem Pattern.eq_of_covers {p q : Pattern} (hp : p.Covers host) (hq : q.Covers host) (hrank : p.rank.1 = q.rank.1) :
    p = q := by
  cases p with
  | exact a =>
    cases q with
    | exact => exact congrArg Pattern.exact ((show host = a from hp).symm.trans hq)
    | _ => cases hrank
  | wildcard =>
    cases q with
    | wildcard =>
      obtain ⟨_, hl, _, hdot⟩ := hp
      obtain ⟨_, hm, _, hdot'⟩ := hq
      have heq := (beforeSuffix_eq_some hl).symm.trans (beforeSuffix_eq_some hm)
      obtain ⟨_, hst⟩ := append_cons_inj hdot hdot' heq
      exact congrArg Pattern.wildcard (String.toList_inj.mp hst)
    | _ => cases hrank
  | any =>
    cases q with
    | any => rfl
    | _ => cases hrank

/-! ## The test on patterns is exact -/

theorem hostsOverlap_of_eq (hl : Normal left) (hr : Normal right) (h : pattern left = pattern right) :
    hostsOverlap left right = true := by
  rcases hl.matchType with ha | ha | ha | ha <;> rcases hr.matchType with hb | hb | hb | hb <;>
    simp_all [hostsOverlap, pattern, isExactMatchType, wildcard_ne, catchAll_ne]

theorem pattern_eq_of_overlap (hl : Normal left) (hr : Normal right) (h : hostsOverlap left right)
    (hclass : (pattern left).rank.1 = (pattern right).rank.1) : pattern left = pattern right := by
  have hex : matchExact ≠ matchCatchAll ∧ matchManagedExact ≠ matchCatchAll := by decide
  rcases hl.matchType with ha | ha | ha | ha <;> rcases hr.matchType with hb | hb | hb | hb <;>
    simp_all [hostsOverlap, pattern, isExactMatchType, Pattern.rank, wildcard_ne, catchAll_ne]

theorem candidate_of_covers {host : String} (h : Normal rule) (hcovers : (pattern rule).Covers host) :
    candidate rule host = ⟨rule, (pattern rule).rank.1, (pattern rule).rank.2⟩ := by
  unfold candidate
  rw [hostMatch_eq h, Pattern.hostMatch_of_covers hcovers]

/-- **`normalizeRules` refuses exactly the pairs that clash.** -/
theorem ambiguous_iff_clash (hl : Normal left) (hr : Normal right) :
    ambiguous left right = true ↔ Clash left right := by
  have hrank (host host' : String) (hcl : (pattern left).Covers host) (hcr : (pattern right).Covers host') :
      compareCandidates (candidate left host) (candidate right host') = 0 ↔
        (pattern left).rank.1 = (pattern right).rank.1 ∧ (pattern left).rank.2 = (pattern right).rank.2
          ∧ left.pathPrefix.length = right.pathPrefix.length ∧ left.priority = right.priority := by
    rw [candidate_of_covers hl hcl, candidate_of_covers hr hcr, compareCandidates_eq_zero]
  have hsamples := hrank _ _ (Pattern.covers_sample hl) (Pattern.covers_sample hr)
  unfold ambiguous
  rw [Bool.and_eq_true, beq_iff_eq, hsamples, rulesOverlap, Bool.and_eq_true, Bool.or_eq_true]
  constructor
  · rintro ⟨⟨hhosts, hpaths⟩, hclass, hlabels, hlen, hpriority⟩
    have hpattern := pattern_eq_of_overlap hl hr hhosts hclass
    have hsame : left.pathPrefix = right.pathPrefix := by
      rcases hpaths with h | h
      · exact prefixes_eq hl.pathPrefix hr.pathPrefix hlen h (pathMatches_self _)
      · exact prefixes_eq hl.pathPrefix hr.pathPrefix hlen (pathMatches_self _) h
    have hcl := Pattern.covers_sample hl
    have hcr : (pattern right).Covers (overlapHost left) := hpattern ▸ hcl
    refine ⟨overlapHost left, left.pathPrefix, hl.pathPrefix, ⟨(hostMatch_iff hl).mpr hcl, pathMatches_self _⟩,
      ⟨(hostMatch_iff hr).mpr hcr, ?_⟩, (hrank _ _ hcl hcr).mpr ⟨hclass, hlabels, hlen, hpriority⟩⟩
    rw [hsame]
    exact pathMatches_self _
  · rintro ⟨host, path, _, ⟨hml, hpl⟩, ⟨hmr, hpr⟩, hsame⟩
    have hcl := (hostMatch_iff hl).mp hml
    have hcr := (hostMatch_iff hr).mp hmr
    obtain ⟨hclass, hlabels, hlen, hpriority⟩ := (hrank _ _ hcl hcr).mp hsame
    have hpattern := Pattern.eq_of_covers hcl hcr hclass
    have hsame := prefixes_eq hl.pathPrefix hr.pathPrefix hlen hpl hpr
    refine ⟨⟨hostsOverlap_of_eq hl hr hpattern, .inl ?_⟩, hclass, hlabels, hlen, hpriority⟩
    rw [hsame]
    exact pathMatches_self _

theorem anyAmbiguous_iff : ∀ {rules : List RouteRule}, (∀ r ∈ rules, Normal r) →
    (anyAmbiguous rules = false ↔ Unambiguous rules)
  | [], _ => by simp [anyAmbiguous, Unambiguous]
  | left :: rules, h => by
      have hl := h left mem_cons_self
      have hrest : ∀ r ∈ rules, Normal r := fun r hr => h r (mem_cons_of_mem _ hr)
      have hhead : rules.any (ambiguous left) = false ↔ ∀ r ∈ rules, ¬ Clash left r := by
        rw [any_eq_false]
        exact forall₂_congr (fun r hr => not_congr (ambiguous_iff_clash hl (hrest r hr)))
      unfold anyAmbiguous Unambiguous
      rw [Bool.or_eq_false_iff, pairwise_cons, hhead, anyAmbiguous_iff hrest, Unambiguous]

end PaperboatTunnel.Route
