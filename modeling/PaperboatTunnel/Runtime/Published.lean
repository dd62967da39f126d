import PaperboatTunnel.Route.Acceptance
import PaperboatTunnel.Runtime.Recorded

/-!
# `Published` — which rules a set of rows publishes

The rules of a set of rows depend on the hashed content of the rows and on four fields the hash leaves out. They do
not depend on the order of the rows, if there is one row for each route and connector: the row with the least
connector speaks for a route.
-/

namespace PaperboatTunnel.Runtime

open GoStrings Route RouteAssignment List

def generationRules (rows : Rows) (generation : UInt64) : List RouteRule :=
  (publishedRules rows).map (fun rule => { rule with generation })

variable {rows rows' acc : Rows} {toASCII : ToASCII} {a b : RouteAssignment} {gen : UInt64}

/-- **Rules that are accepted are published in one order.** -/
theorem publishedRules_eq_of_perm {lim : Nat} {rules : List RouteRule}
    (hperm : (canonicalRouteRules (ofKind .tunnelHTTPSWSS rows)).Perm (canonicalRouteRules (ofKind .tunnelHTTPSWSS rows')))
    (h : normalizeRules toASCII gen (generationRules rows gen) lim = .ok rules) :
    publishedRules rows = publishedRules rows' := by
  have hids : ((canonicalRouteRules (ofKind .tunnelHTTPSWSS rows)).map RouteRule.id).Nodup := by
    have hnodup := nodup_of_normalizeRules h
    unfold generationRules publishedRules sortRouteRules at hnodup
    rw [map_map] at hnodup
    exact ((sortBy_perm _ _).map _).nodup_iff.mp hnodup
  refine sortBy_eq_of_perm isStrictTotalOrder_strings hperm ?_
  -- the id is the first part of the key
  have hkeys : ((canonicalRouteRules (ofKind .tunnelHTTPSWSS rows)).map
      (fun r => [r.id, r.assignmentID])).map (fun key => key.headD "")
        = (canonicalRouteRules (ofKind .tunnelHTTPSWSS rows)).map RouteRule.id := by
    rw [map_map]
    rfl
  refine Nodup.of_map (fun key => key.headD "") ?_
  rw [hkeys]
  exact hids

/-! ## The fields of the rules -/

/-- The fields of a row that its rules show and its hash leaves out. -/
structure RuleFields where
  (environment desiredState observedState previewReason : String)
deriving DecidableEq

def ruleFields (a : RouteAssignment) : RuleFields :=
  ⟨a.environment, a.desiredState, a.observedState, a.previewReason⟩

/-- The rule of a route with this content and these fields. -/
def baseRuleOf (i : ImmutableAssignment) (f : RuleFields) : RouteRule :=
  { id := i.routeID, revision := i.routeRevision, environment := f.environment, routeID := i.routeID,
    routeGeneration := i.routeRevision, accountID := i.accountID, hostID := i.hostID, tunnelID := i.tunnelID,
    connectorID := i.connectorID, machineIdentityPublicKey := i.machineIdentityPublicKey,
    machineIdentityThumbprint := i.machineIdentityThumbprint, connectorSessionID := i.connectorSessionID,
    connectorProcessGeneration := i.connectorProcessGeneration, configGeneration := i.configGeneration,
    configContentHash := i.configContentHash, assignmentID := i.assignmentID,
    assignmentGeneration := i.assignmentGeneration, resourceKind := "tunnel",
    sessionGeneration := i.connectorGeneration, node := i.edgeNodeID, edgeProcessEpoch := i.edgeProcessEpoch,
    edgeFailureDomain := i.edgeFailureDomain, kind := i.kind, matchType := i.matchType,
    hostname := if i.matchHostname = "" ∧ i.matchType ≠ matchOneLabelWildcard then i.publicHost
      else i.matchHostname,
    wildcardSuffix := i.wildcardSuffix, pathPrefix := ConnectorProtocol.bytes i.pathPrefix,
    priority := i.priority, target := i.routeID, protocol := i.protocol, originScheme := i.originScheme,
    accessMode := i.accessMode, preserveHost := i.preserveHost, hostOverride := i.hostOverride,
    desiredState := f.desiredState,
    observedState := if f.observedState = "" then "ready" else f.observedState,
    reason := f.previewReason }

theorem baseRule_eq (a : RouteAssignment) : baseRule a = baseRuleOf (immutableAssignment a) (ruleFields a) := rfl

structure SameRules (a b : RouteAssignment) : Prop where
  content : immutableAssignment a = immutableAssignment b
  fields : ruleFields a = ruleFields b

theorem SameRules.routeID (h : SameRules a b) : a.routeID = b.routeID :=
  congrArg ImmutableAssignment.routeID h.content

theorem SameRules.connectorID (h : SameRules a b) : a.connectorID = b.connectorID :=
  congrArg ImmutableAssignment.connectorID h.content

theorem SameRules.kind (h : SameRules a b) : a.kind = b.kind := congrArg ImmutableAssignment.kind h.content

theorem SameRules.rulesOf (h : SameRules a b) : (rulesOf a).Perm (rulesOf b) := by
  have hbase : baseRule a = baseRule b := by
    rw [baseRule_eq, baseRule_eq, h.content, h.fields]
  have halias : aliasRule a = aliasRule b := by
    funext domain
    unfold aliasRule
    rw [hbase, h.routeID]
  have hbindings : a.domainBindings.Perm b.domainBindings := by
    have hsort : canonicalDomainBindings a.domainBindings = canonicalDomainBindings b.domainBindings :=
      congrArg ImmutableAssignment.domainBindings h.content
    have hperm := sortBy_perm (fun b : DomainBinding => [b.hostname, b.id]) b.domainBindings
    exact ((sortBy_perm _ a.domainBindings).symm.trans (Perm.of_eq hsort)).trans hperm
  unfold Runtime.rulesOf
  rw [hbase, halias]
  exact (hbindings.map _).cons _

/-! ## The choice of a row for each route -/

theorem kind_of_mem {kind : Kind} (h : a ∈ ofKind kind rows) : a.kind = kind := by
  simpa using (mem_filter.mp h).2

/-- The loop of `canonicalRouteRules` elects the row with the least connector. -/
theorem foldl_electRoute (h : ∀ a ∈ rows, a.kind = .tunnelHTTPSWSS) : rows.foldl electRoute acc =
      rows.foldl (Election.elect routeID connectorID) acc := by
  refine foldl_ext _ _ acc (fun chosen a ha => ?_)
  unfold electRoute Election.elect
  rw [if_neg (not_not.mpr (h a ha))]
  cases chosen.find? (fun b => b.routeID == a.routeID) with
  | none | some => rfl

variable (h : List.Forall₂ SameRules rows rows')

include h

theorem sameRules_ofKind (kind : Kind) : List.Forall₂ SameRules (ofKind kind rows) (ofKind kind rows') := by
  unfold ofKind
  induction h with
  | nil => exact .nil
  | @cons _ _ _ _ hab _ ih =>
    rw [filter_cons, filter_cons, hab.kind]
    split
    · exact .cons hab ih
    · exact ih

theorem sameRules_elected {acc' : Rows} (hacc : List.Forall₂ SameRules acc acc') :
    List.Forall₂ SameRules (rows.foldl (Election.elect routeID connectorID) acc)
      (rows'.foldl (Election.elect routeID connectorID) acc') := by
  induction h generalizing acc acc' with
  | nil => exact hacc
  | cons hab _ ih =>
    exact ih (Election.elect_rel (fun _ _ h => h.routeID) (fun _ _ h => h.connectorID) hab hacc)

theorem sameRules_flatMap : (rows.flatMap rulesOf).Perm (rows'.flatMap rulesOf) := by
  induction h with
  | nil => exact Perm.refl _
  | cons hab _ ih =>
    rw [flatMap_cons, flatMap_cons]
    exact hab.rulesOf.append ih

/-- **Rows that agree one by one publish the same rules.** -/
theorem canonicalRouteRules_congr : (canonicalRouteRules (ofKind .tunnelHTTPSWSS rows)).Perm
      (canonicalRouteRules (ofKind .tunnelHTTPSWSS rows')) := by
  unfold canonicalRouteRules
  rw [foldl_electRoute (fun _ => kind_of_mem), foldl_electRoute (fun _ => kind_of_mem)]
  exact sameRules_flatMap (sameRules_elected (sameRules_ofKind h _) .nil)

omit h

/-- **The order of the rows does not matter**, if there is one for each route and connector. -/
theorem canonicalRouteRules_perm (hone : OneForEach rows) (hperm : rows.Perm rows') :
    (canonicalRouteRules (ofKind .tunnelHTTPSWSS rows)).Perm
      (canonicalRouteRules (ofKind .tunnelHTTPSWSS rows')) := by
  unfold canonicalRouteRules
  rw [foldl_electRoute (fun _ => kind_of_mem), foldl_electRoute (fun _ => kind_of_mem)]
  have := isStrictTotalOrder_string
  refine Perm.flatMap_right _ (Election.elect_perm (fun a b ha hb hroute => ?_) (hperm.filter _))
  have hconnector := Election.rank_eq_of_elected ha hb hroute
  exact inj_on_of_nodup_map hone (mem_of_mem_filter ha.1) (mem_of_mem_filter hb.1) (Prod.ext hroute hconnector)

/-! ## The rules of the active generation -/

/-- **The matcher serves the rules of these rows**: its active generation has their rules, normalized. -/
def Serves (toASCII : ToASCII) (g : GenerationRegistry) (rows : Rows) : Prop :=
  ∃ s, g.active = some s ∧
    normalizeRules toASCII s.generation (generationRules rows s.generation) g.maximumRoutes = .ok s.rules

theorem Serves.congr {g : GenerationRegistry} (h : Serves toASCII g rows)
    (hperm : (canonicalRouteRules (ofKind .tunnelHTTPSWSS rows)).Perm (canonicalRouteRules (ofKind .tunnelHTTPSWSS rows'))) :
    Serves toASCII g rows' := by
  obtain ⟨s, hs, hrules⟩ := h
  refine ⟨s, hs, ?_⟩
  unfold generationRules at hrules ⊢
  rw [← publishedRules_eq_of_perm hperm hrules]
  exact hrules

/-- A coherent worker with an active generation serves the rows it was activated for. -/
theorem RouteWorker.Coherent.serves {Digest : Type} {codec : RouteCodec Digest} {w : RouteWorker Digest}
    (h : RouteWorker.Coherent codec w rows) (hact : w.registry.active.isSome) :
    Serves codec.toASCII w.registry rows := by
  obtain ⟨s, hs⟩ := Option.isSome_iff_exists.mp hact
  exact ⟨s, hs, h.rules s hs⟩

theorem RouteWorker.Coherent.serves_promotion {Digest : Type} [DecidableEq Digest] {codec : RouteCodec Digest}
    {w : RouteWorker Digest} (h : RouteWorker.Coherent codec w rows) {hash : Digest}
    {res : Resolution} {g₃ : GenerationRegistry} (hgen : gen = w.localGeneration hash)
    (hpromote : GenerationRegistry.Promotes codec.toASCII w.registry gen (RouteWorker.stagedRules res gen) g₃) :
    Serves codec.toASCII g₃ res.effective := by
  obtain ⟨_, _, _, _, hact, hrules⟩ := h.promotion hgen hpromote
  obtain ⟨s, hs⟩ := Option.ne_none_iff_exists'.mp hact
  exact ⟨s, hs, hrules s hs⟩

end PaperboatTunnel.Runtime
