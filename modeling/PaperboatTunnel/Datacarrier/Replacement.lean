import PaperboatTunnel.Lib.Checks
import PaperboatTunnel.Lib.Table
import PaperboatTunnel.Datacarrier.DurableAdmission

/-!
# `Replacement` — what `Replace` accepts and what is authorized afterwards

A set of admissions is accepted when each of them is valid and not behind the fence, and any two of them are
compatible; the registry then holds exactly these admissions (`replace_ok`, `replace_accepts`). `Grouped` is the
shape the loop keeps the entries in.
-/

namespace PaperboatTunnel.Datacarrier

open GoTime List Table Checks

namespace DurableAdmissionRegistry

/-! ## Grouped entries -/

/-- An entry has admissions, each with the identity and verifier material of the entry and a route of its
    own. -/
structure Uniform (entry : DurableAdmissionEntry) : Prop where
  ne_nil : entry.byRoute ≠ []
  binding : ∀ a ∈ entry.byRoute, a.identity = entry.identity
              ∧ a.machineIdentityPublicKey = entry.machineIdentityPublicKey
              ∧ a.machineIdentityThumbprint = entry.machineIdentityThumbprint
              ∧ a.edgeProcessEpoch = entry.edgeProcessEpoch
  routes : (entry.byRoute.map DurableAdmission.routeID).Nodup

/-- One entry for each identity, and each of them uniform. -/
structure Grouped (entries : List DurableAdmissionEntry) : Prop where
  distinct : (entries.map DurableAdmissionEntry.identity).Nodup
  uniform : ∀ e ∈ entries, Uniform e

theorem Grouped.nil : Grouped [] := ⟨nodup_nil, fun _ h => by cases h⟩

variable {a : DurableAdmission} {entries next : List DurableAdmissionEntry} {e entry : DurableAdmissionEntry}

theorem mem_flatten : a ∈ flatten entries ↔ ∃ e ∈ entries, a ∈ e.byRoute := mem_flatMap

theorem new_ok {nodeID epoch : String} {maxAdms : Int} {r : DurableAdmissionRegistry}
    (h : new nodeID epoch maxAdms = .ok r) : r.closed = false ∧ r.byID = [] := by
  unfold new at h
  split at h
  · cases h
  extract_lets lim at h
  split at h
  · cases h
  · rw [← Except.ok.inj h]
    exact ⟨rfl, rfl⟩

/-! ## One admission -/

/-- The entry of an identity that has one already, after the admission is added to it. -/
def withAdmission (a : DurableAdmission) (entry : DurableAdmissionEntry) : DurableAdmissionEntry :=
  if entry.identity = a.identity then { entry with byRoute := entry.byRoute ++ [a] } else entry

@[simp] theorem withAdmission_identity (a : DurableAdmission) (entry : DurableAdmissionEntry) :
    (withAdmission a entry).identity = entry.identity := by
  unfold withAdmission
  split <;> rfl

theorem mem_withAdmission {b : DurableAdmission} :
    b ∈ (withAdmission a entry).byRoute ↔ b ∈ entry.byRoute ∨ (entry.identity = a.identity ∧ b = a) := by
  unfold withAdmission
  split
  · next heq => simp [heq]
  · next hne => simp [hne]

/-- **What the insertion of one admission has checked and done.** -/
structure Inserted (next : List DurableAdmissionEntry) (a : DurableAdmission)
    (result : List DurableAdmissionEntry) : Prop where
  grouped : Grouped result
  mem : ∀ b, b ∈ flatten result ↔ b ∈ flatten next ∨ b = a
  compatible : ∀ b ∈ flatten next, b.Compatible a
  length : result.length ≤ next.length + 1

theorem inserted_first (hg : Grouped next) (hnew : ∀ e ∈ next, e.identity ≠ a.identity) : Inserted next a
      (next ++ [{ identity := a.identity, edgeProcessEpoch := a.edgeProcessEpoch,
                  machineIdentityPublicKey := a.machineIdentityPublicKey,
                  machineIdentityThumbprint := a.machineIdentityThumbprint, byRoute := [a] }]) := by
  refine ⟨⟨nodup_map_snoc hg.distinct hnew, ?_⟩, ?_, ?_, by simp⟩
  · exact forall_mem_snoc hg.uniform ⟨by simp, by simp, nodup_singleton _⟩
  · intro b
    simp [flatten]
  · intro b hb hid
    obtain ⟨e, he, hbe⟩ := mem_flatten.mp hb
    exact absurd (((hg.uniform e he).binding b hbe).1.symm.trans hid) (hnew e he)

/-- What the entry of an identity and a further admission have to agree on. -/
structure Joins (entry : DurableAdmissionEntry) (a : DurableAdmission) : Prop where
  identity : entry.identity = a.identity
  publicKey : entry.machineIdentityPublicKey = a.machineIdentityPublicKey
  thumbprint : entry.machineIdentityThumbprint = a.machineIdentityThumbprint
  epoch : entry.edgeProcessEpoch = a.edgeProcessEpoch
  routes : ∀ b ∈ entry.byRoute, b.routeID ≠ a.routeID

theorem Joins.uniform (h : Joins entry a) (hu : Uniform entry) :
    Uniform { entry with byRoute := entry.byRoute ++ [a] } := by
  refine ⟨by simp, forall_mem_snoc hu.binding ?_, nodup_map_snoc hu.routes h.routes⟩
  exact ⟨h.identity.symm, h.publicKey.symm, h.thumbprint.symm, h.epoch.symm⟩

theorem inserted_joins (hg : Grouped next) (hentry : entry ∈ next) (h : Joins entry a) :
    Inserted next a (next.map (withAdmission a)) := by
  -- the entry of an identity is unique, so it is the one the lookup found
  have hunique {e : DurableAdmissionEntry} (he : e ∈ next) (hid : e.identity = a.identity) : e = entry :=
    inj_on_of_nodup_map hg.distinct he hentry (hid.trans h.identity.symm)
  refine ⟨⟨?_, ?_⟩, ?_, ?_, by simp⟩
  · have hids : (next.map (withAdmission a)).map DurableAdmissionEntry.identity
        = next.map DurableAdmissionEntry.identity := by
      rw [List.map_map]
      exact map_congr_left (fun e _ => withAdmission_identity a e)
    rw [hids]
    exact hg.distinct
  · intro e he
    obtain ⟨e, hold, rfl⟩ := mem_map.mp he
    unfold withAdmission
    split
    · next heq =>
      obtain rfl := hunique hold heq
      exact h.uniform (hg.uniform e hold)
    · exact hg.uniform e hold
  · intro b
    rw [mem_flatten, mem_flatten]
    constructor
    · rintro ⟨e, he, hb⟩
      obtain ⟨e, hold, rfl⟩ := mem_map.mp he
      rcases mem_withAdmission.mp hb with hin | ⟨_, rfl⟩
      · exact .inl ⟨e, hold, hin⟩
      · exact .inr rfl
    · rintro (⟨e, he, hb⟩ | rfl)
      · exact ⟨_, mem_map_of_mem he, mem_withAdmission.mpr (.inl hb)⟩
      · exact ⟨_, mem_map_of_mem hentry, mem_withAdmission.mpr (.inr ⟨h.identity, rfl⟩)⟩
  · intro b hb heq
    obtain ⟨e, he, hbe⟩ := mem_flatten.mp hb
    obtain ⟨hbid, hbkey, hbthumb, hbepoch⟩ := (hg.uniform e he).binding b hbe
    obtain rfl := hunique he (hbid.symm.trans heq)
    exact ⟨hbkey.trans h.publicKey, hbthumb.trans h.thumbprint, hbepoch.trans h.epoch, h.routes b hbe⟩

theorem insertAdmission_ok {res : List DurableAdmissionEntry} (hg : Grouped next)
    (h : insertAdmission next a = .ok res) : Inserted next a res := by
  unfold insertAdmission at h
  split at h
  · next hfind =>
    cases h
    apply inserted_first hg
    intro e he
    have hno := find?_eq_none.mp hfind e he
    simpa using hno
  next entry hfind =>
  split_ifs at h with hverified hroute
  cases h
  have hid : entry.identity = a.identity := by simpa using find?_some hfind
  rw [not_or, not_or, not_not, not_not, not_not] at hverified
  obtain ⟨hkey, hthumb, hepoch⟩ := hverified
  apply inserted_joins hg (mem_of_find?_eq_some hfind)
  refine ⟨hid, hkey, hthumb, hepoch, ?_⟩
  intro b hb heq
  exact hroute (any_eq_true.mpr ⟨b, hb, by simp [heq]⟩)

theorem insertAdmission_accepts (hg : Grouped next) (h : ∀ b ∈ flatten next, b.Compatible a) :
    ∃ result, insertAdmission next a = .ok result := by
  unfold insertAdmission
  split
  · exact ⟨_, rfl⟩
  next entry hfind =>
  have hentry : entry ∈ next := mem_of_find?_eq_some hfind
  have hid : entry.identity = a.identity := by simpa using find?_some hfind
  have hcompat (b : DurableAdmission) (hb : b ∈ entry.byRoute) : b.identity = a.identity ∧ b.Compatible a :=
    ⟨((hg.uniform entry hentry).binding b hb).1.trans hid, h b (mem_flatten.mpr ⟨entry, hentry, hb⟩)⟩
  split
  · next hverified =>
    obtain ⟨b, hb⟩ := exists_mem_of_ne_nil _ (hg.uniform entry hentry).ne_nil
    obtain ⟨hbid, hc⟩ := hcompat b hb
    obtain ⟨hkey, hthumb, hepoch, _⟩ := hc hbid
    obtain ⟨_, hbkey, hbthumb, hbepoch⟩ := (hg.uniform entry hentry).binding b hb
    rcases hverified with hbad | hbad | hbad
    · exact absurd (hbkey.symm.trans hkey) hbad
    · exact absurd (hbthumb.symm.trans hthumb) hbad
    · exact absurd (hbepoch.symm.trans hepoch) hbad
  split
  · next hroute =>
    obtain ⟨b, hb, heq⟩ := any_eq_true.mp hroute
    obtain ⟨hbid, hc⟩ := hcompat b hb
    exact absurd (by simpa using heq) (hc hbid).2.2.2
  · exact ⟨_, rfl⟩

/-! ## The loop -/

variable {sha256 : List UInt8 → List UInt8} {r : DurableAdmissionRegistry} {now : Time}

theorem foldl_generation_le {n : UInt64} : ∀ {l : List DurableAdmission} {g : UInt64}, l.foldl (fun gen a =>
        if a.assignmentGeneration > gen then a.assignmentGeneration else gen) g ≤ n ↔
      g ≤ n ∧ ∀ a ∈ l, a.assignmentGeneration ≤ n
  | [], g => by simp
  | a :: l, g => by
      rw [List.foldl_cons, foldl_generation_le, List.forall_mem_cons, ← and_assoc]
      refine and_congr_left (fun _ => ?_)
      split
      · next hgt => exact ⟨fun h => ⟨UInt64.le_trans (UInt64.le_of_lt hgt) h, h⟩, fun h => h.2⟩
      · next hle => exact ⟨fun h => ⟨h, UInt64.le_trans (UInt64.not_lt.mp hle) h⟩, fun h => h.1⟩

/-- The fence is passed when no admission in force for the route has a higher generation. -/
theorem not_lt_currentGeneration {n : UInt64} {key : String × String × String} :
    ¬ n < r.currentGeneration key ↔ ∀ b ∈ r.admissions, b.fence = key → b.assignmentGeneration ≤ n := by
  rw [UInt64.not_lt, currentGeneration, foldl_generation_le]
  simp

variable (sha256 r) in
/-- **What `Replace` asks of a set of admissions.** -/
structure Acceptable (admissions : List DurableAdmission) (now : Time) : Prop where
  valid : ∀ a ∈ admissions, a.validate sha256 r.nodeID r.processEpoch now = none
  current : ∀ a ∈ admissions, ∀ b ∈ r.admissions, b.fence = a.fence → b.assignmentGeneration ≤ a.assignmentGeneration
  compatible : admissions.Pairwise DurableAdmission.Compatible

theorem Acceptable.of_cons {a : DurableAdmission} {rest : List DurableAdmission}
    (h : Acceptable sha256 r (a :: rest) now) : Acceptable sha256 r rest now where
  valid b hb := h.valid b (mem_cons_of_mem _ hb)
  current b hb := h.current b (mem_cons_of_mem _ hb)
  compatible := h.compatible.of_cons

variable (sha256 r now) in
/-- What the loop has done when it comes to its end. -/
structure Collected (next : List DurableAdmissionEntry) (admissions : List DurableAdmission)
    (result : List DurableAdmissionEntry) : Prop where
  grouped : Grouped result
  mem : ∀ b, b ∈ flatten result ↔ b ∈ flatten next ∨ b ∈ admissions
  acceptable : Acceptable sha256 r admissions now
  compatible : ∀ b ∈ flatten next, ∀ a ∈ admissions, b.Compatible a
  length : result.length ≤ next.length + admissions.length

/-- **The loop, when it succeeds.** By induction over the admissions; `next` is what was collected before. -/
theorem collect_ok : ∀ {adms : List DurableAdmission} {next result : List DurableAdmissionEntry},
    Grouped next → collect sha256 r now next adms = .ok result →
    Collected sha256 r now next adms result
  | [], next, result, hg, h => by
      cases h
      refine ⟨hg, by simp, ⟨by simp, by simp, Pairwise.nil⟩, by simp, by simp⟩
  | a :: rest, next, result, hg, h => by
      unfold collect at h
      split at h
      · cases h
      next hval =>
      split at h
      · cases h
      next hfence =>
      split at h
      · cases h
      next next' hinsert =>
      have hi := insertAdmission_ok hg hinsert
      have hc := collect_ok hi.grouped h
      have hnow (b : DurableAdmission) (hb : b ∈ rest) : a.Compatible b :=
        hc.compatible a ((hi.mem a).mpr (.inr rfl)) b hb
      refine ⟨hc.grouped, ?_, ⟨?_, ?_, Pairwise.cons hnow hc.acceptable.compatible⟩, ?_, ?_⟩
      · intro b
        rw [hc.mem, hi.mem, List.mem_cons, or_assoc]
      · exact forall_mem_cons.mpr ⟨hval, hc.acceptable.valid⟩
      · exact forall_mem_cons.mpr ⟨not_lt_currentGeneration.mp hfence, hc.acceptable.current⟩
      · intro b hb
        exact forall_mem_cons.mpr ⟨hi.compatible b hb, hc.compatible b ((hi.mem b).mpr (.inl hb))⟩
      have hlen := hc.length
      have hlen' := hi.length
      rw [length_cons]
      omega

/-- **The loop accepts an acceptable set.** -/
theorem collect_accepts : ∀ {adms : List DurableAdmission} {next : List DurableAdmissionEntry},
    Grouped next → Acceptable sha256 r adms now →
    (∀ b ∈ flatten next, ∀ a ∈ adms, b.Compatible a) →
    ∃ res, collect sha256 r now next adms = .ok res
  | [], next, _, _, _ => ⟨next, rfl⟩
  | a :: rest, next, hg, h, hnext => by
      obtain ⟨next', hinsert⟩ := insertAdmission_accepts hg (fun b hb => hnext b hb a mem_cons_self)
      have hi := insertAdmission_ok hg hinsert
      have hnext' : ∀ b ∈ flatten next', ∀ c ∈ rest, b.Compatible c := by
        intro b hb c hc
        rcases (hi.mem b).mp hb with hold | rfl
        · exact hnext b hold c (mem_cons_of_mem _ hc)
        · exact (pairwise_cons.mp h.compatible).1 c hc
      obtain ⟨res, hres⟩ := collect_accepts hi.grouped h.of_cons hnext'
      have hval := h.valid a mem_cons_self
      have hfence : ¬ a.assignmentGeneration < r.currentGeneration a.fence :=
        not_lt_currentGeneration.mpr (h.current a mem_cons_self)
      refine ⟨res, ?_⟩
      unfold collect
      rw [hval]
      dsimp only
      rw [if_neg hfence, hinsert]
      exact hres

/-! ## `Replace` -/

variable {r' : DurableAdmissionRegistry} {adms : List DurableAdmission}

/-- The registry after a replacement holds these admissions, in the registry it was made for. -/
structure Replaced (r : DurableAdmissionRegistry) (admissions : List DurableAdmission)
    (r' : DurableAdmissionRegistry) : Prop where
  grouped : Grouped r'.byID
  mem : ∀ b, b ∈ r'.admissions ↔ b ∈ admissions
  nodeID : r'.nodeID = r.nodeID
  processEpoch : r'.processEpoch = r.processEpoch
  maximum : r'.maximum = r.maximum
  closed : r'.closed = r.closed

/-- **A replacement that succeeds.** -/
theorem replace_ok (h : r.replace sha256 adms now = (r', none)) :
    Replaced r adms r' ∧ Acceptable sha256 r adms now ∧ adms.length ≤ r.maximum := by
  unfold replace at h
  split at h
  · cases (Prod.ext_iff.mp h).2
  next hlen =>
  split at h
  · cases (Prod.ext_iff.mp h).2
  next next hcollect =>
  split at h
  · cases (Prod.ext_iff.mp h).2
  split at h
  · cases (Prod.ext_iff.mp h).2
  obtain ⟨rfl, _⟩ := Prod.ext_iff.mp h
  have hc := collect_ok Grouped.nil hcollect
  refine ⟨⟨hc.grouped, ?_, rfl, rfl, rfl, rfl⟩, hc.acceptable, not_lt.mp hlen⟩
  intro b
  rw [DurableAdmissionRegistry.admissions, hc.mem]
  simp [flatten]

/-- **An acceptable set is accepted**, if it fits and the registry is open. -/
theorem replace_accepts (h : Acceptable sha256 r adms now) (hlen : adms.length ≤ r.maximum)
    (hopen : r.closed = false) : ∃ r', r.replace sha256 adms now = (r', none) := by
  obtain ⟨next, hcollect⟩ := collect_accepts Grouped.nil h (by simp [flatten])
  have hnext : ¬ next.length > r.maximum := by
    have hc := (collect_ok Grouped.nil hcollect).length
    rw [length_nil] at hc
    omega
  refine ⟨{ r with byID := next }, ?_⟩
  unfold replace
  rw [if_neg (not_lt.mpr hlen), hcollect]
  simp [hnext, hopen]

/-! ## Authorization -/

variable {ident : Identity} {o : StreamOpen}

theorem mem_forIdentity : a ∈ r.forIdentity ident now ↔ ident.validate = none ∧ r.closed = false
      ∧ ∃ e, r.byID.find? (fun entry => entry.identity == ident) = some e ∧ a ∈ e.byRoute ∧ a.usable now := by
  unfold forIdentity
  cases ident.validate <;> cases r.closed <;> cases r.byID.find? (fun entry => entry.identity == ident) <;>
    simp

theorem hasIdentity_iff : r.hasIdentity ident now = true ↔ r.forIdentity ident now ≠ [] := by
  have hne : r.forIdentity ident now ≠ [] ↔ ∃ a, a ∈ r.forIdentity ident now :=
    ⟨exists_mem_of_ne_nil _, fun ⟨_, ha⟩ => ne_nil_of_mem ha⟩
  rw [hne]
  simp only [mem_forIdentity, hasIdentity, Bool.and_eq_true, Bool.not_eq_true',
    Option.isNone_iff_eq_none, Option.any_eq_true, List.any_eq_true]
  grind

/-- **Authorization reads the listing**, when an entry has each route once. -/
theorem authorizeStream_iff (hroutes : ∀ e ∈ r.byID, (e.byRoute.map DurableAdmission.routeID).Nodup)
    (hmatches : ident.matchesOpen o) :
    r.authorizeStream ident o now = none ↔ ∃ a ∈ r.forIdentity ident now, a.routeID = o.routeID := by
  unfold authorizeStream
  rw [none_iff, none_iff]
  simp only [mem_forIdentity, hmatches, not_true_eq_false, or_false, Bool.not_eq_true, Option.isSome_eq_false_iff,
    Option.isNone_iff_eq_none]
  cases hfind : r.byID.find? (fun entry => entry.identity == ident) with
  | none => simp
  | some e =>
    have hroute {a : DurableAdmission} : e.byRoute.find? (fun b => b.routeID == o.routeID) = some a
        ↔ a ∈ e.byRoute ∧ a.routeID = o.routeID :=
      find_iff (hroutes e (mem_of_find?_eq_some hfind))
    simp only [Option.some.injEq, ↓existsAndEq, true_and]
    cases hfound : e.byRoute.find? (fun b => b.routeID == o.routeID) with
    | none =>
      refine iff_of_false (fun h => nomatch h.2.2) ?_
      rintro ⟨a, ⟨_, _, ha, _⟩, hid⟩
      rw [hroute.mpr ⟨ha, hid⟩] at hfound
      cases hfound
    | some a =>
      obtain ⟨ha, hid⟩ := hroute.mp hfound
      dsimp only
      rw [none_iff, none_iff]
      constructor
      · rintro ⟨hval, hopen, hst, hexpiry, _⟩
        exact ⟨a, ⟨hval, hopen, ha, by grind [DurableAdmission.usable]⟩, hid⟩
      · rintro ⟨b, ⟨hval, hopen, hb, husable⟩, hbid⟩
        obtain rfl : a = b := Option.mem_unique hfound (hroute.mpr ⟨hb, hbid⟩)
        exact ⟨hval, hopen, by grind [DurableAdmission.usable]⟩

/-- **An admission in force authorizes its route**, if it is staged or active and has no expiry. -/
theorem authorizeStream_of_mem (hg : Grouped r.byID) (hopen : r.closed = false)
    (ha : a ∈ r.admissions) (hid : a.identity.validate = none)
    (hst : a.state = .staged ∨ a.state = .active) (hexpiry : a.expiresAt.isZero) :
    r.authorizeStream a.identity a.streamOpen now = none := by
  obtain ⟨e, he, hae⟩ := mem_flatten.mp ha
  have hmatches : a.identity.matchesOpen a.streamOpen = true := by
    simp [Identity.matchesOpen, DurableAdmission.streamOpen]
  have husable : a.usable now = true := by simpa [DurableAdmission.usable, hexpiry] using hst
  refine (authorizeStream_iff (fun e he => (hg.uniform e he).routes) hmatches).mpr ⟨a, ?_, rfl⟩
  refine mem_forIdentity.mpr ⟨hid, hopen, e, ?_, hae, husable⟩
  rw [((hg.uniform e he).binding a hae).1]
  exact (find_iff hg.distinct).mpr ⟨he, rfl⟩

/-- **Authorization agrees with the listing.** For every content of the registry, whose entries are maps with each
    route once: a stream opened by the identity for a route is authorized exactly if `ForIdentity` lists an admission
    of the route, and `HasIdentity` tells whether it lists any. -/
theorem authorizes_what_is_listed (r : DurableAdmissionRegistry) (identity : Identity) (o : StreamOpen) (now : Time)
    (hroutes : ∀ e ∈ r.byID, (e.byRoute.map DurableAdmission.routeID).Nodup) (hmatches : identity.matchesOpen o) :
    (r.authorizeStream identity o now = none ↔ ∃ a ∈ r.forIdentity identity now, a.routeID = o.routeID)
      ∧ (r.hasIdentity identity now = true ↔ r.forIdentity identity now ≠ []) :=
  ⟨authorizeStream_iff hroutes hmatches, hasIdentity_iff⟩

def listed : DurableAdmission := { identity := smallIdentity, routeID := "route", state := .active }

def listedRegistry : DurableAdmissionRegistry :=
  { byID := [{ identity := smallIdentity, edgeProcessEpoch := "", machineIdentityPublicKey := "",
               machineIdentityThumbprint := "", byRoute := [listed] }] }

theorem authorizes_what_is_listed_route :
    listedRegistry.authorizeStream smallIdentity listed.streamOpen {} = none
      ∧ listedRegistry.hasIdentity smallIdentity {} = true := by
  have h := authorizes_what_is_listed listedRegistry smallIdentity listed.streamOpen {} (by decide) (by decide)
  have hlisted : listed ∈ listedRegistry.forIdentity smallIdentity {} := by decide +kernel
  exact ⟨h.1.mpr ⟨listed, hlisted, rfl⟩, h.2.mpr (ne_nil_of_mem hlisted)⟩

end DurableAdmissionRegistry

end PaperboatTunnel.Datacarrier
