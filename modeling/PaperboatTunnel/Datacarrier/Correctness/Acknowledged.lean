import PaperboatTunnel.Lib.Checks
import PaperboatTunnel.Lib.GoMap
import PaperboatTunnel.Datacarrier.ExpectedAdmission

/-!
# `Acknowledged` — only acknowledged admissions authorize

Pending and admitted copies of one key live side by side in the registry. A call is refused or does its work
(`apply_effect`), and from what each kind of work does to the admitted copies follows the history of an entry: it was
staged by an `InstallPending`, and a later `MarkAdmitted` named it with all its durable fields.
-/

namespace PaperboatTunnel.Datacarrier

open TransitionSystem ExpectedAdmission List Option GoMap AList Checks

namespace ExpectedAdmissionRegistry

/-! ## Authorized admissions -/

/-- The admission stands in the map, and it is admitted: `AuthorizeStream` and `PeerBinding` look at no other. -/
def Shows (byKey : AdmissionMap) (k : String) (a : ExpectedAdmission) : Prop :=
  byKey.lookup k = some a ∧ a.admitted = true

/-- **The authorized admissions** of a registry. -/
def Authorized (r : ExpectedAdmissionRegistry) (k : String) (a : ExpectedAdmission) : Prop := Shows r.byKey k a

/-- A list of the entries of the map, in the order in which Go may meet them. -/
def Orders (r : ExpectedAdmissionRegistry) (order : List ExpectedAdmission) : Prop :=
  order.Perm (r.byKey.entries.map Sigma.snd)

/-- `MarkAdmitted` is called with pairwise distinct keys. -/
def Call.Distinct : Call → Prop
  | .markAdmitted admissions => (admissions.map key).Nodup
  | _ => True

instance : (call : Call) → Decidable call.Distinct
  | .markAdmitted admissions => inferInstanceAs (Decidable (admissions.map key).Nodup)
  | .installPending .. => .isTrue trivial
  | .commit .. => .isTrue trivial
  | .remove .. => .isTrue trivial

def Call.pulled : Call → List String
  | .installPending admissions _ => admissions.map key
  | _ => []

variable {m : AdmissionMap} {k : String} {a : ExpectedAdmission}

theorem shows_publish {entry : Sigma (fun _ : String => ExpectedAdmission)} (hentry : entry.2.admitted = false) :
    Shows (publish m entry) k a ↔ Shows m k a := by
  unfold publish
  split
  · rfl
  next hfree =>
    unfold Shows
    rw [lookup_insert_eq]
    split
    · constructor
      · rintro ⟨hnew, hadmitted⟩
        cases hnew
        rw [hentry] at hadmitted
        cases hadmitted
      · rintro ⟨hlookup, hadmitted⟩
        subst k
        rw [hlookup] at hfree
        exact absurd hadmitted hfree
    · rfl

theorem shows_foldl_publish : ∀ {entries : List (Sigma (fun _ : String => ExpectedAdmission))} {m : AdmissionMap},
    (∀ entry ∈ entries, entry.2.admitted = false) → (Shows (entries.foldl publish m) k a ↔ Shows m k a)
  | [], _, _ => Iff.rfl
  | entry :: entries, m, h => by
      rw [foldl_cons, shows_foldl_publish (fun e he => h e (mem_cons_of_mem _ he))]
      exact shows_publish (h entry mem_cons_self)

variable {ext : Externals} {r : ExpectedAdmissionRegistry} {now : GoTime.Time} {next res : AdmissionMap}

/-- What is staged under a key: a pulled admission that was checked, and that is not admitted. -/
structure Staged (pulled : List ExpectedAdmission) (k : String) (a : ExpectedAdmission) : Prop where
  fresh : a.admitted = false
  keyed : a.key = k
  source : ∃ x ∈ pulled, a = { x with admitted := false }

/-- A turn of the loop that goes on: the admission passed its check, and is staged under its key. -/
theorem stage_cons {x adm : ExpectedAdmission} {rest : List ExpectedAdmission}
    (hx : { x with admitted := false } = adm) (h : r.stage ext now next (x :: rest) = .ok res) :
    adm.validate ext now r.nodeID = none ∧ r.stage ext now (next.insert adm.key adm) rest = .ok res := by
  unfold stage at h
  -- the checks read the admission as it is staged, and no field of it
  rw [hx] at h
  dsimp only at h
  split at h
  · cases h
  next hval =>
  split at h
  · cases h
  split at h
  · cases h
  · exact ⟨hval, h⟩

/-- Every pulled admission was checked, and every staged one was pulled. By induction over the loop, for what the
    turns before have staged. -/
theorem stage_spec {pulled rest : List ExpectedAdmission} (hrest : ∀ x ∈ rest, x ∈ pulled)
    (hnext : ∀ k a, next.lookup k = some a → Staged pulled k a) (h : r.stage ext now next rest = .ok res) :
    (∀ x ∈ rest, ({ x with admitted := false } : ExpectedAdmission).validate ext now r.nodeID = none)
      ∧ ∀ k a, res.lookup k = some a → Staged pulled k a := by
  induction rest generalizing next with
  | nil =>
    cases h
    exact ⟨by simp, hnext⟩
  | cons x rest ih =>
    rw [forall_mem_cons] at hrest ⊢
    obtain ⟨hval, h⟩ := stage_cons rfl h
    obtain ⟨hchecked, hstaged⟩ := ih hrest.2 (forall_insert hnext ⟨rfl, rfl, x, hrest.1, rfl⟩) h
    exact ⟨⟨hval, hchecked⟩, hstaged⟩

/-! ## The calls -/

variable (ext r) in
/-- **What a call can do**: it is refused and changes nothing, or it does its work and returns no error. -/
inductive Effect : Call → ExpectedAdmissionRegistry × Option Error → Prop where
  | refused {call err} : Effect call (r, some err)
  | installed {admissions now next} (hstage : r.stage ext now ∅ admissions = .ok next) :
      Effect (.installPending admissions now)
        ({ r with pending := next, byKey := next.entries.foldl publish r.byKey }, none)
  | acknowledged {admissions}
      (hcheck : ∀ x ∈ admissions, ∃ p, r.pending.lookup x.key = some p ∧ p.exactEqual x = true) :
      Effect (.markAdmitted admissions) (admissions.foldl admitOne r, none)
  | committed {admissions} (hcheck : ∀ k a, (committed admissions).lookup k = some a →
        ∃ current, r.byKey.lookup k = some current ∧ current.admitted = true ∧ current.exactEqual a = true) :
      Effect (.commit admissions) ({ r with byKey := committed admissions, pending := ∅ }, none)
  | absent {b} (hlookup : r.byKey.lookup b.key = none) : Effect (.remove b) (r, none)
  | removed {b current} (hlookup : r.byKey.lookup b.key = some current) (hexact : current.exactEqual b = true) :
      Effect (.remove b) ({ r with byKey := r.byKey.erase b.key }, none)

variable {admissions : List ExpectedAdmission} {p b : ExpectedAdmission} {call : Call}

theorem apply_effect (ext : Externals) (r : ExpectedAdmissionRegistry) (call : Call) :
    Effect ext r call (r.apply ext call) := by
  cases call with
  | installPending =>
    simp only [apply]
    fun_cases installPending with
    | case4 _ _ hstage => exact .installed hstage
    | _ => exact .refused
  | markAdmitted =>
    simp only [apply]
    fun_cases markAdmitted with
    | case3 _ hcheck =>
      simp only [List.any_eq_true, Bool.not_eq_true', not_exists, not_and, Bool.not_eq_false,
        Option.any_eq_true] at hcheck
      exact .acknowledged hcheck
    | _ => exact .refused
  | commit =>
    simp only [apply]
    fun_cases commit with
    | case4 _ _ hcheck =>
      simp only [List.any_eq_true, Bool.not_eq_true', not_exists, not_and, Bool.not_eq_false,
        Option.any_eq_true, Bool.and_eq_true] at hcheck
      exact .committed (fun k a hlookup => hcheck ⟨k, a⟩ (mem_entries_iff.mpr hlookup))
    | _ => exact .refused
  | remove =>
    simp only [apply]
    fun_cases remove with
    | case1 hlookup => exact .absent hlookup
    | case2 => exact .refused
    | case3 _ hlookup hex => exact .removed hlookup (not_not.mp hex)

/-- **A call that returns an error changes nothing.** -/
theorem apply_error (h : (r.apply ext call).2 ≠ none) : (r.apply ext call).1 = r := by
  have heff := apply_effect ext r call
  generalize r.apply ext call = out at heff h ⊢
  cases heff with
  | refused => rfl
  | _ => exact absurd rfl h

/-- **What `InstallPending` stages**: pulled admissions, each checked. -/
theorem staged_of_stage (h : r.stage ext now ∅ admissions = .ok next) (hp : next.lookup k = some p) :
    Staged admissions k p :=
  (stage_spec (fun _ hx => hx) (by simp) h).2 k p hp

theorem installPending_ok (h : (r.apply ext (.installPending admissions now)).2 = none) :
    ∃ next, r.stage ext now ∅ admissions = .ok next ∧ (r.apply ext (.installPending admissions now)).1
      = { r with pending := next, byKey := next.entries.foldl publish r.byKey } := by
  have heff := apply_effect ext r (.installPending admissions now)
  generalize r.apply ext (.installPending admissions now) = out at heff h ⊢
  cases heff with
  | refused => cases h
  | installed hstage => exact ⟨_, hstage, rfl⟩

theorem authorized_installed (h : r.stage ext now ∅ admissions = .ok next) :
    Authorized { r with pending := next, byKey := next.entries.foldl publish r.byKey } k a ↔ Authorized r k a := by
  apply shows_foldl_publish
  rintro ⟨k', x⟩ hentry
  exact (staged_of_stage h (mem_entries_iff.mp hentry)).fresh

theorem lookup_foldl_admitOne_ne : ∀ {admissions : List ExpectedAdmission} {r : ExpectedAdmissionRegistry},
    k ∉ admissions.map key → (admissions.foldl admitOne r).byKey.lookup k = r.byKey.lookup k
  | [], _, _ => rfl
  | x :: admissions, r, hk => by
      rw [List.map_cons, List.mem_cons, not_or] at hk
      rw [foldl_cons, lookup_foldl_admitOne_ne hk.2]
      exact lookup_insert_ne hk.1

/-- At the keys it is called with it puts the pending admissions, now admitted. The keys have to be distinct: a key
    that comes twice is no longer pending the second time. -/
theorem lookup_foldl_admitOne : ∀ {admissions : List ExpectedAdmission} {r : ExpectedAdmissionRegistry},
    (admissions.map key).Nodup → k ∈ admissions.map key →
      (admissions.foldl admitOne r).byKey.lookup k = some { (r.pending.lookup k).getD {} with admitted := true }
  | [], _, _, hk => by cases hk
  | x :: admissions, r, hnodup, hk => by
      rw [map_cons, nodup_cons] at hnodup
      rw [foldl_cons]
      rcases mem_cons.mp hk with rfl | hin
      · rw [lookup_foldl_admitOne_ne hnodup.1]
        exact lookup_insert _
      have hne : k ≠ x.key := by
        rintro rfl
        exact hnodup.1 hin
      rw [lookup_foldl_admitOne hnodup.2 hin]
      show some { ((r.pending.erase x.key).lookup k).getD {} with admitted := true } = _
      rw [lookup_erase_ne hne]

theorem pending_foldl_admitOne (h : (admissions.foldl admitOne r).pending.lookup k = some p) :
    r.pending.lookup k = some p := by
  induction admissions generalizing r with
  | nil => exact h
  | cons x admissions ih =>
    have herase : (r.pending.erase x.key).lookup k = some p := ih h
    rw [lookup_erase_eq] at herase
    split at herase
    · cases herase
    · exact herase

/-- **`Remove` takes the exact admission away** and no other. -/
theorem authorized_removed {cur : ExpectedAdmission} (hlookup : r.byKey.lookup b.key = some cur)
    (hex : cur.exactEqual b) :
    Authorized { r with byKey := r.byKey.erase b.key } k a ↔ Authorized r k a ∧ ¬ (b.key = k ∧ a.exactEqual b) := by
  unfold Authorized Shows
  rw [lookup_erase_eq]
  split
  next hk =>
    subst hk
    constructor
    · rintro ⟨hnone, _⟩
      cases hnone
    rintro ⟨⟨hsame, _⟩, hother⟩
    rw [hlookup] at hsame
    cases hsame
    exact absurd ⟨rfl, hex⟩ hother
  next hk => exact ⟨fun h => ⟨h, fun hboth => hk hboth.1.symm⟩, And.left⟩

/-! ## The history of an admission -/

variable {tr : Trace ExpectedAdmissionRegistry Call} {r' : ExpectedAdmissionRegistry} (ext)
  (t : Transition ExpectedAdmissionRegistry Call) (a : ExpectedAdmission)

/-- The transition is an `InstallPending` without an error, of an admission with the durable fields of this one. -/
def InstalledBy : Prop :=
  ∃ admissions now x, t.label = .installPending admissions now ∧ (t.pre.apply ext t.label).2 = none
    ∧ x ∈ admissions ∧ x.durable = a.durable

/-- The transition is a `MarkAdmitted` without an error, of an admission with the durable fields of this one. -/
def AcknowledgedBy : Prop :=
  ∃ admissions x, t.label = .markAdmitted admissions ∧ (t.pre.apply ext t.label).2 = none
    ∧ x ∈ admissions ∧ x.durable = a.durable

/-- **Installed, and later acknowledged.** -/
def Acknowledged (tr : Trace ExpectedAdmissionRegistry Call) (a : ExpectedAdmission) : Prop :=
  ∃ tr₁ u tr₂ v tr₃, tr = tr₁ ++ u :: (tr₂ ++ v :: tr₃) ∧ InstalledBy ext u a ∧ AcknowledgedBy ext v a

variable {ext t a}

theorem InstalledBy.congr (h : InstalledBy ext t a) (hab : a.durable = b.durable) : InstalledBy ext t b := by
  obtain ⟨admissions, now, x, hlabel, hok, hx, hdurable⟩ := h
  exact ⟨admissions, now, x, hlabel, hok, hx, hdurable.trans hab⟩

theorem Acknowledged.congr (h : Acknowledged ext tr a) (hab : a.durable = b.durable) : Acknowledged ext tr b := by
  obtain ⟨tr₁, u, tr₂, v, tr₃, heq, hinstall, admissions, x, hlabel, hok, hx, hdurable⟩ := h
  exact ⟨tr₁, u, tr₂, v, tr₃, heq, hinstall.congr hab, admissions, x, hlabel, hok, hx, hdurable.trans hab⟩

theorem Acknowledged.snoc (h : Acknowledged ext tr a) (t : Transition ExpectedAdmissionRegistry Call) :
    Acknowledged ext (tr ++ [t]) a := by
  obtain ⟨tr₁, u, tr₂, v, tr₃, rfl, hinstall, hacknowledged⟩ := h
  exact ⟨tr₁, u, tr₂, v, tr₃ ++ [t], by simp, hinstall, hacknowledged⟩

/-- Where the entries of a registry come from. -/
structure History (ext : Externals) (tr : Trace ExpectedAdmissionRegistry Call)
    (r : ExpectedAdmissionRegistry) : Prop where
  pending : ∀ k p, r.pending.lookup k = some p → ∃ t ∈ tr, InstalledBy ext t p
  authorized : ∀ k a, Authorized r k a → Acknowledged ext tr a

theorem History.of_new (ext : Externals) {nodeID epoch : String} {maxAdms : Int}
    (h : new nodeID epoch maxAdms = .ok r) : r.closed = false ∧ History ext [] r := by
  unfold new at h
  generalize (if maxAdms = 0 then maxExpectedAdmissions else maxAdms) = lim at h
  dsimp only at h
  split at h
  · cases h
  cases h
  refine ⟨rfl, fun k p hp => ?_, fun k a ha => ?_⟩
  · simp at hp
  · simp [Authorized, Shows] at ha

/-- **One call keeps the history.** -/
theorem History.step (h : History ext tr r) (hdist : call.Distinct) (hstep : r.step ext call = some r') :
    History ext (tr ++ [⟨r, call, r'⟩]) r' := by
  cases hstep
  have heff := apply_effect ext r call
  generalize hout : r.apply ext call = out at heff ⊢
  -- what was there before is still explained
  have hpend (k : String) (p : ExpectedAdmission) (hp : r.pending.lookup k = some p) :
      ∃ t ∈ tr ++ [⟨r, call, out.1⟩], InstalledBy ext t p := by
    obtain ⟨t, ht, hinstall⟩ := h.pending k p hp
    exact ⟨t, mem_append_left _ ht, hinstall⟩
  have hauth (k : String) (a : ExpectedAdmission) (ha : Authorized r k a) :
      Acknowledged ext (tr ++ [⟨r, call, out.1⟩]) a := (h.authorized k a ha).snoc _
  have hok := congrArg Prod.snd hout
  cases heff with
  | refused | absent => exact ⟨hpend, hauth⟩
  | @installed admissions now _ hstage =>
    refine ⟨fun k p hp => ?_, fun k a ha => hauth k a ((authorized_installed hstage).mp ha)⟩
    obtain ⟨_, _, x, hx, rfl⟩ := staged_of_stage hstage hp
    exact ⟨_, mem_append_right _ (mem_singleton_self _), admissions, now, x, rfl, hok, hx, rfl⟩
  | @acknowledged admissions hcheck =>
    refine ⟨fun k p hp => hpend k p (pending_foldl_admitOne hp), fun k a ha => ?_⟩
    by_cases hk : k ∈ admissions.map key
    · -- the admission was pending, and this call acknowledges it
      obtain ⟨x, hx, rfl⟩ := mem_map.mp hk
      obtain ⟨p, hp, hequal⟩ := hcheck x hx
      have hlookup := ha.1
      rw [lookup_foldl_admitOne hdist hk, hp] at hlookup
      cases hlookup
      obtain ⟨t, ht, hinstall⟩ := h.pending x.key p hp
      obtain ⟨tr₁, tr₂, rfl⟩ := append_of_mem ht
      refine ⟨tr₁, t, tr₂, _, [], append_assoc tr₁ (t :: tr₂) _, hinstall.congr rfl, ?_⟩
      exact ⟨admissions, x, rfl, hok, hx, (exactEqual_iff.mp hequal).symm⟩
    · exact hauth k a ⟨(lookup_foldl_admitOne_ne hk).symm.trans ha.1, ha.2⟩
  | committed hcheck =>
    refine ⟨fun k p hp => (by cases hp), fun k a ha => ?_⟩
    obtain ⟨cur, hlookup, hadmitted, hequal⟩ := hcheck k a ha.1
    exact (hauth k cur ⟨hlookup, hadmitted⟩).congr (exactEqual_iff.mp hequal)
  | removed hlookup hex => exact ⟨hpend, fun k a ha => hauth k a ((authorized_removed hlookup hex).mp ha).1⟩

/-! ## From `InstallPending` to `Commit` -/

/-- The call can take the admission away, because it replaces the set or removes this admission. -/
def Call.Ends (ext : Externals) (r : ExpectedAdmissionRegistry) (k : String) (a : ExpectedAdmission) (call : Call) :
    Prop :=
  (∃ admissions, call = .commit admissions ∧ (r.apply ext call).2 = none)
    ∨ ∃ b, call = .remove b ∧ b.key = k ∧ a.exactEqual b

/-- The admission is authorized, and nothing is pending that could take its place. -/
structure Kept (k : String) (a : ExpectedAdmission) (r : ExpectedAdmissionRegistry) : Prop where
  authorized : Authorized r k a
  settled : r.pending.lookup k = none

theorem Kept.of_stage {admissions : List ExpectedAdmission} {now : GoTime.Time} (ha : Authorized r k a)
    (hstage : r.stage ext now ∅ admissions = .ok next)
    (hk : k ∉ admissions.map key) :
    Kept k a { r with pending := next, byKey := next.entries.foldl publish r.byKey } := by
  refine ⟨(authorized_installed hstage).mpr ha, eq_none_iff_forall_ne_some.mpr (fun _ hp => ?_)⟩
  obtain ⟨_, hkey, x, hx, rfl⟩ := staged_of_stage hstage hp
  exact hk (mem_map.mpr ⟨x, hx, hkey⟩)

/-- **One call keeps an authorized admission** that it neither pulls nor ends. -/
theorem Kept.step (h : Kept k a r) (hpulled : (r.apply ext call).2 = none → k ∉ call.pulled)
    (hends : ¬ call.Ends ext r k a) (hstep : r.step ext call = some r') : Kept k a r' := by
  cases hstep
  have heff := apply_effect ext r call
  unfold Call.Ends at hends
  generalize r.apply ext call = out at heff hpulled hends ⊢
  cases heff with
  | refused | absent => exact h
  | installed hstage => exact Kept.of_stage h.authorized hstage (hpulled rfl)
  | @acknowledged admissions hcheck =>
    have hother : k ∉ admissions.map key := by
      intro hin
      obtain ⟨x, hx, rfl⟩ := mem_map.mp hin
      obtain ⟨p, hp, _⟩ := hcheck x hx
      rw [h.settled] at hp
      cases hp
    refine ⟨⟨(lookup_foldl_admitOne_ne hother).trans h.authorized.1, h.authorized.2⟩, ?_⟩
    refine eq_none_iff_forall_ne_some.mpr (fun _ hp => ?_)
    have hbefore := pending_foldl_admitOne hp
    rw [h.settled] at hbefore
    cases hbefore
  | committed => exact absurd (.inl ⟨_, rfl, rfl⟩) hends
  | @removed b _ hlookup hex =>
    refine ⟨(authorized_removed hlookup hex).mpr ⟨h.authorized, fun hboth => ?_⟩, h.settled⟩
    exact hends (.inr ⟨b, rfl, hboth.1, hboth.2⟩)

/-! ## `AuthorizeStream` -/

variable {dec : Option PrivateAccessDecision}

theorem identity_of_validate {nodeID : String} (h : a.validate ext now nodeID = none) :
    a.identity.validate = none := by
  unfold validate at h
  obtain ⟨_, h⟩ := none_iff.mp h
  obtain ⟨_, h⟩ := none_iff.mp h
  generalize a.identifiers.find? _ = bad at h
  cases bad with
  | some => cases h
  | none => exact not_isSome_iff_eq_none.mp (none_iff.mp h).1

theorem Acknowledged.identity {tr : Trace ExpectedAdmissionRegistry Call}
    (h : Acknowledged ext tr a) : a.identity.validate = none := by
  obtain ⟨_, _, _, _, _, _, ⟨_, _, x, hlabel, hok, hx, hdurable⟩, _⟩ := h
  rw [hlabel] at hok
  obtain ⟨_, hstage, _⟩ := installPending_ok hok
  have hidentity := identity_of_validate ((stage_spec (fun _ hy => hy) (by simp) hstage).1 x hx)
  have hsame := congrArg ExpectedAdmission.identity hdurable
  exact (congrArg Identity.validate hsame).symm.trans hidentity

variable {order : List ExpectedAdmission} {canceled : Bool} {ident : Identity} {pref : StreamOpen}

/-- The entry is an admitted one for streams of the identity and the route. -/
def Serves (r : ExpectedAdmissionRegistry) (identity : Identity) (preface : StreamOpen) (a : ExpectedAdmission) :
    Prop :=
  (∃ k, Authorized r k a) ∧ a.identity = identity ∧ a.routeID = preface.routeID

theorem serves_iff (hord : r.Orders order) : r.Serves ident pref a ↔ a ∈ order ∧ selects a ident pref = true := by
  have hmem : a ∈ order ↔ ∃ k, r.byKey.lookup k = some a := hord.mem_iff.trans mem_values_iff
  simp only [Serves, Authorized, Shows, exists_and_right, ← hmem, selects, Bool.and_eq_true, beq_iff_eq, and_assoc]

theorem serves_of_find (hord : r.Orders order)
    (hfind : order.find? (fun a => selects a ident pref) = some a) : r.Serves ident pref a :=
  (serves_iff hord).mpr ⟨mem_of_find?_eq_some hfind, by simpa using find?_some hfind⟩

theorem verdict_eq_none : verdict a now dec = none ↔ a.expiresAt.after now = true
      ∧ (a.accessMode = .privateAccess → dec.any (fun d => d.covers a now) = true) := by
  unfold verdict
  rw [Checks.none_iff, Checks.none_iff, not_not, not_and]
  simp only [not_not, and_true]

/-- **The authorization of a stream**: the checks of the call, and the verdict of the first entry met. -/
theorem authorizeStream_eq_none : r.authorizeStream order now canceled dec ident pref = none ↔
    canceled = false ∧ (ident.validate = none ∧ ident.matchesOpen pref = true) ∧ r.closed = false
      ∧ ∃ a, order.find? (fun a => selects a ident pref) = some a ∧ verdict a now dec = none := by
  unfold authorizeStream
  rw [none_iff, none_iff, none_iff]
  cases order.find? (fun a => selects a ident pref) <;> simp

theorem frame_foldl_admitOne {β : Type} {f : ExpectedAdmissionRegistry → β}
    (hf : ∀ r byKey pending, f { r with byKey, pending } = f r) :
    ∀ {admissions : List ExpectedAdmission} {r : ExpectedAdmissionRegistry}, f (admissions.foldl admitOne r) = f r
  | [], _ => rfl
  | x :: admissions, r => by
      rw [foldl_cons, frame_foldl_admitOne hf]
      exact hf r _ _

/-- **Only acknowledged admissions authorize.** In every run of the four calls, `MarkAdmitted` called with distinct
    keys: whatever the order in which the entries are met, a stream is authorized only by an admission that an
    `InstallPending` installed and a later `MarkAdmitted` acknowledged, with all its durable fields. A call that
    returns an error leaves the authorized admissions as they are. And from an `InstallPending` on, an authorized
    admission whose key is not pulled stays authorized until a `Commit` replaces the set or a `Remove` removes it:
    then it is the one that decides, when it is met first, and it authorizes until it expires. -/
theorem only_acknowledged_authorize (ext : Externals) (nodeID processEpoch : String) (maximumAdmissions : Int)
    (r : ExpectedAdmissionRegistry) (hnew : new nodeID processEpoch maximumAdmissions = .ok r)
    (tr : Trace ExpectedAdmissionRegistry Call) (q : ExpectedAdmissionRegistry)
    (hrun : Run (step ext) r tr q) (hdistinct : ∀ t ∈ tr, t.label.Distinct) :
    (∀ k a, Authorized q k a → Acknowledged ext tr a) ∧
    (∀ order now canceled decision identity preface, q.Orders order →
      q.authorizeStream order now canceled decision identity preface = none →
      ∃ k a, Authorized q k a ∧ a.identity = identity ∧ a.routeID = preface.routeID ∧ a.expiresAt.after now
        ∧ Acknowledged ext tr a) ∧
    (∀ t ∈ tr, (t.pre.apply ext t.label).2 ≠ none → ∀ k a, Authorized t.post k a ↔ Authorized t.pre k a) ∧
    (∀ tr₁ u tr₂ admissions now, tr = tr₁ ++ u :: tr₂ → u.label = .installPending admissions now →
      (u.pre.apply ext u.label).2 = none →
      ∀ k a, Authorized u.pre k a →
      (∀ t ∈ u :: tr₂, (t.pre.apply ext t.label).2 = none → k ∉ t.label.pulled) →
      (∀ t ∈ tr₂, ¬ t.label.Ends ext t.pre k a) →
      Authorized q k a ∧ ∀ before after now decision preface, q.Orders (before ++ a :: after) →
        a.identity.matchesOpen preface → a.routeID = preface.routeID →
        (∀ b ∈ before, ¬ selects b a.identity preface) → a.expiresAt.after now →
        (a.accessMode = .privateAccess → decision.any (fun d => d.covers a now)) →
        q.authorizeStream (before ++ a :: after) now false decision a.identity preface = none) := by
  obtain ⟨hopen, hempty⟩ := History.of_new ext hnew
  have hhistory : History ext tr q :=
    hrun.trace_invariant_on (C := fun t => t.label.Distinct) (fun hd h hs => h.step hd hs) hdistinct hempty
  -- none of the calls closes the registry
  have hcl : q.closed = false := by
    refine hrun.invariant (I := fun r => r.closed = false) (fun {r call _} h hs => ?_) hopen
    cases hs
    have heff := apply_effect ext r call
    generalize r.apply ext call = out at heff ⊢
    cases heff with
    | acknowledged => exact (frame_foldl_admitOne (fun _ _ _ => rfl)).trans h
    | _ => exact h
  refine ⟨hhistory.authorized, ?_, ?_, ?_⟩
  · intro order now canceled decision identity preface hord hauth
    -- the entry that the loop met first has answered
    obtain ⟨_, _, _, a, hfind, hverdict⟩ := authorizeStream_eq_none.mp hauth
    obtain ⟨⟨k, hk⟩, hidentity, hroute⟩ := serves_of_find hord hfind
    exact ⟨k, a, hk, hidentity, hroute, (verdict_eq_none.mp hverdict).1, hhistory.authorized k a hk⟩
  · intro t ht herror k a
    have hpost : (t.pre.apply ext t.label).1 = t.post := some.inj (hrun.mem_step ht)
    rw [← hpost, apply_error herror]
  · intro tr₁ u tr₂ admissions now htr hlabel hok k a ha hpulled hends
    have hkept : Kept k a q := by
      rw [htr] at hrun
      obtain ⟨_, hstep, hwindow⟩ := hrun.through
      have hpost : (u.pre.apply ext u.label).1 = u.post := some.inj hstep
      have hstart : Kept k a u.post := by
        have hkeys : k ∉ u.label.pulled := hpulled u mem_cons_self hok
        rw [← hpost]
        rw [hlabel] at hok hkeys ⊢
        obtain ⟨_, hstage, heq⟩ := installPending_ok hok
        rw [heq]
        exact Kept.of_stage ha hstage hkeys
      refine hwindow.invariant_on
        (C := fun t => ((t.pre.apply ext t.label).2 = none → k ∉ t.label.pulled) ∧ ¬ t.label.Ends ext t.pre k a)
        (fun hc h hs => h.step hc.1 hc.2 hs) (fun t ht => ?_) hstart
      exact ⟨hpulled t (mem_cons_of_mem _ ht), hends t ht⟩
    refine ⟨hkept.authorized, ?_⟩
    intro before after now' decision preface _ hmatches hroute hfirst hexpiry hprivate
    have hidentity := (hhistory.authorized k a hkept.authorized).identity
    have hselects : selects a a.identity preface = true := by simp [selects, hkept.authorized.2, hroute]
    have hfind : (before ++ a :: after).find? (fun b => selects b a.identity preface) = some a := by
      rw [find?_append, find?_eq_none.mpr hfirst, find?_cons, hselects]
      rfl
    exact authorizeStream_eq_none.mpr
      ⟨rfl, ⟨hidentity, hmatches⟩, hcl, a, hfind, verdict_eq_none.mpr ⟨hexpiry, hprivate⟩⟩

/-! ## Two pulls -/

def smallExternals : Externals where
  sha256 := fun _ => []
  parseURL := fun _ => some { scheme := "https", host := "p.example.test", hostname := "p.example.test" }

def previewAdmission (routeID : String) : ExpectedAdmission :=
  { schema := previewCarrierSchema, kind := previewCarrierKind, edgeNodeID := "edge", previewID := "preview",
    operationID := "operation", ownerDeviceID := "host", ownerSessionID := "owner",
    identity := smallIdentity, leaseGeneration := 1, configGeneration := 1,
    configContentHash := "sha256:0000000000000000000000000000000000000000000000000000000000000000",
    routeID := routeID, edgeProcessEpoch := "epoch-01",
    edgeCarrierServerSPKISHA256 := "sha256:0000000000000000000000000000000000000000000000000000000000000000",
    edgeCarrierServerCertificateChainPEM := "chain", accessMode := .publicAccess, routeKind := .publicRoute,
    hostname := "p.example.test", routeRevision := 1, attachmentGeneration := 1,
    endpoint := "https://p.example.test", expiresAt := { nanos := 100 },
    machineIdentityPublicKey := "AAAAAAAAAAAAAAAAAAAAAAAAAAAAAAAAAAAAAAAAAAA",
    machineIdentityThumbprint := "sha256:" }

def edgeRegistry : ExpectedAdmissionRegistry := { nodeID := "edge", processEpoch := "epoch-01", maximum := 4096 }

/-- One admission is pulled and acknowledged, and then another one is pulled. -/
def pullCalls : List Call :=
  [.installPending [previewAdmission "first"] { nanos := 1 }, .markAdmitted [previewAdmission "first"],
    .installPending [previewAdmission "second"] { nanos := 2 }]

/-- The first admission stays authorized, and it was installed and acknowledged. -/
theorem only_acknowledged_authorize_pulls : ∃ q, exec (step smallExternals) edgeRegistry pullCalls = some q
      ∧ Authorized q (previewAdmission "first").key { previewAdmission "first" with admitted := true }
      ∧ Acknowledged smallExternals (trace (step smallExternals) edgeRegistry pullCalls)
          { previewAdmission "first" with admitted := true } := by
  have hnew : new "edge" "epoch-01" 0 = .ok edgeRegistry := rfl
  have hsome : (exec (step smallExternals) edgeRegistry pullCalls).isSome = true := by decide +kernel
  have h := only_acknowledged_authorize smallExternals "edge" "epoch-01" 0 edgeRegistry hnew _ _ (exec_getD_run hsome)
    (by decide +kernel)
  exact ⟨_, exec_getD hsome, ⟨by decide +kernel, rfl⟩, h.1 (previewAdmission "first").key _ ⟨by decide +kernel, rfl⟩⟩

end ExpectedAdmissionRegistry

end PaperboatTunnel.Datacarrier
