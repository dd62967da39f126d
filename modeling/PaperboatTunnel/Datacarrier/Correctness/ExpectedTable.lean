import Mathlib.Data.List.Dedup
import PaperboatTunnel.Datacarrier.Correctness.Acknowledged

/-!
# `ExpectedTable` — how the table of preview admissions is read, and how large it gets

`AuthorizeStream` stops at the first entry of the identity and route that it meets. Those of two operations may give
different verdicts, and then the order of the map decides.

The size of the table is checked by `Replace` and `Upsert`. `InstallPending` only compares the pull with the maximum,
and `MarkAdmitted` writes keys that may have left the table.
-/

namespace PaperboatTunnel.Datacarrier

open TransitionSystem ExpectedAdmission GoTime List Option GoMap AList Checks

namespace ExpectedAdmissionRegistry

/-! ## Authorization -/

/-- The entry lets the stream through: it has not expired, and the decision covers it where access is private. -/
def Grants (now : Time) (decision : Option PrivateAccessDecision) (a : ExpectedAdmission) : Prop :=
  a.expiresAt.after now = true ∧ (a.accessMode = .privateAccess → decision.any (fun d => d.covers a now) = true)

/-- **Authorization is complete and does not depend on the order** exactly if the admitted entries of the identity
    and the route grant all or none, whenever the call gets as far as the table. -/
theorem authorizeStream_complete (r : ExpectedAdmissionRegistry) (now : Time) (canceled : Bool)
    (decision : Option PrivateAccessDecision) (identity : Identity) (preface : StreamOpen) :
    (∀ order, r.Orders order → (r.authorizeStream order now canceled decision identity preface = none ↔
      canceled = false ∧ (identity.validate = none ∧ identity.matchesOpen preface = true) ∧ r.closed = false
        ∧ ∃ a, r.Serves identity preface a ∧ Grants now decision a)) ↔
    (canceled = false → identity.validate = none ∧ identity.matchesOpen preface = true → r.closed = false →
      ∀ a b, r.Serves identity preface a → r.Serves identity preface b → Grants now decision a →
        Grants now decision b) := by
  have hgrants (a : ExpectedAdmission) : Grants now decision a ↔ verdict a now decision = none :=
    verdict_eq_none.symm
  constructor
  · intro hcomplete hrunning hidentity hopen a b ha hb hgrant
    -- the order that meets the other entry first
    obtain ⟨hmem, hselects⟩ := (serves_iff (.refl _)).mp hb
    have horder := (perm_cons_erase hmem).symm
    have hauth := (hcomplete _ horder).mpr ⟨hrunning, hidentity, hopen, a, ha, hgrant⟩
    obtain ⟨_, _, _, c, hfind, hverdict⟩ := authorizeStream_eq_none.mp hauth
    rw [find?_cons_of_pos (p := fun a => selects a identity preface) hselects] at hfind
    cases hfind
    exact (hgrants b).mpr hverdict
  · intro hsame order horder
    rw [authorizeStream_eq_none]
    refine and_congr_right (fun hrunning => and_congr_right (fun hidentity => and_congr_right (fun hopen => ?_)))
    simp only [← hgrants]
    constructor
    · rintro ⟨a, hfind, hgrant⟩
      exact ⟨a, serves_of_find horder hfind, hgrant⟩
    rintro ⟨a, hserves, hgrant⟩
    obtain ⟨ha, hselects⟩ := (serves_iff horder).mp hserves
    have hsome : (order.find? (fun a => selects a identity preface)).isSome := find?_isSome.mpr ⟨a, ha, hselects⟩
    obtain ⟨b, hfind⟩ := isSome_iff_exists.mp hsome
    exact ⟨b, hfind, hsame hrunning hidentity hopen a b hserves (serves_of_find horder hfind) hgrant⟩

/-- An admission of a route, and one of another operation for the same route, which expires earlier. -/
def firstOperation : ExpectedAdmission := { previewAdmission "route" with admitted := true }

def otherOperation : ExpectedAdmission :=
  { firstOperation with operationID := "another", expiresAt := { nanos := 50 } }

def routeOpen : StreamOpen :=
  { accountID := "account", tunnelID := "tunnel", connectorID := "connector", sessionID := "session",
    processGeneration := 1, generation := 1, routeID := "route" }

/-- What the registry answers between the two expiries, when it meets the entries in this order. -/
def answer (r : ExpectedAdmissionRegistry) (order : List ExpectedAdmission) : Option Error :=
  r.authorizeStream order { nanos := 60 } false none smallIdentity routeOpen

/-- **The order decides** between two operations of one route, one of which has expired. -/
theorem authorizeStream_order_dependent : ∃ q,
    exec (step smallExternals) edgeRegistry [.installPending [firstOperation, otherOperation] { nanos := 1 },
        .markAdmitted [firstOperation, otherOperation]] = some q
      ∧ [firstOperation, otherOperation].Perm (q.byKey.entries.map Sigma.snd)
      ∧ q.answer [firstOperation, otherOperation] = none
      ∧ q.answer [otherOperation, firstOperation] = some .expectedExpired := by
  decide +kernel

/-! ## The size of the table -/

inductive TableCall where
  | call (call : Call)
  | replace (admissions : List ExpectedAdmission) (now : Time)
  | upsert (admission : ExpectedAdmission) (now : Time)
deriving DecidableEq

def tableStep (ext : Externals) (r : ExpectedAdmissionRegistry) : TableCall → Option ExpectedAdmissionRegistry
  | .call call => r.step ext call
  | .replace admissions now => some (r.replace ext admissions now).1
  | .upsert admission now => some (r.upsert ext admission now).1

/-- The table has room for the keys that a pull or an acknowledgement brings. -/
def TableCall.fits (r : ExpectedAdmissionRegistry) : TableCall → Bool
  | .call (.installPending admissions _) | .call (.markAdmitted admissions) =>
    (r.byKey.keys ++ admissions.map key).dedup.length ≤ r.maximum
  | _ => true

section Size

variable {ext : Externals} {r r' : ExpectedAdmissionRegistry} {now : Time} {k : String}

theorem mem_foldl_publish : ∀ {entries : List (Sigma (fun _ : String => ExpectedAdmission))} {m : AdmissionMap},
    k ∈ entries.foldl publish m → k ∈ m ∨ k ∈ entries.map Sigma.fst
  | [], _, h => .inl h
  | entry :: entries, m, h => by
      rw [foldl_cons] at h
      rw [map_cons, mem_cons]
      rcases mem_foldl_publish h with hm | hentries
      · unfold publish at hm
        split at hm
        · exact .inl hm
        · rcases mem_insert _ |>.mp hm with heq | hm
          · exact .inr (.inl heq)
          · exact .inl hm
      · exact .inr (.inr hentries)

theorem length_collect : ∀ {adms : List ExpectedAdmission} {next result : AdmissionMap},
    r.collect ext now next adms = .ok result →
    result.entries.length ≤ next.entries.length + adms.length
  | [], _, _, h => by
      cases h
      exact Nat.le_refl _
  | a :: adms, next, result, h => by
      unfold collect at h
      split at h
      · cases h
      obtain ⟨_, h⟩ := ok_iff.mp h
      obtain ⟨_, h⟩ := ok_iff.mp h
      have hrest := length_collect h
      have hinsert : (next.insert a.key (r.renewed a)).entries.length ≤ _ := length_insert_le
      rw [length_cons]
      omega

/-- The registry is configured for `n` entries, and its table holds at most as many. -/
structure Bounded (n : Nat) (r : ExpectedAdmissionRegistry) : Prop where
  maximum : r.maximum = n
  length : r.byKey.entries.length ≤ n

variable {n : Nat}

theorem Bounded.of_keys {l : List String} (hmax : r.maximum = n) (hl : l.length ≤ n) (h : ∀ k ∈ r.byKey, k ∈ l) :
    Bounded n r :=
  ⟨hmax, (length_le_of_keys h).trans hl⟩

theorem Bounded.of_room {admissions : List ExpectedAdmission} (hmax : r'.maximum = r.maximum) (hn : r.maximum = n)
    (hroom : (r.byKey.keys ++ admissions.map key).dedup.length ≤ r.maximum)
    (h : ∀ k ∈ r'.byKey, k ∈ r.byKey ∨ k ∈ admissions.map key) : Bounded n r' :=
  .of_keys (hmax.trans hn) (hroom.trans_eq hn) (fun k hk => mem_dedup.mpr (mem_append.mpr (h k hk)))

variable (h : Bounded n r)

include h

theorem Bounded.keys : r.byKey.keys.length ≤ n := (length_map _).trans_le h.length

theorem Bounded.apply {call : Call} (hfits : TableCall.fits r (.call call)) : Bounded n (r.apply ext call).1 := by
  have heff := apply_effect ext r call
  generalize r.apply ext call = out at heff ⊢
  cases heff with
  | refused => exact h
  | absent => exact h
  | removed => exact ⟨h.maximum, (kerase_sublist _ _).length_le.trans h.length⟩
  | @installed admissions _ next hstage =>
    refine Bounded.of_room (r := r) rfl h.maximum (of_decide_eq_true hfits) (fun k hk => (mem_foldl_publish hk).imp_right ?_)
    intro hnew
    obtain ⟨⟨_, p⟩, hentry, rfl⟩ := mem_map.mp hnew
    obtain ⟨_, hkey, x, hx, rfl⟩ := staged_of_stage hstage (mem_entries_iff.mp hentry)
    exact List.mem_map.mpr ⟨x, hx, hkey⟩
  | @acknowledged admissions =>
    refine .of_room (frame_foldl_admitOne (fun _ _ _ => rfl)) h.maximum (of_decide_eq_true hfits) (fun k hk => ?_)
    by_cases hin : k ∈ admissions.map key
    · exact .inr hin
    · rw [← lookup_isSome, lookup_foldl_admitOne_ne hin] at hk
      exact .inl (lookup_isSome.mp hk)
  | @committed admissions hcheck =>
    refine .of_keys h.maximum h.keys (fun k hk => ?_)
    obtain ⟨a, ha⟩ := isSome_iff_exists.mp (lookup_isSome.mpr hk)
    obtain ⟨_, hlookup, _⟩ := hcheck k a ha
    exact lookup_isSome.mp (isSome_of_eq_some hlookup)

theorem Bounded.replace {adms : List ExpectedAdmission} : Bounded n (r.replace ext adms now).1 := by
  unfold ExpectedAdmissionRegistry.replace
  split
  · exact h
  next hlen =>
  split
  · exact h
  next hcollect =>
  split
  · exact h
  refine ⟨h.maximum, (length_collect hcollect).trans ?_⟩
  have hempty : (∅ : AdmissionMap).entries.length = 0 := rfl
  have hmax := h.maximum
  omega

theorem Bounded.upsert {a : ExpectedAdmission} : Bounded n (r.upsert ext a now).1 := by
  unfold ExpectedAdmissionRegistry.upsert
  repeat' split
  all_goals try exact h
  next hroom =>
  cases hlookup : r.byKey.lookup a.key with
  | none =>
    have hinsert : (r.byKey.insert a.key a).entries.length ≤ _ := length_insert_le
    rw [hlookup, h.maximum] at hroom
    simp only [isNone_none, true_and, not_le] at hroom
    exact ⟨h.maximum, hinsert.trans hroom⟩
  | some current =>
    refine .of_keys h.maximum h.keys (fun k hk => ?_)
    rcases (mem_insert _).mp hk with rfl | hk
    · exact lookup_isSome.mp (isSome_of_eq_some hlookup)
    · exact hk

theorem Bounded.step {call : TableCall} (hfits : call.fits r) (hstep : r.tableStep ext call = some r') :
    Bounded n r' := by
  cases call with
  | call call =>
    cases hstep
    exact h.apply hfits
  | replace admissions now =>
    cases hstep
    exact h.replace
  | upsert a now =>
    cases hstep
    exact h.upsert

end Size

/-- **The table stays bounded**, in every run of all calls in which each pull and each acknowledgement finds room for
    the keys that the table does not have. -/
theorem table_bounded (ext : Externals) (nodeID processEpoch : String) (maximumAdmissions : Int)
    (r : ExpectedAdmissionRegistry) (hnew : new nodeID processEpoch maximumAdmissions = .ok r)
    (tr : Trace ExpectedAdmissionRegistry TableCall) (q : ExpectedAdmissionRegistry)
    (hrun : Run (tableStep ext) r tr q) (hfits : ∀ t ∈ tr, t.label.fits t.pre = true) :
    q.byKey.entries.length ≤ r.maximum := by
  have hstart : Bounded r.maximum r := by
    refine ⟨rfl, ?_⟩
    unfold new at hnew
    obtain ⟨_, heq⟩ := ok_iff.mp hnew
    cases heq
    exact Nat.zero_le _
  exact (hrun.invariant_on (fun hc h hs => h.step hc hs) hfits hstart).length

def smallTable : ExpectedAdmissionRegistry := { edgeRegistry with maximum := 1 }

def pull (routeID : String) : TableCall := .call (.installPending [previewAdmission routeID] { nanos := 1 })

theorem table_bounded_pull : ∃ q, exec (tableStep smallExternals) smallTable
        [pull "first", .call (.markAdmitted [previewAdmission "first"])] = some q
      ∧ q.byKey.entries.length ≤ smallTable.maximum := by
  have hnew : new "edge" "epoch-01" 1 = .ok smallTable := rfl
  have h : (exec (tableStep smallExternals) smallTable
      [pull "first", .call (.markAdmitted [previewAdmission "first"])]).isSome = true := by decide +kernel
  exact ⟨_, exec_getD h, table_bounded smallExternals _ _ _ _ hnew _ _ (exec_getD_run h) (by decide +kernel)⟩

/-- **Two pulls that are not acknowledged** fill a table for one entry with two. -/
theorem table_overfilled : new "edge" "epoch-01" 1 = .ok smallTable
      ∧ ∃ q, exec (tableStep smallExternals) smallTable [pull "first", pull "second"] = some q
        ∧ q.byKey.entries.length = 2 :=
  ⟨rfl, by decide +kernel⟩

end ExpectedAdmissionRegistry

end PaperboatTunnel.Datacarrier
