import PaperboatTunnel.Datacarrier.Correctness.ExpectedTable
import PaperboatTunnel.Datacarrier.Replacement

/-!
# `EdgeAuthorizer` — which streams an edge admits

The carrier of an edge asks the preview registry and then the durable ones (`AnyAuthorizer` of `durable_admission.go`,
with the authorizers of `carrier_component.go`). The calls of each registry go on meanwhile, so each of them is taken
as its own run has left it when it is asked.
-/

namespace PaperboatTunnel.Datacarrier

open TransitionSystem GoTime List Table

/-- An authorizer, for a context that has not ended; a nil one is `none`. -/
abbrev Authorizer := Option (Identity → StreamOpen → Option Error)

/-- The loop of `AnyAuthorizer`. -/
def anyAuthorizer (identity : Identity) (o : StreamOpen) : List Authorizer → Option Error → Option Error
  | [], last => some (last.getD .admissionMissing)
  | none :: rest, last => anyAuthorizer identity o rest last
  | some authorize :: rest, _ =>
    match authorize identity o with
    | none => none
    | some err => anyAuthorizer identity o rest (some err)

theorem anyAuthorizer_iff {ident : Identity} {o : StreamOpen} {l : List Authorizer} {last : Option Error} :
    anyAuthorizer ident o l last = none ↔ ∃ authorize, some authorize ∈ l ∧ authorize ident o = none := by
  fun_induction anyAuthorizer ident o l last <;> simp_all

/-! ## The set in force -/

namespace DurableAdmissionRegistry

def close (r : DurableAdmissionRegistry) : DurableAdmissionRegistry := { r with closed := true, byID := [] }

/-- The calls that change a registry. -/
inductive Change where
  | replace (admissions : List DurableAdmission) (now : Time)
  | close

variable (sha256 : List UInt8 → List UInt8)

def change (r : DurableAdmissionRegistry) : Change → Option DurableAdmissionRegistry
  | .replace admissions now => some (r.replace sha256 admissions now).1
  | .close => some r.close

/-- The set that a run leaves in force: the last one that `Replace` accepted, and none after `Close`. -/
def inForce (tr : Trace DurableAdmissionRegistry Change) : List DurableAdmission :=
  tr.foldl (fun set t => match t.label with
    | .replace admissions now => if (t.pre.replace sha256 admissions now).2 = none then admissions else set
    | .close => []) []

structure Holds (tr : Trace DurableAdmissionRegistry Change) (r : DurableAdmissionRegistry) : Prop where
  grouped : Grouped r.byID
  mem : ∀ a, a ∈ r.admissions ↔ a ∈ inForce sha256 tr
  valid : ∀ a ∈ r.admissions, a.identity.validate = none
  closed : r.closed = true → r.byID = []

variable {sha256} {r r' : DurableAdmissionRegistry} {tr : Trace DurableAdmissionRegistry Change}
  {adms : List DurableAdmission} {now : Time}

theorem replace_error (h : (r.replace sha256 adms now).2 ≠ none) : (r.replace sha256 adms now).1 = r := by
  revert h
  fun_cases replace sha256 r adms now <;> simp

theorem replace_closed (hclosed : r.closed) : (r.replace sha256 adms now).2 ≠ none := by
  fun_cases replace sha256 r adms now <;> simp_all

theorem identity_valid {a : DurableAdmission} {nodeID epoch : String}
    (h : a.validate sha256 nodeID epoch now = none) : a.identity.validate = none := by
  unfold DurableAdmission.validate at h
  exact Option.not_isSome_iff_eq_none.mp (Checks.none_iff.mp h).1

theorem Holds.step {c : Change} (h : Holds sha256 tr r) (hstep : r.change sha256 c = some r') :
    Holds sha256 (tr ++ [⟨r, c, r'⟩]) r' := by
  cases c with
  | close =>
    cases hstep
    exact ⟨Grouped.nil, by simp [inForce, admissions, flatten, close], by simp [admissions, flatten, close],
      fun _ => rfl⟩
  | replace adms now =>
    cases hstep
    by_cases hok : (r.replace sha256 adms now).2 = none
    · obtain ⟨hrep, hacc, _⟩ := replace_ok (Prod.ext rfl hok)
      refine ⟨hrep.grouped, fun a => ?_, fun a ha => identity_valid (hacc.valid a ((hrep.mem a).mp ha)), fun hcl => ?_⟩
      · simp [inForce, hok, hrep.mem]
      · exact absurd hok (replace_closed (hrep.closed ▸ hcl))
    · have hset : inForce sha256 (tr ++ [⟨r, .replace adms now, (r.replace sha256 adms now).1⟩])
          = inForce sha256 tr := by simp [inForce, hok]
      rw [replace_error hok] at hset ⊢
      exact ⟨h.grouped, fun a => hset ▸ h.mem a, h.valid, h.closed⟩

/-- **A registry authorizes what is in force**, and usable now. -/
theorem Holds.authorizeStream_iff {ident : Identity} {o : StreamOpen} (h : Holds sha256 tr r)
    (hmatches : ident.matchesOpen o) : r.authorizeStream ident o now = none ↔
      ∃ a ∈ inForce sha256 tr, a.identity = ident ∧ a.routeID = o.routeID ∧ a.usable now := by
  rw [DurableAdmissionRegistry.authorizeStream_iff (fun e he => (h.grouped.uniform e he).routes) hmatches]
  simp only [mem_forIdentity, ← h.mem]
  constructor
  · rintro ⟨a, ⟨_, _, e, hfind, hae, husable⟩, hroute⟩
    have he := mem_of_find?_eq_some hfind
    have hid : e.identity = ident := by simpa using find?_some hfind
    exact ⟨a, mem_flatten.mpr ⟨e, he, hae⟩, ((h.grouped.uniform e he).binding a hae).1.trans hid, hroute, husable⟩
  · rintro ⟨a, ha, rfl, hroute, husable⟩
    obtain ⟨e, he, hae⟩ := mem_flatten.mp ha
    have hopen : r.closed = false := by
      by_contra hcl
      rw [h.closed (by simpa using hcl)] at he
      cases he
    refine ⟨a, ⟨h.valid a ha, hopen, e, ?_, hae, husable⟩, hroute⟩
    rw [((h.grouped.uniform e he).binding a hae).1]
    exact (find_iff h.grouped.distinct).mpr ⟨he, rfl⟩

/-- A registry when a stream asks for it: its calls since it was made, and the time that it reads. -/
structure Live (sha256 : List UInt8 → List UInt8) where
  registry : DurableAdmissionRegistry
  calls : Trace DurableAdmissionRegistry Change
  now : Time
  reachable : ∃ nodeID processEpoch maximum r₀, new nodeID processEpoch maximum = .ok r₀
    ∧ Run (change sha256) r₀ calls registry

theorem Live.holds (d : Live sha256) : Holds sha256 d.calls d.registry := by
  obtain ⟨_, _, _, r₀, hnew, hrun⟩ := d.reachable
  obtain ⟨_, hempty⟩ := new_ok hnew
  refine hrun.trace_invariant ⟨hempty ▸ Grouped.nil, ?_, ?_, fun _ => hempty⟩ (·.step ·)
  · simp [admissions, flatten, hempty, inForce]
  · simp [admissions, flatten, hempty]

/-- The admission is in force in the registry, for a stream of the identity. -/
def Live.Admits (d : Live sha256) (identity : Identity) (o : StreamOpen) : Prop :=
  ∃ a ∈ inForce sha256 d.calls, a.identity = identity ∧ a.routeID = o.routeID ∧ a.usable d.now

end DurableAdmissionRegistry

/-! ## The edge -/

namespace ExpectedAdmissionRegistry

open DurableAdmissionRegistry (Live)

/-- What the carrier of an edge asks, in its order. -/
def edgeAuthorizers {sha256 : List UInt8 → List UInt8} (preview : ExpectedAdmissionRegistry)
    (order : List ExpectedAdmission) (decision : Option PrivateAccessDecision) (now : Time)
    (durables : List (Live sha256)) : List Authorizer :=
  some (preview.authorizeStream order now false decision)
    :: durables.map (fun d => some (fun identity o => d.registry.authorizeStream identity o d.now))

/-- **No stream without an authority, and every stream in force.** After any run of the four calls of the preview
    registry, and any runs of the durable ones: a stream that the edge admits has a preview admission that was
    installed and acknowledged, has not expired and, for a private route, is covered by the decision of the request,
    or it has an admission in force in a durable registry. A stream with the latter is admitted, whatever the
    registries before it answer. -/
theorem edge_authorizes (ext : Externals) (nodeID processEpoch : String) (maximumAdmissions : Int)
    (p q : ExpectedAdmissionRegistry) (hnew : new nodeID processEpoch maximumAdmissions = .ok p)
    (tr : Trace ExpectedAdmissionRegistry Call) (hrun : Run (step ext) p tr q)
    (hdistinct : ∀ t ∈ tr, t.label.Distinct) (order : List ExpectedAdmission) (horder : q.Orders order)
    (durables : List (Live ext.sha256)) (decision : Option PrivateAccessDecision) (now : Time)
    (identity : Identity) (o : StreamOpen) (hmatches : identity.matchesOpen o) :
    (anyAuthorizer identity o (edgeAuthorizers q order decision now durables) none = none →
      (∃ a, Acknowledged ext tr a ∧ a.identity = identity ∧ a.routeID = o.routeID ∧ a.expiresAt.after now
        ∧ (a.accessMode = .privateAccess → decision.any (fun d => d.covers a now)))
      ∨ ∃ d ∈ durables, d.Admits identity o) ∧
    ((∃ d ∈ durables, d.Admits identity o) →
      anyAuthorizer identity o (edgeAuthorizers q order decision now durables) none = none) := by
  have hhistory : History ext tr q :=
    hrun.trace_invariant_on (C := fun t => t.label.Distinct) (fun hd h hs => h.step hd hs) hdistinct
      (History.of_new ext hnew).2
  rw [anyAuthorizer_iff]
  simp only [edgeAuthorizers, mem_cons, mem_map, Option.some.injEq]
  constructor
  · rintro ⟨_, rfl | ⟨d, hd, rfl⟩, hok⟩
    · obtain ⟨_, _, _, a, hfind, hverdict⟩ := authorizeStream_eq_none.mp hok
      obtain ⟨⟨k, hk⟩, hidentity, hroute⟩ := serves_of_find horder hfind
      exact .inl ⟨a, hhistory.authorized k a hk, hidentity, hroute, verdict_eq_none.mp hverdict⟩
    · exact .inr ⟨d, hd, (d.holds.authorizeStream_iff hmatches).mp hok⟩
  · rintro ⟨d, hd, hadm⟩
    exact ⟨_, .inr ⟨d, hd, rfl⟩, (d.holds.authorizeStream_iff hmatches).mpr hadm⟩

def durableRoute : DurableAdmission :=
  { identity := smallIdentity, edgeNodeID := "edge", edgeProcessEpoch := "epoch-01", assignmentID := "assignment",
    routeID := "route", assignmentGeneration := 1, routeGeneration := 1,
    configContentHash := firstOperation.configContentHash, state := .active,
    machineIdentityPublicKey := firstOperation.machineIdentityPublicKey }

def durableEdge : DurableAdmissionRegistry := { nodeID := "edge", processEpoch := "epoch-01", maximum := 4096 }

def liveRoute : Live smallExternals.sha256 where
  registry := (durableEdge.replace smallExternals.sha256 [durableRoute] {}).1
  calls := [⟨durableEdge, .replace [durableRoute] {}, (durableEdge.replace smallExternals.sha256 [durableRoute] {}).1⟩]
  now := {}
  reachable := ⟨"edge", "epoch-01", 0, durableEdge, rfl, .single rfl⟩

/-- The preview registry is new and knows no stream; the durable one does. -/
theorem edge_authorizes_durable :
    anyAuthorizer smallIdentity routeOpen (edgeAuthorizers edgeRegistry [] none {} [liveRoute]) none = none := by
  have h := edge_authorizes smallExternals "edge" "epoch-01" 0 edgeRegistry edgeRegistry rfl [] .refl
    (forall_mem_nil _) [] (.refl _) [liveRoute] none {} smallIdentity routeOpen (by decide)
  exact h.2 ⟨liveRoute, mem_singleton_self _, durableRoute, by decide +kernel, rfl, rfl, by decide⟩

end ExpectedAdmissionRegistry

end PaperboatTunnel.Datacarrier
