import PaperboatTunnel.Datacarrier.ExpectedAdmission

/-!
# `PeerBinding` — one carrier identity for a certificate

`CarrierIdentityURN` of `internal/connectorprotocol/carrier_identity.go`, and `PeerBinding` of the two registries. The
one URI of a certificate holds a digest of a carrier identity and of the epoch of the edge. `PeerBinding` compares the
identities of the admissions that the key and the URI name. Where the digest tells the bindings of a registry apart
they are all the same (`identity_eq_of_fits`).

The JSON encoder and SHA-256 are parameters. A URI is given by its text, and a nil one is `none`.
-/

namespace PaperboatTunnel.Datacarrier

open GoTime ConnectorProtocol List

/-! ## The URI of a carrier -/

structure CarrierIdentityBinding where
  (accountID hostID tunnelID connectorID sessionID : String)
  (processGeneration configGeneration : UInt64)
  edgeProcessEpoch : String
deriving DecidableEq

/-- `Validate` returns no error. -/
def CarrierIdentityBinding.valid (b : CarrierIdentityBinding) : Bool :=
  [b.accountID, b.hostID, b.tunnelID, b.connectorID, b.sessionID].all (fun id => (validateIdentifier id).isNone)
    && b.tunnelID != b.connectorID && b.processGeneration != 0 && b.configGeneration != 0
    && (validateOpaqueEpoch b.edgeProcessEpoch).isNone

/-- SHA-256 and the JSON encoder. -/
structure Digests where
  sha256 : List UInt8 → List UInt8
  marshal : CarrierIdentityBinding → List UInt8

variable (d : Digests)

/-- `CarrierIdentityURN`; its error is `none`. -/
def carrierIdentityURN (b : CarrierIdentityBinding) : Option (List UInt8) :=
  if b.valid then some (bytes "urn:paperboat:connector-v1:carrier:" ++ GoBase64.encode (d.sha256 (d.marshal b)))
  else none

/-- `MatchCarrierIdentityURN` returns no error. -/
def matchCarrierIdentityURN (uris : List (Option (List UInt8))) (b : CarrierIdentityBinding) : Bool :=
  (carrierIdentityURN d b).any (fun want => uris == [some want])

/-! ## The search -/

/-- A peer certificate: its key, if that is an Ed25519 key, and its URIs. -/
structure Certificate where
  publicKey : Option (List UInt8)
  uris : List (Option (List UInt8))

/-- What a registry compares of the certificate of a connection. -/
structure Peer where
  (encoded thumbprint : List UInt8)
  uris : List (Option (List UInt8))

/-- The peer of a connection with one certificate, whose key has a thumbprint. -/
def peerOf (thumbprint : List UInt8 → Option (List UInt8)) : List (Option Certificate) → Option Peer
  | [some ⟨some publicKey, uris⟩] =>
    if publicKey.length ≠ publicKeySize then none
    else (thumbprint publicKey).map (fun thumbprint => { encoded := GoBase64.encode publicKey, thumbprint, uris })
  | _ => none

/-- What `PeerBinding` reads of an admission. -/
structure Candidate where
  inForce : Bool
  (machineIdentityPublicKey machineIdentityThumbprint : String)
  identity : Identity
  edgeProcessEpoch : String
deriving DecidableEq

def Candidate.binding (c : Candidate) : CarrierIdentityBinding :=
  { accountID := c.identity.accountID, hostID := c.identity.hostID, tunnelID := c.identity.tunnelID,
    connectorID := c.identity.connectorID, sessionID := c.identity.sessionID,
    processGeneration := c.identity.processGeneration, configGeneration := c.identity.generation,
    edgeProcessEpoch := c.edgeProcessEpoch }

def Peer.fits (p : Peer) (c : Candidate) : Bool :=
  c.inForce && bytes c.machineIdentityPublicKey == p.encoded && bytes c.machineIdentityThumbprint == p.thumbprint
    && matchCarrierIdentityURN d p.uris c.binding

/-- The loop of `PeerBinding`; `found` is the identity of an admission that fitted in a turn before. -/
def bindLoop (p : Peer) (conflict : Error) : Option Identity → List Candidate → Except Error (Option Identity)
  | found, [] => .ok found
  | found, c :: rest =>
    if !p.fits d c then bindLoop p conflict found rest
    else if found.any (fun i => i != c.identity) then .error conflict
    else bindLoop p conflict (some c.identity) rest

/-- `PeerBinding`; `order` is the order in which Go meets the admissions. -/
def bindPeer (peer : Option Peer) (closed : Bool) (missing conflict : Error) (order : List Candidate) :
    Except Error Identity :=
  match peer with
  | none => .error missing
  | some p =>
    if closed then .error .carrierClosed
    else match bindLoop d p conflict none order with
      | .error err => .error err
      | .ok none => .error missing
      | .ok (some identity) => .ok identity

namespace ExpectedAdmissionRegistry

def candidates (r : ExpectedAdmissionRegistry) (now : Time) : List Candidate :=
  r.byKey.entries.map (fun e => ⟨e.2.admitted && e.2.expiresAt.after now, e.2.machineIdentityPublicKey,
    e.2.machineIdentityThumbprint, e.2.identity, e.2.edgeProcessEpoch⟩)

def peer : List (Option Certificate) → Option Peer :=
  peerOf (fun key => some (bytes "sha256:" ++ GoBase64.encode (d.sha256 key)))

def peerBinding (r : ExpectedAdmissionRegistry) (state : List (Option Certificate)) :
    List Candidate → Except Error Identity :=
  bindPeer d (peer d state) r.closed (.admissionNotExpected "")
    (.expectedConflict "certificate matches multiple carrier identities")

end ExpectedAdmissionRegistry

namespace DurableAdmissionRegistry

def candidates (r : DurableAdmissionRegistry) (now : Time) : List Candidate :=
  r.byID.flatMap (fun e => e.byRoute.map (fun a => ⟨a.usable now, e.machineIdentityPublicKey,
    e.machineIdentityThumbprint, a.identity, a.edgeProcessEpoch⟩))

def peer : List (Option Certificate) → Option Peer :=
  peerOf (fun key => (identityThumbprint d.sha256 key).toOption)

def peerBinding (r : DurableAdmissionRegistry) (state : List (Option Certificate)) :
    List Candidate → Except Error Identity :=
  bindPeer d (peer d state) r.closed .admissionMissing (.admissionConflict "")

end DurableAdmissionRegistry

/-! ## One identity -/

/-- **The digest covers all fields**: no two of these admissions with different bindings share it. -/
def Distinguishes (l : List Candidate) : Prop :=
  ∀ a ∈ l, ∀ b ∈ l, d.sha256 (d.marshal a.binding) = d.sha256 (d.marshal b.binding) → a.binding = b.binding

section Search

variable {d} {l order : List Candidate} (hd : Distinguishes d l)

include hd

/-- **A certificate fits one identity.** -/
theorem identity_eq_of_fits {p : Peer} {a b : Candidate} (ha : a ∈ l) (hb : b ∈ l) (hpa : p.fits d a)
    (hpb : p.fits d b) : a.identity = b.identity := by
  simp only [Peer.fits, matchCarrierIdentityURN, carrierIdentityURN, Bool.and_eq_true, Option.any_eq_true,
    Option.ite_none_right_eq_some, Option.some.injEq, beq_iff_eq] at hpa hpb
  obtain ⟨_, _, ⟨_, rfl⟩, huris⟩ := hpa
  obtain ⟨_, _, ⟨_, rfl⟩, huris'⟩ := hpb
  have htext := huris.symm.trans huris'
  simp only [cons.injEq, Option.some.injEq, and_true, append_cancel_left_eq] at htext
  exact congrArg (fun binding => (⟨binding.accountID, binding.hostID, binding.tunnelID, binding.connectorID,
    binding.sessionID, binding.processGeneration, binding.configGeneration⟩ : Identity))
    (hd a ha b hb (GoBase64.encode_injective htext))

theorem bindLoop_spec (p : Peer) (conflict : Error) (hsub : order ⊆ l) (found : Option Identity)
    (hfound : ∀ i ∈ found, ∃ c ∈ l, p.fits d c ∧ c.identity = i) : ∃ out,
    bindLoop d p conflict found order = .ok out
      ∧ ∀ i, out = some i ↔ found = some i ∨ ∃ c ∈ order, p.fits d c ∧ c.identity = i := by
  induction order generalizing found with
  | nil => exact ⟨found, rfl, by simp⟩
  | cons c rest ih =>
    obtain ⟨hc, hrest⟩ := cons_subset.mp hsub
    unfold bindLoop
    by_cases hfits : p.fits d c = true
    · have hsame : ∀ i, found = some i → i = c.identity := by
        intro i hi
        obtain ⟨b, hb, hpb, rfl⟩ := hfound i hi
        exact identity_eq_of_fits hd hb hc hpb hfits
      rw [if_neg (by simp [hfits]), if_neg (by simpa [Option.any_eq_true] using hsame)]
      obtain ⟨out, hout, hspec⟩ := ih hrest (some c.identity) (by grind)
      exact ⟨out, hout, by grind⟩
    · rw [if_pos (by simp [hfits])]
      obtain ⟨out, hout, hspec⟩ := ih hrest found hfound
      exact ⟨out, hout, by grind⟩

end Search

/-- `search` goes over the admissions `l` for the certificate `peer`: **at most one identity fits, and every order of
the admissions gives one answer**, which is the identity of an admission that fits if it is not an error. -/
def Unambiguous (peer : Option Peer) (l : List Candidate) (search : List Candidate → Except Error Identity) : Prop :=
  (∀ p ∈ peer, ∀ a ∈ l, ∀ b ∈ l, p.fits d a → p.fits d b → a.identity = b.identity)
    ∧ ∀ order, order.Perm l → search order = search l
      ∧ ∀ i, search order = .ok i → ∃ p ∈ peer, ∃ c ∈ l, p.fits d c ∧ c.identity = i

theorem bindPeer_unambiguous {d} {l : List Candidate} (hd : Distinguishes d l) (peer : Option Peer) (closed : Bool)
    (missing conflict : Error) : Unambiguous d peer l (bindPeer d peer closed missing conflict) := by
  refine ⟨fun p _ a ha b hb => identity_eq_of_fits hd ha hb, fun order hperm => ?_⟩
  unfold bindPeer
  rcases peer with _ | p
  · exact ⟨rfl, nofun⟩
  cases closed with
  | true => exact ⟨rfl, nofun⟩
  | false =>
    obtain ⟨out, hout, hspec⟩ := bindLoop_spec hd p conflict hperm.subset none (by simp)
    obtain ⟨out', hout', hspec'⟩ := bindLoop_spec hd p conflict (Subset.refl l) none (by simp)
    -- both orders have the same admissions that fit
    have hsame : out = out' := Option.ext (fun i => by rw [hspec, hspec']; simp only [hperm.mem_iff])
    subst hsame
    simp only [hout, hout', Bool.false_eq_true, if_false]
    refine ⟨trivial, fun i hi => ?_⟩
    cases out with
    | none => simp at hi
    | some j =>
      obtain rfl : j = i := by simpa using hi
      simpa using (hspec' j).mp rfl

/-- **Certificate-to-identity binding is unambiguous** in both registries, whatever they contain. -/
theorem peer_binding_unambiguous (state : List (Option Certificate)) (now : Time) :
    (∀ r : ExpectedAdmissionRegistry, Distinguishes d (r.candidates now) →
      Unambiguous d (ExpectedAdmissionRegistry.peer d state) (r.candidates now) (r.peerBinding d state))
    ∧ ∀ r : DurableAdmissionRegistry, Distinguishes d (r.candidates now) →
      Unambiguous d (DurableAdmissionRegistry.peer d state) (r.candidates now) (r.peerBinding d state) :=
  ⟨fun _ hd => bindPeer_unambiguous hd .., fun _ hd => bindPeer_unambiguous hd ..⟩

/-- The digest of the witness, which tells sessions apart. -/
def sessionDigests : Digests := { sha256 := List.take 3, marshal := fun b => bytes b.sessionID }

def sessionsRegistry : DurableAdmissionRegistry :=
  { byID := ["old", "new"].map (fun sessionID =>
      { identity := { smallIdentity with sessionID }, edgeProcessEpoch := "epoch-01",
        machineIdentityPublicKey := "AAAAAAAAAAAAAAAAAAAAAAAAAAAAAAAAAAAAAAAAAAA", machineIdentityThumbprint := "eyJj",
        byRoute := [{ identity := { smallIdentity with sessionID }, edgeProcessEpoch := "epoch-01",
                      state := .active }] }) }

def newSession : Certificate :=
  { publicKey := some (List.replicate publicKeySize 0),
    uris := [some (bytes "urn:paperboat:connector-v1:carrier:bmV3")] }

theorem peer_binding_unambiguous_sessions :
    sessionsRegistry.peerBinding sessionDigests [some newSession] (sessionsRegistry.candidates {}).reverse
      = .ok { smallIdentity with sessionID := "new" } := by
  obtain ⟨_, hord⟩ := (peer_binding_unambiguous sessionDigests [some newSession] {}).2 sessionsRegistry
    (by unfold Distinguishes; decide)
  exact (hord _ (reverse_perm _)).1.trans (by decide +kernel)

end PaperboatTunnel.Datacarrier
