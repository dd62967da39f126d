import PaperboatTunnel.PeerSignaling.Moves

/-!
# `Wiring` — who sends to whom

A session has at most one attachment in each role, the two name each other, and what one of them has forwarded is what
the other's inbox has been sent (`Wired`). Most steps change none of what the invariant speaks about (`Wire`, `Peer`).

A session stays in the table only while it has an endpoint, and a role that has left does not come back. So the second
attachment of a session always meets the first one.
-/

namespace PaperboatTunnel.PeerSignaling

open GoTime TransitionSystem Function Table Session List Option GoMap Nat

structure Wire where
  key : SessionKey
  completed : List Role
  admission : Role → Option Admission
  /-- What the inbox of each role has been sent. -/
  sent : Role → List Raw
  /-- What has been taken from it. -/
  taken : Role → List Raw

structure Peer where
  session : Nat
  role : Role
  admission : Admission
  forwarded : List Raw

def Session.wire {V : Type} (x : Session V) : Wire where
  key := x.key
  completed := x.completed
  admission role := (x.endpoints.lookup role).map Endpoint.admission
  sent role := (x.inbox role).sent
  taken role := (x.inbox role).taken

def Attachment.peer (a : Attachment) : Peer where
  session := a.session
  role := a.role
  admission := a.admission
  forwarded := a.forwarded

def Vacant (i : Nat) (role : Role) (peers : List Peer) : Prop :=
  ∀ (j : Nat) (p : Peer), peers[j]? = some p → p.session = i → p.role ≠ role

/-- The session with number `i` and its attachments. -/
structure Seated (i : Nat) (w : Wire) (peers : List Peer) : Prop where
  placed : ∀ (j : Nat) (p : Peer), peers[j]? = some p → p.session = i →
    w.admission p.role = some p.admission ∨ w.admission p.role = none ∧ p.role ∈ w.completed
  roles : ∀ role, w.admission role ≠ none → role.valid = true
  sent : ∀ (j : Nat) (p : Peer), peers[j]? = some p → p.session = i → w.sent p.role.opposite = p.forwarded
  silent : ∀ role, role.valid = true → Vacant i role peers → w.sent role.opposite = []
  unread : ∀ role, Vacant i role peers → w.taken role = []

structure Wired (table : GoMap SessionKey Nat) (wires : List Wire) (peers : List Peer) : Prop where
  seated : ∀ (i : Nat) (w : Wire), wires[i]? = some w → Seated i w peers
  known : ∀ (j : Nat) (p : Peer), peers[j]? = some p → p.role.valid = true ∧ p.session < wires.length
  live : ∀ (k : SessionKey) (i : Nat), table.lookup k = some i →
    ∃ w, wires[i]? = some w ∧ w.key = k ∧ ∃ role, w.admission role ≠ none
  matched : ∀ (j j' : Nat) (p p' : Peer), peers[j]? = some p → peers[j']? = some p' → p.session = p'.session →
    (p.role = p'.role → j = j') ∧ (p.role = p'.role.opposite → p.admission.mirrors p'.admission = true)

variable {role : Role}

section Wires

variable {table table' : GoMap SessionKey Nat} {wires : List Wire} {peers peers' : List Peer} {i j : Nat} {w w' : Wire}
  {p : Peer} {key : SessionKey} {a : Admission}

theorem Seated.congr (h : Seated i w peers)
    (hsame : ∀ (j : Nat) (p : Peer), p.session = i → (peers'[j]? = some p ↔ peers[j]? = some p)) :
    Seated i w peers' where
  placed j p hp hsess := h.placed j p ((hsame j p hsess).mp hp) hsess
  roles := h.roles
  sent j p hp hsess := h.sent j p ((hsame j p hsess).mp hp) hsess
  silent role hval hvacant :=
    h.silent role hval (fun j p hp hsess => hvacant j p ((hsame j p hsess).mpr hp) hsess)
  unread role hvacant := h.unread role (fun j p hp hsess => hvacant j p ((hsame j p hsess).mpr hp) hsess)

theorem Seated.snoc_other (h : Seated i w peers) (hne : p.session ≠ i) : Seated i w (peers ++ [p]) := by
  refine h.congr (fun j q hsess => ⟨fun hq => ?_, get_snoc_old⟩)
  rcases get_snoc hq with hold | ⟨_, rfl⟩
  · exact hold
  · exact absurd hsess hne

theorem Vacant.of_snoc (h : Vacant i role (peers ++ [p])) : Vacant i role peers :=
  fun j q hq => h j q (get_snoc_old hq)

theorem Seated.vacant (h : Seated i w peers) (hfree : w.admission role = none) (hnew : role ∉ w.completed) :
    Vacant i role peers := by
  intro j p hp hsess hsame
  have hplace := h.placed j p hp hsess
  rw [hsame, hfree] at hplace
  rcases hplace with hpresent | ⟨_, hcompleted⟩
  · cases hpresent
  · exact hnew hcompleted

namespace Wired

theorem empty : Wired ∅ [] [] where
  seated _ _ h := by simp at h
  known _ _ h := by simp at h
  live _ _ h := by simp at h
  matched _ _ _ _ h := by simp at h

variable (h : Wired table wires peers)

include h

theorem live_role (hk : table.lookup key = some i) (hw : wires[i]? = some w) : ∃ role, w.admission role ≠ none := by
  obtain ⟨_, hu, _, hrole⟩ := h.live key i hk
  rw [mem_unique hw hu]
  exact hrole

theorem matched_snoc (hval : p.role.valid)
    (hnew : ∀ (j : Nat) (q : Peer), peers[j]? = some q → q.session = p.session →
      q.role ≠ p.role ∧ (q.role = p.role.opposite → q.admission.mirrors p.admission = true)) :
    ∀ (j j' : Nat) (q q' : Peer), (peers ++ [p])[j]? = some q → (peers ++ [p])[j']? = some q' → q.session = q'.session →
      (q.role = q'.role → j = j') ∧ (q.role = q'.role.opposite → q.admission.mirrors q'.admission = true) := by
  intro j j' q q' hq hq' hsess
  rcases get_snoc hq with hold | ⟨hj, rfl⟩ <;> rcases get_snoc hq' with hold' | ⟨hj', rfl⟩
  · exact h.matched j j' q q' hold hold' hsess
  · obtain ⟨hne, hmirrors⟩ := hnew j q hold hsess
    exact ⟨hne.elim, hmirrors⟩
  · obtain ⟨hne, hmirrors⟩ := hnew j' q' hold' hsess.symm
    refine ⟨fun hrole => absurd hrole.symm hne, fun hrole => Admission.mirrors_comm.mp (hmirrors ?_)⟩
    rw [hrole, Role.opposite_opposite (h.known j' q' hold').1]
  · exact ⟨fun _ => hj.trans hj'.symm, fun hrole => absurd hrole.symm (Role.opposite_ne hval)⟩

theorem create (hrole : a.role.valid) : Wired (table.insert key wires.length)
      (wires ++ [⟨key, [], update (fun _ => none) a.role (some a), fun _ => [], fun _ => []⟩])
      (peers ++ [⟨wires.length, a.role, a, []⟩]) := by
  have hfirst {P : Nat → Peer → Prop} (j : Nat) (q : Peer) (hq : peers[j]? = some q)
      (hsess : q.session = wires.length) : P j q := absurd hsess (Nat.ne_of_lt (h.known j q hq).2)
  refine ⟨forall_snoc (fun i w hw => ?_) ?_, ?_, forall_insert (fun k i hk => ?_) ?_, h.matched_snoc hrole ?_⟩
  · exact (h.seated i w hw).snoc_other (ne_of_gt (lt_of_get hw))
  · refine ⟨forall_snoc hfirst (fun _ => .inl (by simp)), fun role hsome => ?_, forall_snoc hfirst (fun _ => rfl),
      fun _ _ _ => rfl, fun _ _ => rfl⟩
    by_cases heq : role = a.role
    · rw [heq]
      exact hrole
    · simp [heq] at hsome
  · rw [length_append, length_singleton]
    exact forall_snoc (fun j q hq => ⟨(h.known j q hq).1, lt_succ_of_lt (h.known j q hq).2⟩) ⟨hrole, lt_succ_self _⟩
  · obtain ⟨w, hw, hkey, hrole⟩ := h.live k i hk
    exact ⟨w, get_snoc_old hw, hkey, hrole⟩
  · exact ⟨_, get_snoc_new, rfl, a.role, by simp⟩
  · exact hfirst

theorem replace (hw : wires[i]? = some w) (hkey : w'.key = w.key)
    (hsub : ∀ k i, table'.lookup k = some i → table.lookup k = some i)
    (hlive : ∀ k, table'.lookup k = some i → ∃ role, w'.admission role ≠ none) (hseat : Seated i w' peers')
    (hother : ∀ k w, k ≠ i → Seated k w peers → Seated k w peers')
    (hknown : ∀ (j : Nat) (p : Peer), peers'[j]? = some p → p.role.valid = true ∧ p.session < wires.length)
    (hmatched : ∀ (j j' : Nat) (p p' : Peer), peers'[j]? = some p → peers'[j']? = some p' → p.session = p'.session →
      (p.role = p'.role → j = j') ∧ (p.role = p'.role.opposite → p.admission.mirrors p'.admission = true)) :
    Wired table' (wires.set i w') peers' := by
  refine ⟨fun k u hu => ?_, fun j p hp => ?_, fun k i' hk => ?_, hmatched⟩
  · rcases get_set hu with ⟨rfl, rfl⟩ | ⟨hne, hold⟩
    · exact hseat
    · exact hother k u hne (h.seated k u hold)
  · rw [length_set]
    exact hknown j p hp
  obtain ⟨u, hu, hukey, hrole⟩ := h.live k i' (hsub k i' hk)
  by_cases hi : i' = i
  · subst hi
    obtain rfl := mem_unique hw hu
    exact ⟨w', get_set_self hw, hkey.trans hukey, hlive k hk⟩
  · exact ⟨u, (get_set_ne hi).trans hu, hukey, hrole⟩

/-- **The second attachment of a session** meets the first one: its endpoint is there, since it is the only one that
    keeps the session in the table. -/
theorem peer_present (hk : table.lookup key = some i) (hw : wires[i]? = some w) (hrole : a.role.valid)
    (hfree : w.admission a.role = none) (hp : peers[j]? = some p) (hsess : p.session = i)
    (hopposite : p.role = a.role.opposite) : w.admission p.role = some p.admission := by
  rcases (h.seated i w hw).placed j p hp hsess with hpresent | ⟨hnone, _⟩
  · exact hpresent
  -- some role is there, and it is neither of the two
  obtain ⟨role, hsome⟩ := h.live_role hk hw
  rcases Role.eq_or_eq_opposite hrole ((h.seated i w hw).roles role hsome) with heq | heq
  · rw [heq] at hsome
    exact absurd hfree hsome
  · rw [heq, ← hopposite] at hsome
    exact absurd hnone hsome

theorem join (hk : table.lookup key = some i) (hw : wires[i]? = some w) (hrole : a.role.valid)
    (hfree : w.admission a.role = none) (hnew : a.role ∉ w.completed)
    (hmirrors : ∀ b, w.admission a.role.opposite = some b → b.mirrors a = true) :
    Wired table (wires.set i { w with admission := update w.admission a.role (some a) })
      (peers ++ [⟨i, a.role, a, []⟩]) := by
  have hseat := h.seated i w hw
  have hvacant := hseat.vacant hfree hnew
  refine h.replace hw rfl (fun _ _ hk => hk) (fun _ _ => ⟨a.role, by simp⟩) ⟨?_, ?_, ?_, ?_, ?_⟩
    (fun k u hne hu => hu.snoc_other (Ne.symm hne)) ?_ (h.matched_snoc hrole ?_)
  · refine forall_snoc (fun j q hq hsess => ?_) (fun _ => .inl (by simp))
    dsimp only
    rw [update_of_ne (hvacant j q hq hsess)]
    exact hseat.placed j q hq hsess
  · intro role hsome
    by_cases heq : role = a.role
    · rw [heq]
      exact hrole
    · dsimp only at hsome
      rw [update_of_ne heq] at hsome
      exact hseat.roles role hsome
  · exact forall_snoc hseat.sent (fun _ => hseat.silent a.role hrole hvacant)
  · exact fun role hval hnone => hseat.silent role hval hnone.of_snoc
  · exact fun role hnone => hseat.unread role hnone.of_snoc
  · exact forall_snoc h.known ⟨hrole, lt_of_get hw⟩
  · intro j q hq hsess
    refine ⟨hvacant j q hq hsess, fun hopposite => hmirrors q.admission ?_⟩
    rw [← hopposite]
    exact h.peer_present hk hw hrole hfree hq hsess hopposite

/-- **A message is forwarded** into the inbox of the other role. -/
theorem forward (hp : peers[j]? = some p) (hw : wires[p.session]? = some w) (raw : Raw) :
    Wired table (wires.set p.session
        { w with sent := update w.sent p.role.opposite (w.sent p.role.opposite ++ [raw]) })
      (peers.set j { p with forwarded := p.forwarded ++ [raw] }) := by
  have hseat := h.seated _ w hw
  have hval := (h.known j p hp).1
  -- who and where the peers are has not changed
  have hpeer : ∀ (k : Nat) (q : Peer), (peers.set j { p with forwarded := p.forwarded ++ [raw] })[k]? = some q →
      ∃ q', peers[k]? = some q' ∧ q'.session = q.session ∧ q'.role = q.role ∧ q'.admission = q.admission := by
    intro k q hq
    rcases get_set hq with ⟨rfl, rfl⟩ | ⟨_, hold⟩
    · exact ⟨p, hp, rfl, rfl, rfl⟩
    · exact ⟨q, hold, rfl, rfl, rfl⟩
  have hvacant : ∀ (i : Nat) (role : Role), Vacant i role (peers.set j { p with forwarded := p.forwarded ++ [raw] }) →
      Vacant i role peers := by
    intro i role hvacant k q hq hsess
    by_cases hk : k = j
    · subst hk
      obtain rfl := mem_unique hp hq
      have hnew := hvacant k _ (get_set_self hp)
      exact hnew hsess
    · exact hvacant k q ((get_set_ne hk).trans hq) hsess
  refine h.replace hw rfl (fun _ _ hk => hk) (fun _ hk => h.live_role (w := w) hk hw) ⟨?_, hseat.roles, ?_, ?_, ?_⟩ ?_ ?_ ?_
  · intro k q hq hsess
    obtain ⟨q', hq', hsess', hrole, hadm⟩ := hpeer k q hq
    rw [← hrole, ← hadm]
    exact hseat.placed k q' hq' (hsess'.trans hsess)
  · intro k q hq hsess
    dsimp only
    rcases get_set hq with ⟨rfl, rfl⟩ | ⟨hk, hold⟩
    · rw [update_self, hseat.sent k p hp rfl]
    -- another attachment of the session has the other role
    have hrole : q.role.opposite ≠ p.role.opposite := fun heq =>
      hk ((h.matched k j q p hold hp hsess).1 (Role.opposite_inj (h.known k q hold).1 hval heq))
    rw [update_of_ne hrole]
    exact hseat.sent k q hold hsess
  · intro role hrole hnone
    have hnone := hvacant _ role hnone
    have hne : role.opposite ≠ p.role.opposite := fun heq =>
      hnone j p hp rfl (Role.opposite_inj hval hrole heq.symm)
    dsimp only
    rw [update_of_ne hne]
    exact hseat.silent role hrole hnone
  · exact fun role hnone => hseat.unread role (hvacant _ role hnone)
  · intro k u hne hu
    refine hu.congr (fun m q hsess => ?_)
    by_cases hm : m = j
    · subst hm
      rw [get_set_self hp, hp]
      constructor <;> rintro ⟨rfl⟩ <;> exact absurd hsess.symm hne
    · rw [get_set_ne hm]
  · intro k q hq
    obtain ⟨q', hq', hsess, hrole, _⟩ := hpeer k q hq
    rw [← hsess, ← hrole]
    exact h.known k q' hq'
  · intro k k' q q' hq hq' hsess
    obtain ⟨p₁, hp₁, hsess₁, hrole₁, hadm₁⟩ := hpeer k q hq
    obtain ⟨p₂, hp₂, hsess₂, hrole₂, hadm₂⟩ := hpeer k' q' hq'
    rw [← hrole₁, ← hrole₂, ← hadm₁, ← hadm₂]
    exact h.matched k k' p₁ p₂ hp₁ hp₂ (by rw [hsess₁, hsess₂, hsess])

/-- **A message is taken** from the inbox of an attachment. -/
theorem take (hp : peers[j]? = some p) (hw : wires[p.session]? = some w) (taken : List Raw) :
    Wired table (wires.set p.session { w with taken := update w.taken p.role taken }) peers := by
  have hseat := h.seated _ w hw
  refine h.replace hw rfl (fun _ _ hk => hk) (fun _ hk => h.live_role (w := w) hk hw)
    ⟨hseat.placed, hseat.roles, hseat.sent, hseat.silent, fun role hnone => ?_⟩ (fun _ _ _ hu => hu) h.known h.matched
  dsimp only
  rw [update_of_ne (hnone j p hp rfl).symm]
  exact hseat.unread role hnone

/-- **A role is completed**, and the session leaves the table with its last one. -/
theorem complete (role : Role) (hw : wires[i]? = some w)
    (hsub : ∀ k i, table'.lookup k = some i → table.lookup k = some i)
    (hlast : ∀ k, table'.lookup k = some i → ∃ role', role' ≠ role ∧ w.admission role' ≠ none) :
    Wired table' (wires.set i { w with completed := role :: w.completed, admission := update w.admission role none })
      peers := by
  have hseat := h.seated i w hw
  refine h.replace hw rfl hsub ?_ ⟨?_, ?_, hseat.sent, hseat.silent, hseat.unread⟩ (fun _ _ _ hu => hu) h.known h.matched
  · intro k hk
    obtain ⟨role', hne, hsome⟩ := hlast k hk
    refine ⟨role', ?_⟩
    dsimp only
    rw [update_of_ne hne]
    exact hsome
  · intro k q hq hsess
    dsimp only
    by_cases hrole : q.role = role
    · rw [hrole, update_self]
      exact .inr ⟨rfl, mem_cons_self⟩
    · rw [update_of_ne hrole]
      exact (hseat.placed k q hq hsess).imp_right (And.imp_right (mem_cons_of_mem _))
  · intro role' hsome
    dsimp only at hsome
    by_cases hrole : role' = role
    · rw [hrole, update_self] at hsome
      exact absurd rfl hsome
    · rw [update_of_ne hrole] at hsome
      exact hseat.roles role' hsome

end Wired

end Wires

/-! ## The service -/

namespace Session

variable {V : Type} {x : Session V} {raw : Raw}

theorem wire_join {a : Admission} {v : V} :
    (x.join a v).wire = { x.wire with admission := update x.wire.admission a.role (some a) } := by
  have hadm : (x.join a v).wire.admission = update x.wire.admission a.role (some a) := by
    funext role
    simp only [wire, join, lookup_insert_eq, update_apply]
    split <;> rfl
  rw [← hadm]
  rfl

theorem wire_setValidator {endp : Endpoint V} {v : V} (h : x.endpoints.lookup role = some endp) :
    (x.setValidator role endp v).wire = x.wire := by
  have hadm : (x.setValidator role endp v).wire.admission = x.wire.admission := by
    funext role'
    simp only [wire, setValidator, lookup_insert_eq]
    split
    case isTrue heq => rw [heq, h, map_some, map_some]
    case isFalse => rfl
  change { x.wire with admission := (x.setValidator role endp v).wire.admission } = x.wire
  rw [hadm]

theorem wire_setInbox {c : Channel Raw} : (x.setInbox role c).wire = { x.wire with
          sent := update x.wire.sent role c.sent, taken := update x.wire.taken role c.taken } := by
  have hsent : (x.setInbox role c).wire.sent = update x.wire.sent role c.sent := by
    funext role'
    simp only [wire, setInbox, update_apply]
    split <;> rfl
  have htaken : (x.setInbox role c).wire.taken = update x.wire.taken role c.taken := by
    funext role'
    simp only [wire, setInbox, update_apply]
    split <;> rfl
  rw [← hsent, ← htaken]
  rfl

theorem wire_complete : (x.complete role).wire = { x.wire with
          completed := role :: x.wire.completed, admission := update x.wire.admission role none } := by
  have hadm : (x.complete role).wire.admission = update x.wire.admission role none := by
    funext role'
    simp only [wire, complete, lookup_erase_eq, update_apply]
    split <;> rfl
  rw [← hadm]
  rfl

theorem wire_admission_eq_none : x.wire.admission role = none ↔ x.endpoints.lookup role = none := by
  simp [wire]

end Session

theorem refuses_eq_false {V : Type} {x : Session V} {a : Admission} (h : x.refuses a = false) :
    x.wire.admission a.role = none ∧ a.role ∉ x.wire.completed
      ∧ ∀ b, x.wire.admission a.role.opposite = some b → b.mirrors a = true := by
  simp only [refuses, Bool.or_eq_false_iff, decide_eq_false_iff_not, Bool.not_eq_false'] at h
  obtain ⟨⟨hfree, hnew⟩, hrecip⟩ := h
  refine ⟨?_, hnew, ?_⟩
  · rw [wire_admission_eq_none]
    exact not_isSome_iff_eq_none.mp (by simp [hfree])
  intro b hb
  obtain ⟨_, hpeer, rfl⟩ := map_eq_some_iff.mp hb
  unfold reciprocal at hrecip
  rw [hpeer] at hrecip
  exact hrecip

namespace Service

variable {V E : Type} {vs : Validators V E} {s s' : Service V} {l : Action}

def wires (s : Service V) : List Wire := s.heap.map wire

def peers (s : Service V) : List Peer := s.attachments.map Attachment.peer

def WellWired (s : Service V) : Prop := Wired s.sessions s.wires s.peers

variable {i j : Nat} {x : Session V} {a : Attachment} {v : V}

theorem getElem?_wires (hx : s.heap[i]? = some x) : s.wires[i]? = some x.wire := by
  rw [wires, getElem?_map, hx, map_some]

variable (hs : s.WellWired) (ha : s.attachments[j]? = some a)

include ha

theorem getElem?_peers : s.peers[j]? = some a.peer := by
  rw [peers, getElem?_map, ha, map_some]

include hs

theorem WellWired.exists_session : ∃ x, s.heap[a.session]? = some x := by
  have hlt : a.session < s.wires.length := (hs.known j a.peer (getElem?_peers ha)).2
  rw [wires, length_map] at hlt
  exact ⟨_, getElem?_eq_getElem hlt⟩

theorem WellWired.role_valid : a.role.valid = true := (hs.known j a.peer (getElem?_peers ha)).1

omit ha in
theorem WellWired.ended (h : Ended s l s') : s'.WellWired := by
  have hwires : s'.wires = s.wires := map_eq_of_core h.heap (fun _ => rfl)
  have hpeers : s'.peers = s.peers := map_eq_of_core h.attachments (fun _ => rfl)
  unfold WellWired
  rw [hwires, hpeers]
  exact { hs with live := fun k i hk => hs.live k i (h.sessions k i hk) }

theorem WellWired.attachment {a' : Attachment} (hpeer : a'.peer = a.peer) : (s.setAttachment j a').WellWired := by
  have hpeers : (s.setAttachment j a').peers = s.peers := map_set_of_eq ha hpeer
  unfold WellWired
  rw [hpeers]
  exact hs

omit ha in
theorem WellWired.session {x' : Session V} (hx : s.heap[i]? = some x) (hwire : x'.wire = x.wire) :
    (s.setSession i x').WellWired := by
  have hwires : (s.setSession i x').wires = s.wires := map_set_of_eq hx hwire
  unfold WellWired
  rw [hwires]
  exact hs

omit ha in
theorem WellWired.create {a : Admission} {n : Nat} (hrole : a.role.valid) :
    ((s.create a.sessionKey).join a v n s.heap.length { key := a.sessionKey }).WellWired := by
  have hwires : ((s.create a.sessionKey).join a v n s.heap.length { key := a.sessionKey }).wires = s.wires
        ++ [⟨a.sessionKey, [], update (fun _ => none) a.role (some a), fun _ => [], fun _ => []⟩] := by
    have hheap : (s.heap ++ [({ key := a.sessionKey } : Session V)]).set s.heap.length
          (Session.join { key := a.sessionKey } a v)
        = s.heap ++ [Session.join { key := a.sessionKey } a v] := by
      rw [List.set_append_right _ _ (Nat.le_refl _), Nat.sub_self, List.set_cons_zero]
    change ((s.heap ++ [({ key := a.sessionKey } : Session V)]).set s.heap.length
      (Session.join { key := a.sessionKey } a v)).map wire = _
    rw [hheap, map_append, map_singleton, wire_join]
    rfl
  have hpeers : ((s.create a.sessionKey).join a v n s.heap.length { key := a.sessionKey }).peers
      = s.peers ++ [⟨s.heap.length, a.role, a, []⟩] := map_append
  have hlen : s.heap.length = s.wires.length := by rw [wires, length_map]
  unfold WellWired
  rw [hwires, hpeers]
  change Wired (s.sessions.insert a.sessionKey s.heap.length) _ _
  rw [hlen]
  exact Wired.create hs hrole

omit ha in
theorem WellWired.join {a : Admission} {n : Nat} (hrole : a.role.valid)
    (hsome : s.sessions.lookup a.sessionKey = some i) (hx : s.heap[i]? = some x) (hrefs : x.refuses a = false) :
    (s.join a v n i x).WellWired := by
  have hwires : (s.join a v n i x).wires
      = s.wires.set i { x.wire with admission := update x.wire.admission a.role (some a) } := by
    rw [← wire_join (v := v)]
    exact map_set
  have hpeers : (s.join a v n i x).peers = s.peers ++ [⟨i, a.role, a, []⟩] := map_append
  obtain ⟨hfree, hnew, hmirrors⟩ := refuses_eq_false hrefs
  unfold WellWired
  rw [hwires, hpeers]
  exact Wired.join hs hsome (getElem?_wires hx) hrole hfree hnew hmirrors

theorem WellWired.forward {endp : Endpoint V} {raw : Raw} (hx : s.heap[a.session]? = some x)
    (hendpoint : x.endpoints.lookup a.role = some endp) :
    ((s.setSession a.session ((x.setValidator a.role endp v).setInbox a.role.opposite
        ((x.inbox a.role.opposite).push raw))).setAttachment j
          { a with forwarded := a.forwarded ++ [raw] }).WellWired := by
  have hwire : ((x.setValidator a.role endp v).setInbox a.role.opposite
      ((x.inbox a.role.opposite).push raw)).wire = { x.wire with
            sent := update x.wire.sent a.role.opposite (x.wire.sent a.role.opposite ++ [raw]) } := by
    have htaken : ((x.inbox a.role.opposite).push raw).taken = x.wire.taken a.role.opposite := rfl
    rw [wire_setInbox, wire_setValidator hendpoint, Channel.sent_push, htaken, update_eq_self]
    rfl
  have hforwarded := Wired.forward hs (getElem?_peers ha) (getElem?_wires hx) raw
  unfold WellWired Service.wires Service.peers Service.setSession Service.setAttachment
  dsimp only
  rw [map_set, map_set, hwire]
  exact hforwarded

theorem WellWired.take {c : Channel Raw} (hx : s.heap[a.session]? = some x) (hsent : c.sent = (x.inbox a.role).sent) :
    (s.setSession a.session (x.setInbox a.role c)).WellWired := by
  have hwire : (x.setInbox a.role c).wire = { x.wire with taken := update x.wire.taken a.role c.taken } := by
    have hsame : c.sent = x.wire.sent a.role := hsent
    rw [wire_setInbox, hsame, update_eq_self]
  have hwires : (s.setSession a.session (x.setInbox a.role c)).wires
      = s.wires.set a.session { x.wire with taken := update x.wire.taken a.role c.taken } := by
    rw [← hwire]
    exact map_set
  unfold WellWired
  rw [hwires]
  exact Wired.take hs (getElem?_peers ha) (getElem?_wires hx) c.taken

omit ha

omit hs in
theorem attachments_complete : (s.complete i x role).1.attachments = s.attachments := by
  unfold Service.complete
  split <;> rfl

theorem WellWired.complete (hx : s.heap[i]? = some x) : (s.complete i x role).1.WellWired := by
  unfold Service.complete
  split
  · exact hs
  next hpass =>
  have hwires : (s.setSession i (x.complete role)).wires = s.wires.set i (x.complete role).wire := map_set
  unfold WellWired
  change Wired _ (s.setSession i (x.complete role)).wires s.peers
  rw [hwires, wire_complete]
  refine Wired.complete hs role (getElem?_wires hx) ?_ ?_
  · intro k i' hk
    dsimp only at hk
    split at hk
    · exact (lookup_of_erase hk).2
    · exact hk
  · intro k hk
    -- if the session is still there, another endpoint is
    dsimp only at hk
    split at hk
    case isTrue =>
      obtain ⟨hne, hk⟩ := lookup_of_erase hk
      obtain ⟨_, hw, hkey, _⟩ := hs.live k i hk
      obtain rfl := mem_unique (getElem?_wires hx) hw
      exact absurd hkey.symm hne
    case isFalse hrest =>
      obtain ⟨⟨role', endpoint⟩, hin⟩ := exists_mem_of_ne_nil _ (by simpa using hrest)
      obtain ⟨hne, hlookup⟩ := lookup_of_erase (mem_entries_iff.mp hin)
      refine ⟨role', hne, ?_⟩
      rw [ne_eq, wire_admission_eq_none, hlookup]
      nofun

/-- **Every step keeps the service wired.** -/
theorem WellWired.effect (heff : Effect vs s l s') : s'.WellWired := by
  cases heff with
  | ended h => exact hs.ended h
  | created hend hval => exact (hs.ended hend).create (role_valid_of_validAdmission hval)
  | joined hend hval _ _ _ hsome hx hrefs =>
    exact (hs.ended hend).join (role_valid_of_validAdmission hval) hsome hx hrefs
  | validated hx hendpoint => exact hs.session hx (wire_setValidator hendpoint)
  | forwarded ha hx hendpoint => exact hs.forward ha hx hendpoint
  | called ha | checked ha | rechecked ha | dismissed _ ha | returned ha => exact hs.attachment ha rfl
  | @took _ _ _ _ _ _ ha _ hx hpop => exact (hs.take ha hx (Channel.pop_eq_some hpop).1).attachment ha rfl
  | @completed _ a a' _ ha hx _ _ hcore =>
    have hpeer : a'.peer = a.peer := by
      change a'.core.peer = a.core.peer
      rw [hcore]
    exact (hs.complete hx).attachment (by rw [attachments_complete]; exact ha) hpeer

theorem WellWired.step (h : s.step vs l = some s') : s'.WellWired := hs.effect (step_effect h)

omit hs

theorem eq_of_newService {cfg : Config} (h : newService cfg = some s) : s = { config := cfg.withDefaults } := by
  unfold newService at h
  exact (some.inj (ite_none_left_eq_some.mp h).2).symm

theorem wellWired_new {cfg : Config} (h : newService cfg = some s) : s.WellWired := by
  rw [eq_of_newService h]
  exact Wired.empty

theorem WellWired.run {s₀ : Service V} {tr : Trace (Service V) Action} (hs : s₀.WellWired)
    (hrun : Run (Service.step vs) s₀ tr s) : s.WellWired :=
  hrun.invariant (·.step ·) hs

end Service

/-! ## A sample session -/

def sampleConfig : Config := ⟨0, 0, 0, 0⟩

def sampleAdmission (credentialID : String) (role : Role) : Admission where
  credentialID := credentialID
  environmentID := "environment"
  nodeID := "node"
  intentID := "intent"
  endpointID := if role = .controlling then "a" else "b"
  peerEndpointID := if role = .controlling then "b" else "a"
  attemptGeneration := 1
  networkGeneration := 1
  role := role
  expiresAt := Time.unixEpoch.add Duration.minute

def attachSample (credentialID : String) (role : Role) : Action :=
  .attach credentialID (some (sampleAdmission credentialID role)) Time.unixEpoch

end PaperboatTunnel.PeerSignaling
