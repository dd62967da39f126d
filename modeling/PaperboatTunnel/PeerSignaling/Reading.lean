import PaperboatTunnel.PeerSignaling.Wiring

/-!
# `Reading` — the calls of `Receive` on one attachment

What matters about the readers of an attachment is its calls of `Receive`, what they have returned, what has been taken
from the inbox, and whether the two parts of `active` would still let them pass (`View`). A step does one of a few
things to the view of an attachment (`Read`, `moved_of_effect`).

So all that is returned was taken (`View.Accounted`), and if the calls do not overlap it is returned in order
(`View.Ordered`): a call that loses its message is the last one that got any.
-/

namespace PaperboatTunnel.PeerSignaling

open GoTime TransitionSystem Table List GoMap Nat Bool

structure View where
  receiving : List Receiving
  (returned taken : List Raw)
  (opened listed : Bool)

namespace View

variable {v v' : View}

/-- The calls have not moved, and none has got more chances. -/
structure Still (v v' : View) : Prop where
  receiving : v'.receiving = v.receiving
  returned : v'.returned = v.returned
  taken : v'.taken = v.taken
  opened : v'.opened = true → v.opened = true
  listed : v'.listed = true → v.listed = true

theorem Still.refl (v : View) : Still v v := ⟨rfl, rfl, rfl, id, id⟩

theorem Still.trans {v'' : View} (h : Still v v') (h' : Still v' v'') : Still v v'' where
  receiving := h'.receiving.trans h.receiving
  returned := h'.returned.trans h.returned
  taken := h'.taken.trans h.taken
  opened hopened := h.opened (h'.opened hopened)
  listed hlisted := h.listed (h'.listed hlisted)

/-- What one step can do to the view of an attachment. -/
inductive Read : View → View → Prop where
  | still {v v' : View} (h : Still v v') : Read v v'
  | called {v : View} (hopened : v.opened = true) : Read v { v with receiving := v.receiving ++ [.probed] }
  | checked {v k} (hk : v.receiving[k]? = some .probed) (hlisted : v.listed = true) :
      Read v { v with receiving := v.receiving.set k .selecting }
  | took {v k raw} (hk : v.receiving[k]? = some .selecting) :
      Read v { v with receiving := v.receiving.set k (.took raw), taken := v.taken ++ [raw] }
  | rechecked {v k raw} (hk : v.receiving[k]? = some (.took raw)) :
      Read v { v with receiving := v.receiving.set k (.reprobed raw) }
  | dismissed {v k call} (hk : v.receiving[k]? = some call)
      (hwhy : call.held.isSome = true → v.opened = false ∨ v.listed = false) :
      Read v { v with receiving := v.receiving.eraseIdx k }
  | returned {v k raw} (hk : v.receiving[k]? = some (.reprobed raw)) :
      Read v { v with receiving := v.receiving.eraseIdx k, returned := v.returned ++ [raw] }

/-! ## What is returned was taken -/

/-- The messages that calls have taken and not yet returned. -/
def held (receiving : List Receiving) : List Raw := receiving.filterMap Receiving.held

variable {receiving : List Receiving} {call : Receiving} {k : Nat}

theorem held_set {call next : Receiving} (hk : receiving[k]? = some call) (hheld : next.held = call.held) :
    held (receiving.set k next) = held receiving := by
  obtain ⟨_, _, heq, hset, _⟩ := split_at hk
  rw [hset, heq]
  simp only [held, filterMap_append, filterMap_cons, hheld]

theorem held_took {raw : Raw} (hk : receiving[k]? = some call) (hnone : call.held = none) :
    (held (receiving.set k (.took raw))).Perm (held receiving ++ [raw]) := by
  have hraw : (Receiving.took raw).held = some raw := rfl
  obtain ⟨_, _, heq, hset, _⟩ := split_at hk
  rw [hset, heq]
  simp only [held, filterMap_append, filterMap_cons, hnone, hraw, append_assoc]
  exact (perm_append_singleton raw _).symm.append_left _

theorem held_eraseIdx (hk : receiving[k]? = some call) :
    (held receiving).Perm (call.held.toList ++ held (receiving.eraseIdx k)) := by
  obtain ⟨_, _, heq, _, herase⟩ := split_at hk
  rw [herase, heq]
  cases hheld : call.held with
  | none => simp [held, hheld]
  | some => simp [held, hheld, perm_middle]

def Accounted (v : View) : Prop := Channel.Accounted v.taken v.returned (held v.receiving)

theorem Accounted.read (h : v.Accounted) (hread : Read v v') : v'.Accounted := by
  unfold Accounted at h ⊢
  cases hread with
  | still hstill =>
    rw [hstill.receiving, hstill.returned, hstill.taken]
    exact h
  | called =>
    have hheld : held (v.receiving ++ [.probed]) = held v.receiving := by
      simp [held, filterMap_append, Receiving.held]
    rw [hheld]
    exact h
  | checked hk | rechecked hk =>
    dsimp only
    rw [held_set hk]
    · exact h
    · rfl
  | took hk => exact h.take (held_took hk rfl)
  | dismissed hk =>
    refine h.lose ?_
    exact (subperm_append_right _ |>.mpr nil_subperm).trans (held_eraseIdx hk).symm.subperm
  | returned hk => exact h.give (held_eraseIdx hk)

/-! ## Calls that do not overlap -/

/-- **In order.** At most one call is under way. What was lost is at the end, and after it no call gets further. -/
def Ordered (v : View) : Prop :=
  v.receiving.length ≤ 1 ∧ ∃ lost, Channel.InOrder v.taken v.returned (held v.receiving) lost ∧
    (lost ≠ [] → v.opened = false ∧ v.receiving = [] ∨ v.listed = false ∧ ∀ call ∈ v.receiving, call = .probed)

theorem receiving_eq (hlen : receiving.length ≤ 1) (hk : receiving[k]? = some call) : receiving = [call] ∧ k = 0 := by
  obtain ⟨_, hget⟩ := List.getElem?_eq_some_iff.mp hk
  obtain rfl : k = 0 := by omega
  obtain ⟨_, rfl⟩ := length_eq_one_iff.mp (show receiving.length = 1 by omega)
  exact ⟨by simpa using hget, rfl⟩

/-- A call that is past the table, or passes it, has nothing lost before it. -/
theorem Ordered.eq_of_call (h : v.Ordered) (hk : v.receiving[k]? = some call)
    (hcall : call = .probed → v.listed = true) :
    v.receiving = [call] ∧ k = 0 ∧ v.taken = v.returned ++ call.held.toList := by
  obtain ⟨hlen, lost, hord, hlost⟩ := h
  obtain ⟨heq, rfl⟩ := receiving_eq hlen hk
  have hnone : lost = [] := by
    by_contra hne
    rcases hlost hne with ⟨_, hempty⟩ | ⟨hunlisted, hall⟩
    · rw [heq] at hempty
      cases hempty
    · rw [hcall (hall call (by simp [heq]))] at hunlisted
      cases hunlisted
  refine ⟨heq, rfl, ?_⟩
  unfold Channel.InOrder at hord
  rw [hord, hnone, heq, append_nil]
  unfold held
  cases call <;> rfl

theorem Ordered.of_eq (hlen : v.receiving.length ≤ 1) (heq : v.taken = v.returned ++ held v.receiving) : v.Ordered :=
  ⟨hlen, [], by rw [Channel.InOrder, heq, append_nil], fun hne => absurd rfl hne⟩

theorem Ordered.read (h : v.Ordered) (hread : Read v v')
    (halone : v'.receiving = v.receiving ++ [.probed] → v.receiving = []) : v'.Ordered := by
  cases hread with
  | still hstill =>
    obtain ⟨hlen, lost, hord, hlost⟩ := h
    unfold Ordered
    rw [hstill.receiving, hstill.returned, hstill.taken]
    refine ⟨hlen, lost, hord, fun hne => (hlost hne).imp (And.imp_left ?_) (And.imp_left ?_)⟩
    · simpa using mt hstill.opened
    · simpa using mt hstill.listed
  | called hopened =>
    obtain ⟨_, lost, hord, hlost⟩ := h
    have hempty : v.receiving = [] := halone rfl
    unfold Ordered
    dsimp only
    rw [hempty] at hord hlost ⊢
    refine ⟨le_refl _, lost, hord, fun hne => ?_⟩
    rcases hlost hne with ⟨hcl, _⟩ | ⟨hunlisted, _⟩
    · rw [hopened] at hcl
      cases hcl
    · exact .inr ⟨hunlisted, fun call hcall => mem_singleton.mp hcall⟩
  | checked hk hlisted =>
    obtain ⟨heq, rfl, htaken⟩ := h.eq_of_call hk (fun _ => hlisted)
    exact .of_eq (by simp [heq]) (by simp [heq, htaken, held, Receiving.held])
  | took hk | rechecked hk | returned hk =>
    obtain ⟨heq, rfl, htaken⟩ := h.eq_of_call hk nofun
    exact .of_eq (by simp [heq]) (by simp [heq, htaken, held, Receiving.held])
  | @dismissed _ call hk hwhy =>
    cases hheld : call.held with
    | none =>
      obtain ⟨hlen, lost, hord, hlost⟩ := h
      obtain ⟨heq, rfl⟩ := receiving_eq hlen hk
      unfold Ordered
      dsimp only
      rw [heq] at hord hlost ⊢
      refine ⟨zero_le _, lost, ?_, fun hne => ?_⟩
      · simpa [held, hheld] using hord
      · rcases hlost hne with ⟨_, hempty⟩ | ⟨hunlisted, _⟩
        · cases hempty
        · exact .inr ⟨hunlisted, fun _ hcall => absurd hcall (by simp)⟩
    | some raw =>
      -- the message is lost, and the call has found that the attachment is at its end
      have hcall : call = .probed → v.listed = true := by
        rintro rfl
        cases hheld
      obtain ⟨heq, rfl, htaken⟩ := h.eq_of_call hk hcall
      unfold Ordered
      dsimp only
      rw [heq]
      refine ⟨zero_le _, [raw], ?_, fun _ => ?_⟩
      · rw [Channel.InOrder, htaken, hheld]
        rfl
      · rcases hwhy (by rw [hheld]; rfl) with hcl | hunlisted
        · exact .inl ⟨hcl, rfl⟩
        · exact .inr ⟨hunlisted, fun _ hcall => absurd hcall (by simp)⟩

structure Fresh (v : View) : Prop where
  receiving : v.receiving = []
  returned : v.returned = []
  taken : v.taken = []

theorem Fresh.accounted (h : v.Fresh) : v.Accounted := by
  unfold Accounted
  rw [h.receiving, h.returned]
  exact Channel.Accounted.nil

theorem Fresh.ordered (h : v.Fresh) : v.Ordered :=
  .of_eq (by simp [h.receiving]) (by simp [h.receiving, h.returned, h.taken, held])

end View

/-! ## The view of an attachment -/

namespace Service

variable {V E : Type} {vs : Validators V E} {s s' : Service V} {l : Action} {a a' b : Attachment} {x x' y : Session V}
  {i j k : Nat} {v : V} {role : Role} {receiving : List Receiving} {endp : Endpoint V}

def taken (s : Service V) (a : Attachment) : List Raw :=
  ((s.heap[a.session]?).map (fun x => (x.inbox a.role).taken)).getD []

def view (s : Service V) (a : Attachment) : View where
  receiving := a.receiving
  returned := a.returned
  taken := s.taken a
  opened := s.channelsOpen a
  listed := s.listed a

variable (hx : s.heap[a.session]? = some x)

include hx

theorem taken_eq : s.taken a = (x.inbox a.role).taken := by
  rw [taken, hx]
  rfl

theorem channelsOpen_iff : s.channelsOpen a = true ↔ a.done = false ∧ x.done = false := by
  simp [channelsOpen, hx]

theorem listed_iff : s.listed a = true ↔
      s.closed = false ∧ s.sessions.lookup x.key = some a.session ∧ x.endpoints.lookup a.role ≠ none := by
  simp [listed, hx, Option.isSome_iff_ne_none]

/-- A session after a change that does not concern the calls of its attachment in this role. -/
structure Kept (role : Role) (x x' : Session V) : Prop where
  key : x'.key = x.key
  taken : (x'.inbox role).taken = (x.inbox role).taken
  done : x.done = true → x'.done = true
  endpoint : x'.endpoints.lookup role ≠ none → x.endpoints.lookup role ≠ none

omit hx in
theorem Kept.refl (role : Role) (x : Session V) : Kept role x x := ⟨rfl, rfl, id, id⟩

theorem Kept.still (h : Kept a.role x x') (hx' : s'.heap[a.session]? = some x')
    (hcl : s.closed = true → s'.closed = true)
    (hsessions : s'.sessions.lookup x.key = some a.session → s.sessions.lookup x.key = some a.session) :
    View.Still (s.view a) (s'.view a) where
  receiving := rfl
  returned := rfl
  taken := (taken_eq hx').trans (h.taken.trans (taken_eq hx).symm)
  opened hopened := by
    obtain ⟨hdone, hxdone⟩ := (channelsOpen_iff hx').mp hopened
    exact (channelsOpen_iff hx).mpr ⟨hdone, eq_false_iff.mpr (fun hold => by simp [h.done hold] at hxdone)⟩
  listed hlisted := by
    obtain ⟨hopen, hlookup, hendpoint⟩ := (listed_iff hx').mp hlisted
    rw [h.key] at hlookup
    refine (listed_iff hx).mpr ⟨?_, hsessions hlookup, h.endpoint hendpoint⟩
    exact eq_false_iff.mpr (fun hold => by simp [hcl hold] at hopen)

theorem still_of_set {y' : Session V} (hheap : s'.heap = s.heap.set i y') (hcl : s'.closed = s.closed)
    (hsessions : ∀ key n, s'.sessions.lookup key = some n → s.sessions.lookup key = some n) (hy : s.heap[i]? = some y)
    (hkept : a.session = i → Kept a.role y y') : View.Still (s.view a) (s'.view a) := by
  have hcl : s.closed = true → s'.closed = true := by
    rw [hcl]
    exact id
  by_cases hi : a.session = i
  · subst hi
    exact (hkept rfl).still hy (hheap ▸ get_set_self hy) hcl (hsessions _ _)
  · exact (Kept.refl a.role x).still hx (hheap ▸ (get_set_ne hi).trans hx) hcl (hsessions _ _)

theorem still_setSession {y' : Session V} (hy : s.heap[i]? = some y) (hkept : a.session = i → Kept a.role y y') :
    View.Still (s.view a) ((s.setSession i y').view a) :=
  still_of_set hx rfl rfl (fun _ _ => id) hy hkept

omit hx in
theorem still_attachment (hcore : a'.core = a.core) (hdone : a.done = true → a'.done = true) :
    View.Still (s.view a) (s.view a') := by
  obtain ⟨hsess, hrole, hreceiving, _, hreturned⟩ := Attachment.eq_of_core hcore
  refine ⟨hreceiving, hreturned, ?_, fun hopened => ?_, fun hlisted => ?_⟩
  · simp only [view, taken, hsess, hrole]
  · simp only [view, channelsOpen, hsess, and_eq_true, not_eq_true'] at hopened ⊢
    exact ⟨eq_false_iff.mpr (fun hold => by simp [hdone hold] at hopened), hopened.2⟩
  · unfold view listed at hlisted ⊢
    rw [hsess, hrole] at hlisted
    exact hlisted

omit hx in
theorem still_ended (h : Ended s l s') (hs : s.WellWired) (ha' : s'.attachments[j]? = some a') :
    ∃ a, s.attachments[j]? = some a ∧ View.Still (s.view a) (s'.view a') := by
  obtain ⟨a, ha, hcore⟩ := get_of_map_eq h.attachments.symm ha'
  obtain ⟨x, hx⟩ := hs.exists_session ha
  obtain ⟨x', hx', hcore'⟩ := get_of_map_eq h.heap hx
  obtain ⟨hkey, hendpoints, hinbox⟩ := Session.eq_of_core hcore'
  have hkept : Kept a.role x x' := ⟨hkey, by rw [hinbox], h.done a.session x x' hx hx', by rw [hendpoints]; exact id⟩
  have hstill := hkept.still hx hx' h.closed (h.sessions _ _)
  exact ⟨a, ha, hstill.trans (still_attachment hcore.symm (h.ended j a a' ha ha'))⟩

theorem still_create {b : Admission} {n : Nat} : View.Still (s.view a)
      (((s.create b.sessionKey).join b v n s.heap.length { key := b.sessionKey }).view a) := by
  have hne : a.session ≠ s.heap.length := Nat.ne_of_lt (lt_of_get hx)
  refine (Kept.refl a.role x).still hx ((get_set_ne hne).trans (get_snoc_old hx)) id (fun hlookup => ?_)
  change (s.sessions.insert b.sessionKey s.heap.length).lookup x.key = some a.session at hlookup
  rw [lookup_insert_eq] at hlookup
  split at hlookup
  case isTrue => exact absurd (Option.some.inj hlookup).symm hne
  case isFalse => exact hlookup

theorem still_join (hs : s.WellWired) {b : Admission} {n : Nat} (hy : s.heap[i]? = some y)
    (hrefs : y.refuses b = false) (ha : s.attachments[j]? = some a) :
    View.Still (s.view a) ((s.join b v n i y).view a) := by
  refine still_setSession hx hy (fun hsess => ⟨rfl, rfl, id, fun hsome => ?_⟩)
  rw [← hsess] at hy
  change (y.endpoints.insert b.role ⟨b, v⟩).lookup a.role ≠ none at hsome
  obtain ⟨hfree, hnew, _⟩ := refuses_eq_false hrefs
  have hrole : a.role ≠ b.role := (hs.seated _ _ (getElem?_wires hy)).vacant hfree hnew j _ (getElem?_peers ha) rfl
  rw [lookup_insert_eq, if_neg hrole] at hsome
  exact hsome

theorem still_complete (hy : s.heap[i]? = some y) : View.Still (s.view a) ((s.complete i y role).1.view a) := by
  unfold complete
  split
  · exact .refl _
  refine still_of_set hx rfl rfl (fun key n hlookup => ?_) hy (fun _ => ⟨rfl, rfl, id, fun hsome => ?_⟩)
  · dsimp only at hlookup
    split at hlookup
    · exact (lookup_of_erase hlookup).2
    · exact hlookup
  · change (y.endpoints.erase role).lookup a.role ≠ none at hsome
    rw [lookup_erase_eq] at hsome
    exact (ite_ne_left_iff.mp hsome).2.symm

omit hx

/-! ## Steps -/

/-- An attachment after a step: its view has moved as `Read` says, or it is a fresh one. -/
def Moved (s : Service V) (l : Action) (s' : Service V) (j : Nat) (a' : Attachment) : Prop :=
  (∃ a, s.attachments[j]? = some a ∧ View.Read (s.view a) (s'.view a')
    ∧ (a.receiving.length < a'.receiving.length → l = .receive j)) ∨ (s'.view a').Fresh

theorem moved_of_still (ha : s.attachments[j]? = some a) (h : View.Still (s.view a) (s'.view a')) :
    Moved s l s' j a' := by
  have hreceiving : a'.receiving = a.receiving := h.receiving
  exact .inl ⟨a, ha, .still h, fun hlonger => by simp [hreceiving] at hlonger⟩

theorem moved_setReceiving (hb : s.attachments[k]? = some b)
    (hread : View.Read (s.view b) { s.view b with receiving := receiving })
    (hlonger : b.receiving.length < receiving.length → l = .receive k)
    (ha' : (s.setReceiving k b receiving).attachments[j]? = some a') : Moved s l (s.setReceiving k b receiving) j a' := by
  rcases get_set ha' with ⟨rfl, rfl⟩ | ⟨_, hold⟩
  · exact .inl ⟨b, hb, hread, hlonger⟩
  · exact moved_of_still hold (.refl _)

/-- A call takes a message; the other attachment of the session has the other inbox. -/
theorem moved_took (hs : s.WellWired) {m : Nat} {raw : Raw} {c : Channel Raw} (hb : s.attachments[k]? = some b)
    (hm : b.receiving[m]? = some .selecting) (hy : s.heap[b.session]? = some y)
    (hpop : (y.inbox b.role).pop = some (raw, c))
    (ha' : (s.attachments.set k { b with receiving := b.receiving.set m (.took raw) })[j]? = some a') :
    Moved s l ((s.setSession b.session (y.setInbox b.role c)).setReceiving k b (b.receiving.set m (.took raw))) j a' := by
  rcases get_set ha' with ⟨rfl, rfl⟩ | ⟨hk, hold⟩
  · refine .inl ⟨b, hb, ?_, fun hlonger => by simp at hlonger⟩
    have hy' : (s.setSession b.session (y.setInbox b.role c)).heap[b.session]? = some (y.setInbox b.role c) :=
      get_set_self hy
    have htaken : (s.setSession b.session (y.setInbox b.role c)).taken b = s.taken b ++ [raw] := by
      rw [taken_eq hy', taken_eq hy, ← (Channel.pop_eq_some hpop).2]
      simp [Session.setInbox]
    have hopened : (s.setSession b.session (y.setInbox b.role c)).channelsOpen b = s.channelsOpen b := by
      rw [channelsOpen, channelsOpen, hy, hy']
      rfl
    have hlisted : (s.setSession b.session (y.setInbox b.role c)).listed b = s.listed b := by
      rw [listed, listed, hy, hy']
      rfl
    have hview : (s.setSession b.session (y.setInbox b.role c)).view b
        = { s.view b with taken := s.taken b ++ [raw] } := by
      rw [view, htaken, hopened, hlisted]
      rfl
    change View.Read (s.view b)
      { (s.setSession b.session (y.setInbox b.role c)).view b with receiving := b.receiving.set m (.took raw) }
    rw [hview]
    exact .took hm
  · obtain ⟨_, hx⟩ := hs.exists_session hold
    refine moved_of_still hold (still_setSession hx hy (fun hsess => ⟨rfl, ?_, id, id⟩))
    have hrole : a'.role ≠ b.role := fun heq =>
      hk ((hs.matched j k a'.peer b.peer (getElem?_peers hold) (getElem?_peers hb) hsess).1 heq)
    simp only [Session.setInbox, Function.update_of_ne hrole]

theorem kept_setValidator (h : y.endpoints.lookup role = some endp) {role' : Role} :
    Kept role' y (y.setValidator role endp v) := by
  refine ⟨rfl, rfl, id, fun hsome => ?_⟩
  rw [ne_eq, ← Session.wire_admission_eq_none, Session.wire_setValidator h, Session.wire_admission_eq_none] at hsome
  exact hsome

theorem kept_push {role' target : Role} {raw : Raw} (h : Kept role' y x) (hinbox : x.inbox = y.inbox) :
    Kept role' y (x.setInbox target ((y.inbox target).push raw)) := by
  refine { h with taken := ?_ }
  rw [← hinbox]
  simp only [Session.setInbox, Function.update_apply]
  split
  case isTrue heq => rw [heq, Channel.taken_push]
  case isFalse => rfl

/-- **Whatever a step does**, the view of an attachment moves in one of the ways of `Read`, or the attachment is new and
    meets an inbox that nobody has read. -/
theorem moved_of_effect (hs : s.WellWired) (heff : Effect vs s l s') (ha' : s'.attachments[j]? = some a') :
    Moved s l s' j a' := by
  cases heff with
  | ended h =>
    obtain ⟨_, ha, hstill⟩ := still_ended h hs ha'
    exact moved_of_still ha hstill
  | @created _ _ _ _ _ _ h =>
    rcases get_snoc ha' with hold | ⟨_, rfl⟩
    · obtain ⟨_, hx⟩ := (hs.ended h).exists_session hold
      obtain ⟨_, ha, hstill⟩ := still_ended h hs hold
      exact moved_of_still ha (hstill.trans (still_create hx))
    · exact .inr ⟨rfl, rfl, (taken_eq (get_set_self get_snoc_new)).trans rfl⟩
  | @joined _ b _ _ _ i _ y h _ _ _ _ _ hy hrefs =>
    have hr := hs.ended h
    rcases get_snoc ha' with hold | ⟨_, rfl⟩
    · obtain ⟨_, hx⟩ := hr.exists_session hold
      obtain ⟨_, ha, hstill⟩ := still_ended h hs hold
      exact moved_of_still ha (hstill.trans (still_join hx hr hy hrefs hold))
    obtain ⟨hfree, hunused, _⟩ := refuses_eq_false hrefs
    have hseat := hr.seated i y.wire (getElem?_wires hy)
    refine .inr ⟨rfl, rfl, (taken_eq (get_set_self hy)).trans ?_⟩
    exact hseat.unread b.role (hseat.vacant hfree hunused)
  | validated hy hendpoint =>
    obtain ⟨_, hx⟩ := hs.exists_session ha'
    exact moved_of_still ha' (still_setSession hx hy (fun _ => kept_setValidator hendpoint))
  | @forwarded _ raw _ b y endp v hb hy hendpoint =>
    have hstill {a : Attachment} (ha : s.attachments[j]? = some a) : View.Still (s.view a) ((s.setSession b.session
        ((y.setValidator b.role endp v).setInbox b.role.opposite ((y.inbox b.role.opposite).push raw))).view a) := by
      obtain ⟨_, hx⟩ := hs.exists_session ha
      exact still_setSession hx hy (fun _ => kept_push (kept_setValidator hendpoint) rfl)
    rcases get_set ha' with ⟨rfl, rfl⟩ | ⟨_, hold⟩
    · exact moved_of_still hb (hstill hb)
    · exact moved_of_still hold (hstill hold)
  | called hb hopen => exact moved_setReceiving hb (.called hopen) (fun _ => rfl) ha'
  | checked hb hm hlisted => exact moved_setReceiving hb (.checked hm hlisted) (fun h => by simp at h) ha'
  | took hb hm hy hpop => exact moved_took hs hb hm hy hpop ha'
  | rechecked hb hm => exact moved_setReceiving hb (.rechecked hm) (fun h => by simp at h) ha'
  | dismissed _ hb hm hwhy =>
    refine moved_setReceiving hb (.dismissed hm hwhy) (fun hlonger => ?_) ha'
    exact absurd hlonger (not_lt.mpr (eraseIdx_sublist ..).length_le)
  | @returned _ _ b _ hb hm =>
    rcases get_set ha' with ⟨rfl, rfl⟩ | ⟨_, hold⟩
    · refine .inl ⟨b, hb, .returned hm, fun hlonger => ?_⟩
      exact absurd hlonger (not_lt.mpr (eraseIdx_sublist ..).length_le)
    · exact moved_of_still hold (.refl _)
  | @completed k _ b' _ hb hy _ _ hcore hdone =>
    have hset : (s.attachments.set k b')[j]? = some a' := by
      rw [← attachments_complete]
      exact ha'
    rcases get_set hset with ⟨rfl, rfl⟩ | ⟨_, hold⟩
    · exact moved_of_still hb ((still_complete hy hy).trans (still_attachment hcore hdone))
    · obtain ⟨_, hx⟩ := hs.exists_session hold
      exact moved_of_still hold (still_complete hx hy)

end Service

end PaperboatTunnel.PeerSignaling
