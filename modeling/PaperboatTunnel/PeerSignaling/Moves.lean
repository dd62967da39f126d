import PaperboatTunnel.PeerSignaling.Service

/-!
# `Moves` — what a step does

`Effect` lists what a step can do to the service, with what it has found before. Steps that only end something, that
is, close `done` channels, take sessions out of the table or release admissions, are one case (`Ended`).
-/

namespace PaperboatTunnel.PeerSignaling

open GoTime TransitionSystem List Option Table GoMap Bool Int

/-! ## Roles -/

namespace Role

variable {role role' : Role}

theorem valid_opposite : role.opposite.valid = true := by
  cases role <;> rfl

variable (h : role.valid = true)

include h

theorem opposite_opposite : role.opposite.opposite = role := by
  cases role with
  | controlling | controlled => rfl
  | other => cases h

theorem opposite_ne : role.opposite ≠ role := by
  cases role with
  | controlling | controlled => nofun
  | other => cases h

theorem eq_or_eq_opposite (h' : role'.valid) : role' = role ∨ role' = role.opposite := by
  cases role <;> cases role' <;> simp [valid, opposite] at h h' ⊢

theorem opposite_inj (h' : role'.valid) (heq : role.opposite = role'.opposite) : role = role' := by
  rw [← opposite_opposite h, ← opposite_opposite h', heq]

end Role

theorem Admission.mirrors_comm {a b : Admission} : a.mirrors b = true ↔ b.mirrors a = true := by
  simp only [mirrors, and_eq_true, beq_iff_eq]
  constructor <;> rintro ⟨h, h'⟩ <;> exact ⟨h'.symm, h.symm⟩

variable {now : Time}

theorem role_valid_of_validAdmission {a : Admission} (h : validAdmission a now) : a.role.valid = true := by
  simp only [validAdmission, and_eq_true] at h
  exact h.1.1.2

/-- The reading of the clock by which a call expires things. -/
def Action.reading : Action → Option Time
  | .attach _ _ now => some now
  | _ => none

/-- The session without its `done` channel. -/
def Session.core {V : Type} (x : Session V) : Session V := { x with done := false }

/-- The attachment without what its end and its `watch` have changed. -/
def Attachment.core (a : Attachment) : Attachment := { a with done := false, ending := .not, watching := true }

theorem Session.eq_of_core {V : Type} {x x' : Session V} (h : x'.core = x.core) :
    x'.key = x.key ∧ x'.endpoints = x.endpoints ∧ x'.inbox = x.inbox := by
  obtain ⟨hkey, hendpoints, _, hinbox, _⟩ := Session.mk.inj h
  exact ⟨hkey, hendpoints, hinbox⟩

theorem Attachment.eq_of_core {a a' : Attachment} (h : a'.core = a.core) :
    a'.session = a.session ∧ a'.role = a.role ∧ a'.receiving = a.receiving ∧ a'.forwarded = a.forwarded
      ∧ a'.returned = a.returned := by
  obtain ⟨hsess, hrole, _, _, _, _, _, hreceiving, hforwarded, hreturned⟩ := Attachment.mk.inj h
  exact ⟨hsess, hrole, hreceiving, hforwarded, hreturned⟩

theorem ReleaseOnce.run_run (r : ReleaseOnce) : r.run.run = r.run := by
  unfold run
  split <;> simp_all

namespace Service

variable {V E : Type} {vs : Validators V E} {s s' : Service V} {l : Action}

/-- **Something has ended**: `done` channels are closed, sessions and consumed credentials leave their tables, and
    release functions are called. -/
structure Ended (s : Service V) (l : Action) (s' : Service V) : Prop where
  config : s'.config = s.config
  sessions : ∀ k i, s'.sessions.lookup k = some i → s.sessions.lookup k = some i
  consumed : ∀ c t, s'.consumed.lookup c = some t → s.consumed.lookup c = some t
  expired : ∀ c t, s.consumed.lookup c = some t → s'.consumed.lookup c = some t ∨ s'.closed = true
    ∨ ∃ now, l.reading = some now ∧ t.after now = false
  closed : s.closed = true → s'.closed = true
  heap : s'.heap.map Session.core = s.heap.map Session.core
  done : ∀ (i : Nat) (x x' : Session V), s.heap[i]? = some x → s'.heap[i]? = some x' → x.done = true → x'.done = true
  attachments : s'.attachments.map Attachment.core = s.attachments.map Attachment.core
  ended : ∀ (j : Nat) (a a' : Attachment), s.attachments[j]? = some a → s'.attachments[j]? = some a' →
    a.done = true → a'.done = true
  releases : ∀ r' ∈ s'.releases, ∃ r ∈ ({} : ReleaseOnce) :: s.releases, r' = r ∨ r' = r.run

theorem Ended.refl (s : Service V) (l : Action) : Ended s l s where
  config := rfl
  sessions _ _ h := h
  consumed _ _ h := h
  expired _ _ h := .inl h
  closed h := h
  heap := rfl
  done i x x' hx hx' h := by
    rw [mem_unique hx' hx]
    exact h
  attachments := rfl
  ended j a a' ha ha' h := by
    rw [mem_unique ha' ha]
    exact h
  releases r' hr' := ⟨r', mem_cons_of_mem _ hr', .inl rfl⟩

theorem Ended.session (h : Ended s l s') {i : Nat} {x : Session V} (hx : s'.heap[i]? = some x) {done : Bool}
    (hdone : x.done = true → done = true) : Ended s l (s'.setSession i { x with done := done }) :=
  { h with
    heap := by
      rw [← h.heap]
      exact map_set_of_eq hx rfl
    done := by
      intro k y y' hy hy' hcl
      rcases get_set hy' with ⟨rfl, rfl⟩ | ⟨_, hold⟩
      · exact hdone (h.done k y x hy hx hcl)
      · exact h.done k y y' hy hold hcl }

theorem Ended.attachment (h : Ended s l s') {j : Nat} {a a' : Attachment} (ha : s'.attachments[j]? = some a)
    (hcore : a'.core = a.core) (hdone : a.done = true → a'.done = true) : Ended s l (s'.setAttachment j a') :=
  { h with
    attachments := by
      rw [← h.attachments]
      exact map_set_of_eq ha hcore
    ended := by
      intro k b b' hb hb' hcl
      rcases get_set hb' with ⟨rfl, rfl⟩ | ⟨_, hold⟩
      · exact hdone (h.ended k b a hb ha hcl)
      · exact h.ended k b b' hb hold hcl }

theorem Ended.release (h : Ended s l s') (n : Nat) : Ended s l (s'.releaseOwned n) :=
  { h with
    releases := by
      intro r' hr'
      obtain ⟨m, hm⟩ := mem_iff_getElem?.mp hr'
      rw [releaseOwned, getElem?_modify] at hm
      obtain ⟨r₁, hr₁, rfl⟩ := map_eq_some_iff.mp hm
      obtain ⟨r, hr, heq⟩ := h.releases r₁ (mem_of_getElem? hr₁)
      refine ⟨r, hr, ?_⟩
      split
      · rcases heq with rfl | rfl
        · exact .inr rfl
        · exact .inr r.run_run
      · exact heq }

/-- The call has its admission. -/
def admitted (s : Service V) : Service V := { s with releases := s.releases ++ [{}] }

theorem ended_admitted (s : Service V) (l : Action) : Ended s l s.admitted := { Ended.refl s l with
    releases := by
      intro r' hr'
      rcases mem_append.mp hr' with hold | hnew
      · exact ⟨r', mem_cons_of_mem _ hold, .inl rfl⟩
      · exact ⟨{}, mem_cons_self, .inl (mem_singleton.mp hnew)⟩ }

theorem Ended.removeExpiredLocked (h : Ended s l s') (hreading : l.reading = some now) :
    Ended s l (s'.removeExpiredLocked now) :=
  { h with
    sessions := by
      intro k i hk
      exact h.sessions k i (filter_eq_some_iff.mp (lookup_filter.symm.trans hk)).1
    consumed := by
      intro c t hc
      exact h.consumed c t (filter_eq_some_iff.mp (lookup_filter.symm.trans hc)).1
    expired := by
      intro c t hc
      rcases h.expired c t hc with hkept | hrest
      · cases hafter : t.after now with
        | false => exact .inr (.inr ⟨now, hreading, hafter⟩)
        | true => exact .inl (lookup_filter.trans (filter_eq_some_iff.mpr ⟨hkept, hafter⟩))
      · exact .inr hrest
    heap := by
      rw [← h.heap]
      apply ext_getElem?
      intro i
      simp only [Service.removeExpiredLocked, List.getElem?_map, List.getElem?_mapIdx, Option.map_map]
      apply Option.map_congr
      intro x _
      dsimp only [Function.comp]
      split <;> rfl
    done := by
      intro i x x' hx hx' hdone
      simp only [Service.removeExpiredLocked, getElem?_mapIdx] at hx'
      obtain ⟨y, hy, rfl⟩ := map_eq_some_iff.mp hx'
      split
      · rfl
      · exact h.done i x y hx hy hdone }

/-! ## Effects -/

/-- The credential with which an endpoint attaches by this step. -/
def attached (vs : Validators V E) (s : Service V) : Action → Option String
  | .attach credential (some a) now =>
    if (s.attach vs credential (some a) now).2.isNone then some a.credentialID else none
  | _ => none

variable (vs : Validators V E) (s : Service V) in
/-- **What a step can do.** -/
inductive Effect : Action → Service V → Prop where
  | ended {l : Action} {s'} (h : Ended s l s') (hnot : attached vs s l = none) : Effect l s'
  | created {credential a now v n r}
      (hended : Ended s (.attach credential (some a) now) r) (hvalid : validAdmission a now = true)
      (hopen : r.closed = false) (hunused : r.consumed.lookup a.credentialID = none)
      (hconsumed : r.consumed.entries.length < r.config.maximumConsumed)
      (hnone : r.sessions.lookup a.sessionKey = none) (hsessions : r.sessions.entries.length < r.config.maximumSessions) :
      Effect (.attach credential (some a) now)
        ((r.create a.sessionKey).join a v n r.heap.length { key := a.sessionKey })
  | joined {credential a now v n i r x}
      (hended : Ended s (.attach credential (some a) now) r) (hvalid : validAdmission a now = true)
      (hopen : r.closed = false) (hunused : r.consumed.lookup a.credentialID = none)
      (hconsumed : r.consumed.entries.length < r.config.maximumConsumed)
      (hsome : r.sessions.lookup a.sessionKey = some i) (hx : r.heap[i]? = some x) (hrefuses : x.refuses a = false) :
      Effect (.attach credential (some a) now) (r.join a v n i x)
  | validated {j raw cancelled} {a : Attachment} {x endpoint v}
      (hx : s.heap[a.session]? = some x) (hendpoint : x.endpoints.lookup a.role = some endpoint) :
      Effect (.send j raw cancelled) (s.setSession a.session (x.setValidator a.role endpoint v))
  | forwarded {j raw cancelled a x endpoint v} (ha : s.attachments[j]? = some a) (hx : s.heap[a.session]? = some x)
      (hendpoint : x.endpoints.lookup a.role = some endpoint) (haccept : (s.send vs j a raw cancelled).2 = none) :
      Effect (.send j raw cancelled)
        ((s.setSession a.session ((x.setValidator a.role endpoint v).setInbox a.role.opposite
            ((x.inbox a.role.opposite).push raw))).setAttachment j { a with forwarded := a.forwarded ++ [raw] })
  | called {j a} (ha : s.attachments[j]? = some a) (hopen : s.channelsOpen a = true) :
      Effect (.receive j) (s.setReceiving j a (a.receiving ++ [.probed]))
  | checked {j k a} (ha : s.attachments[j]? = some a) (hk : a.receiving[k]? = some .probed)
      (hlisted : s.listed a = true) : Effect (.check j k) (s.setReceiving j a (a.receiving.set k .selecting))
  | took {j k a x raw c}
      (ha : s.attachments[j]? = some a) (hk : a.receiving[k]? = some .selecting) (hx : s.heap[a.session]? = some x)
      (hpop : (x.inbox a.role).pop = some (raw, c)) :
      Effect (.take j k)
        ((s.setSession a.session (x.setInbox a.role c)).setReceiving j a (a.receiving.set k (.took raw)))
  | rechecked {j k a raw} (ha : s.attachments[j]? = some a) (hk : a.receiving[k]? = some (.took raw)) :
      Effect (.recheck j k) (s.setReceiving j a (a.receiving.set k (.reprobed raw)))
  | dismissed {l j k a call} (hnot : attached vs s l = none)
      (ha : s.attachments[j]? = some a) (hk : a.receiving[k]? = some call)
      (hwhy : call.held.isSome = true → s.channelsOpen a = false ∨ s.listed a = false) :
      Effect l (s.setReceiving j a (a.receiving.eraseIdx k))
  | returned {j k a raw} (ha : s.attachments[j]? = some a)
      (hk : a.receiving[k]? = some (.reprobed raw)) (hlisted : s.listed a = true) :
      Effect (.finish j k)
        (s.setAttachment j { a with receiving := a.receiving.eraseIdx k, returned := a.returned ++ [raw] })
  | completed {j a a' x} (ha : s.attachments[j]? = some a)
      (hx : s.heap[a.session]? = some x) (hsome : s.sessions.lookup x.key = some a.session)
      (hendpoint : x.endpoints.lookup a.role ≠ none) (hcore : a'.core = a.core) (hdone : a.done = true → a'.done = true) :
      Effect (.unlink j) ((s.complete a.session x a.role).1.setAttachment j a')

theorem enter_cases (vs : Validators V E) (s : Service V) (cred : String) (a : Admission) (now : Time) :
    (∃ e, (enter vs s.admitted a s.releases.length now).2 = some e) ∧
        ((enter vs s.admitted a s.releases.length now).1 = s.admitted
          ∨ (enter vs s.admitted a s.releases.length now).1 = s.admitted.removeExpiredLocked now)
      ∨ (enter vs s.admitted a s.releases.length now).2 = none ∧
        Effect vs s (.attach cred (some a) now) (enter vs s.admitted a s.releases.length now).1 := by
  have hbase : Ended s (.attach cred (some a) now) (s.admitted.removeExpiredLocked now) :=
    (ended_admitted s _).removeExpiredLocked rfl
  fun_cases enter vs s.admitted a s.releases.length now with
  | case4 hval v _ hcl =>
    rw [not_eq_true, not_eq_false'] at hval
    have hopen : (s.admitted.removeExpiredLocked now).closed = false := eq_false_iff.mpr hcl
    fun_cases enterLocked with
    | case4 hunused hcons hnone hsessions =>
      exact .inr ⟨rfl, .created hbase hval hopen (not_isSome_iff_eq_none.mp hunused) (not_le.mp hcons) hnone
        (not_le.mp hsessions)⟩
    | case7 hunused hcons i hsome x hx hrefs =>
      exact .inr ⟨rfl, .joined hbase hval hopen (not_isSome_iff_eq_none.mp hunused) (not_le.mp hcons) hsome hx
        (eq_false_iff.mpr hrefs)⟩
    | _ => exact .inl ⟨⟨_, rfl⟩, .inr rfl⟩
  | _ => exact .inl ⟨⟨_, rfl⟩, .inl rfl⟩

theorem attach_effect {cred : String} {auth : Option Admission} :
    Effect vs s (.attach cred auth now) (s.attach vs cred auth now).1 := by
  have hrefused {r : Service V} {e : SignalingError E} (hattach : s.attach vs cred auth now = (r, some e))
      (hend : Ended s (.attach cred auth now) r) :
      Effect vs s (.attach cred auth now) (s.attach vs cred auth now).1 := by
    rw [hattach]
    refine .ended hend ?_
    cases auth with
    | none => rfl
    | some => simp [attached, hattach]
  by_cases hcredential : cred = "" ∨ maximumCredentialBytes < cred.utf8ByteSize
  · exact hrefused (if_pos hcredential) (.refl s _)
  cases auth with
  | none => exact hrefused (if_neg hcredential) (.refl s _)
  | some a =>
    rcases enter_cases vs s cred a now with ⟨⟨e, he⟩, hsame⟩ | ⟨hnone, heff⟩
    · -- the admission is released
      have hattach : s.attach vs cred (some a) now
          = ((enter vs s.admitted a s.releases.length now).1.releaseOwned s.releases.length, some e) := by
        unfold attach
        rw [if_neg hcredential]
        simp only [Service.admitted] at he ⊢
        rw [he]
      have hadmitted := ended_admitted s (.attach cred (some a) now)
      refine hrefused hattach (Ended.release ?_ _)
      rcases hsame with heq | heq
      · rw [heq]
        exact hadmitted
      · rw [heq]
        exact hadmitted.removeExpiredLocked rfl
    · have hattach : s.attach vs cred (some a) now = enter vs s.admitted a s.releases.length now := by
        unfold attach
        rw [if_neg hcredential]
        simp only [Service.admitted] at hnone ⊢
        rw [hnone]
      rw [hattach]
      exact heff

theorem send_effect {j : Nat} {a : Attachment} {raw : Raw} {cancelled : Bool} (ha : s.attachments[j]? = some a) :
    Effect vs s (.send j raw cancelled) (s.send vs j a raw cancelled).1 := by
  fun_cases send vs s j a raw cancelled with
  | case6 hsize hlive x hx hlisted endp hendpoint =>
    fun_cases sendLocked with
    | case1 => exact .ended (.refl s _) rfl
    | case4 hroom _ _ hok =>
      have hverdict : (vs.accept endp.validator raw).2 = .ok true := hok
      refine .forwarded ha hx hendpoint ?_
      rw [send, if_neg hsize, if_neg hlive]
      simp only [hx, if_neg hlisted, hendpoint, sendLocked, if_neg hroom, hverdict]
    | _ => exact .validated hx hendpoint
  | _ => exact .ended (.refl s _) rfl

theorem ended_terminate (s : Service V) (l : Action) (i : Nat) (x : Session V) : Ended s l (s.terminate i x) :=
  { Ended.refl s l with
    sessions := by
      intro k i' hk
      unfold terminate at hk
      split at hk
      · exact (lookup_of_erase hk).2
      · exact hk }

theorem ended_close (s : Service V) (l : Action) : Ended s l s.close := by
  unfold close
  split
  · exact .refl s l
  exact { Ended.refl s l with
      sessions := fun _ _ hk => by simp at hk
      consumed := fun _ _ hc => by simp at hc
      expired := fun _ _ _ => .inr (.inl rfl)
      closed := fun _ => rfl }

theorem receive_effect (h : s.step vs (.receive j) = some s') : Effect vs s (.receive j) s' := by
  obtain ⟨_, ha, rfl⟩ := map_eq_some_iff.mp h
  split
  case isTrue hopen => exact .called ha hopen
  case isFalse => exact .ended (.refl s _) rfl

theorem check_effect (h : s.step vs (.check j k) = some s') : Effect vs s (.check j k) s' := by
  obtain ⟨_, ha, hk, rfl⟩ := of_guarded_row h
  split
  case isTrue hlisted => exact .checked ha hk hlisted
  case isFalse => exact .dismissed rfl ha hk nofun

theorem take_effect (h : s.step vs (.take j k) = some s') : Effect vs s (.take j k) s' := by
  obtain ⟨_, ha, h⟩ := bind_eq_some_iff.mp h
  obtain ⟨hk, h⟩ := ite_none_right_eq_some.mp h
  obtain ⟨_, hx, h⟩ := bind_eq_some_iff.mp h
  obtain ⟨⟨_, _⟩, hpop, rfl⟩ := map_eq_some_iff.mp h
  exact .took ha hk hx hpop

theorem recheck_effect (h : s.step vs (.recheck j k) = some s') : Effect vs s (.recheck j k) s' := by
  obtain ⟨_, ha, h⟩ := bind_eq_some_iff.mp h
  split at h
  case h_2 => cases h
  next hk =>
  cases h
  split
  case isTrue => exact .rechecked ha hk
  case isFalse hopen => exact .dismissed rfl ha hk (fun _ => .inl (eq_false_iff.mpr hopen))

theorem finish_effect (h : s.step vs (.finish j k) = some s') : Effect vs s (.finish j k) s' := by
  obtain ⟨_, ha, h⟩ := bind_eq_some_iff.mp h
  split at h
  case h_2 => cases h
  next hk =>
  cases h
  split
  case isTrue hlisted => exact .returned ha hk hlisted
  case isFalse hlisted => exact .dismissed rfl ha hk (fun _ => .inr (eq_false_iff.mpr hlisted))

theorem unlink_effect (h : s.step vs (.unlink j) = some s') : Effect vs s (.unlink j) s' := by
  obtain ⟨a, ha, h⟩ := bind_eq_some_iff.mp h
  obtain ⟨x, hx, h⟩ := bind_eq_some_iff.mp h
  split at h
  case h_1 =>
    cases h
    exact .ended ((ended_terminate s _ a.session x).attachment ha rfl id) rfl
  case h_2 =>
    cases h
    by_cases hpass : s.sessions.lookup x.key ≠ some a.session ∨ x.endpoints.lookup a.role = none
    · rw [complete, if_pos hpass]
      exact .ended ((Ended.refl s _).attachment ha rfl id) rfl
    · obtain ⟨hsome, hendpoint⟩ := not_or.mp hpass
      exact .completed ha hx (not_not.mp hsome) hendpoint rfl id
  case h_3 => cases h

theorem signalDone_effect (h : s.step vs (.signalDone j) = some s') : Effect vs s (.signalDone j) s' := by
  obtain ⟨_, ha, h⟩ := bind_eq_some_iff.mp h
  obtain ⟨x, hx, h⟩ := bind_eq_some_iff.mp h
  split at h
  case h_2 => cases h
  next finished _ =>
  cases h
  have hdone : x.done = true → (x.done || finished) = true := by
    intro hdone
    simp [hdone]
  exact .ended (((Ended.refl s _).session hx hdone).attachment ha rfl id) rfl

/-- **Every step has one of the effects.** -/
theorem step_effect (h : s.step vs l = some s') : Effect vs s l s' := by
  cases l with
  | attach =>
    cases h
    exact attach_effect
  | send =>
    obtain ⟨_, ha, rfl⟩ := map_eq_some_iff.mp h
    exact send_effect ha
  | receive => exact receive_effect h
  | check => exact check_effect h
  | take => exact take_effect h
  | leave =>
    obtain ⟨_, ha, ⟨hk, _⟩, rfl⟩ := of_guarded_row h
    exact .dismissed rfl ha hk nofun
  | recheck => exact recheck_effect h
  | finish => exact finish_effect h
  | beginEnd =>
    obtain ⟨_, ha, rfl⟩ := map_eq_some_iff.mp h
    split
    case isTrue => exact .ended ((Ended.refl s _).attachment ha rfl (fun _ => rfl)) rfl
    case isFalse => exact .ended (.refl s _) rfl
  | unlink => exact unlink_effect h
  | signalDone => exact signalDone_effect h
  | release | watched =>
    obtain ⟨a, ha, _, rfl⟩ := of_guarded_row h
    refine .ended (Ended.release ?_ _) rfl
    exact (Ended.refl s _).attachment ha rfl id
  | close =>
    cases h
    exact .ended (ended_close s _) rfl
  | closeDone =>
    obtain ⟨_, hx, _, rfl⟩ := of_guarded_row h
    exact .ended ((Ended.refl s _).session hx (fun _ => rfl)) rfl

end Service

end PaperboatTunnel.PeerSignaling
