import PaperboatTunnel.PeerSignaling.Reading
import PaperboatTunnel.PeerSignalingProtocol.Validator

/-!
# `Delivery` — what an endpoint receives, and from whom

What the calls of `Receive` on an attachment return was forwarded by one other attachment: the one of the same session
in the other role. A candidate that was named before is accepted by `Send` and not forwarded. And calls of `Receive`
that overlap may return messages out of order, or lose one that is followed by others.
-/

namespace PaperboatTunnel.PeerSignaling

open GoTime TransitionSystem Service List Option Table And

/-- The two attachments of a session. -/
def Attachment.faces (a b : Attachment) : Prop := a.session = b.session ∧ a.role = b.role.opposite

namespace Service

variable {V E : Type} {vs : Validators V E} {s s' s₀ : Service V} {l : Action} {a a' b : Attachment} {j k : Nat}
  {config : Config} {tr : Trace (Service V) Action}

/-! ## Sending -/

/-- The message that `Send` of an attachment accepts, that is, without an error. -/
def accepted (vs : Validators V E) (k : Nat) (t : Transition (Service V) Action) : Option Raw :=
  match t.label with
  | .send j raw cancelled =>
    if j = k ∧ (t.pre.attachments[j]?).any (fun a => (t.pre.send vs j a raw cancelled).2.isNone) then some raw
    else none
  | _ => none

/-- The validator of an attachment takes a message as a new one. -/
def applies (vs : Validators V E) (s : Service V) (a : Attachment) (raw : Raw) : Bool :=
  (s.heap[a.session]?).any (fun x => (x.endpoints.lookup a.role).any (fun endpoint =>
    (vs.accept endpoint.validator raw).2.toOption == some true))

/-- The message that `Send` of an attachment accepts and its validator applies. -/
def applied (vs : Validators V E) (k : Nat) (t : Transition (Service V) Action) : Option Raw :=
  (accepted vs k t).filter (fun raw => (t.pre.attachments[k]?).any (fun a => t.pre.applies vs a raw))

/-- What an attachment has forwarded, nothing if there is none. -/
def forwardedAt (s : Service V) (k : Nat) : List Raw := ((s.attachments.map Attachment.forwarded)[k]?).getD []

theorem forwardedAt_eq (ha : s.attachments[k]? = some a) : s.forwardedAt k = a.forwarded := by
  simp [forwardedAt, ha]

theorem forwardedAt_congr (h : s'.attachments.map Attachment.forwarded = s.attachments.map Attachment.forwarded) :
    s'.forwardedAt k = s.forwardedAt k := by
  unfold forwardedAt
  rw [h]

theorem forwardedAt_ended (h : Ended s l s') : s'.forwardedAt k = s.forwardedAt k := by
  have hmap := congrArg (map Attachment.forwarded) h.attachments
  rw [List.map_map, List.map_map] at hmap
  exact forwardedAt_congr hmap

theorem forwardedAt_snoc (hsnoc : s'.attachments = s.attachments ++ [a]) (hfresh : a.forwarded = []) :
    s'.forwardedAt k = s.forwardedAt k := by
  unfold forwardedAt
  rw [hsnoc, map_append, getElem?_append]
  grind

theorem applied_send (ha : s.attachments[j]? = some a) (raw : Raw) (cancelled : Bool) :
    applied vs k ⟨s, .send j raw cancelled, s'⟩
      = if j = k ∧ (s.send vs j a raw cancelled).2 = none ∧ s.applies vs a raw = true then some raw else none := by
  by_cases hjk : j = k
  · subst hjk
    by_cases hnone : (s.send vs j a raw cancelled).2 = none <;> by_cases happ : s.applies vs a raw = true <;>
      simp [applied, accepted, ha, hnone, happ]
  · simp [applied, accepted, hjk]

theorem forwardedAt_send (ha : s.attachments[j]? = some a) (raw : Raw) (cancelled : Bool) :
    (s.send vs j a raw cancelled).1.forwardedAt k
      = s.forwardedAt k ++ (applied vs k ⟨s, .send j raw cancelled, s'⟩).toList := by
  rw [applied_send ha]
  fun_cases send vs s j a raw cancelled with
  | case6 _ _ x hx _ endpoint hendpoint =>
    have happ : s.applies vs a raw = ((vs.accept endpoint.validator raw).2.toOption == some true) := by
      simp [applies, hx, hendpoint]
    rw [happ]
    fun_cases sendLocked vs s j a x endpoint raw with
    | case4 _ _ _ haccept =>
      change (vs.accept endpoint.validator raw).2 = .ok true at haccept
      obtain ⟨hlt, hget⟩ := List.getElem?_eq_some_iff.mp ha
      by_cases hjk : j = k
      · subst hjk
        simp [forwardedAt, setAttachment, setSession, haccept, Except.toOption, hlt, hget]
      · simp [forwardedAt, setAttachment, setSession, hjk]
    | case3 _ _ _ haccept =>
      change (vs.accept endpoint.validator raw).2 = .ok false at haccept
      simp [forwardedAt, setSession, haccept, Except.toOption]
    | _ => simp [forwardedAt, setSession]
  | _ => simp

/-- **What a step forwards** is what it applies. -/
theorem forwardedAt_step (h : s.step vs l = some s') :
    s'.forwardedAt k = s.forwardedAt k ++ (applied vs k ⟨s, l, s'⟩).toList := by
  by_cases hsend : ∃ j raw cancelled, l = .send j raw cancelled
  · obtain ⟨j, raw, cancelled, rfl⟩ := hsend
    obtain ⟨_, ha, rfl⟩ := map_eq_some_iff.mp h
    exact forwardedAt_send ha raw cancelled
  have hnone : applied vs k ⟨s, l, s'⟩ = none := by
    cases l <;> first | rfl | exact absurd ⟨_, _, _, rfl⟩ hsend
  rw [hnone, toList_none, append_nil]
  cases step_effect h with
  | ended hended => exact forwardedAt_ended hended
  | created hended | joined hended => exact (forwardedAt_snoc rfl rfl).trans (forwardedAt_ended hended)
  | validated | forwarded => exact absurd ⟨_, _, _, rfl⟩ hsend
  | called ha | checked ha | took ha | rechecked ha | dismissed _ ha | returned ha =>
    exact forwardedAt_congr (map_set_of_eq ha rfl)
  | completed ha _ _ _ hcore =>
    apply forwardedAt_congr
    simp only [setAttachment, attachments_complete]
    exact map_set_of_eq ha (Attachment.eq_of_core hcore).2.2.2.1

/-- **What is forwarded** is what was accepted and applied, in order. -/
theorem forwarded_eq_applied (hnew : newService config = some s₀) (hrun : Run (step vs) s₀ tr s) :
    s.forwardedAt k = tr.filterMap (applied vs k) := by
  refine hrun.trace_invariant (I := fun tr s => s.forwardedAt k = tr.filterMap (applied vs k)) ?_ ?_
  · rw [eq_of_newService hnew]
    rfl
  · intro tr s l s' hinv hstep
    rw [forwardedAt_step hstep, hinv, filterMap_append, filterMap_cons, filterMap_nil]
    cases applied vs k ⟨s, l, s'⟩ <;> rfl

theorem applied_sublist_accepted : (tr.filterMap (applied vs k)).Sublist (tr.filterMap (accepted vs k)) := by
  induction tr with
  | nil => exact .slnil
  | cons t tr ih =>
    simp only [filterMap_cons, applied]
    cases accepted vs k t <;> grind

/-- **A refusal for want of room** changes nothing, the validator of the sender included. -/
theorem send_of_capacity {raw : Raw} {cancelled : Bool} (h : (s.send vs j a raw cancelled).2 = some .capacity) :
    (s.send vs j a raw cancelled).1 = s := by
  revert h
  fun_cases send vs s j a raw cancelled with
  | case6 =>
    fun_cases sendLocked with
    | case1 => exact fun _ => rfl
    | _ => intro h; cases h
  | _ => exact fun _ => rfl

/-! ## Receiving -/

/-- `Receive` of the attachment is called only when no other call of it is under way. -/
def sequential (j : Nat) (s : Service V) : Action → Bool
  | .receive j' => j' != j || (s.attachments[j]?).all (fun a => a.receiving.isEmpty)
  | _ => true

def Accounted (s : Service V) : Prop :=
  ∀ (j : Nat) (a : Attachment), s.attachments[j]? = some a → (s.view a).Accounted

def OrderedAt (s : Service V) (j : Nat) : Prop := ∀ a, s.attachments[j]? = some a → (s.view a).Ordered

theorem Accounted.effect (h : s.Accounted) (hs : s.WellWired) (heff : Effect vs s l s') : s'.Accounted := by
  intro j a' ha'
  rcases moved_of_effect hs heff ha' with ⟨a, ha, hread, _⟩ | hfresh
  · exact (h j a ha).read hread
  · exact hfresh.accounted

theorem OrderedAt.effect (h : s.OrderedAt j) (hs : s.WellWired) (heff : Effect vs s l s')
    (halone : sequential j s l) : s'.OrderedAt j := by
  intro a' ha'
  rcases moved_of_effect hs heff ha' with ⟨a, ha, hread, hlonger⟩ | hfresh
  · refine (h a ha).read hread (fun hcalled => ?_)
    -- the list of calls grows by a call of this attachment only
    have hcalled : a'.receiving = a.receiving ++ [.probed] := hcalled
    obtain rfl := hlonger (by rw [hcalled]; simp)
    have hempty : a.receiving.isEmpty = true := by simpa [sequential, ha] using halone
    exact isEmpty_iff.mp hempty
  · exact hfresh.ordered

theorem accounted_of_run (hnew : newService config = some s₀) (hrun : Run (step vs) s₀ tr s) : s.Accounted := by
  have hboth : s.WellWired ∧ s.Accounted := by
    refine hrun.invariant (I := fun s => s.WellWired ∧ s.Accounted) ?_ ⟨wellWired_new hnew, fun j a ha => ?_⟩
    · intro s l s' hs hstep
      exact ⟨hs.1.step hstep, hs.2.effect hs.1 (step_effect hstep)⟩
    · rw [eq_of_newService hnew] at ha
      simp at ha
  exact hboth.2

theorem ordered_of_run (hnew : newService config = some s₀) (hrun : Run (step vs) s₀ tr s)
    (halone : ∀ t ∈ tr, sequential j t.pre t.label = true) : s.OrderedAt j := by
  have hboth : s.WellWired ∧ s.OrderedAt j := by
    refine hrun.invariant_of (I := fun s => s.WellWired ∧ s.OrderedAt j) (C := fun s l => sequential j s l = true)
      ?_ halone ⟨wellWired_new hnew, fun a ha => ?_⟩
    · intro s l s' hl hs hstep
      exact ⟨hs.1.step hstep, hs.2.effect hs.1 (step_effect hstep) hl⟩
    · rw [eq_of_newService hnew] at ha
      simp at ha
  exact hboth.2

/-! ## Delivery -/

/-- What has been taken from the inbox of an attachment, the one facing it has forwarded. -/
theorem WellWired.taken_prefix_forwarded (hs : s.WellWired) (hb : s.attachments[j]? = some b)
    (ha : s.attachments[k]? = some a) (hfaces : a.faces b) : s.taken b <+: a.forwarded := by
  obtain ⟨hsess, hrole⟩ := hfaces
  obtain ⟨x, hx⟩ := hs.exists_session hb
  have hsent : (x.inbox a.role.opposite).sent = a.forwarded :=
    (hs.seated _ _ (getElem?_wires hx)).sent k a.peer (getElem?_peers ha) hsess
  rw [hrole, Role.opposite_opposite (hs.role_valid hb)] at hsent
  rw [← hsent, taken_eq hx]
  exact Channel.taken_prefix_sent

theorem WellWired.taken_eq_nil (hs : s.WellWired) (hb : s.attachments[j]? = some b)
    (hnone : ∀ (k : Nat) (a : Attachment), s.attachments[k]? = some a → ¬ a.faces b) : s.taken b = [] := by
  obtain ⟨x, hx⟩ := hs.exists_session hb
  have hsent : (x.inbox b.role.opposite.opposite).sent = [] := by
    refine (hs.seated _ _ (getElem?_wires hx)).silent b.role.opposite Role.valid_opposite ?_
    intro k p hp hsess hrole
    obtain ⟨a, ha, rfl⟩ := map_eq_some_iff.mp (getElem?_map.symm.trans hp)
    exact hnone k a ha ⟨hsess, hrole⟩
  rw [Role.opposite_opposite (hs.role_valid hb)] at hsent
  exact (taken_eq hx).trans (append_eq_nil_iff.mp hsent).1

/-- **Delivery.** An attachment that has received anything is faced by one attachment, only one, and the two name each
    other. What it has received is part of what that one has forwarded, which is what its `Send` has accepted and its
    validator applied, in order; if its calls of `Receive` do not overlap it is a prefix of that. A message for which
    there is no room changes nothing, so it can be sent again. -/
theorem received_from_peer (hnew : newService config = some s₀) (hrun : Run (step vs) s₀ tr s) :
    (∀ (j : Nat) (b : Attachment), s.attachments[j]? = some b →
      (b.returned ≠ [] → ∃ (k : Nat) (a : Attachment), s.attachments[k]? = some a ∧ a.faces b) ∧
      ∀ (k : Nat) (a : Attachment), s.attachments[k]? = some a → a.faces b →
        (∀ (k' : Nat) (a' : Attachment), s.attachments[k']? = some a' → a'.faces b → k' = k)
        ∧ a.admission.mirrors b.admission = true
        ∧ a.forwarded = tr.filterMap (applied vs k)
        ∧ a.forwarded.Sublist (tr.filterMap (accepted vs k))
        ∧ b.returned.Subperm a.forwarded
        ∧ ((∀ t ∈ tr, sequential j t.pre t.label = true) → b.returned <+: a.forwarded))
    ∧ ∀ (j : Nat) (a : Attachment) (raw : Raw) (cancelled : Bool),
        (s.send vs j a raw cancelled).2 = some .capacity → (s.send vs j a raw cancelled).1 = s := by
  have hs : s.WellWired := (wellWired_new hnew).run hrun
  have hforwarded (k : Nat) (a : Attachment) (ha : s.attachments[k]? = some a) :
      a.forwarded = tr.filterMap (applied vs k) :=
    (forwardedAt_eq ha).symm.trans (forwarded_eq_applied hnew hrun)
  refine ⟨fun j b hb => ?_, fun j a raw cancelled hfull => send_of_capacity hfull⟩
  have haccounted : (b.returned ++ View.held b.receiving).Subperm (s.taken b) := accounted_of_run hnew hrun j b hb
  have htaken : b.returned.Subperm (s.taken b) := (sublist_append_left _ _).subperm.trans haccounted
  refine ⟨fun hne => ?_, fun k a ha hfaces => ⟨?_, ?_, ?_, ?_, ?_, ?_⟩⟩
  · by_contra hnone
    have hnil := hs.taken_eq_nil hb (fun k a ha hfaces => hnone ⟨k, a, ha, hfaces⟩)
    rw [hnil] at htaken
    exact hne (subperm_nil.mp htaken)
  · intro k' a' ha' hfaces'
    exact (hs.matched k' k a'.peer a.peer (getElem?_peers ha') (getElem?_peers ha)
      (hfaces'.1.trans hfaces.1.symm)).1 (hfaces'.2.trans hfaces.2.symm)
  · exact (hs.matched k j a.peer b.peer (getElem?_peers ha) (getElem?_peers hb) hfaces.1).2 hfaces.2
  · exact hforwarded k a ha
  · rw [hforwarded k a ha]
    exact applied_sublist_accepted
  · exact htaken.trans (hs.taken_prefix_forwarded hb ha hfaces).sublist.subperm
  · intro halone
    obtain ⟨_, _, hord, _⟩ := ordered_of_run hnew hrun halone b hb
    exact hord.returned_prefix_taken.trans (hs.taken_prefix_forwarded hb ha hfaces)

/-! ## Messages that are accepted and not delivered -/

open PeerSignalingProtocol in
/-- Four messages of one byte each, the third one a candidate for the second time. -/
def sampleMessage (n : UInt8) : Message where
  schema := schema
  intentID := "intent"
  attemptGeneration := 1
  networkGeneration := 1
  role := .controlling
  sequence := n.toUInt64
  kind := if n = 1 then .credentials else if n = 4 then .ready else .candidate
  ufrag := if n = 1 then "abcd" else ""
  password := if n = 1 then "abcdefghijklmnopqrstuvwxyz" else ""
  candidate := if n = 2 ∨ n = 3 then "candidate" else ""

open PeerSignalingProtocol in
def sampleCodec : Codec where
  decode raw := raw.head?.map sampleMessage
  marshal m := some [m.sequence.toUInt8]
  unmarshalCandidate _ := some ⟨true, "10.0.0.1", .host⟩

open PeerSignalingProtocol in
def sampleValidators : Validators Validator Error := factory sampleCodec

def sampleSends (messages : List Raw) : List Action :=
  [attachSample "first" .controlling, attachSample "second" .controlled] ++ messages.map (fun raw => .send 0 raw false)

def sampleReceive : List Action := [.receive 1, .check 1 0, .take 1 0, .recheck 1 0, .finish 1 0]

/-- All messages are sent, and three of them arrive. -/
def sampleRepeated : List Action :=
  sampleSends [[1], [2], [3], [4]] ++ sampleReceive ++ sampleReceive ++ sampleReceive

/-- The first call takes a message, the second one takes and returns the next, and the session ends. -/
def sampleOverlap : List Action :=
  sampleSends [[1], [2]] ++ [.receive 1, .check 1 0, .take 1 0, .receive 1, .check 1 1, .take 1 1, .recheck 1 1,
    .finish 1 1, .beginEnd 0 false, .unlink 0, .signalDone 0, .recheck 1 0]

open PeerSignalingProtocol in
def sampleService : Service Validator := { config := sampleConfig.withDefaults }

theorem sample_run (labels : List Action) {p : Attachment → Attachment → Bool}
    (h : (exec (step sampleValidators) sampleService labels).any (fun s =>
      (s.attachments[0]?).any (fun a => (s.attachments[1]?).any (fun b => p a b))) = true) :
    ∃ s a b, Run (step sampleValidators) sampleService (trace (step sampleValidators) sampleService labels) s
      ∧ s.attachments[0]? = some a ∧ s.attachments[1]? = some b ∧ p a b = true := by
  obtain ⟨s, hs, h⟩ := (any_eq_true _ _).mp h
  obtain ⟨a, ha, h⟩ := (any_eq_true _ _).mp h
  obtain ⟨b, hb, h⟩ := (any_eq_true _ _).mp h
  exact ⟨s, a, b, exec_run hs, ha, hb, h⟩

open PeerSignalingProtocol in
/-- With a repeated candidate, the messages received are a prefix of those forwarded. -/
theorem received_from_peer_repeated :
    ∃ (s₀ s : Service Validator) (tr : Trace (Service Validator) Action) (a b : Attachment),
      newService sampleConfig = some s₀ ∧ Run (step sampleValidators) s₀ tr s
      ∧ s.attachments[0]? = some a ∧ s.attachments[1]? = some b ∧ b.returned = [[1], [2], [4]]
      ∧ b.returned <+: a.forwarded := by
  have hnew : newService sampleConfig = some sampleService := rfl
  obtain ⟨s, a, b, hrun, ha, hb, h⟩ := sample_run sampleRepeated
    (p := fun a b => decide (a.session = b.session ∧ a.role = b.role.opposite ∧ b.returned = [[1], [2], [4]]))
    (by decide +kernel)
  obtain ⟨hsess, hrole, hreturned⟩ := of_decide_eq_true h
  have hpeer := ((received_from_peer hnew hrun).1 1 b hb).2 0 a ha ⟨hsess, hrole⟩
  exact ⟨sampleService, s, _, a, b, hnew, hrun, ha, hb, hreturned, hpeer.2.2.2.2.2 (by decide +kernel)⟩

open PeerSignalingProtocol in
/-- A run in which the second attachment has received the first list, the one facing it has sent the second list, and
    the first list is not a prefix of the second. -/
def Misdelivered (received sent : List Raw) : Prop :=
  ∃ (s₀ s : Service Validator) (tr : Trace (Service Validator) Action) (a b : Attachment),
    newService sampleConfig = some s₀ ∧ Run (step sampleValidators) s₀ tr s
    ∧ s.attachments[0]? = some a ∧ s.attachments[1]? = some b ∧ a.faces b ∧ b.returned = received
    ∧ tr.filterMap (accepted sampleValidators 0) = sent ∧ ¬ received <+: sent

theorem misdelivered_of_exec (labels : List Action) {received sent : List Raw}
    (h : (exec (step sampleValidators) sampleService labels).any (fun s =>
      (s.attachments[0]?).any (fun a => (s.attachments[1]?).any (fun b =>
        decide (a.session = b.session ∧ a.role = b.role.opposite ∧ b.returned = received)))) = true)
    (hsent : (trace (step sampleValidators) sampleService labels).filterMap (accepted sampleValidators 0) = sent)
    (hnot : ¬ received <+: sent) : Misdelivered received sent := by
  obtain ⟨s, a, b, hrun, ha, hb, h⟩ := sample_run labels h
  obtain ⟨hsess, hrole, hreturned⟩ := of_decide_eq_true h
  exact ⟨sampleService, s, _, a, b, rfl, hrun, ha, hb, ⟨hsess, hrole⟩, hreturned, hsent, hnot⟩

/-- **What is received is not a prefix of what was sent** when a candidate is repeated, or when calls of `Receive`
    overlap and the session ends. -/
theorem received_not_prefix_sent :
    Misdelivered [[1], [2], [4]] [[1], [2], [3], [4]] ∧ Misdelivered [[2]] [[1], [2]] := by
  constructor
  · exact misdelivered_of_exec sampleRepeated (by decide +kernel) (by decide +kernel) (by decide)
  · exact misdelivered_of_exec sampleOverlap (by decide +kernel) (by decide +kernel) (by decide)

end Service

end PaperboatTunnel.PeerSignaling
