import PaperboatTunnel.Route.Correctness.RegistrySafety

/-!
# `StreamLeases` — streams are counted per generation, also after it was replaced

A stream counts against the object it was acquired on, whichever generation is active when it ends. `Accounts` is the
invariant: the count of an object is the number of its leases that are not closed, and an object whose channel is
closed, or about to be closed, is retired and without live leases.
-/

namespace PaperboatTunnel.Route

open TransitionSystem Memory Table List Option

variable {lease : StreamLease}

namespace Memory

def live (m : Memory) (k : Nat) : Nat := m.leases.countP (fun lease => lease.state == k && !lease.closed)

/-- The object was replaced or discarded. -/
structure Retired (m : Memory) (k : Nat) : Prop where
  made : k < m.objects.length
  notActive : m.active ≠ some k
  notPending : m.pending ≠ some k

structure Row (m : Memory) (k : Nat) (o : GenerationObject) : Prop where
  accepting : o.accepting = true ↔ m.active = some k
  streams : o.streams = m.live k
  bound : o.streams ≤ m.maximumStreams
  drained : o.drained = true → m.closed = false → m.Retired k ∧ o.streams = 0

/-- The accounts of a registry with this maximum. -/
structure Accounts (maximum : Nat) (m : Memory) : Prop where
  wired : m.Wired
  maximum : m.maximumStreams = maximum
  rows : ∀ k o, m.objects[k]? = some o → m.Row k o
  leases : ∀ (l : Nat) (lease : StreamLease), m.leases[l]? = some lease →
    lease.state < m.objects.length ∧ m.pending ≠ some lease.state

variable {lim : Nat} {m m' : Memory} {k : Nat} {o : GenerationObject} {o' : GenerationObject}

/-! ## Changes that the accounts do not see -/

/-- Only flags of objects change that the accounts do not read. -/
structure Quiet (m m' : Memory) : Prop where
  frame : Frame m m'
  rows : ∀ (k : Nat) (o' : GenerationObject), m'.objects[k]? = some o' →
    ∃ o : GenerationObject, m.objects[k]? = some o
    ∧ o'.accepting = o.accepting ∧ o'.streams = o.streams ∧ o'.drained = o.drained

/-- What the accounts read of an object. -/
def accountsOf (o : GenerationObject) : Bool × Nat × Bool := (o.accepting, o.streams, o.drained)

theorem Calm.quiet (h : Calm accountsOf m m') : Quiet m m' := by
  refine ⟨h.frame, fun k o' ho' => ?_⟩
  obtain ⟨o, ho, hsame⟩ := h.agree.row ho'
  exact ⟨o, ho, by simpa [accountsOf] using hsame⟩

theorem quiet_cancel : Quiet m (m.cancel k) := (calm_cancel (fun _ => rfl)).quiet

theorem quiet_cancelPending : Quiet m m.cancelPending := (calm_cancelPending (fun _ => rfl)).quiet

theorem Retired.carry (h : Retired m k) (hlen : m'.objects.length = m.objects.length)
    (hact : m'.active = m.active) (hpend : m'.pending = m.pending) : Retired m' k := by
  obtain ⟨hmade, hnot, hnot'⟩ := h
  rw [← hlen] at hmade
  rw [← hact] at hnot
  rw [← hpend] at hnot'
  exact ⟨hmade, hnot, hnot'⟩

theorem Retired.frame (h : Retired m k) (hf : Frame m m') : Retired m' k := h.carry hf.length hf.active hf.pending

theorem live_frame (hf : Frame m m') : m'.live k = m.live k := by
  unfold live
  rw [hf.leases]

/-- **The accounts of an object** stay when the memory around it changes, as long as it is active if it was, has as many
    live leases, and stays retired. -/
theorem Row.carry (h : m.Row k o)
    (hsame : o'.accepting = o.accepting ∧ o'.streams = o.streams ∧ o'.drained = o.drained)
    (hact : m'.active = some k ↔ m.active = some k) (hlive : m'.live k = m.live k)
    (hmax : m'.maximumStreams = m.maximumStreams)
    (hret : m'.closed = false → m.closed = false ∧ (m.Retired k → m'.Retired k)) : m'.Row k o' := by
  obtain ⟨haccepting, hstreams, hdrained⟩ := hsame
  refine ⟨?_, ?_, ?_, ?_⟩
  · rw [haccepting, hact]
    exact h.accepting
  · rw [hstreams, hlive]
    exact h.streams
  · rw [hstreams, hmax]
    exact h.bound
  intro hd hopen
  obtain ⟨hopen, hkept⟩ := hret hopen
  rw [hdrained] at hd
  obtain ⟨hold, hzero⟩ := h.drained hd hopen
  exact ⟨hkept hold, hstreams.trans hzero⟩

theorem Row.frame (h : m.Row k o) (hf : Frame m m')
    (hsame : o'.accepting = o.accepting ∧ o'.streams = o.streams ∧ o'.drained = o.drained) : m'.Row k o' := by
  refine h.carry hsame (by rw [hf.active]) (live_frame hf) hf.streams (fun hopen => ⟨?_, fun hk => hk.frame hf⟩)
  rw [← hf.closed]
  exact hopen

variable (h : Accounts lim m)

include h

theorem Accounts.frame (hf : Frame m m') (hrows : ∀ k o, m'.objects[k]? = some o → m'.Row k o) : Accounts lim m' := by
  refine ⟨h.wired.of_frame hf, hf.streams.trans h.maximum, hrows, fun l lease hl => ?_⟩
  rw [hf.leases] at hl
  rw [hf.length, hf.pending]
  exact h.leases l lease hl

theorem Accounts.quiet (hq : Quiet m m') : Accounts lim m' := by
  refine h.frame hq.frame (fun k o' ho' => ?_)
  obtain ⟨o, ho, hsame⟩ := hq.rows k o' ho'
  exact (h.rows k o ho).frame hq.frame hsame

theorem Accounts.leased {l : Nat} (hl : m.leases[l]? = some lease) : ∃ o, m.objects[lease.state]? = some o :=
  ⟨_, getElem?_eq_getElem (h.leases l lease hl).1⟩

/-! ## Staging and discarding -/

theorem Accounts.live_new : m.live m.objects.length = 0 := by
  unfold live
  rw [countP_eq_zero]
  intro lease hlease
  obtain ⟨l, hl⟩ := mem_iff_getElem?.mp hlease
  have hlt := (h.leases l lease hl).1
  have hne : ¬ lease.state = m.objects.length := by omega
  simp [hne]

theorem Accounts.add {generation : UInt64} {rules : List RouteRule} : Accounts lim (m.add { generation, rules }) := by
  have hlen : (m.add { generation, rules }).objects.length = m.objects.length + 1 := by simp [Memory.add]
  refine ⟨h.wired.add, h.maximum, forall_snoc (fun k o ho => ?_) ?_, ?_⟩
  · have hlt := lt_of_get ho
    refine (h.rows k o ho).carry ⟨rfl, rfl, rfl⟩ Iff.rfl rfl rfl (fun hopen => ⟨hopen, fun hk => ?_⟩)
    refine ⟨by omega, hk.notActive, fun heq => ?_⟩
    have : m.objects.length = k := some.inj heq
    omega
  · -- the new object: no stream, and not the active one
    refine ⟨⟨fun hfalse => ?_, fun hact => ?_⟩, h.live_new.symm, Nat.zero_le _, fun hfalse => ?_⟩
    case refine_1 | refine_3 => cases hfalse
    have hlt : m.objects.length < m.objects.length := h.wired.active _ hact
    exact absurd hlt (Nat.lt_irrefl _)
  · intro l lease hl
    have hlt := (h.leases l lease hl).1
    refine ⟨by omega, ?_⟩
    intro heq
    have : m.objects.length = lease.state := some.inj heq
    omega

theorem Accounts.drop : Accounts lim m.drop := by
  refine ⟨h.wired.drop, h.maximum, ?_, ?_⟩
  · intro k o ho
    exact (h.rows k o ho).carry ⟨rfl, rfl, rfl⟩ Iff.rfl rfl rfl
      (fun hopen => ⟨hopen, fun hk => ⟨hk.made, hk.notActive, nofun⟩⟩)
  · intro l lease hl
    exact ⟨(h.leases l lease hl).1, fun heq => by cases heq⟩

/-! ## Activation -/

omit h in
theorem Promoted.retired {i : Nat} (h : Promoted m k o m') (hmade : i < m.objects.length) (hne : i ≠ k) :
    m'.Retired i := by
  refine ⟨?_, ?_, ?_⟩
  · rw [h.length]
    exact hmade
  · rw [h.active]
    exact fun heq => hne (some.inj heq).symm
  · rw [h.pending]
    nofun

omit h in
theorem Promoted.live (h : Promoted m k o m') (i : Nat) : m'.live i = m.live i := by
  unfold Memory.live
  rw [h.leases]

/-- The active object after a promotion has the accounts it had as the pending one. -/
theorem Accounts.promote (hopen : m.closed = false) (hk : m.pending = some k) (ho : m.objects[k]? = some o) :
    Accounts lim (m.promote k o) := by
  have hpromote := promoted h.wired hk ho
  have hcounts {i : Nat} {x : GenerationObject} (hrow : m.Row i x) :
      x.streams = (m.promote k o).live i ∧ x.streams ≤ (m.promote k o).maximumStreams := by
    rw [hpromote.live, hpromote.streams]
    exact ⟨hrow.streams, hrow.bound⟩
  refine ⟨h.wired.promote hk ho, hpromote.streams.trans h.maximum, ?_, ?_⟩
  · intro i x hx
    by_cases hi : i = k
    · subst hi
      obtain rfl := mem_unique hpromote.row hx
      have hrow := h.rows i o ho
      refine ⟨⟨fun _ => hpromote.active, fun _ => rfl⟩, (hcounts hrow).1, (hcounts hrow).2, fun hdrained => ?_⟩
      exact absurd hk (hrow.drained hdrained hopen).1.notPending
    · obtain ⟨x₀, hx₀, ⟨hinactive, rfl⟩ | ⟨hact, rfl⟩⟩ := hpromote.others i x hi hx
      · -- neither of the two accepts
        refine (h.rows i x hx₀).carry ⟨rfl, rfl, rfl⟩ ?_ (hpromote.live i) hpromote.streams
          (fun _ => ⟨hopen, fun hret => hpromote.retired hret.made hi⟩)
        simp [hpromote.active, hinactive, Ne.symm hi]
      · -- the old object no longer accepts
        have hrow := h.rows i x₀ hx₀
        refine ⟨?_, (hcounts hrow).1, (hcounts hrow).2, fun hdrained => ?_⟩
        · simp [hpromote.active, Ne.symm hi]
        · exact absurd hact (hrow.drained hdrained hopen).1.notActive
  · intro l lease hl
    rw [hpromote.leases] at hl
    rw [hpromote.length, hpromote.pending]
    exact ⟨(h.leases l lease hl).1, nofun⟩

/-! ## Leases -/

omit h in
theorem live_lend {found : RouteMatch} (i : Nat) : (m.lend k o found).live i = m.live i + if k = i then 1 else 0 := by
  unfold live lend
  rw [countP_snoc]
  simp

theorem Accounts.lend {found : RouteMatch} (hk : m.active = some k) (ho : m.objects[k]? = some o)
    (hfree : o.streams < m.maximumStreams) :
    Accounts lim (m.lend k o found) := by
  have hlen : (m.lend k o found).objects.length = m.objects.length := length_set
  refine ⟨h.wired.lend, h.maximum, ?_, ?_⟩
  · intro i x hx
    rcases get_set hx with ⟨rfl, rfl⟩ | ⟨hi, hx⟩
    · have hrow := h.rows i o ho
      refine ⟨hrow.accepting, ?_, hfree, ?_⟩
      · rw [live_lend, if_pos rfl, ← hrow.streams]
      · intro hdrained hopen
        exact absurd hk (hrow.drained hdrained hopen).1.notActive
    · refine (h.rows i x hx).carry ⟨rfl, rfl, rfl⟩ Iff.rfl ?_ rfl (fun hopen => ⟨hopen, fun hold => ?_⟩)
      · rw [live_lend, if_neg (Ne.symm hi)]
        rfl
      · exact hold.carry hlen rfl rfl
  · intro l lease hl
    rw [hlen]
    exact forall_snoc h.leases ⟨lt_of_get ho, fun hpend => h.wired.apart k hpend hk⟩ l lease hl

variable {l : Nat}

def returned (m : Memory) (l : Nat) (lease : StreamLease) (o : GenerationObject) : Memory :=
  ({ m with leases := m.leases.set l { lease with closed := true } } : Memory).write lease.state o.release

variable (hl : m.leases[l]? = some lease) (hlive : lease.closed = false) (ho : m.objects[lease.state]? = some o)

include hlive ho

omit h in
theorem closeLease_eq :
    m.closeLease l lease = (m.returned l lease o,
      if ¬ o.accepting ∧ o.release.streams = 0 then .emptied lease.state else .returned none) := by
  unfold closeLease returned
  simp only [hlive, ho]
  rfl

include hl

omit h ho in
theorem live_returned (i : Nat) : (m.returned l lease o).live i + (if lease.state = i then 1 else 0) = m.live i := by
  have hcount := countP_set (p := fun lease : StreamLease => lease.state == i && !lease.closed)
    (b := { lease with closed := true }) hl
  simp only [hlive, Bool.not_false, Bool.and_true, beq_iff_eq, Bool.not_true, Bool.and_false,
    Bool.false_eq_true, if_false, Nat.add_zero] at hcount
  exact hcount

/-- The count of the object goes down with the lease: it was not 0, because the lease was live. -/
theorem Accounts.release_streams : o.release.streams = (m.returned l lease o).live lease.state := by
  have hcount := live_returned (o := o) hl hlive lease.state
  rw [if_pos rfl, ← (h.rows _ o ho).streams] at hcount
  show (if o.streams > 0 then o.streams - 1 else o.streams) = _
  rw [if_pos (by omega)]
  omega

theorem Accounts.returned : Accounts lim (m.returned l lease o) := by
  have hlen : (m.returned l lease o).objects.length = m.objects.length := length_set
  have hleases : ({ m with leases := m.leases.set l { lease with closed := true } } : Memory).Wired :=
    ⟨h.wired.active, h.wired.pending, h.wired.apart⟩
  refine ⟨hleases.of_frame frame_write, h.maximum, ?_, ?_⟩
  · intro i x hx
    rcases get_set hx with ⟨rfl, rfl⟩ | ⟨hi, hx⟩
    · have hrow := h.rows _ o ho
      have hstreams := h.release_streams hl hlive ho
      have hless : o.release.streams ≤ o.streams := by
        show (if o.streams > 0 then o.streams - 1 else o.streams) ≤ _
        split <;> omega
      refine ⟨hrow.accepting, hstreams, le_trans hless hrow.bound, ?_⟩
      intro hdrained hopen
      obtain ⟨hret, _⟩ := hrow.drained hdrained hopen
      exact ⟨hret.carry hlen rfl rfl, by omega⟩
    · have hcount := live_returned (o := o) hl hlive i
      rw [if_neg (Ne.symm hi)] at hcount
      refine (h.rows i x hx).carry ⟨rfl, rfl, rfl⟩ Iff.rfl hcount rfl (fun hopen => ⟨hopen, fun hold => ?_⟩)
      exact hold.carry hlen rfl rfl
  · intro j x hx
    rw [hlen]
    refine forall_set h.leases ?_ j x hx
    exact h.leases l lease hl

omit hl hlive ho

/-! ## Closing the channel of a drained generation -/

theorem Accounts.markDrained (hdone : m.closed = false → m.Retired k ∧ m.live k = 0) :
    Accounts lim (m.markDrained k) := by
  have hf : Frame m (m.markDrained k) := unseen_markDrained.frame
  refine h.frame hf (fun i x hx => ?_)
  have hold : m.objects[i]? = some x ∨ i = k ∧ ∃ o, m.objects[k]? = some o
      ∧ x = { o with drained := true, canceled := true } := by
    unfold Memory.markDrained at hx
    split at hx
    · exact .inl hx
    next o ho =>
    split at hx
    · exact .inl hx
    · rcases get_set hx with ⟨rfl, rfl⟩ | ⟨_, hx⟩
      · exact .inr ⟨rfl, o, ho, rfl⟩
      · exact .inl hx
  rcases hold with hx | ⟨rfl, o, ho, rfl⟩
  · exact (h.rows i x hx).frame hf ⟨rfl, rfl, rfl⟩
  have hrow : (m.markDrained i).Row i o := (h.rows i o ho).frame hf ⟨rfl, rfl, rfl⟩
  refine ⟨hrow.accepting, hrow.streams, hrow.bound, fun _ hopen => ?_⟩
  rw [hf.closed] at hopen
  obtain ⟨hret, hzero⟩ := hdone hopen
  exact ⟨hret.frame hf, hrow.streams.trans ((live_frame hf).trans hzero)⟩

theorem Accounts.close : Accounts lim m.close := by
  have hpend : Accounts lim m.cancelPending := h.quiet quiet_cancelPending
  have hcl : Accounts lim { m.cancelPending with closed := true } := by
    refine ⟨⟨hpend.wired.active, hpend.wired.pending, hpend.wired.apart⟩, hpend.maximum, ?_, hpend.leases⟩
    exact fun k o ho => (hpend.rows k o ho).carry ⟨rfl, rfl, rfl⟩ Iff.rfl rfl rfl nofun
  unfold Memory.close
  split
  · exact h
  dsimp only
  split
  · exact hcl
  next k _ =>
  refine (hcl.quiet quiet_cancel).markDrained (fun hopen => ?_)
  rw [unseen_cancel.frame.closed] at hopen
  cases hopen

end Memory

/-! ## Every section -/

variable {toASCII : ToASCII} {lim : Nat} {p : Point} {s : Section} {m' : Memory} {c : CallState}

/-- **A retired object stays retired, and gets no new lease.** -/
theorem Point.Effect.retired (h : p.Effect toASCII s m' c) (ha : p.memory.Accounts lim) {k : Nat}
    (hk : p.memory.Retired k) : m'.Retired k ∧ m'.live k ≤ p.memory.live k := by
  have hframe {m' : Memory} (hf : p.memory.Frame m') : m'.Retired k ∧ m'.live k ≤ p.memory.live k :=
    ⟨hk.frame hf, le_of_eq (live_frame hf)⟩
  cases h with
  | idle => exact ⟨hk, le_refl _⟩
  | staged =>
    obtain ⟨hret, hlive⟩ := hframe unseen_cancelPending.frame
    refine ⟨⟨?_, hret.notActive, ?_⟩, hlive⟩
    · have hmade := hret.made
      show k < (p.memory.cancelPending.objects ++ [_]).length
      rw [length_append, length_singleton]
      omega
    · intro heq
      have hnew : p.memory.cancelPending.objects.length = k := some.inj heq
      have hmade := hret.made
      omega
  | readied => exact hframe frame_write
  | @promoted i _ _ hi ho =>
    have hne : i ≠ k := by
      rintro rfl
      exact hk.notPending hi
    have hpromote := Memory.promoted ha.wired hi ho
    exact ⟨hpromote.retired hk.made hne.symm, le_of_eq (hpromote.live k)⟩
  | discarded =>
    obtain ⟨hret, hlive⟩ := hframe unseen_cancelPending.frame
    exact ⟨⟨hret.made, hret.notActive, fun heq => by cases heq⟩, hlive⟩
  | @acquired i _ _ hi =>
    have hne : i ≠ k := by
      rintro rfl
      exact hk.notActive hi
    refine ⟨hk.carry length_set rfl rfl, ?_⟩
    rw [live_lend, if_neg hne]
    exact le_refl _
  | @released l lease hl hlive =>
    obtain ⟨o, ho⟩ := ha.leased hl
    rw [closeLease_eq hlive ho]
    refine ⟨hk.carry length_set rfl rfl, ?_⟩
    have hcount := live_returned (o := o) hl hlive k
    show (p.memory.returned l lease o).live k ≤ _
    omega
  | drained => exact hframe unseen_markDrained.frame
  | forced => exact hframe unseen_cancel.frame
  | closed =>
    have hcl : ({ p.memory with closed := true } : Memory).Retired k := ⟨hk.made, hk.notActive, hk.notPending⟩
    have hlive : p.memory.close.live k = ({ p.memory with closed := true } : Memory).live k :=
      live_frame unseen_close.frame
    exact ⟨hcl.frame unseen_close.frame, le_of_eq hlive⟩

theorem Point.Effect.lends (h : p.Effect toASCII s m' c) (hw : p.memory.Wired)
    (hlease : m'.leases = p.memory.leases ++ [lease]) : p.memory.active = some lease.state := by
  have hlen : m'.leases.length = p.memory.leases.length + 1 := by simp [hlease]
  -- all other sections keep the number of leases
  have hsame (heq : m'.leases.length = p.memory.leases.length) : p.memory.active = some lease.state := by omega
  have hframe (hf : p.memory.Frame m') : p.memory.active = some lease.state := hsame (by rw [hf.leases])
  cases h with
  | idle => exact hsame rfl
  | staged | discarded => exact hsame (congrArg length unseen_cancelPending.frame.leases)
  | readied => exact hframe frame_write
  | promoted _ hk ho => exact hsame (congrArg length (Memory.promoted hw hk ho).leases)
  | @acquired k _ found hk =>
    have hnew : p.memory.leases ++ [{ state := k, found }] = p.memory.leases ++ [lease] := hlease
    obtain rfl : ({ state := k, found } : StreamLease) = lease := by simpa using hnew
    exact hk
  | released =>
    apply hsame
    unfold closeLease
    split
    · rfl
    dsimp only
    split
    · exact length_set
    · exact length_set
  | drained => exact hframe unseen_markDrained.frame
  | forced => exact hframe unseen_cancel.frame
  | closed => exact hsame (congrArg length unseen_close.frame.leases)

/-- The memory and the calls: a call that is about to close a channel has found the object drained. -/
structure Point.Accounted (maximum : Nat) (p : Point) : Prop where
  memory : p.memory.Accounts maximum
  emptied : ∀ (i k : Nat), p.calls[i]? = some (.emptied k) → p.memory.Retired k ∧ p.memory.live k = 0

/-- **Every section keeps the accounts of the memory.** -/
theorem Point.Effect.accounts (h : p.Effect toASCII s m' c) (ha : p.Accounted lim) : m'.Accounts lim := by
  cases h with
  | idle => exact ha.memory
  | staged => exact (ha.memory.quiet quiet_cancelPending).add
  | readied _ _ _ ho => exact ha.memory.quiet (Memory.Calm.quiet (calm_write ho rfl))
  | promoted hopen hk ho => exact ha.memory.promote hopen hk ho
  | discarded => exact (ha.memory.quiet quiet_cancelPending).drop
  | acquired hk ho _ hfree => exact ha.memory.lend hk ho hfree
  | @released l lease hl hlive =>
    obtain ⟨o, ho⟩ := ha.memory.leased hl
    rw [closeLease_eq hlive ho]
    exact ha.memory.returned hl hlive ho
  | drained hi => exact ha.memory.markDrained (fun _ => ha.emptied _ _ hi)
  | forced => exact ha.memory.quiet quiet_cancel
  | closed => exact ha.memory.close

theorem Point.Effect.emptied {k : Nat} (h : p.Effect toASCII s m' (.emptied k))
    (ha : p.memory.Accounts lim) : m'.Retired k ∧ m'.live k = 0 := by
  generalize hc : CallState.emptied k = c at h
  cases h with
  | idle hquiet => exact absurd hc.symm (hquiet k)
  | staged _ _ _ _ _ _ hcases | readied _ _ _ _ _ hcases => rcases hcases with rfl | rfl <;> cases hc
  | @promoted i _ _ hi ho =>
    unfold handOver at hc
    split at hc
    · next old oldState hact hst =>
      split at hc
      · next hzero =>
        obtain rfl := CallState.emptied.inj hc
        have hold : p.memory.objects[k]? = some oldState := by
          rw [activeState, hact] at hst
          exact hst
        have hne : k ≠ i := by
          rintro rfl
          exact ha.wired.apart k hi hact
        have hlive : p.memory.live k = 0 := by
          rw [← (ha.rows k oldState hold).streams]
          exact hzero
        have hpromote := Memory.promoted ha.wired hi ho
        exact ⟨hpromote.retired (lt_of_get hold) hne, (hpromote.live k).trans hlive⟩
      · cases hc
    · cases hc
  | discarded | acquired | drained | forced | closed => cases hc
  | @released l lease hl hlive =>
    obtain ⟨hmade, hpend⟩ := ha.leases l lease hl
    obtain ⟨o, ho⟩ := ha.leased hl
    rw [closeLease_eq hlive ho] at hc ⊢
    dsimp only at hc ⊢
    split at hc
    · next hdrained =>
      obtain rfl := CallState.emptied.inj hc
      refine ⟨⟨?_, ?_, hpend⟩, ?_⟩
      · show _ < (p.memory.objects.set lease.state _).length
        rw [length_set]
        exact hmade
      · intro hact
        exact hdrained.1 ((ha.rows _ o ho).accepting.mpr hact)
      · rw [← ha.release_streams hl hlive ho]
        exact hdrained.2
    · cases hc

/-- **Every section keeps the accounts.** -/
theorem Point.Accounted.step {q : Point} (ha : p.Accounted lim) (hstep : p.step toASCII s = some q) :
    q.Accounted lim := by
  obtain ⟨_, heff, hrecords⟩ := Point.step_effect hstep
  refine ⟨heff.accounts ha, ?_⟩
  -- an older call that found an object empty: the object is still retired
  have hold (k : Nat) (h : p.memory.Retired k ∧ p.memory.live k = 0) : q.memory.Retired k ∧ q.memory.live k = 0 := by
    obtain ⟨hret, _⟩ := heff.retired ha.memory h.1
    exact ⟨hret, by omega⟩
  intro i k hi
  obtain ⟨_, _⟩ := q
  cases hrecords with
  | start =>
    rcases get_snoc hi with hin | ⟨_, rfl⟩
    · exact hold k (ha.emptied i k hin)
    · exact heff.emptied ha.memory
  | resume =>
    rcases get_set hi with ⟨_, rfl⟩ | ⟨_, hin⟩
    · exact heff.emptied ha.memory
    · exact hold k (ha.emptied i k hin)

/-- **Streams are accounted for across generations.** In every interleaving of the calls of a new registry, as
    long as it is not closed: the stream count of each generation, also of a replaced one, is the number of its
    leases that are not closed, and at most the configured maximum. Once a generation was replaced no lease is
    given on it any more. And a channel that is closed belongs to a generation that does not accept and has no
    live lease. -/
theorem leases_accounted (toASCII : ToASCII) (maximumRoutes maximumStreams : Int) (m : Memory)
    (hnew : new maximumRoutes maximumStreams = .ok m) (tr : Trace Point Section) (q : Point)
    (hrun : Run (Point.step toASCII) ⟨m, []⟩ tr q) (hopen : q.memory.closed = false) :
    (∀ k o, q.memory.objects[k]? = some o → o.streams = q.memory.live k ∧ o.streams ≤ m.maximumStreams) ∧
    (∀ tr₁ t tr₂ u tr₃ k, tr = tr₁ ++ t :: (tr₂ ++ u :: tr₃) → t.pre.memory.active = some k →
      t.post.memory.active ≠ some k →
      ∀ lease, u.post.memory.leases = u.pre.memory.leases ++ [lease] → lease.state ≠ k) ∧
    (∀ (k : Nat) (o : GenerationObject), q.memory.objects[k]? = some o → o.drained = true →
      o.accepting = false ∧ q.memory.live k = 0) := by
  have hinit : (⟨m, []⟩ : Point).Accounted m.maximumStreams := by
    obtain ⟨hobjects, _, _, hleases, hwired⟩ := Memory.of_new hnew
    exact ⟨⟨hwired, rfl, by simp [hobjects], by simp [hleases]⟩, by simp⟩
  have hreach {tr : Trace Point Section} {q : Point}
      (hrun : Run (Point.step toASCII) ⟨m, []⟩ tr q) : q.Accounted m.maximumStreams :=
    hrun.invariant (·.step ·) hinit
  have hq := (hreach hrun).memory
  refine ⟨?_, ?_, ?_⟩
  · intro k o ho
    have hrow := hq.rows k o ho
    exact ⟨hrow.streams, hq.maximum ▸ hrow.bound⟩
  · intro tr₁ t tr₂ u tr₃ k heq hbefore hafter lease hlease hst
    rw [heq] at hrun
    obtain ⟨hrun₁, hstep, hrest⟩ := hrun.through
    have ha := hreach hrun₁
    have hreach₂ := ha.step hstep
    obtain ⟨hrun₂, hstep', _⟩ := hrest.through
    -- the object is retired when the newer one takes its place, and stays so up to the later section
    have hret : t.post.memory.Retired k := by
      obtain ⟨_, heff, _⟩ := Point.step_effect hstep
      rcases heff.activity ha.memory.wired with ⟨hsame, _⟩ | ⟨i, o, hi, ho, _, hpost, _⟩
      · exact absurd (hsame.trans hbefore) hafter
      have hpromote := promoted ha.memory.wired hi ho
      rw [← hpost] at hpromote
      refine hpromote.retired (ha.memory.wired.active k hbefore) (fun heq => hafter ?_)
      rw [heq]
      exact hpromote.active
    have hlater : u.pre.Accounted m.maximumStreams ∧ u.pre.memory.Retired k := by
      refine hrun₂.invariant (I := fun p => p.Accounted m.maximumStreams ∧ p.memory.Retired k) ?_ ⟨hreach₂, hret⟩
      intro p s p' h hs
      obtain ⟨_, heff, _⟩ := Point.step_effect hs
      exact ⟨h.1.step hs, (heff.retired h.1.memory h.2).1⟩
    obtain ⟨_, heff, _⟩ := Point.step_effect hstep'
    have hact : u.pre.memory.active = some lease.state := heff.lends hlater.1.memory.wired hlease
    exact hlater.2.notActive (hst ▸ hact)
  · intro k o ho hdrained
    have hrow := hq.rows k o ho
    obtain ⟨hret, hzero⟩ := hrow.drained hdrained hopen
    refine ⟨?_, ?_⟩
    · rw [← Bool.not_eq_true, hrow.accepting]
      exact hret.notActive
    · rw [← hrow.streams]
      exact hzero

/-- After the handover of `handoverSections` the first generation has no stream, does not accept and its channel
    is closed; the wait that saw this has ended. -/
theorem leases_accounted_handover :
    let q := (exec (Point.step some) ⟨smallRegistry, []⟩ handoverSections).getD ⟨smallRegistry, []⟩
    q.memory.closed = false ∧ q.memory.leases.length = 1 ∧ q.calls[4]? = some (.drainEnded .drained)
      ∧ ∃ o, q.memory.objects[0]? = some o ∧ o.drained = true ∧ o.accepting = false ∧ q.memory.live 0 = 0
          ∧ o.streams = q.memory.live 0 := by
  intro q
  have hopen : q.memory.closed = false := by decide +kernel
  have hdrained : q.memory.objects[0]?.map (fun o => o.drained) = some true := by decide +kernel
  obtain ⟨o, ho, hdone⟩ := map_eq_some_iff.mp hdrained
  obtain ⟨hcount, _, hchannel⟩ :=
    leases_accounted some 8 2 smallRegistry rfl _ q (exec_getD_run (by decide +kernel)) hopen
  obtain ⟨haccepting, hlive⟩ := hchannel 0 o ho hdone
  exact ⟨hopen, by decide +kernel, by decide +kernel, o, ho, hdone, haccepting, hlive, (hcount 0 o ho).1⟩

end PaperboatTunnel.Route
