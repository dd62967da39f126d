import PaperboatTunnel.Node.Manager

/-!
# `DrainAccounting` — a drain that is not forced waits for every stream

The streams counted under a connector and a generation are the successful opens minus the successful closes, until a
forced drain drops the counters. A replacement moves a counter from the current to the retired ones, which is why the
retired generations have to be older than the current one.

A drain looks at the counters under `m.mu`. The node has left the phase `Ready` for good by then, so whoever locks
later cannot open a stream (`Fenced`).
-/

namespace PaperboatTunnel.Node

open GoTime TransitionSystem Connector List Option GoMap

/-! ## The counters of a connector -/

namespace Connector

variable {c c' : Connector} {g g' : UInt64} {h : c.generation < g}

def counted (c : Connector) (g : UInt64) : Nat :=
  (if c.generation = g then c.streams.toNat else 0) + (c.retiredStreams g).toNat

theorem retiredStreams_current (c : Connector) : c.retiredStreams c.generation = 0 := by
  unfold retiredStreams
  cases h : c.retired.lookup c.generation with
  | none => rfl
  | some n => exact absurd (c.older _ n h) (UInt64.lt_irrefl _)

theorem retiredStreams_replace :
    (c.replace g h).retiredStreams g' = if c.generation = g' then c.streams else c.retiredStreams g' := by
  show (c.retireCurrent.lookup g').getD 0 = _
  unfold retireCurrent
  by_cases hg : c.generation = g'
  · subst hg
    by_cases hstreams : c.streams = 0
    · rw [if_neg (fun hne => hne hstreams), if_pos rfl, hstreams]
      exact c.retiredStreams_current
    · simp [hstreams, c.retiredStreams_current]
  · rw [if_neg hg]
    split
    case isTrue =>
      rw [lookup_insert_eq, if_neg (fun heq => hg heq.symm)]
      rfl
    case isFalse => rfl

/-- **A replacement keeps every count.** -/
theorem counted_replace : (c.replace g h).counted g' = c.counted g' := by
  unfold counted
  rw [retiredStreams_replace]
  have hzero : (if (c.replace g h).generation = g' then (c.replace g h).streams.toNat else 0) = 0 := by
    split <;> rfl
  rw [hzero]
  by_cases hg : c.generation = g'
  · subst hg
    simp [c.retiredStreams_current]
  · simp [hg]

theorem counted_openStream (h : c.openStream = some c') :
    c'.generation = c.generation ∧ c'.counted g = c.counted g + if c.generation = g then 1 else 0 := by
  unfold openStream at h
  split at h
  · cases h
  next hmax =>
  cases h
  refine ⟨rfl, ?_⟩
  have hsucc : (c.streams + 1).toNat = c.streams.toNat + 1 := by
    have hlt := c.streams.toNat_lt
    have hne : c.streams.toNat ≠ 4294967295 := fun heq => hmax (UInt32.toNat_inj.mp heq)
    rw [UInt32.toNat_add]
    show (c.streams.toNat + 1) % 2 ^ 32 = _
    omega
  show (if c.generation = g then (c.streams + 1).toNat else 0) + (c.retiredStreams g).toNat = _
  unfold counted
  split <;> omega

theorem toNat_sub_one {n : UInt32} (h : 0 < n) : (n - 1).toNat + 1 = n.toNat := by
  have hpos : 0 < n.toNat := UInt32.lt_iff_toNat_lt.mp h
  rw [UInt32.toNat_sub_of_le n 1 (UInt32.le_iff_toNat_le.mpr hpos)]
  show n.toNat - 1 + 1 = n.toNat
  omega

theorem lookup_dropRetired :
    ((c.dropRetired g).lookup g').getD 0 = if g' = g then c.retiredStreams g - 1 else c.retiredStreams g' := by
  unfold dropRetired
  split
  case isTrue hzero =>
    rw [lookup_erase_eq, hzero]
    split <;> rfl
  case isFalse =>
    rw [lookup_insert_eq]
    split <;> rfl

/-- **A close takes one stream off the generation it names**, current or retired. -/
theorem counted_closeStream (g' : UInt64) (h : c.closeStream g = some c') :
    c'.counted g' + (if g' = g then 1 else 0) = c.counted g' := by
  unfold closeStream at h
  split at h
  case isTrue hcur =>
    cases h
    obtain ⟨rfl, hpos⟩ := hcur
    have hsub := toNat_sub_one hpos
    show (if c.generation = g' then (c.streams - 1).toNat else 0) + (c.retiredStreams g').toNat + _ = _
    unfold counted
    by_cases hg : c.generation = g'
    · subst hg
      simp only [if_true]
      omega
    · simp [hg, Ne.symm hg]
  case isFalse =>
    split at h
    case isTrue hpos =>
      cases h
      have hsub := toNat_sub_one hpos
      show (if c.generation = g' then c.streams.toNat else 0) + (((c.dropRetired g).lookup g').getD 0).toNat + _ = _
      rw [lookup_dropRetired]
      unfold counted
      by_cases hg : g' = g
      · subst hg
        simp only [if_true]
        omega
      · simp [hg]
    case isFalse => cases h

theorem counted_of_empty (hstreams : c.streams = 0) (hret : c.retired.entries.length = 0) : c.counted g = 0 := by
  have hnone : c.retired.lookup g = none := by
    cases hg : c.retired.lookup g with
    | none => rfl
    | some =>
      have hmem := mem_entries_iff.mpr hg
      rw [length_eq_zero_iff.mp hret] at hmem
      cases hmem
  simp [counted, retiredStreams, hstreams, hnone]

end Connector

/-! ## The total -/

theorem saturatingAddUint32_eq_zero {a b : UInt32} (h : saturatingAddUint32 a b = 0) : a = 0 ∧ b = 0 := by
  unfold saturatingAddUint32 at h
  split at h
  · cases h
  next hle =>
  have ha := a.toNat_lt
  have hmax : (4294967295 - a).toNat = 4294967295 - a.toNat := by
    apply UInt32.toNat_sub_of_le
    rw [UInt32.le_iff_toNat_le]
    show a.toNat ≤ 4294967295
    omega
  rw [UInt32.lt_iff_toNat_lt, hmax] at hle
  simp only [← UInt32.toNat_inj, UInt32.toNat_add, UInt32.toNat_zero] at h ⊢
  omega

/-- A loop that only adds ends at zero only when it started there and every round added nothing. -/
theorem foldl_eq_zero {α : Type} {f : UInt32 → α → UInt32} {P : α → Prop}
    (hf : ∀ n a, f n a = 0 → n = 0 ∧ P a) : ∀ (l : List α) (n : UInt32), l.foldl f n = 0 → n = 0 ∧ ∀ a ∈ l, P a := by
  intro l
  induction l with
  | nil =>
    intro n h
    exact ⟨h, fun a ha => by cases ha⟩
  | cons a _ ih =>
    intro n h
    obtain ⟨hfirst, hrest⟩ := ih (f n a) h
    obtain ⟨hn, ha⟩ := hf n a hfirst
    exact ⟨hn, forall_mem_cons.mpr ⟨ha, hrest⟩⟩

variable {e : Option Error}

namespace Manager

variable {m m' : Manager} {id id' : String} {g g' : UInt64} {a : Action}

def counted (m : Manager) (id : String) (g : UInt64) : Nat := (m.connectors.lookup id).elim 0 (fun c => c.counted g)

/-- **Nothing is counted when the total is zero**, although the total saturates. -/
theorem counted_of_totalStreams (h : m.totalStreamsLocked = 0) : m.counted id g = 0 := by
  unfold counted
  cases hc : m.connectors.lookup id with
  | none => rfl
  | some c =>
    have hall := foldl_eq_zero
      (f := fun total (c : Connector) => c.retired.values.foldl saturatingAddUint32 (saturatingAddUint32 total c.streams))
      (P := fun c : Connector => c.streams = 0 ∧ ∀ n ∈ c.retired.values, n = 0)
      (fun n c hzero => by
        obtain ⟨hstart, hret⟩ := foldl_eq_zero (P := fun n => n = 0)
          (fun _ _ => saturatingAddUint32_eq_zero) _ _ hzero
        obtain ⟨hn, hstreams⟩ := saturatingAddUint32_eq_zero hstart
        exact ⟨hn, hstreams, hret⟩)
      _ _ h
    obtain ⟨hstreams, hret⟩ := hall.2 c (mem_values_iff.mpr ⟨id, hc⟩)
    have hold : c.retiredStreams g = 0 := by
      unfold retiredStreams
      cases hg : c.retired.lookup g with
      | none => rfl
      | some n => exact hret n (mem_values_iff.mpr ⟨g, hg⟩)
    simp [Connector.counted, hstreams, hold]

/-! ## What a call does -/

theorem counted_insert {c : Connector} : ({ m with connectors := m.connectors.insert id c } : Manager).counted id' g
      = if id' = id then c.counted g else m.counted id' g := by
  unfold counted
  show ((m.connectors.insert id c).lookup id').elim 0 _ = _
  rw [lookup_insert_eq]
  split <;> rfl

theorem counted_erase : ({ m with connectors := m.connectors.erase id } : Manager).counted id' g
      = if id' = id then 0 else m.counted id' g := by
  unfold counted
  show ((m.connectors.erase id).lookup id').elim 0 _ = _
  rw [lookup_erase_eq]
  split <;> rfl

theorem counted_of_lookup {c : Connector} (h : m.connectors.lookup id = some c) : m.counted id g = c.counted g := by
  unfold counted
  rw [h]
  rfl

/-- **The ways a call can end**: it is refused, or it changed one connector. -/
inductive Served (m : Manager) : Section → Manager → Option Error → Prop where
  | refused (s : Section) (e : Error) : Served m s m (some e)
  | present (id : String) (g : UInt64) (phase : Phase) : Served m ⟨.admitConnector id g, some phase⟩ m none
  | admitted (id : String) (g : UInt64) (phase : Phase) (hnone : m.connectors.lookup id = none) :
      Served m ⟨.admitConnector id g, some phase⟩
        { m with connectors := m.connectors.insert id (new g) } none
  | replaced (id : String) (g : UInt64) (phase : Phase) (c : Connector) (hc : m.connectors.lookup id = some c)
      (h : c.generation < g) :
      Served m ⟨.replaceConnector id g, some phase⟩
        { m with connectors := m.connectors.insert id (c.replace g h) } none
  | removed (id : String) (c : Connector) (hc : m.connectors.lookup id = some c)
      (hempty : c.streams = 0 ∧ c.retired.entries.length = 0) :
      Served m ⟨.removeConnector id, none⟩ (signalLocked { m with connectors := m.connectors.erase id }) none
  | opened (id : String) (c c' : Connector) (hc : m.connectors.lookup id = some c) (h : c.openStream = some c') :
      Served m ⟨.openStream id c.generation, some .ready⟩ { m with connectors := m.connectors.insert id c' } none
  | closed (id : String) (g : UInt64) (c c' : Connector) (hc : m.connectors.lookup id = some c)
      (h : c.closeStream g = some c') :
      Served m ⟨.closeStream id g, none⟩ (signalLocked { m with connectors := m.connectors.insert id c' }) none

variable {phase : Phase} {s : Section}

theorem served_admit :
    Served m ⟨.admitConnector id g, some phase⟩ (m.admitConnector phase id g).1 (m.admitConnector phase id g).2 := by
  fun_cases admitConnector m phase id g with
  | case2 => exact .present id g phase
  | case4 _ habsent => exact .admitted id g phase (not_isSome_iff_eq_none.mp habsent)
  | _ => exact .refused _ _

theorem served_replace : Served m ⟨.replaceConnector id g, some phase⟩ (m.replaceConnector phase id g).1
      (m.replaceConnector phase id g).2 := by
  fun_cases replaceConnector m phase id g with
  | case3 _ c hc h => exact .replaced id g phase c hc h
  | _ => exact .refused _ _

theorem served_remove : Served m ⟨.removeConnector id, none⟩ (m.removeConnector id).1 (m.removeConnector id).2 := by
  fun_cases removeConnector m id with
  | case3 c hc h =>
    rw [not_or, not_not, not_not] at h
    exact .removed id c hc h
  | _ => exact .refused _ _

theorem served_open :
    Served m ⟨.openStream id g, some phase⟩ (m.openStream phase id g).1 (m.openStream phase id g).2 := by
  fun_cases openStream m phase id g with
  | case5 hphase c hc hg c' hopen =>
    rw [not_not] at hphase hg
    subst hphase hg
    exact .opened id c c' hc hopen
  | _ => exact .refused _ _

theorem served_close : Served m ⟨.closeStream id g, none⟩ (m.closeStream id g).1 (m.closeStream id g).2 := by
  fun_cases closeStream m id g with
  | case3 c hc c' hclose => exact .closed id g c c' hc hclose
  | _ => exact .refused _ _

theorem served_of_serve {r : Manager × Option Error} (h : m.serve s = some r) : Served m s r.1 r.2 := by
  unfold serve at h
  split at h
  case h_6 => cases h
  all_goals cases h
  case h_1 => exact served_admit
  case h_2 => exact served_replace
  case h_3 => exact served_remove
  case h_4 => exact served_open
  case h_5 => exact served_close

theorem Served.frame (h : Served m s m' e) : m'.state = m.state ∧ m'.drains = m.drains ∧ m'.answers = m.answers := by
  cases h <;> exact ⟨rfl, rfl, rfl⟩

/-- **Conservation.** A call moves the counter it names by one when it opens or closes a stream, and no other. -/
theorem Served.counted (h : Served m s m' e) (id' : String) (g' : UInt64) :
    m'.counted id' g' + (if (s.call, e) = (.closeStream id' g', none) then 1 else 0)
      = m.counted id' g' + if (s.call, e) = (.openStream id' g', none) then 1 else 0 := by
  cases h with
  | refused | present => simp
  | admitted id _ _ hnone =>
    rw [counted_insert]
    by_cases hid : id' = id
    · subst hid
      simp [counted, Connector.counted, Connector.new, Connector.retiredStreams, hnone]
    · simp [hid]
  | replaced id _ _ _ hc =>
    rw [counted_insert]
    by_cases hid : id' = id
    · subst hid
      simp [counted_replace, counted_of_lookup hc]
    · simp [hid]
  | removed id _ hc hempty =>
    show Manager.counted { m with connectors := m.connectors.erase id } id' g' + _ = _
    rw [counted_erase]
    by_cases hid : id' = id
    · subst hid
      simp [counted_of_lookup hc, counted_of_empty hempty.1 hempty.2]
    · simp [hid]
  | opened id _ _ hc h =>
    rw [counted_insert]
    obtain ⟨_, hcount⟩ := counted_openStream (g := g') h
    by_cases hid : id' = id
    · subst hid
      simp [counted_of_lookup hc, hcount]
    · simp [hid, Ne.symm hid]
  | closed id _ _ c' hc h =>
    show Manager.counted { m with connectors := m.connectors.insert id c' } id' g' + _ = _
    rw [counted_insert]
    have hcount := counted_closeStream g' h
    by_cases hid : id' = id
    · subst hid
      simpa [counted_of_lookup hc, eq_comm] using hcount
    · simp [hid, Ne.symm hid]

end Manager

/-- The node takes no new work, and never will again. -/
def State.Past (s : State) : Prop := s.phase = .draining ∨ s.phase = .stopped

variable {s : State}

theorem State.Past.not_ready (h : s.Past) : s.phase ≠ .ready := by
  rcases h with h | h <;> rw [h] <;> exact Phase.noConfusion

theorem State.past_beginDrain {deadline : Time} : (s.beginDrain deadline).1.Past := by
  unfold State.beginDrain
  split
  case isTrue h => exact h
  case isFalse => exact .inl rfl

theorem State.past_markReady (h : s.Past) : s.markReady.1.Past := by
  unfold State.markReady
  split
  · exact h
  next hstart =>
  rw [not_not] at hstart
  rcases h with h | h <;> rw [hstart] at h <;> cases h

theorem State.past_setControlAvailable {available : Bool} (h : s.Past) :
    (s.setControlAvailable available).1.Past := by
  unfold State.setControlAvailable
  split
  case isTrue => exact h
  case isFalse => exact h

namespace Manager

variable {m m' : Manager} {id : String} {g : UInt64} {a : Action}

/-- **The moves of a manager.** -/
inductive Move (m : Manager) : Action → Manager → Prop where
  | phase (a : Action) (s : State) (ha : ∀ i, a ≠ .check i) (hpast : m.state.Past → s.Past) :
      Move m a { m with state := s }
  | refused (call : Call) : Move m (.refuse call) { m with answers := m.answers ++ [(call, some .unknown)] }
  | locked (call : Call) : Move m (.lock call) { m with mu := some { call := call } }
  | observed (call : Call) : Move m .observe { m with mu := some { call := call, observed := some m.state.phase } }
  | finished (s : Section) (m' : Manager) (e : Option Error) (hmu : m.mu = some s) (h : Served m s m' e) :
      Move m .finish (m'.answer s.call e)
  | begun (deadline : Time) (s : State) (hpast : s.Past) :
      Move m (.drain deadline) { m with state := s, drains := m.drains ++ [.checking] }
  | returned (i : Nat) (hmu : m.mu = none) (hi : m.drains[i]? = some .checking) (htotal : m.totalStreamsLocked = 0) :
      Move m (.check i) { m with drains := m.drains.set i (.returned false) }
  | waits (i : Nat) (hi : m.drains[i]? = some .checking) :
      Move m (.check i) { m with drains := m.drains.set i (.waiting m.wake) }
  | woken (i wake : Nat) (hi : m.drains[i]? = some (.waiting wake)) :
      Move m (.woken i) { m with drains := m.drains.set i .checking }
  | forced (i wake : Nat) (hi : m.drains[i]? = some (.waiting wake)) :
      Move m (.force i) (signalLocked { m with connectors := ∅, drains := m.drains.set i (.returned true) })

theorem step_move (h : m.step a = some m') : Move m a m' := by
  revert h
  fun_cases step m a <;> intro h
  case case1 =>
    cases h
    exact .phase _ _ (fun _ => Action.noConfusion) State.past_markReady
  case case2 =>
    cases h
    exact .phase _ _ (fun _ => Action.noConfusion) (fun _ => State.past_beginDrain)
  case case3 =>
    cases h
    exact .phase _ _ (fun _ => Action.noConfusion) State.past_setControlAvailable
  case case4 =>
    cases h
    exact .phase _ _ (fun _ => Action.noConfusion) (fun _ => .inr rfl)
  case case5 call _ =>
    cases h
    exact .refused call
  case case7 call _ =>
    cases h
    exact .locked call
  case case9 =>
    cases h
    exact .observed _
  case case13 s hmu =>
    obtain ⟨r, hserve, rfl⟩ := map_eq_some_iff.mp h
    exact .finished s r.1 r.2 hmu (served_of_serve hserve)
  case case14 deadline =>
    cases h
    exact .begun deadline _ State.past_beginDrain
  case case15 i hi =>
    cases h
    split
    case isTrue htot => exact .returned i hi.1 hi.2 htot
    case isFalse => exact .waits i hi.2
  case case17 i wake hi _ =>
    cases h
    exact .woken i wake hi
  case case20 i wake hi _ =>
    cases h
    exact .forced i wake hi
  -- the others are not enabled
  all_goals cases h

/-! ## The accounts -/

variable (m id g)

def opens : Nat := m.answers.count (.openStream id g, none)

def closes : Nat := m.answers.count (.closeStream id g, none)

/-- **The counters are the opens minus the closes.** -/
def Accounted : Prop := ∀ id g, m.counted id g + m.closes id g = m.opens id g

variable {m id g}

theorem count_answer {call : Call} {x : Call × Option Error} :
    (m.answers ++ [(call, e)]).count x = m.answers.count x + if (call, e) = x then 1 else 0 := by
  rw [count_append, count_singleton]
  simp

theorem Accounted.step (h : m.Accounted) (hstep : m.step a = some m') (hforce : ∀ i, a ≠ .force i) :
    m'.Accounted := by
  intro id g
  have hpre := h id g
  unfold closes opens at hpre ⊢
  cases step_move hstep with
  | phase | locked | observed | begun | returned | waits | woken => exact hpre
  | refused call =>
    show m.counted id g + (m.answers ++ [(call, some Error.unknown)]).count _ = (m.answers ++ [_]).count _
    rw [count_answer, count_answer]
    simpa using hpre
  | finished s served e _ hserved =>
    have hcount := hserved.counted id g
    obtain ⟨_, _, hanswers⟩ := hserved.frame
    show served.counted id g + (served.answers ++ [(s.call, e)]).count _ = (served.answers ++ [(s.call, e)]).count _
    rw [count_answer, count_answer, hanswers]
    omega
  | forced i => exact absurd rfl (hforce i)

/-- A drain that was called has taken the node out of the phase in which it takes work. -/
def Begun (m : Manager) : Prop := m.drains ≠ [] → m.state.Past

theorem Begun.step (h : m.Begun) (hstep : m.step a = some m') : m'.Begun := by
  intro hdrains
  cases step_move hstep with
  | phase _ _ _ hpast => exact hpast (h hdrains)
  | refused | locked | observed => exact h hdrains
  | finished _ served _ _ hserved =>
    obtain ⟨hst, hsame, _⟩ := hserved.frame
    show served.state.Past
    rw [hst]
    exact h (hsame ▸ hdrains)
  | begun _ _ hpast => exact hpast
  | returned | waits | woken | forced => exact h (fun hnil => hdrains (by rw [hnil]; rfl))

/-- No call can open a stream any more: the phase is past, and whoever holds the lock has not read the old one. -/
structure Fenced (m : Manager) : Prop where
  past : m.state.Past
  held : ∀ s, m.mu = some s → s.observed ≠ some .ready

/-- **A fenced node stays fenced, and opens no stream.** -/
theorem Fenced.step (h : m.Fenced) (hstep : m.step a = some m') :
    m'.Fenced ∧ ∀ id g, m'.opens id g = m.opens id g := by
  cases step_move hstep with
  | phase _ _ _ hpast => exact ⟨⟨hpast h.past, h.held⟩, fun _ _ => rfl⟩
  | refused call =>
    refine ⟨⟨h.past, h.held⟩, fun id g => ?_⟩
    show (m.answers ++ [(call, some Error.unknown)]).count _ = _
    rw [count_answer]
    simp [opens]
  | locked =>
    refine ⟨⟨h.past, fun s hs => ?_⟩, fun _ _ => rfl⟩
    cases hs
    intro hready
    cases hready
  | observed =>
    refine ⟨⟨h.past, fun s hs => ?_⟩, fun _ _ => rfl⟩
    cases hs
    intro hready
    exact h.past.not_ready (some.inj hready)
  | finished s served e hmu hserved =>
    obtain ⟨hst, _, hanswers⟩ := hserved.frame
    refine ⟨⟨?_, fun s hs => by cases hs⟩, fun id g => ?_⟩
    · show served.state.Past
      rw [hst]
      exact h.past
    show (served.answers ++ [(s.call, e)]).count _ = _
    rw [hanswers, count_answer]
    have hne : (s.call, e) ≠ (.openStream id g, none) := by
      -- only a call that has read the phase `Ready` returns that
      intro heq
      obtain ⟨hcall, he⟩ := Prod.mk.inj heq
      cases hserved with
      | refused => cases he
      | present | admitted | replaced | removed | closed => cases hcall
      | opened => exact h.held _ hmu rfl
    rw [if_neg hne]
    rfl
  | begun _ _ hpast => exact ⟨⟨hpast, h.held⟩, fun _ _ => rfl⟩
  | returned | waits | woken | forced => exact ⟨⟨h.past, h.held⟩, fun _ _ => rfl⟩

/-! ## Every run -/

/-- A step by which a call of `Drain` returns not-forced. -/
def ReturnsUnforced (t : Transition Manager Action) : Prop :=
  ∃ i, t.label = .check i ∧ t.post.drains[i]? = some (.returned false)

theorem fenced_of_returnsUnforced {t : Transition Manager Action} (hstep : t.pre.step t.label = some t.post)
    (hbegun : t.pre.Begun) (hreturn : ReturnsUnforced t) :
    t.post.Fenced ∧ (∀ id g, t.post.counted id g = 0) := by
  obtain ⟨pre, _, _⟩ := t
  obtain ⟨i, hlabel, hpost⟩ := hreturn
  dsimp only at hlabel hpost hstep hbegun ⊢
  subst hlabel
  cases step_move hstep with
  | phase _ _ ha => exact absurd rfl (ha i)
  | returned _ hmu hi htot =>
    have hdrains : pre.drains ≠ [] := by
      intro hnil
      rw [hnil] at hi
      cases hi
    refine ⟨⟨hbegun hdrains, fun s hs => ?_⟩, fun id g => counted_of_totalStreams htot⟩
    rw [hmu] at hs
    cases hs
  | waits _ hi =>
    rw [Table.get_set_self hi] at hpost
    cases hpost

variable {tr : Trace Manager Action}

theorem opens_of_fenced (h : m.Fenced) (hrun : Run step m tr m') (id : String) (g : UInt64) :
    m'.opens id g = m.opens id g := by
  have hinv := hrun.invariant (I := fun s => s.Fenced ∧ s.opens id g = m.opens id g) (fun {s a s'} hs hstep => by
      obtain ⟨hfenced, hops⟩ := hs.1.step hstep
      exact ⟨hfenced, (hops id g).trans hs.2⟩)
    ⟨h, rfl⟩
  exact hinv.2

theorem accounted_of_run (h : m.Accounted) (hrun : Run step m tr m') (hforce : ∀ t ∈ tr, ∀ i, t.label ≠ .force i) :
    m'.Accounted :=
  hrun.invariant_on (C := fun t => ∀ i, t.label ≠ .force i) (fun hC hs hstep => hs.step hstep hC) hforce h

/-- **Node drain accounting.** In every run of a new manager the streams counted are the successful opens minus the
    successful closes until a drain is forced. Where a drain returns not-forced, nothing is counted, so that without a
    forced drain before it every stream opened is closed; and no stream is opened after it. -/
theorem drain_accounting (state : State) (capacity : UInt32) (m q : Manager) (tr : Trace Manager Action)
    (hnew : newManager state capacity = .ok m) (hrun : Run step m tr q) :
    ((∀ t ∈ tr, ∀ i, t.label ≠ .force i) → ∀ id g, q.counted id g + q.closes id g = q.opens id g)
    ∧ ∀ tr₁ t tr₂, tr = tr₁ ++ t :: tr₂ → ReturnsUnforced t → (∀ id g, t.post.counted id g = 0)
        ∧ ((∀ u ∈ tr₁, ∀ i, u.label ≠ .force i) → ∀ id g, t.post.opens id g = t.post.closes id g)
        ∧ ∀ id g, q.opens id g = t.post.opens id g := by
  have hstart : m.Accounted ∧ m.Begun := by
    unfold newManager at hnew
    split at hnew
    · cases hnew
    cases hnew
    exact ⟨fun id g => rfl, fun hne => absurd rfl hne⟩
  refine ⟨fun hforce => accounted_of_run hstart.1 hrun hforce, ?_⟩
  rintro tr₁ t tr₂ rfl hreturn
  obtain ⟨hbefore, hstep, hafter⟩ := hrun.through
  have hbegun : t.pre.Begun := hbefore.invariant (·.step ·) hstart.2
  obtain ⟨hfenced, hzero⟩ := fenced_of_returnsUnforced hstep hbegun hreturn
  refine ⟨hzero, fun hforce id g => ?_, opens_of_fenced hfenced hafter⟩
  have hlabel : ∀ i, t.label ≠ .force i := by
    intro i hi
    obtain ⟨_, hj, _⟩ := hreturn
    rw [hj] at hi
    cases hi
  have hbalance := (accounted_of_run hstart.1 hbefore hforce).step hstep hlabel id g
  rw [hzero id g] at hbalance
  omega

/-- A stream is opened, its connector replaced, another stream opened; a drain waits, with an open that had already
    locked the manager, for all three closes. -/
def replacedDrain : List Action :=
  let whole (call : Call) : List Action :=
    if call.reads then [.lock call, .observe, .finish] else [.lock call, .finish]
  [.markReady] ++ whole (.admitConnector "c" 1) ++ whole (.openStream "c" 1) ++ whole (.replaceConnector "c" 2)
    ++ whole (.openStream "c" 2) ++ [.lock (.openStream "c" 2), .observe, .drain ⟨0, 0⟩, .finish, .check 0]
    ++ whole (.closeStream "c" 1) ++ [.woken 0, .check 0] ++ whole (.closeStream "c" 2)
    ++ whole (.closeStream "c" 2) ++ [.woken 0, .check 0] ++ whole (.openStream "c" 2)

theorem drain_accounting_replaced : ∃ m q : Manager, newManager { nodeID := "n" } 1 = .ok m
    ∧ exec step m replacedDrain = some q ∧ q.counted "c" 2 + q.closes "c" 2 = q.opens "c" 2
    ∧ q.opens "c" 2 = 2 ∧ q.closes "c" 2 = 2 ∧ q.drains = [.returned false] := by
  let m : Manager := { state := { nodeID := "n" }, capacity := 1 }
  have h : (exec step m replacedDrain).isSome = true := by decide +kernel
  have hforce : (replacedDrain.all (fun a => match a with | .force _ => false | _ => true)) = true := by decide
  have hno : ∀ t ∈ trace step m replacedDrain, ∀ i, t.label ≠ .force i := by
    intro t ht i hi
    have hnot := all_eq_true.mp hforce t.label (label_mem_of_mem_trace ht)
    rw [hi] at hnot
    cases hnot
  have hnew : newManager { nodeID := "n" } 1 = .ok m := rfl
  exact ⟨m, _, hnew, exec_getD h, (drain_accounting _ _ m _ _ hnew (exec_getD_run h)).1 hno "c" 2, by decide +kernel,
    by decide +kernel, by decide +kernel⟩

end Manager

end PaperboatTunnel.Node
