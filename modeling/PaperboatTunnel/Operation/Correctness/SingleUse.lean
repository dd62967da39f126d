import PaperboatTunnel.Lib.TwoIndex
import PaperboatTunnel.Operation.Journal

/-!
# `SingleUse` — single-use credentials and idempotent operations

The two indexes of a journal have the same entries (`Sound`). What a call answers depends on the lookups alone
(`Same`), so a journal that is restored from its snapshot answers as the one that was saved.
-/

namespace PaperboatTunnel.Operation

open GoTime TransitionSystem Journal GoMap Entry GoStrings List AList Time

@[simp] theorem Entry.record_digest (e : Entry) : e.record.digest = some e.requestHash := by
  simp only [Record.digest, record, GoHex.decodeString_encodeToString, e.requestHash.2, dif_pos]

namespace Journal

variable {sha256 : List UInt8 → Digest} {j j' : Journal} {e : Entry} {now : Time} {req : Request}

/-! ## Soundness -/

/-- Each index finds an entry under its own id, and both have the same entries. -/
abbrev Coherent (j : Journal) : Prop := TwoIndex.Coherent operationID jti j.byOperation j.byJTI

/-- A journal as its calls keep it; a `storable` entry passes the checks of `Restore`. -/
structure Sound (j : Journal) : Prop where
  coherent : j.Coherent
  bounded : j.byOperation.entries.length ≤ j.maxEntries
  positive : 1 ≤ j.maxEntries
  storable : ∀ id e, j.byOperation.lookup id = some e → e.record.refused = false

def Retains (j : Journal) (e : Entry) : Prop := j.byOperation.lookup e.operationID = some e

theorem Coherent.retains_iff (h : j.Coherent) : j.Retains e ↔ e ∈ j.byOperation.values := by
  rw [mem_values_iff]
  constructor
  · intro he
    exact ⟨_, he⟩
  · rintro ⟨id, hid⟩
    obtain rfl := h.left_key id e hid
    exact hid

theorem Sound.of_new {maxEntries : Int} (h : new maxEntries = .ok j) : j.Sound ∧ j.maxEntries = maxEntries := by
  unfold new at h
  split at h
  · cases h
  rename_i hmax
  cases h
  refine ⟨⟨TwoIndex.Coherent.empty, ?_, Int.not_lt.mp hmax, ?_⟩, rfl⟩
  · show (0 : Int) ≤ maxEntries
    omega
  · intro id e he
    simp at he

theorem Sound.file (h : j.Sound) (hoperation : j.byOperation.lookup e.operationID = none)
    (hjti : j.byJTI.lookup e.jti = none) (hroom : j.full = false) (hok : e.record.refused = false) :
    (j.file e).Sound where
  coherent := h.coherent.insert hoperation hjti
  bounded := by
    have hlt : ¬ j.maxEntries ≤ j.byOperation.entries.length := of_decide_eq_false hroom
    show ((j.byOperation.insert e.operationID e).entries.length : Int) ≤ j.maxEntries
    rw [length_insert hoperation]
    omega
  positive := h.positive
  storable := forall_insert h.storable hok

/-! ### `Consume` -/

/-- What a call of `Consume` can do: it answers without a change, or it files a new entry. -/
theorem consume_cases (sha256 : List UInt8 → Digest) (j : Journal) (now : Time) (req : Request) :
    (j.consume sha256 now req).1 = j ∧ (j.consume sha256 now req).2 ≠ .ok { decision := req.decision } ∨
    (req.refused now = false ∧ j.byOperation.lookup req.operationID = none
      ∧ j.byJTI.lookup req.jti = none ∧ j.full = false
      ∧ (j.consume sha256 now req).1 = j.file (req.entry (sha256 req.canonical))) := by
  have hdup : ∀ existing : Entry,
      duplicate existing req (sha256 req.canonical) ≠ .ok { decision := req.decision } := by
    intro existing
    unfold duplicate
    split <;> simp
  fun_cases consume sha256 j now req with
  | case1 | case4 => exact .inl ⟨rfl, nofun⟩
  | case2 | case3 => exact .inl ⟨rfl, hdup _⟩
  | case5 hok _ hoperation hjti hroom => exact .inr ⟨by simpa using hok, hoperation, hjti, by simpa using hroom, rfl⟩

/-- An accepted request at a time after the Unix epoch makes an entry that can be restored. -/
theorem storable_entry (hok : req.refused now = false) (hnow : unixEpoch.nanos ≤ now.nanos) (hash : Digest) :
    (req.entry hash).record.refused = false := by
  simp only [Request.refused, Bool.or_eq_false_iff, Bool.not_eq_false', after_iff, beq_eq_false_iff_ne,
    decide_eq_false_iff_not] at hok
  obtain ⟨⟨⟨⟨⟨hoperation, hjti⟩, _⟩, _⟩, hdecision⟩, hretain⟩ := hok
  simp only [Record.refused, record, Request.entry, Bool.or_eq_false_iff, Bool.not_eq_false', after_iff,
    beq_eq_false_iff_ne]
  exact ⟨⟨⟨hoperation, hjti⟩, decide_eq_false hdecision⟩, lt_of_le_of_lt hnow hretain⟩

theorem Sound.consume (h : j.Sound) (hnow : unixEpoch.nanos ≤ now.nanos) : (j.consume sha256 now req).1.Sound := by
  obtain ⟨hsame, _⟩ | ⟨hok, hoperation, hjti, hroom, hfile⟩ := consume_cases sha256 j now req
  · rw [hsame]
    exact h
  · rw [hfile]
    exact h.file hoperation hjti hroom (storable_entry hok hnow _)

/-- **A request that names an entry of the journal** is answered by this entry. -/
theorem consume_named (h : j.Coherent) (he : j.Retains e) (hok : req.refused now = false)
    (hnames : req.operationID = e.operationID ∨ req.jti = e.jti) :
    j.consume sha256 now req = (j, duplicate e req (sha256 req.canonical)) := by
  have hjti : j.byJTI.lookup e.jti = some e := (h.same e).mp he
  unfold consume
  rw [if_neg (by simp [hok])]
  by_cases hoperation : req.operationID = e.operationID
  · rw [hoperation, show j.byOperation.lookup e.operationID = some e from he]
  have hnamed : req.jti = e.jti := hnames.resolve_left hoperation
  have hreplay : duplicate e req (sha256 req.canonical) = .error errReplay :=
    if_pos (.inl (fun heq => hoperation heq.symm))
  rw [hreplay]
  split
  · -- another entry has the operation id, so it has another JTI than the request
    rename_i x hx
    have hkey : x.operationID = req.operationID := h.left_key _ x hx
    have hne : x.jti ≠ req.jti := by
      intro heq
      have hboth : j.byJTI.lookup x.jti = some x := (h.same x).mp (hkey ▸ hx)
      rw [heq, hnamed, hjti] at hboth
      exact hoperation (by rw [← hkey, Option.some.inj hboth])
    simp only [duplicate, if_pos (.inr (.inl hne) : x.operationID ≠ req.operationID ∨ x.jti ≠ req.jti
      ∨ x.requestHash ≠ sha256 req.canonical)]
  · rw [hnamed, hjti]
    simp only [hreplay]

/-! ### `RemoveExpired` -/

def expiredKeys (now : Time) (l : List (Sigma (fun _ : String => Entry))) : List String :=
  (l.filter (fun x => !now.before x.2.retainUntil)).keys

/-- `r` is `j` without the expired entries of the list. -/
structure Cleaned (now : Time) (visited : List (Sigma (fun _ : String => Entry))) (j r : Journal) : Prop where
  coherent : r.Coherent
  maxEntries : r.maxEntries = j.maxEntries
  kept : ∀ id, r.byOperation.lookup id = if id ∈ expiredKeys now visited then none else j.byOperation.lookup id

/-- **The loop of `RemoveExpired`**, by induction on the entries that are still to be visited: those are in the
    journal, each once. -/
theorem removeExpiredLoop_cleaned (now : Time) : ∀ (l : List (Sigma (fun _ : String => Entry))) (j : Journal),
    j.Coherent → l.NodupKeys → (∀ x ∈ l, j.byOperation.lookup x.1 = some x.2) →
    Cleaned now l j (removeExpiredLoop now l j).1
      ∧ (removeExpiredLoop now l j).2 = l.countP (fun x => !now.before x.2.retainUntil)
  | [], j, hj, _, _ => ⟨⟨hj, rfl, by simp [removeExpiredLoop, expiredKeys]⟩, rfl⟩
  | ⟨id, existing⟩ :: rest, j, hj, hnodup, hin => by
      obtain ⟨hfresh, hrest⟩ := nodupKeys_cons.mp hnodup
      unfold removeExpiredLoop
      split
      case isTrue hbefore =>
        obtain ⟨hclean, hcount⟩ := removeExpiredLoop_cleaned now rest j hj hrest
          (fun x hx => hin x (mem_cons_of_mem _ hx))
        have hkeys : expiredKeys now (⟨id, existing⟩ :: rest) = expiredKeys now rest := by
          simp [expiredKeys, hbefore]
        refine ⟨⟨hclean.coherent, hclean.maxEntries, fun id' => ?_⟩, ?_⟩
        · rw [hkeys, hclean.kept]
        · rw [hcount, countP_cons_of_neg (by simp [hbefore])]
      case isFalse hexp =>
        obtain ⟨hclean, hcount⟩ := removeExpiredLoop_cleaned now rest
          { j with byOperation := j.byOperation.erase id, byJTI := j.byJTI.erase existing.jti }
          (hj.erase (hin _ mem_cons_self)) hrest (fun x hx => by
            have hne : x.1 ≠ id := fun heq => hfresh (heq ▸ (mem_keys_of_mem hx : x.1 ∈ rest.keys))
            simp only [lookup_erase_eq, if_neg hne]
            exact hin x (mem_cons_of_mem _ hx))
        have hkeys : expiredKeys now (⟨id, existing⟩ :: rest) = id :: expiredKeys now rest := by
          simp [expiredKeys, hexp]
        refine ⟨⟨hclean.coherent, hclean.maxEntries, fun id' => ?_⟩, ?_⟩
        · rw [hkeys, hclean.kept]
          simp only [lookup_erase_eq, mem_cons]
          split <;> split <;> simp_all
        · simp only [hcount]
          rw [countP_cons_of_pos (by simp [hexp])]

theorem removeExpired_cleaned (h : j.Coherent) (now : Time) :
    Cleaned now j.byOperation.entries j (j.removeExpired now).1
      ∧ (j.removeExpired now).2 = j.byOperation.entries.countP (fun x => !now.before x.2.retainUntil) :=
  removeExpiredLoop_cleaned now j.byOperation.entries j h j.byOperation.nodupKeys (fun _ hx => mem_entries_iff.mp hx)

theorem lookup_removeExpired (h : j.Coherent) (id : String) :
    (j.removeExpired now).1.byOperation.lookup id = some e ↔
      j.byOperation.lookup id = some e ∧ now.before e.retainUntil := by
  rw [(removeExpired_cleaned h now).1.kept, Option.ite_none_left_eq_some, and_comm]
  refine and_congr_right (fun hlookup => ?_)
  have hmem : id ∈ expiredKeys now j.byOperation.entries ↔ now.before e.retainUntil = false := by
    simp [expiredKeys, List.mem_keys, mem_entries_iff, hlookup]
  rw [hmem, Bool.not_eq_false]

theorem Sound.removeExpired (h : j.Sound) : (j.removeExpired now).1.Sound where
  coherent := (removeExpired_cleaned h.coherent now).1.coherent
  bounded := by
    have hlen : (j.removeExpired now).1.byOperation.entries.length ≤ j.byOperation.entries.length :=
      length_le_of_lookup (fun id e he => ((lookup_removeExpired h.coherent id).mp he).1)
    have hbound := h.bounded
    rw [(removeExpired_cleaned h.coherent now).1.maxEntries]
    omega
  positive := by
    rw [(removeExpired_cleaned h.coherent now).1.maxEntries]
    exact h.positive
  storable id e he := h.storable id e ((lookup_removeExpired h.coherent id).mp he).1

/-! ### `Snapshot` and `Restore` -/

/-- A record that `Restore` takes becomes the entry it was made of. -/
theorem restoreLoop_record {rest : List Record} (hok : e.record.refused = false)
    (hoperation : j.byOperation.lookup e.operationID = none) (hjti : j.byJTI.lookup e.jti = none)
    (hroom : j.full = false) : restoreLoop (e.record :: rest) j = restoreLoop rest (j.file e) := by
  have hnew : ¬ ((j.byOperation.lookup e.record.operationID).isSome ∨ (j.byJTI.lookup e.record.jti).isSome
      ∨ j.full = true) := by
    rw [show e.record.operationID = e.operationID from rfl, show e.record.jti = e.jti from rfl, hoperation, hjti, hroom]
    simp
  rw [restoreLoop, if_neg (by simp [hok]), record_digest]
  exact if_neg hnew

/-- **`Restore` takes the records of distinct entries**, by induction on the entries that are still to come: those
    in the journal are the entries before them, and there is room for the rest. -/
theorem restoreLoop_records : ∀ (es done : List Entry) (j : Journal), j.Sound →
    Collects operationID id done j.byOperation → Collects jti id done j.byJTI →
    ((done ++ es).map operationID).Nodup → ((done ++ es).map jti).Nodup → (∀ e ∈ es, e.record.refused = false) →
    j.byOperation.entries.length + es.length ≤ j.maxEntries →
    ∃ r, restoreLoop (es.map record) j = .ok r ∧ r.Sound ∧ r.maxEntries = j.maxEntries
      ∧ Collects operationID id (done ++ es) r.byOperation
  | [], done, j, hj, hoperations, _, _, _, _, _ => ⟨j, rfl, hj, rfl, by rwa [append_nil]⟩
  | e :: es, done, j, hj, hcollects, hcollects', hoperations, hjtis, hok, hroom => by
      have hnew : ∀ {key : Entry → String}, ((done ++ e :: es).map key).Nodup → ∀ b ∈ done, key b ≠ key e := by
        intro key hnodup b hb
        rw [map_append, nodup_append] at hnodup
        exact hnodup.2.2 _ (mem_map_of_mem hb) _ mem_cons_self
      have hnewOperation := hnew hoperations
      have hnewJTI := hnew hjtis
      have hoperation := hcollects.lookup_eq_none hnewOperation
      have hjti := hcollects'.lookup_eq_none hnewJTI
      rw [length_cons] at hroom
      have hfull : j.full = false := decide_eq_false (by omega)
      have hokHere := hok e mem_cons_self
      have hlen : (j.file e).byOperation.entries.length = j.byOperation.entries.length + 1 :=
        length_insert hoperation
      rw [append_cons] at hoperations hjtis ⊢
      rw [map_cons, restoreLoop_record hokHere hoperation hjti hfull]
      exact restoreLoop_records es (done ++ [e]) (j.file e) (hj.file hoperation hjti hfull hokHere)
        (hcollects.snoc hnewOperation) (hcollects'.snoc hnewJTI) hoperations hjtis
        (fun x hx => hok x (mem_cons_of_mem _ hx)) (by
          rw [hlen]
          show _ ≤ j.maxEntries
          omega)

/-- **A sound journal is restored from its snapshot**, with the same lookups. -/
theorem restore_snapshot (h : j.Sound) : ∃ r, restore j.snapshot j.maxEntries = .ok r ∧ r.Sound
    ∧ r.maxEntries = j.maxEntries ∧ ∀ id, r.byOperation.lookup id = j.byOperation.lookup id := by
  have hnew : new j.maxEntries = .ok { maxEntries := j.maxEntries } := if_neg (Int.not_lt.mpr h.positive)
  obtain ⟨hempty, _⟩ := Sound.of_new hnew
  have hperm : (sortBy operationID j.byOperation.values).Perm j.byOperation.values := sortBy_perm _ _
  have hsnapshot : j.snapshot = (sortBy operationID j.byOperation.values).map record :=
    sortBy_map record Record.operationID j.byOperation.values
  have hvalues : ∀ e, e ∈ sortBy operationID j.byOperation.values ↔ j.Retains e := by
    intro e
    rw [hperm.mem_iff, h.coherent.retains_iff]
  obtain ⟨r, hr, hsound, hmax, hlookup⟩ := restoreLoop_records
    (sortBy operationID j.byOperation.values) [] { maxEntries := j.maxEntries } hempty Collects.nil Collects.nil
    (by
      rw [nil_append, (hperm.map _).nodup_iff, map_values h.coherent.left_key]
      exact keys_nodup _)
    (by
      rw [nil_append, ((hperm.trans h.coherent.values_perm).map _).nodup_iff, map_values h.coherent.right_key]
      exact keys_nodup _)
    (fun e he => h.storable _ e ((hvalues e).mp he))
    (by
      have hbound := h.bounded
      have hlen : (sortBy operationID j.byOperation.values).length
          = j.byOperation.entries.length := hperm.length_eq.trans (length_map _)
      rw [hlen]
      show ((0 : Nat) : Int) + _ ≤ j.maxEntries
      omega)
  refine ⟨r, ?_, hsound, hmax, fun id => ?_⟩
  · unfold restore
    rw [hnew, hsnapshot]
    exact hr
  apply Option.ext
  intro e
  rw [hlookup]
  constructor
  · rintro ⟨_, he, rfl, rfl⟩
    exact (hvalues _).mp he
  · intro he
    obtain rfl := h.coherent.left_key id e he
    exact ⟨e, (hvalues e).mpr he, rfl, rfl⟩

theorem restoreLoop_coherent : ∀ {recs : List Record} {j r : Journal}, j.Coherent →
    restoreLoop recs j = .ok r → r.Coherent
  | [], j, r, hj, h => by
      cases h
      exact hj
  | record :: rest, j, r, hj, h => by
      unfold restoreLoop at h
      split at h
      · cases h
      split at h
      · cases h
      split at h
      · cases h
      rename_i hash _ hnew
      simp only [not_or, Option.not_isSome_iff_eq_none] at hnew
      exact restoreLoop_coherent (hj.insert (e := record.entry hash) hnew.1 hnew.2.1) h

theorem restore_coherent {recs : List Record} {maxEntries : Int} {r : Journal}
    (h : restore recs maxEntries = .ok r) : r.Coherent := by
  unfold restore at h
  split at h
  · cases h
  · rename_i hnew
    exact restoreLoop_coherent (Sound.of_new hnew).1.coherent h

/-! ## Sameness -/

/-- Two journals that a caller cannot tell apart: their entries may stand in another order. -/
structure Same (j j' : Journal) : Prop where
  left : j.Coherent
  right : j'.Coherent
  maxEntries : j.maxEntries = j'.maxEntries
  lookup : ∀ id, j.byOperation.lookup id = j'.byOperation.lookup id

variable (h : Same j j')

include h

theorem Same.perm : j.byOperation.entries.Perm j'.byOperation.entries := perm_of_lookup h.lookup

theorem Same.full : j.full = j'.full := by
  unfold Journal.full
  rw [h.maxEntries, h.perm.length_eq]

theorem Same.snapshot : j.snapshot = j'.snapshot := by
  refine sortBy_eq_of_perm isStrictTotalOrder_string ((h.perm.map _).map _) ?_
  rw [List.map_map]
  show (j.byOperation.values.map operationID).Nodup
  rw [map_values h.left.left_key]
  exact keys_nodup _

theorem Same.file (hoperation : j.byOperation.lookup e.operationID = none) (hjti : j.byJTI.lookup e.jti = none) :
    Same (j.file e) (j'.file e) where
  left := h.left.insert hoperation hjti
  right := h.right.insert (h.lookup _ ▸ hoperation) (h.left.right_congr h.right h.lookup _ ▸ hjti)
  maxEntries := h.maxEntries
  lookup id := by
    simp only [Journal.file, lookup_insert_eq, h.lookup]

theorem Same.consume (sha256 : List UInt8 → Digest) (now : Time) (req : Request) :
    (j.consume sha256 now req).2 = (j'.consume sha256 now req).2
      ∧ Same (j.consume sha256 now req).1 (j'.consume sha256 now req).1 := by
  have hjti : j.byJTI.lookup req.jti = j'.byJTI.lookup req.jti := h.left.right_congr h.right h.lookup _
  unfold Journal.consume
  rw [← h.lookup, ← hjti, ← h.full]
  split
  · exact ⟨rfl, h⟩
  split
  · exact ⟨rfl, h⟩
  rename_i hnewOperation
  split
  · exact ⟨rfl, h⟩
  rename_i hnewJTI
  split
  · exact ⟨rfl, h⟩
  exact ⟨rfl, h.file (e := req.entry (sha256 req.canonical)) hnewOperation hnewJTI⟩

theorem Same.removeExpired (now : Time) : (j.removeExpired now).2 = (j'.removeExpired now).2
      ∧ Same (j.removeExpired now).1 (j'.removeExpired now).1 := by
  obtain ⟨hclean, hcount⟩ := removeExpired_cleaned h.left now
  obtain ⟨hclean', hcount'⟩ := removeExpired_cleaned h.right now
  refine ⟨by rw [hcount, hcount', h.perm.countP_eq], hclean.coherent, hclean'.coherent, ?_, fun id => ?_⟩
  · rw [hclean.maxEntries, hclean'.maxEntries, h.maxEntries]
  · apply Option.ext
    intro e
    rw [lookup_removeExpired h.left, lookup_removeExpired h.right, h.lookup]

/-- **Journals that are the same answer the same** and stay the same. -/
theorem Same.apply (sha256 : List UInt8 → Digest) (call : Call) :
    (j.apply sha256 call).2 = (j'.apply sha256 call).2 ∧ Same (j.apply sha256 call).1 (j'.apply sha256 call).1 := by
  cases call with
  | consume now req =>
    obtain ⟨hres, hsame⟩ := h.consume sha256 now req
    exact ⟨congrArg Result.consumed hres, hsame⟩
  | removeExpired now =>
    obtain ⟨hres, hsame⟩ := h.removeExpired now
    exact ⟨congrArg Result.removed hres, hsame⟩
  | reload =>
    simp only [Journal.apply]
    rw [← h.snapshot, ← h.maxEntries]
    split
    · rename_i r hr
      have hcoherent := restore_coherent hr
      exact ⟨rfl, hcoherent, hcoherent, rfl, fun _ => rfl⟩
    · exact ⟨rfl, h⟩

omit h

theorem Same.results (sha256 : List UInt8 → Digest) : ∀ (calls : List Call) {j j' : Journal}, Same j j' →
    results sha256 j calls = results sha256 j' calls
  | [], _, _, _ => rfl
  | call :: calls, j, j', h => by
      obtain ⟨hres, hsame⟩ := h.apply sha256 call
      simp only [Journal.results]
      rw [hres, Same.results sha256 calls hsame]

/-- **Every call keeps a journal sound**, when its time is not before the Unix epoch. -/
theorem Sound.apply (h : j.Sound) (call : Call) (htime : ∀ now, call.time = some now → unixEpoch.nanos ≤ now.nanos) :
    (j.apply sha256 call).1.Sound ∧ (j.apply sha256 call).1.maxEntries = j.maxEntries := by
  cases call with
  | consume now req =>
    refine ⟨h.consume (htime now rfl), ?_⟩
    obtain ⟨hsame, _⟩ | ⟨_, _, _, _, hfile⟩ := consume_cases sha256 j now req
    · exact congrArg maxEntries hsame
    · show (j.consume sha256 now req).1.maxEntries = j.maxEntries
      rw [hfile]
      rfl
  | removeExpired now => exact ⟨h.removeExpired, (removeExpired_cleaned h.coherent now).1.maxEntries⟩
  | reload =>
    obtain ⟨_, hr, hsound, hmax, _⟩ := restore_snapshot h
    simp only [Journal.apply, hr]
    exact ⟨hsound, hmax⟩

/-- **An entry stays** through every call but a `RemoveExpired` that finds it expired. -/
theorem Retains.apply (he : j.Retains e) (h : j.Sound) (call : Call)
    (hkeep : ∀ now, call = .removeExpired now → now.before e.retainUntil) :
    (j.apply sha256 call).1.Retains e := by
  cases call with
  | consume now req =>
    obtain ⟨hsame, _⟩ | ⟨_, hoperation, _, _, hfile⟩ := consume_cases sha256 j now req
    · show (j.consume sha256 now req).1.Retains e
      rw [hsame]
      exact he
    show (j.consume sha256 now req).1.Retains e
    have hne : e.operationID ≠ req.operationID := by
      intro heq
      rw [← heq, show j.byOperation.lookup e.operationID = some e from he] at hoperation
      cases hoperation
    rw [hfile]
    simp only [Retains, file, lookup_insert_eq]
    exact (if_neg hne).trans he
  | removeExpired now => exact (lookup_removeExpired h.coherent _).mpr ⟨he, hkeep now rfl⟩
  | reload =>
    obtain ⟨_, hr, _, _, hlookup⟩ := restore_snapshot h
    simp only [Journal.apply, hr]
    exact (hlookup _).trans he

end Journal

/-! ## Runs -/

variable {sha256 : List UInt8 → Digest} {s s' : State} {call : Call} {maxEntries : Int} {e : Entry}

theorem step_eq (h : step sha256 s call = some s') :
    s'.journal = (s.journal.apply sha256 call).1 ∧ s'.clock = call.time.getD s.clock
      ∧ s.clock.nanos ≤ s'.clock.nanos := by
  simp only [step] at h
  split at h
  · cases h
  · rename_i hclock
    cases h
    exact ⟨rfl, rfl, by simpa using hclock⟩

structure Kept (maxEntries : Int) (s : State) : Prop where
  sound : s.journal.Sound
  maxEntries : s.journal.maxEntries = maxEntries
  clock : Time.unixEpoch.nanos ≤ s.clock.nanos

theorem Kept.step (h : Kept maxEntries s) (hstep : step sha256 s call = some s') : Kept maxEntries s' := by
  obtain ⟨hjournal, hclock, hlater⟩ := step_eq hstep
  have htime : ∀ now, call.time = some now → unixEpoch.nanos ≤ now.nanos := by
    intro now hnow
    rw [hclock, hnow, Option.getD_some] at hlater
    exact le_trans h.clock hlater
  obtain ⟨hsound, hmax⟩ : (s.journal.apply sha256 call).1.Sound
      ∧ (s.journal.apply sha256 call).1.maxEntries = s.journal.maxEntries := h.sound.apply call htime
  exact ⟨hjournal ▸ hsound, by rw [hjournal, hmax, h.maxEntries], le_trans h.clock hlater⟩

theorem consume_of_named {j : Journal} (hcoherent : j.Coherent) (he : e ∈ j.byOperation.values) {now : Time}
    {request : Request} (hnames : request.operationID = e.operationID ∨ request.jti = e.jti) :
    (j.consume sha256 now request).1 = j ∧
    (j.consume sha256 now request).2 =
      if request.refused now then .error errInvalid
      else if request.operationID = e.operationID ∧ request.jti = e.jti
          ∧ sha256 request.canonical = e.requestHash then .ok { decision := e.decision, duplicate := true }
      else .error errReplay := by
  cases hok : request.refused now with
  | true => simp [consume, hok]
  | false =>
    rw [consume_named hcoherent (hcoherent.retains_iff.mpr he) hok hnames]
    refine ⟨rfl, ?_⟩
    simp only [duplicate, Bool.false_eq_true, if_false]
    by_cases hsame : request.operationID = e.operationID ∧ request.jti = e.jti
        ∧ sha256 request.canonical = e.requestHash
    · rw [if_pos hsame, if_neg (by simp [hsame])]
    rw [if_neg hsame, if_pos]
    by_contra hno
    simp only [not_or, not_not] at hno
    exact hsame ⟨hno.1.symm, hno.2.1.symm, hno.2.2.symm⟩

/-- **An entry stays** until a `RemoveExpired` comes at or after its time. -/
theorem retains_of_run {p q : State} {tr : Trace State Call} (hrun : Run (step sha256) p tr q)
    (hkept : Kept maxEntries p) (hretains : p.journal.Retains e)
    (hexpiry : ∀ t ∈ tr, ∀ now, t.label = .removeExpired now → now.before e.retainUntil) : q.journal.Retains e := by
  have hboth : q.journal.Retains e ∧ Kept maxEntries q := by
    refine hrun.invariant_on (I := fun s => s.journal.Retains e ∧ Kept maxEntries s)
      (C := fun t => ∀ now, t.label = .removeExpired now → now.before e.retainUntil) ?_ hexpiry ⟨hretains, hkept⟩
    intro s call s' hearly ⟨hretains, hs⟩ hstep
    refine ⟨?_, hs.step hstep⟩
    rw [(step_eq hstep).1]
    exact hretains.apply hs.sound call hearly
  exact hboth.1

/-- The request that makes an entry leaves it in the journal. -/
theorem retains_of_fresh {now : Time} {request : Request} (hstep : step sha256 s (.consume now request) = some s')
    (hfresh : (s.journal.consume sha256 now request).2 = .ok { decision := request.decision }) :
    s'.journal.Retains (request.entry (sha256 request.canonical)) := by
  obtain ⟨_, hno⟩ | ⟨_, _, _, _, hfile⟩ := consume_cases sha256 s.journal now request
  · exact absurd hfresh hno
  rw [(step_eq hstep).1]
  show (s.journal.consume sha256 now request).1.Retains _
  rw [hfile]
  exact AList.lookup_insert _

/-- **Single-use credentials and idempotent operations.** In every run of the calls, with times that start at the
    Unix epoch and never go back: the two indexes have the same entries, each under its own ids, and at most the
    maximum. A request that names an entry of the journal changes nothing; unless the request is invalid, the answer
    is the decision of this entry, when the ids and the hash are the same, and otherwise a replay error. An entry is
    the one that its first request made until a `RemoveExpired` comes at or after its time. And the journal restored
    from the snapshot answers all later calls as this one does. -/
theorem single_use (sha256 : List UInt8 → Digest) (maxEntries : Int) (j : Journal)
    (hnew : new maxEntries = .ok j) (tr : Trace State Call) (q : State)
    (hrun : Run (step sha256) { journal := j } tr q) :
    (q.journal.byOperation.values.Perm q.journal.byJTI.values
      ∧ q.journal.byOperation.entries.length ≤ maxEntries ∧ q.journal.byJTI.entries.length ≤ maxEntries
      ∧ ∀ e ∈ q.journal.byOperation.values,
          q.journal.byOperation.lookup e.operationID = some e ∧ q.journal.byJTI.lookup e.jti = some e) ∧
    (∀ e ∈ q.journal.byOperation.values, ∀ now request, request.operationID = e.operationID ∨ request.jti = e.jti →
      (q.journal.consume sha256 now request).1 = q.journal ∧
      (q.journal.consume sha256 now request).2 =
        if request.refused now then .error errInvalid
        else if request.operationID = e.operationID ∧ request.jti = e.jti
            ∧ sha256 request.canonical = e.requestHash then .ok { decision := e.decision, duplicate := true }
        else .error errReplay) ∧
    (∀ tr₁ t tr₂ now request, tr = tr₁ ++ t :: tr₂ → t.label = .consume now request →
      (t.pre.journal.consume sha256 now request).2 = .ok { decision := request.decision } →
      (∀ u ∈ tr₂, ∀ now', u.label = .removeExpired now' → now'.before request.retainUntil) →
      request.entry (sha256 request.canonical) ∈ q.journal.byOperation.values) ∧
    (∃ restored, restore q.journal.snapshot maxEntries = .ok restored ∧
      ∀ calls, restored.results sha256 calls = q.journal.results sha256 calls) := by
  obtain ⟨hsound, hmaximum⟩ := Journal.Sound.of_new hnew
  have hstart : Kept maxEntries { journal := j } := ⟨hsound, hmaximum, le_refl _⟩
  have hkept : Kept maxEntries q := hrun.invariant (·.step ·) hstart
  have hcoherent := hkept.sound.coherent
  have hbounded : q.journal.byOperation.entries.length ≤ maxEntries := hkept.maxEntries ▸ hkept.sound.bounded
  have hlength : q.journal.byOperation.entries.length = q.journal.byJTI.entries.length := by
    have hperm := hcoherent.values_perm.length_eq
    rwa [values, values, List.length_map, List.length_map] at hperm
  refine ⟨⟨hcoherent.values_perm, hbounded, hlength ▸ hbounded, ?_⟩, ?_, ?_, ?_⟩
  · intro e he
    have hretains := hcoherent.retains_iff.mpr he
    exact ⟨hretains, (hcoherent.same e).mp hretains⟩
  · intro e he now request hnames
    exact consume_of_named hcoherent he hnames
  · intro tr₁ t tr₂ now request htr hlabel hfresh hexpiry
    rw [htr] at hrun
    obtain ⟨hbefore, hstep, hafter⟩ := hrun.through
    have hmiddle : Kept maxEntries t.pre := hbefore.invariant (·.step ·) hstart
    have hthere := retains_of_fresh (hlabel ▸ hstep) hfresh
    exact hcoherent.retains_iff.mp (retains_of_run hafter (hmiddle.step hstep) hthere hexpiry)
  · obtain ⟨restored, hrestored, hsound', hmax, hlookup⟩ := restore_snapshot hkept.sound
    refine ⟨restored, hkept.maxEntries ▸ hrestored, fun calls => ?_⟩
    exact Journal.Same.results sha256 calls ⟨hsound'.coherent, hcoherent, hmax, hlookup⟩

/-! ### A request, again and without a body -/

/-- A hash for the runs below, which have one request only. -/
def zeroDigest (_ : List UInt8) : Digest := ⟨List.replicate 32 0, rfl⟩

def dayOne : Time := { nanos := Time.unixEpoch.nanos + 1 }

def attach : Request :=
  { operationID := "attach", jti := "credential", canonical := [1], decision := [2],
    retainUntil := { nanos := Time.unixEpoch.nanos + 10 } }

/-- The request is consumed, and the journal is restored from its snapshot. -/
def attachCalls : List Call := [.consume dayOne attach, .removeExpired dayOne, .reload]

/-- The entry of the request is there at the end, and the request gets the decision of the first time. -/
theorem single_use_attach : ∃ q, exec (step zeroDigest) { journal := { maxEntries := 2 } } attachCalls = some q
      ∧ attach.entry (zeroDigest [1]) ∈ q.journal.byOperation.values
      ∧ (q.journal.consume zeroDigest dayOne attach).2 = .ok { decision := [2], duplicate := true } := by
  obtain ⟨q, hq, hmem⟩ : ∃ q, exec (step zeroDigest) { journal := { maxEntries := 2 } } attachCalls = some q
      ∧ attach.entry (zeroDigest [1]) ∈ q.journal.byOperation.values := by
    decide +kernel
  have h := single_use zeroDigest 2 { maxEntries := 2 } rfl _ q (exec_run hq)
  have hanswer := (h.2.1 _ hmem dayOne attach (.inl rfl)).2
  exact ⟨q, hq, hmem, hanswer⟩

/-- The ids of a retained entry in a request without a body: the answer is neither the decision nor a replay error. -/
theorem retained_id_refused_as_invalid :
    ∃ q, exec (step zeroDigest) { journal := { maxEntries := 2 } } [.consume dayOne attach] = some q
      ∧ q.journal.byOperation.lookup "attach" = some (attach.entry (zeroDigest [1]))
      ∧ (q.journal.consume zeroDigest dayOne { attach with canonical := [] }).2 = .error errInvalid
      ∧ errInvalid ≠ errReplay :=
  ⟨_, rfl, by decide +kernel, rfl, by decide⟩

end PaperboatTunnel.Operation
