import PaperboatTunnel.PeerSignalingProtocol.Validator
import Mathlib.Data.List.Dedup

/-!
# `Grammar` — the language of a validator

`Allowed` says which message may follow the messages accepted before it, from their kinds and candidates alone;
`Word` is the language this gives. The state of a validator is a function of the word it has accepted, `reached`.
-/

namespace PaperboatTunnel.PeerSignalingProtocol

open PeerSignaling List

def kinds (before : List Message) : List Kind := before.map Message.kind

/-- The distinct candidates that `before` names, the last one first. -/
def distinct (before : List Message) : List String :=
  ((before.reverse.filter (·.kind = .candidate)).map Message.candidate).dedup

/-- **The grammar**: `m` may follow the accepted messages `before`. -/
@[mk_iff]
structure Allowed (before : List Message) (m : Message) : Prop where
  contiguous : m.sequence.toNat = before.length + 1
  last : .close ∉ kinds before
  known : ∀ text, m.kind ≠ .unknown text
  credentials : m.kind = .credentials → .credentials ∉ kinds before ∧ .end ∉ kinds before
  candidate : m.kind = .candidate → .credentials ∈ kinds before ∧ .end ∉ kinds before
    ∧ (distinct (before ++ [m])).length ≤ maximumCandidates
  ended : m.kind = .end → .credentials ∈ kinds before ∧ .end ∉ kinds before
  ready : m.kind = .ready → .credentials ∈ kinds before ∧ .ready ∉ kinds before

inductive Word : List Message → Prop where
  | nil : Word []
  | snoc {before m} : Word before → Allowed before m → Word (before ++ [m])

/-- The state of a validator that has accepted `before`. -/
def reached (binding : Binding) (before : List Message) : Validator where
  binding := binding
  lastSequence := .ofNat before.length
  candidates := distinct before
  credentials := decide (.credentials ∈ kinds before)
  ended := decide (.end ∈ kinds before)
  ready := decide (.ready ∈ kinds before)
  closed := decide (.close ∈ kinds before)

@[simp] theorem reached_binding (binding : Binding) (bef : List Message) :
    (reached binding bef).binding = binding := rfl

theorem distinct_snoc (bef : List Message) (m : Message) :
    distinct (bef ++ [m]) = if m.kind = .candidate then (distinct bef).insert m.candidate else distinct bef := by
  by_cases hkind : m.kind = .candidate
  · by_cases hmem : m.candidate ∈ distinct bef <;> simp_all [distinct]
  · simp [distinct, hkind]

theorem Word.bounded {bef : List Message} (h : Word bef) :
    bef.length < 18446744073709551616 ∧ (distinct bef).length ≤ maximumCandidates := by
  induction h with
  | nil => decide
  | @snoc bef m _ hm ih =>
    have hlt := m.sequence.toNat_lt
    have hcontiguous := hm.contiguous
    refine ⟨by simp; omega, ?_⟩
    by_cases hkind : m.kind = .candidate
    · exact (hm.candidate hkind).2.2
    · rw [distinct_snoc, if_neg hkind]
      exact ih.2

variable (c : Codec) (binding : Binding) (raw : Raw) {bef : List Message} {m : Message}

variable {c binding raw} in
theorem known_of_decode (h : decode c raw binding = .ok m) : ∀ text, m.kind ≠ .unknown text := by
  intro text hkind
  simp only [decode] at h
  split_ifs at h
  split at h
  · cases h
  · split_ifs at h with _ _ hwell
    cases h
    simp [Message.wellFormed, hkind] at hwell

/-- The checks of `Accept`, past the sequence number. -/
theorem outOfOrder_reached (hword : Word bef) (hopen : .close ∉ kinds bef)
    (hseq : m.sequence.toNat = bef.length + 1) (hknown : ∀ text, m.kind ≠ .unknown text) :
    (reached binding bef).outOfOrder m = none ↔ Allowed bef m := by
  have hbound := hword.bounded.2
  rw [allowed_iff]
  cases hkind : m.kind with
  | candidate =>
    -- a candidate that was named before adds nothing to the distinct ones, which are at most the limit already
    simp_all [reached, Validator.outOfOrder, distinct_snoc, length_insert]
    grind
  | unknown text => exact absurd hkind (hknown text)
  | _ => simp_all [reached, Validator.outOfOrder]

theorem apply_reached (hseq : m.sequence.toNat = bef.length + 1) :
    ((reached binding bef).apply m).1 = reached binding (bef ++ [m]) := by
  have hlast : m.sequence = .ofNat (bef.length + 1) := by rw [← hseq, UInt64.ofNat_toNat]
  cases hkind : m.kind with
  | candidate =>
    by_cases hmem : m.candidate ∈ distinct bef <;>
      simp [Validator.apply, reached, kinds, distinct_snoc, hkind, hlast, hmem]
  | _ => simp [Validator.apply, reached, kinds, distinct_snoc, hkind, hlast]

/-- The two checks of the sequence number; the first one is there for the number that has no successor. -/
theorem contiguous_iff (hlt : bef.length < 18446744073709551616) :
    m.sequence.toNat = bef.length + 1 ↔ (reached binding bef).lastSequence ≠ 18446744073709551615
      ∧ m.sequence = (reached binding bef).lastSequence + 1 := by
  have hlast : (reached binding bef).lastSequence.toNat = bef.length := by simp [reached]; omega
  have hsequence := m.sequence.toNat_lt
  simp only [ne_eq, ← UInt64.toNat_inj, UInt64.toNat_add, hlast, UInt64.reduceToNat]
  omega

/-- **One call of `Accept`**: the message is allowed and the state follows the longer word, or nothing changes. -/
theorem accept_reached (hword : Word bef) :
    (∃ m applied, decode c raw binding = .ok m ∧ Allowed bef m
      ∧ (reached binding bef).accept c raw = (reached binding (bef ++ [m]), .ok applied))
    ∨ ((∀ m, decode c raw binding = .ok m → ¬ Allowed bef m)
      ∧ ∃ e, (reached binding bef).accept c raw = (reached binding bef, .error e)) := by
  have hlt := hword.bounded.1
  by_cases hcl : .close ∈ kinds bef
  · exact .inr ⟨fun m _ hm => hm.last hcl, .closed, by simp [Validator.accept, reached, hcl]⟩
  unfold Validator.accept
  rw [if_neg (by simp [reached, hcl])]
  by_cases hfull : (reached binding bef).lastSequence = 18446744073709551615
  · exact .inr ⟨fun m _ hm => ((contiguous_iff binding hlt).mp hm.contiguous).1 hfull, .sequence, if_pos hfull⟩
  rw [if_neg hfull, reached_binding]
  cases hdecode : decode c raw binding with
  | error e => exact .inr ⟨by simp, e, rfl⟩
  | ok m =>
    dsimp only
    by_cases hseq : m.sequence.toNat = bef.length + 1
    · rw [if_neg (not_not.mpr ((contiguous_iff binding hlt).mp hseq).2)]
      have hallow := outOfOrder_reached binding hword hcl hseq (known_of_decode hdecode)
      cases hout : (reached binding bef).outOfOrder m with
      | none => exact .inl ⟨m, _, rfl, hallow.mp hout, by rw [apply_reached binding hseq]⟩
      | some e =>
        refine .inr ⟨?_, e, rfl⟩
        rintro _ ⟨⟩ hm
        simp [hallow.mpr hm] at hout
    · refine .inr ⟨?_, .sequence, if_pos fun h => hseq ((contiguous_iff binding hlt).mpr ⟨hfull, h⟩)⟩
      rintro _ ⟨⟩ hm
      exact hseq hm.contiguous

/-- A validator and the messages it has accepted, after one more message. -/
def acceptNext (c : Codec) (s : Validator × List Message) (raw : Raw) : Validator × List Message :=
  match s.1.accept c raw, decode c raw s.1.binding with
  | (v, .ok _), .ok m => (v, s.2 ++ [m])
  | (v, _), _ => (v, s.2)

theorem run_reached (raws : List Raw) :
    ∃ bef, Word bef ∧ raws.foldl (acceptNext c) ({ binding }, []) = (reached binding bef, bef) := by
  induction raws using reverseRecOn with
  | nil => exact ⟨[], .nil, rfl⟩
  | append_singleton raws raw ih =>
    obtain ⟨bef, hword, hbefore⟩ := ih
    rw [foldl_append, hbefore]
    rcases accept_reached c binding raw hword with ⟨m, _, hm, hallow, h⟩ | ⟨_, _, h⟩
    · exact ⟨bef ++ [m], hword.snoc hallow, by simp [acceptNext, h, hm]⟩
    · exact ⟨bef, hword, by simp [acceptNext, h]⟩

/-- **The validator accepts its grammar.** After any messages, those accepted are a word, the next message is accepted
    exactly when the grammar allows it after them, and a message that is rejected leaves the state as it was. -/
theorem accepts_grammar (raws : List Raw) :
    ∃ v before, raws.foldl (acceptNext c) ({ binding }, []) = (v, before) ∧ Word before
      ∧ ((∃ applied, (v.accept c raw).2 = .ok applied) ↔ ∃ m, decode c raw binding = .ok m ∧ Allowed before m)
      ∧ (∀ e, (v.accept c raw).2 = .error e → (v.accept c raw).1 = v) := by
  obtain ⟨before, hword, hrun⟩ := run_reached c binding raws
  refine ⟨_, before, hrun, hword, ?_⟩
  rcases accept_reached c binding raw hword with ⟨m, _, hm, hallow, h⟩ | ⟨hnot, e, h⟩
  · simp [h, hm, hallow]
  · simpa [h] using hnot

end PaperboatTunnel.PeerSignalingProtocol
