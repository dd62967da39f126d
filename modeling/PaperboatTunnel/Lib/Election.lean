import Mathlib.Data.List.Forall2
import Mathlib.Data.List.Induction
import PaperboatTunnel.Lib.GoStrings
import PaperboatTunnel.Lib.Table

/-!
# `Election` — one element for each key

A loop that keeps one element for each key, the one with the least rank. Its result is determined by the elements
alone if there is one to elect for each key (`elect_perm`), and it goes the same way over two lists that agree
element by element (`elect_rel`).

A stricter loop refuses an element that has the rank of the current one and another name (`tryElect`). Its outcome
does not depend on the order exactly if it refuses every order, or none and elects the same elements (`run_perm_iff`).
-/

namespace Election

open List Table

variable {α κ ρ ν : Type} {key : α → κ} {rank : α → ρ} {name : α → ν} {l l' chosen : List α} {a b cur x : α}

theorem exists_perm_cons (ha : a ∈ l) : ∃ rest, l.Perm (a :: rest) := by
  obtain ⟨before, after, rfl⟩ := append_of_mem ha
  exact ⟨before ++ after, perm_middle⟩

theorem rel_of_rel {o p q : Option (List α)} (hp : Option.Rel Perm o p) (hq : Option.Rel Perm o q) :
    Option.Rel Perm p q := by
  cases hp <;> cases hq
  · next hp _ hq => exact .some (hp.symm.trans hq)
  · exact .none

/-! ## Who may be elected -/

variable [LT ρ]

section Defs

variable (key : α → κ) (rank : α → ρ) (name : α → ν) (l : List α)

/-- Among the elements, this one has the least rank for its key. -/
def Elected (a : α) : Prop := a ∈ l ∧ ∀ b ∈ l, key b = key a → ¬ rank b < rank a

/-- Two elements that may be elected for one key have different names. -/
def Contested : Prop := ∃ a b, Elected key rank l a ∧ Elected key rank l b ∧ key a = key b ∧ name a ≠ name b

/-- There is one element to elect for each key, and key and rank determine the name. -/
def Settled : Prop :=
  (∀ a b, Elected key rank l a → Elected key rank l b → key a = key b → a = b) ∧
    ∀ a ∈ l, ∀ b ∈ l, key a = key b → rank a = rank b → name a = name b

/-- An element comes after an elected one with its key and rank and another name. -/
def Clash : Prop :=
  ∃ before a after cur, l = before ++ a :: after ∧ Elected key rank before cur ∧ key cur = key a ∧ rank cur = rank a
    ∧ name cur ≠ name a

/-- What a loop has chosen among the elements so far. -/
structure Elects (chosen : List α) : Prop where
  elected : ∀ a ∈ chosen, Elected key rank l a
  keys : (chosen.map key).Nodup
  covers : ∀ b ∈ l, ∃ a ∈ chosen, key a = key b

end Defs

theorem Elected.of_subset (h : Elected key rank l a) (hsub : ∀ b ∈ l', b ∈ l) (ha : a ∈ l') : Elected key rank l' a :=
  ⟨ha, fun b hb => h.2 b (hsub b hb)⟩

theorem Elected.perm (h : Elected key rank l a) (hperm : l.Perm l') : Elected key rank l' a :=
  h.of_subset (fun _ => hperm.mem_iff.mpr) (hperm.mem_iff.mp h.1)

theorem Contested.perm (h : Contested key rank name l) (hperm : l.Perm l') : Contested key rank name l' := by
  obtain ⟨a, b, ha, hb, hne⟩ := h
  exact ⟨a, b, ha.perm hperm, hb.perm hperm, hne⟩

theorem not_clash_of_settled (h : Settled key rank name l) (hperm : l.Perm l') : ¬ Clash key rank name l' := by
  rintro ⟨before, a, after, cur, rfl, hcur, hkey, hrank, hname⟩
  have hin : cur ∈ before ++ a :: after := mem_append_left _ hcur.1
  exact hname (h.2 cur (hperm.mem_iff.mpr hin) a (hperm.mem_iff.mpr (by simp)) hkey hrank)

/-- Where no element undercuts one before it, only elected ones can clash. -/
theorem not_clash_of_ordered (hordered : l.Pairwise (fun a b => key b = key a → ¬ rank b < rank a))
    (h : ¬ Contested key rank name l) : ¬ Clash key rank name l := by
  rintro ⟨before, a, after, cur, rfl, hcur, hkey, hrank, hname⟩
  have hlater := (pairwise_append.mp hordered).2.2 cur hcur.1
  have helected : Elected key rank (before ++ a :: after) cur :=
    ⟨mem_append_left _ hcur.1, fun b hb => (mem_append.mp hb).elim (hcur.2 b) (hlater b)⟩
  refine h ⟨cur, a, helected, ⟨by simp, fun b hb heq => ?_⟩, hkey, hname⟩
  rw [← hrank]
  exact helected.2 b hb (heq.trans hkey.symm)

theorem Elects.snoc (h : Elects key rank l chosen) (hb : b ∈ chosen) (hnot : key a = key b → ¬ rank a < rank b) :
    Elected key rank (l ++ [a]) b :=
  ⟨mem_append_left _ (h.elected b hb).1, forall_mem_snoc (h.elected b hb).2 hnot⟩

theorem Elects.keep (h : Elects key rank l chosen) (hcur : cur ∈ chosen) (hkey : key cur = key a)
    (hnot : ¬ rank a < rank cur) : Elects key rank (l ++ [a]) chosen := by
  refine ⟨fun b hb => h.snoc hb (fun heq => ?_), h.keys, forall_mem_snoc h.covers ⟨cur, hcur, hkey⟩⟩
  rw [inj_on_of_nodup_map h.keys hb hcur (heq.symm.trans hkey.symm)]
  exact hnot

section Total

variable [IsStrictTotalOrder ρ (· < ·)]

theorem rank_eq_of_elected (ha : Elected key rank l a) (hb : Elected key rank l b) (heq : key a = key b) :
    rank a = rank b := by
  rcases trichotomous_of (· < ·) (rank a) (rank b) with hlt | hrank | hgt
  · exact absurd hlt (hb.2 a ha.1 heq)
  · exact hrank
  · exact absurd hgt (ha.2 b hb.1 heq.symm)

theorem clash_of_contested (h : Contested key rank name l) : Clash key rank name l := by
  obtain ⟨a, b, ha, hb, hkey, hname⟩ := h
  have hrank := rank_eq_of_elected ha hb hkey
  obtain ⟨before, after, rfl⟩ := append_of_mem hb.1
  rcases mem_append.mp ha.1 with hin | hin
  · exact ⟨before, b, after, a, rfl, ha.of_subset (fun _ => mem_append_left _) hin, hkey, hrank, hname⟩
  rcases mem_cons.mp hin with rfl | hin
  · exact absurd rfl hname
  · obtain ⟨between, after, rfl⟩ := append_of_mem hin
    exact ⟨before ++ b :: between, a, after, b, by simp, hb.of_subset (by grind) (by simp), hkey.symm, hrank.symm,
      hname.symm⟩

theorem elected_last (hleast : ∀ b ∈ l, key b = key a → ¬ rank b < rank a) : Elected key rank (l ++ [a]) a :=
  ⟨mem_append_right _ mem_cons_self, forall_mem_snoc hleast (fun _ => irrefl _)⟩

theorem Elects.first (h : Elects key rank l chosen) (hnew : ∀ b ∈ chosen, key b ≠ key a) :
    Elects key rank (l ++ [a]) (chosen ++ [a]) := by
  refine ⟨?_, nodup_map_snoc h.keys hnew, ?_⟩
  · refine forall_mem_snoc (fun b hb => h.snoc hb (fun heq => absurd heq.symm (hnew b hb))) (elected_last ?_)
    intro b hb heq
    obtain ⟨c, hc, hkey⟩ := h.covers b hb
    exact absurd (hkey.trans heq) (hnew c hc)
  · refine forall_mem_snoc (fun b hb => ?_) ⟨a, mem_append_right _ mem_cons_self, rfl⟩
    obtain ⟨c, hc, heq⟩ := h.covers b hb
    exact ⟨c, mem_append_left _ hc, heq⟩

end Total

/-! ## The loop -/

variable [DecidableEq κ]

omit [LT ρ] in
theorem keys_substituted (key : α → κ) (chosen : List α) (a : α) :
    (chosen.map (fun b => if key b = key a then a else b)).map key = chosen.map key := by
  rw [map_map]
  apply map_congr_left
  intro b _
  dsimp only [Function.comp]
  split
  · next heq => exact heq.symm
  · rfl

theorem Elects.replace [IsStrictTotalOrder ρ (· < ·)] (h : Elects key rank l chosen) (hcur : cur ∈ chosen)
    (hkey : key cur = key a) (hlt : rank a < rank cur) :
    Elects key rank (l ++ [a]) (chosen.map (fun b => if key b = key a then a else b)) := by
  have hkeys := keys_substituted key chosen a
  refine ⟨fun b hb => ?_, hkeys ▸ h.keys, ?_⟩
  · obtain ⟨c, hc, rfl⟩ := mem_map.mp hb
    split
    · -- what is below the new element is below the current one
      refine elected_last (fun d hd heq hless => ?_)
      exact (h.elected cur hcur).2 d hd (heq.trans hkey.symm) (IsTrans.trans _ _ _ hless hlt)
    · next hne => exact h.snoc hc (fun heq => absurd heq.symm hne)
  · have hall {b : α} (hb : ∃ c ∈ chosen, key c = key b) :
        ∃ c ∈ chosen.map (fun b => if key b = key a then a else b), key c = key b := by
      rw [← mem_map, hkeys, mem_map]
      exact hb
    exact forall_mem_snoc (fun b hb => hall (h.covers b hb)) (hall ⟨cur, hcur, hkey⟩)

omit [LT ρ] in
theorem not_key_of_find (h : chosen.find? (fun b => key b == key a) = none) : ∀ b ∈ chosen, key b ≠ key a := by
  intro b hb heq
  have hno := find?_eq_none.mp h b hb
  simp [heq] at hno

variable [DecidableLT ρ]

/-- One turn of the loop. -/
def elect (key : α → κ) (rank : α → ρ) (chosen : List α) (a : α) : List α :=
  match chosen.find? (fun b => key b == key a) with
  | none => chosen ++ [a]
  | some current =>
    if ¬ rank a < rank current then chosen
    else chosen.map (fun b => if key b = key a then a else b)

theorem mem_elect {b : α} (h : b ∈ elect key rank chosen a) : b ∈ chosen ∨ b = a := by
  unfold elect at h
  split at h
  · exact mem_snoc h
  split at h
  · exact .inl h
  obtain ⟨c, hc, rfl⟩ := mem_map.mp h
  split
  · exact .inr rfl
  · exact .inl hc

theorem nodup_elect (h : (chosen.map key).Nodup) : ((elect key rank chosen a).map key).Nodup := by
  unfold elect
  split
  · next hfind => exact nodup_map_snoc h (not_key_of_find hfind)
  split
  · exact h
  · rw [keys_substituted]
    exact h

/-- A chosen element stays chosen until another one undercuts it. -/
theorem mem_elect_of_mem (hkeys : (chosen.map key).Nodup) (hx : x ∈ chosen)
    (hleast : key a = key x → ¬ rank a < rank x) : x ∈ elect key rank chosen a := by
  unfold elect
  split
  · exact mem_append_left _ hx
  next cur hfind =>
  obtain ⟨hcur, hkey⟩ := (find_iff hkeys).mp hfind
  split
  · exact hx
  next hlt =>
  refine mem_map.mpr ⟨x, hx, if_neg (fun heq => ?_)⟩
  obtain rfl := inj_on_of_nodup_map hkeys hcur hx (hkey.trans heq.symm)
  exact hleast heq.symm (not_not.mp hlt)

/-- An element that is met first and never undercut is chosen. -/
theorem mem_foldl_of_mem (hkeys : (chosen.map key).Nodup) (hx : x ∈ chosen)
    (hleast : ∀ a ∈ l, key a = key x → ¬ rank a < rank x) : x ∈ l.foldl (elect key rank) chosen := by
  induction l generalizing chosen with
  | nil => exact hx
  | cons a l ih =>
    rw [forall_mem_cons] at hleast
    exact ih (nodup_elect hkeys) (mem_elect_of_mem hkeys hx hleast.1) hleast.2

variable {R : α → α → Prop}

theorem find_rel (hkey : ∀ a b, R a b → key a = key b) (hab : R a b) (h : List.Forall₂ R l l') :
    Option.Rel R (l.find? (fun c => key c == key a)) (l'.find? (fun c => key c == key b)) := by
  induction h with
  | nil => exact .none
  | @cons _ c' _ _ hc _ ih =>
    rw [find?_cons, find?_cons, hkey _ _ hc, hkey _ _ hab]
    cases key c' == key b with
    | true => exact .some hc
    | false =>
      rw [hkey _ _ hab] at ih
      exact ih

/-- **The loop goes the same way over lists that agree.** -/
theorem elect_rel (hkey : ∀ a b, R a b → key a = key b) (hrank : ∀ a b, R a b → rank a = rank b)
    (hab : R a b) (h : List.Forall₂ R l l') :
    List.Forall₂ R (elect key rank l a) (elect key rank l' b) := by
  have hfind := find_rel hkey hab h
  unfold elect
  generalize l.find? (fun c => key c == key a) = cur, l'.find? (fun c => key c == key b) = cur' at hfind ⊢
  cases hfind with
  | none => exact rel_append h (.cons hab .nil)
  | some hcur =>
    dsimp only
    rw [hrank _ _ hab, hrank _ _ hcur]
    split
    · exact h
    refine rel_map (fun c c' hc => ?_) h
    rw [hkey _ _ hc, hkey _ _ hab]
    split
    · exact hab
    · exact hc

/-! ## What is chosen -/

variable [IsStrictTotalOrder ρ (· < ·)]

theorem Elects.turn (h : Elects key rank l chosen) : Elects key rank (l ++ [a]) (elect key rank chosen a) := by
  unfold elect
  split
  · next hfind => exact h.first (not_key_of_find hfind)
  next cur hfind =>
  obtain ⟨hcur, hkey⟩ := (find_iff h.keys).mp hfind
  split
  · next hnot => exact h.keep hcur hkey hnot
  · next hlt => exact h.replace hcur hkey (not_not.mp hlt)

/-- **The loop chooses an element with the least rank for each key.** By induction from the last element. -/
theorem elect_foldl (key : α → κ) (rank : α → ρ) (l : List α) : Elects key rank l (l.foldl (elect key rank) []) := by
  induction l using reverseRecOn with
  | nil => exact ⟨fun _ ha => absurd ha not_mem_nil, nodup_nil, fun _ hb => absurd hb not_mem_nil⟩
  | append_singleton l a ih =>
    rw [foldl_append]
    exact ih.turn

/-- **The order of the elements does not matter** if there is one to elect for each key. -/
theorem elect_perm (hone : ∀ a b, Elected key rank l a → Elected key rank l b → key a = key b → a = b)
    (hperm : l.Perm l') : (l.foldl (elect key rank) []).Perm (l'.foldl (elect key rank) []) := by
  have h := elect_foldl key rank l
  have h' := elect_foldl key rank l'
  refine (perm_ext_iff_of_nodup h.keys.of_map h'.keys.of_map).mpr (fun a => ⟨fun ha => ?_, fun ha => ?_⟩)
  · obtain ⟨b, hb, heq⟩ := h'.covers a (hperm.mem_iff.mp (h.elected a ha).1)
    rwa [hone a b (h.elected a ha) ((h'.elected b hb).perm hperm.symm) heq.symm]
  · obtain ⟨b, hb, heq⟩ := h.covers a (hperm.mem_iff.mpr (h'.elected a ha).1)
    rwa [hone a b ((h'.elected a ha).perm hperm.symm) (h.elected b hb) heq.symm]

/-! ## The loop that refuses -/

variable [DecidableEq ρ] [DecidableEq ν]

/-- One turn of the loop; it stops at an element that has the rank of the current one and another name. -/
def tryElect (key : α → κ) (rank : α → ρ) (name : α → ν) (chosen : List α) (a : α) : Option (List α) :=
  if (chosen.find? (fun b => key b == key a)).any (fun cur => rank cur = rank a ∧ name cur ≠ name a) then none
  else some (elect key rank chosen a)

def run (key : α → κ) (rank : α → ρ) (name : α → ν) (l : List α) : Option (List α) :=
  l.foldlM (tryElect key rank name) []

omit [IsStrictTotalOrder ρ (· < ·)] in
theorem tryElect_find {p : α → Bool} (hp : ∀ b, p b = true ↔ key b = key a) : tryElect key rank name chosen a =
    match chosen.find? p with
    | none => some (chosen ++ [a])
    | some cur =>
      if rank cur = rank a ∧ name cur ≠ name a then none
      else some (if rank a < rank cur then chosen.map (fun b => if p b then a else b) else chosen) := by
  obtain rfl : p = fun b => key b == key a := by
    funext b
    rw [Bool.eq_iff_iff, hp, beq_iff_eq]
  cases hfind : chosen.find? (fun b => key b == key a) <;> simp [tryElect, elect, hfind]

omit [IsStrictTotalOrder ρ (· < ·)] in
theorem eq_of_tryElect {next : List α} (h : tryElect key rank name chosen a = some next) :
    next = elect key rank chosen a := by
  unfold tryElect at h
  split at h <;> cases h
  rfl

/-- **The loop stops exactly at a clash**, and otherwise it elects. By induction from the last element. -/
theorem run_cases (l : List α) : (run key rank name l = none ∧ Clash key rank name l) ∨
    (run key rank name l = some (l.foldl (elect key rank) []) ∧ ¬ Clash key rank name l) := by
  induction l using reverseRecOn with
  | nil => exact .inr ⟨rfl, by rintro ⟨_ | _, _, _, _, h, _⟩ <;> cases h⟩
  | append_singleton l a ih =>
    have hrun : run key rank name (l ++ [a]) = (run key rank name l).bind (tryElect key rank name · a) := by
      simp [run, foldlM_append]
    rcases ih with ⟨hnone, before, b, after, cur, rfl, hclash⟩ | ⟨hsome, hclear⟩
    · exact .inl ⟨by rw [hrun, hnone]; rfl, before, b, after ++ [a], cur, by simp, hclash⟩
    have helects := elect_foldl key rank l
    rw [hrun, hsome, Option.bind_some, foldl_append]
    unfold tryElect
    split
    · next hany =>
      obtain ⟨cur, hfind, hdiffer⟩ := Option.any_eq_true _ _ |>.mp hany
      obtain ⟨hcur, hkey⟩ := (find_iff helects.keys).mp hfind
      exact .inl ⟨rfl, l, a, [], cur, rfl, helects.elected cur hcur, hkey, of_decide_eq_true hdiffer⟩
    · next hno =>
      refine .inr ⟨rfl, ?_⟩
      rintro ⟨before, b, after, cur, heq, hcur, hkey, hrank, hname⟩
      rcases eq_nil_or_concat after with rfl | ⟨after, c, rfl⟩
      · obtain ⟨rfl, rfl⟩ : l = before ∧ a = b := by simpa using heq
        -- the chosen element has the rank and the name of the one that clashes
        obtain ⟨d, hd, hdkey⟩ := helects.covers cur hcur.1
        have hfind := (find_iff helects.keys).mpr ⟨hd, hdkey.trans hkey⟩
        have hdrank := rank_eq_of_elected (helects.elected d hd) hcur hdkey
        have hdname : name d = name cur := by
          by_contra hne
          exact hclear (clash_of_contested ⟨d, cur, helects.elected d hd, hcur, hdkey, hne⟩)
        simp [hfind, hdrank, hdname, hrank, hname] at hno
      · have hinit : l = before ++ b :: after := by
          rw [concat_eq_append, ← cons_append, ← append_assoc] at heq
          exact (append_inj' heq rfl).1
        exact hclear ⟨before, b, after, cur, hinit, hcur, hkey, hrank, hname⟩

theorem run_of_clash (h : Clash key rank name l) : run key rank name l = none :=
  (run_cases l).elim And.left (fun hr => absurd h hr.2)

theorem run_of_not_clash (h : ¬ Clash key rank name l) : run key rank name l = some (l.foldl (elect key rank) []) :=
  (run_cases l).elim (fun hr => absurd hr.2 h) And.left

/-- Some order has the loop choose this elected element. -/
theorem exists_order (hcontest : ¬ Contested key rank name l) (ha : Elected key rank l a) :
    ∃ l' chosen, l.Perm l' ∧ run key rank name l' = some chosen ∧ a ∈ chosen ∧ (chosen.map key).Nodup := by
  obtain ⟨rest, hrest⟩ := exists_perm_cons ha.1
  -- the element first, and the others by rank
  have hperm : l.Perm (a :: GoStrings.sortBy rank rest) := hrest.trans ((GoStrings.sortBy_perm rank rest).symm.cons a)
  have hfirst := (ha.perm hperm).2
  rw [forall_mem_cons] at hfirst
  have hsorted : (GoStrings.sortBy rank rest).Pairwise (fun b c => key c = key b → ¬ rank c < rank b) := by
    apply (GoStrings.pairwise_sortBy ‹_› rank rest).imp
    exact fun hle _ => hle
  have hclear := not_clash_of_ordered (pairwise_cons.mpr ⟨hfirst.2, hsorted⟩) (fun h => hcontest (h.perm hperm.symm))
  refine ⟨_, _, hperm, run_of_not_clash hclear, ?_, (elect_foldl ..).keys⟩
  show a ∈ (GoStrings.sortBy rank rest).foldl (elect key rank) [a]
  exact mem_foldl_of_mem (nodup_singleton _) mem_cons_self hfirst.2

/-- **The outcome does not depend on the order** exactly if the loop refuses every order, or none and elects the same
    elements in all of them. -/
theorem run_perm_iff : (∀ l', l.Perm l' → Option.Rel Perm (run key rank name l) (run key rank name l')) ↔
    Contested key rank name l ∨ Settled key rank name l := by
  constructor
  · intro h
    by_cases hcontest : Contested key rank name l
    · exact .inl hcontest
    refine .inr ⟨fun a b ha hb hkey => ?_, fun a ha b hb hkey hrank => ?_⟩
    · -- an order for each of the two
      obtain ⟨la, ca, hla, hra, hina, hnodup⟩ := exists_order hcontest ha
      obtain ⟨lb, cb, hlb, hrb, hinb, _⟩ := exists_order hcontest hb
      have hrel := rel_of_rel (h la hla) (h lb hlb)
      rw [hra, hrb] at hrel
      cases hrel with
      | some hp => exact inj_on_of_nodup_map hnodup hina (hp.mem_iff.mpr hinb) hkey
    · -- the two first, and an order that is not refused
      by_contra hname
      obtain ⟨c, hc, _⟩ := (elect_foldl key rank l).covers a ha
      obtain ⟨lc, cc, hlc, hrc, _⟩ := exists_order hcontest ((elect_foldl ..).elected c hc)
      obtain ⟨rest, hrest⟩ := exists_perm_cons ha
      have hbrest : b ∈ rest := ((mem_cons.mp (hrest.mem_iff.mp hb)).resolve_left (fun heq => hname (heq ▸ rfl)))
      obtain ⟨rest', hrest'⟩ := exists_perm_cons hbrest
      have hself : Elected key rank [a] a := elected_last (l := []) (fun _ hb => absurd hb not_mem_nil)
      have hclash : Clash key rank name (a :: b :: rest') := ⟨[a], b, rest', a, rfl, hself, hkey, hrank, hname⟩
      have hrel := rel_of_rel (h lc hlc) (h _ (hrest.trans (hrest'.cons a)))
      rw [hrc, run_of_clash hclash] at hrel
      cases hrel
  · rintro (h | h) l' hperm
    · rw [run_of_clash (clash_of_contested h), run_of_clash (clash_of_contested (h.perm hperm))]
      exact .none
    · rw [run_of_not_clash (not_clash_of_settled h (.refl l)), run_of_not_clash (not_clash_of_settled h hperm)]
      exact .some (elect_perm h.1 hperm)

end Election
