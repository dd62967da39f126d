import Mathlib.Data.List.Forall2

/-!
# `Checks` — functions that check first and then go on

Go returns early when a check fails. The model of such a function is a chain of `if`s with an error in each first
branch. The lemmas take the first check off a chain and leave the rest of it alone, however long it is.
-/

namespace Checks

variable {ε α β : Type} {c : Prop} [Decidable c] {e : ε}

/-- **The first check passed**, when the result is not the one of its failure. -/
theorem passed_iff {bad x good : α} (hne : bad ≠ good) : (if c then bad else x) = good ↔ ¬ c ∧ x = good := by
  by_cases h : c
  · rw [if_pos h]
    exact ⟨hne.elim, fun hall => absurd h hall.1⟩
  · rw [if_neg h]
    exact ⟨fun hx => ⟨h, hx⟩, And.right⟩

/-- A function that returns a value or an error. -/
theorem ok_iff {x : Except ε α} {a : α} : (if c then .error e else x) = .ok a ↔ ¬ c ∧ x = .ok a := passed_iff nofun

/-- A function that returns an error or nothing. -/
theorem none_iff {x : Option ε} : (if c then some e else x) = none ↔ ¬ c ∧ x = none := passed_iff nofun

/-- A function that is applied to every element of a list, until it returns an error. -/
theorem mapM_ok_iff {f : α → Except ε β} {l : List α} {res : List β} :
    l.mapM f = .ok res ↔ List.Forall₂ (fun a b => f a = .ok b) l res := by
  induction l generalizing res with
  | nil => simp [pure, Except.pure, eq_comm]
  | cons a l ih =>
    rw [List.mapM_cons, List.forall₂_cons_left_iff]
    cases hfirst : f a with
    | error => simp [bind, Except.bind]
    | ok b =>
      cases hrest : l.mapM f with
      | error err =>
        rw [hrest] at ih
        simp [bind, Except.bind, ← ih]
      | ok rest =>
        rw [hrest] at ih
        simp [bind, Except.bind, pure, Except.pure, ← ih, eq_comm]

/-- A function that goes on with the value of another one. -/
theorem map_ok_iff {f : α → β} {x : Except ε α} {b : β} : x.map f = .ok b ↔ ∃ a, x = .ok a ∧ f a = b := by
  cases x <;> simp [Except.map]

/-- **A loop that ends without an error**: every turn went on, and what a turn keeps holds at the end. -/
theorem foldlM_ok {f : β → α → Except ε β} {P : α → Prop} {I : β → Prop} {l : List α} {b b' : β}
    (h : l.foldlM f b = .ok b') (hb : I b) (hturn : ∀ b a b', I b → f b a = .ok b' → P a ∧ I b') :
    (∀ a ∈ l, P a) ∧ I b' := by
  induction l generalizing b with
  | nil =>
    cases h
    exact ⟨by simp, hb⟩
  | cons a l ih =>
    rw [List.foldlM_cons] at h
    cases hfirst : f b a with
    | error => rw [hfirst] at h; cases h
    | ok next =>
      rw [hfirst] at h
      obtain ⟨ha, hnext⟩ := hturn b a next hb hfirst
      obtain ⟨hrest, hend⟩ := ih h hnext
      exact ⟨List.forall_mem_cons.mpr ⟨ha, hrest⟩, hend⟩

end Checks
