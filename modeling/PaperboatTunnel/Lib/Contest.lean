import Mathlib.Data.List.Pairwise
import Mathlib.Order.Lattice

/-!
# `Contest` — a loop that keeps the best element so far

A three-way comparison decides between the best element so far and the next one, and a tie ends the loop without
a result. When the comparison goes by a rank in a linear order and no two ranks are equal, the loop finds the element
of the highest rank (`contest_spec`), whatever the order (`champion_perm`).
-/

namespace Contest

open List

variable {α ρ : Type} [LinearOrder ρ]

/-- The loop; `none` is a tie, `some none` an empty contest. -/
def contest (compare : α → α → Int) : Option α → List α → Option (Option α)
  | best, [] => some best
  | none, a :: l => contest compare (some a) l
  | some best, a :: l =>
    if compare a best > 0 then contest compare (some a) l
    else if compare a best = 0 then none
    else contest compare (some best) l

structure Compares (compare : α → α → Int) (rank : α → ρ) : Prop where
  pos : ∀ a b, compare a b > 0 ↔ rank b < rank a
  zero : ∀ a b, compare a b = 0 ↔ rank a = rank b

def Distinct (rank : α → ρ) (l : List α) : Prop := l.Pairwise (fun a b => rank a ≠ rank b)

/-- The element of the highest rank, above every other one. -/
structure Champion (rank : α → ρ) (l : List α) (a : α) : Prop where
  mem : a ∈ l
  above : ∀ b ∈ l, b ≠ a → rank b < rank a

theorem champion_perm {rank : α → ρ} {l l' : List α} {a : α} (hperm : l.Perm l') :
    Champion rank l a ↔ Champion rank l' a := by
  constructor
  · intro h
    exact ⟨hperm.mem_iff.mp h.mem, fun b hb => h.above b (hperm.mem_iff.mpr hb)⟩
  · intro h
    exact ⟨hperm.mem_iff.mpr h.mem, fun b hb => h.above b (hperm.mem_iff.mp hb)⟩

variable {compare : α → α → Int} {rank : α → ρ}

/-- An element that loses to the best one takes no further part. -/
theorem Champion.skip {best a c : α} {l : List α} (hlt : rank a < rank best)
    (h : Champion rank (best :: l) c) : Champion rank (best :: a :: l) c := by
  have hc : c = best ∨ c ∈ l := mem_cons.mp h.mem
  refine ⟨?_, ?_⟩
  · rcases hc with rfl | hin
    · exact mem_cons_self
    · exact mem_cons_of_mem _ (mem_cons_of_mem _ hin)
  intro b hb hne
  have hcases : b = best ∨ b = a ∨ b ∈ l := by simpa using hb
  rcases hcases with rfl | rfl | hin
  · exact h.above b mem_cons_self hne
  · by_cases hbest : best = c
    · rw [← hbest]
      exact hlt
    · exact lt_trans hlt (h.above best mem_cons_self hbest)
  · exact h.above b (mem_cons_of_mem _ hin) hne

/-- **The loop finds the champion** of the best element so far and the remaining ones. By induction over the
    remaining elements: whichever of the two stays, the other one is below it. -/
theorem contest_some (hc : Compares compare rank) : ∀ {l : List α} {best : α},
    Distinct rank (best :: l) → ∃ c, contest compare (some best) l = some (some c) ∧ Champion rank (best :: l) c
  | [], best, _ => by
      refine ⟨best, rfl, mem_cons_self, ?_⟩
      intro b hb hne
      exact absurd (mem_singleton.mp hb) hne
  | a :: l, best, hd => by
      obtain ⟨hbest, hrest⟩ := pairwise_cons.mp hd
      have hne : rank best ≠ rank a := hbest a mem_cons_self
      unfold contest
      by_cases hpos : compare a best > 0
      · obtain ⟨c, hloop, hchampion⟩ := contest_some hc hrest
        have hlt : rank best < rank a := (hc.pos a best).mp hpos
        have hswap : Champion rank (a :: best :: l) c := hchampion.skip hlt
        rw [if_pos hpos]
        exact ⟨c, hloop, (champion_perm (Perm.swap best a l)).mp hswap⟩
      · have hzero : compare a best ≠ 0 := fun h => hne ((hc.zero a best).mp h).symm
        have hlt : rank a < rank best := by
          have hle : rank a ≤ rank best := not_lt.mp (fun h => hpos ((hc.pos a best).mpr h))
          exact lt_of_le_of_ne hle (fun h => hne h.symm)
        have hd' : Distinct rank (best :: l) := by
          refine pairwise_cons.mpr ⟨?_, (pairwise_cons.mp hrest).2⟩
          intro b hb
          exact hbest b (mem_cons_of_mem _ hb)
        obtain ⟨c, hloop, hchampion⟩ := contest_some hc hd'
        rw [if_neg hpos, if_neg hzero]
        exact ⟨c, hloop, hchampion.skip hlt⟩

/-- **A contest without ties** has a result, which is the champion if there is an element at all. -/
theorem contest_spec (hc : Compares compare rank) {l : List α} (hd : Distinct rank l) :
    (l = [] ∧ contest compare none l = some none)
      ∨ ∃ c, contest compare none l = some (some c) ∧ Champion rank l c := by
  cases l with
  | nil => exact .inl ⟨rfl, rfl⟩
  | cons => exact .inr (contest_some hc hd)

end Contest
