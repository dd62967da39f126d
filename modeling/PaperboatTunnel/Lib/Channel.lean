import Mathlib.Data.List.Basic
import Mathlib.Data.List.Perm.Subperm

/-!
# `Channel` — a buffered channel and its readers

Besides its buffer a channel keeps what has been taken from it; together these are all it has been sent, in order. A
reader may hold what it has taken, and then return it or lose it. What readers return is part of what was taken
(`Accounted`); one reader at a time returns it in order (`InOrder`).
-/

structure Channel (α : Type) where
  (buffer taken : List α := [])

namespace Channel

open List

variable {α : Type} {c : Channel α} {a : α}

def sent (c : Channel α) : List α := c.taken ++ c.buffer

def push (c : Channel α) (a : α) : Channel α := { c with buffer := c.buffer ++ [a] }

def pop (c : Channel α) : Option (α × Channel α) :=
  match c.buffer with
  | [] => none
  | a :: buffer => some (a, { buffer := buffer, taken := c.taken ++ [a] })

@[simp] theorem sent_push : (c.push a).sent = c.sent ++ [a] := by
  simp [sent, push]

@[simp] theorem taken_push : (c.push a).taken = c.taken := rfl

/-- **Taking a message** changes nothing about what was sent. -/
theorem pop_eq_some {c' : Channel α} (h : c.pop = some (a, c')) : c'.sent = c.sent ∧ c'.taken = c.taken ++ [a] := by
  unfold pop at h
  split at h
  · cases h
  next b buffer hbuffer =>
  obtain ⟨rfl, rfl⟩ := Prod.mk.inj (Option.some.inj h)
  simp [sent, hbuffer]

theorem taken_prefix_sent : c.taken <+: c.sent := prefix_append _ _

/-! ## Readers -/

variable {taken ret held : List α}

/-- What has been returned and what is held was taken. -/
def Accounted (taken returned held : List α) : Prop := (returned ++ held).Subperm taken

theorem Accounted.nil : Accounted taken [] [] := nil_subperm

variable (h : Accounted taken ret held)

include h

variable {held' : List α}

theorem Accounted.take (hheld : held'.Perm (held ++ [a])) : Accounted (taken ++ [a]) ret held' := by
  have hperm : (ret ++ held').Perm ((ret ++ held) ++ [a]) := by
    rw [append_assoc]
    exact hheld.append_left ret
  exact hperm.subperm.trans ((subperm_append_right [a]).mpr h)

theorem Accounted.give (hheld : held.Perm (a :: held')) : Accounted taken (ret ++ [a]) held' := by
  have hperm : (ret ++ [a] ++ held').Perm (ret ++ held) := by
    rw [append_assoc]
    exact hheld.symm.append_left ret
  exact hperm.subperm.trans h

theorem Accounted.lose (hheld : held'.Subperm held) : Accounted taken ret held' :=
  ((subperm_append_left ret).mpr hheld).trans h

omit h

/-- **Messages are returned in the order in which they are taken**, up to those that are lost at the end. -/
def InOrder (taken returned held lost : List α) : Prop := taken = returned ++ (held ++ lost)

theorem InOrder.returned_prefix_taken {lost : List α} (h : InOrder taken ret held lost) : ret <+: taken :=
  ⟨held ++ lost, h.symm⟩

end Channel
