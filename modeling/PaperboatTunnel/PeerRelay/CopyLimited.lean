import PaperboatTunnel.PeerRelay.Relay

/-!
# `CopyLimited` — the bytes of one copy

`Copier` counts what a copy moves; here are the bytes. A source is what its reads return one after the other, and then
its end or an error. A destination answers each write with how much of it was taken.
-/

namespace PaperboatTunnel.PeerRelay

open List

/-- What `Write` returns, from the bytes taken before; as `io.Writer` asks, no more than it was called with. -/
abbrev Destination := List UInt8 → (value : List UInt8) → Fin (value.length + 1) × Option RelayError

/-- `limitedWriter`, with the bytes that its destination has taken. -/
structure LimitedWriter where
  taken : List UInt8 := []
  remaining : UInt64
  counter : UInt64

namespace LimitedWriter

variable (destination : Destination) (w : LimitedWriter)

def after (bytes : List UInt8) : LimitedWriter where
  taken := w.taken ++ bytes
  remaining := w.remaining - .ofNat bytes.length
  counter := w.counter + .ofNat bytes.length

/-- A write of the destination, and what `Write` notes of it. -/
def pass (value : List UInt8) : LimitedWriter × Nat × Option RelayError :=
  let (n, err) := destination w.taken value
  (w.after (value.take n), n, err)

def write (value : List UInt8) : LimitedWriter × Nat × Option RelayError :=
  if w.remaining.toNat < value.length then
    let (w, n, err) := w.pass destination (value.take w.remaining.toNat)
    (w, n, some (err.getD .limit))
  else w.pass destination value

end LimitedWriter

/-- The loop of `io.CopyBuffer`; its `int64` count is converted to `uint64` at the end, which keeps its bits. -/
def copyBuffer (destination : Destination) (ending : Option RelayError) (w : LimitedWriter) (written : UInt64) :
    List (List UInt8) → LimitedWriter × UInt64 × Option RelayError
  | [] => (w, written, ending)
  | chunk :: reads =>
    if chunk.length = 0 then copyBuffer destination ending w written reads
    else
      match w.write destination chunk with
      | (w, n, some err) => (w, written + .ofNat n, some err)
      | (w, n, none) =>
        if n ≠ chunk.length then (w, written + .ofNat n, some .shortWrite)
        else copyBuffer destination ending w (written + .ofNat n) reads

/-- `copyLimited`; `ending` is the error after the reads, which is none at the end of the source. -/
def copyLimited (destination : Destination) (reads : List (List UInt8)) (ending : Option RelayError)
    (maximum counter : UInt64) : LimitedWriter × UInt64 × Option RelayError :=
  copyBuffer destination ending { remaining := maximum, counter } 0 reads

def Destination.Accepts (destination : Destination) : Prop :=
  ∀ taken value, destination taken value = (Fin.last _, none)

variable {destination : Destination} (h : destination.Accepts)

theorem LimitedWriter.after_after (w : LimitedWriter) (a b : List UInt8) :
    (w.after a).after b = w.after (a ++ b) := by
  simp [after, UInt64.ofNat_add, UInt64.add_assoc]
  grind

include h in
theorem LimitedWriter.pass_accepted (w : LimitedWriter) (value : List UInt8) :
    w.pass destination value = (w.after value, value.length, none) := by
  simp [pass, h w.taken value]

include h in
/-- What is left to the limit is taken. By induction over the reads, for the writer before each. -/
theorem copyBuffer_accepted (reads : List (List UInt8)) (w : LimitedWriter) (written : UInt64) :
    copyBuffer destination none w written reads = (w.after (reads.flatten.take w.remaining.toNat),
      written + .ofNat (reads.flatten.take w.remaining.toNat).length,
      if w.remaining.toNat < reads.flatten.length then some .limit else none) := by
  induction reads generalizing w written with
  | nil => simp [copyBuffer, LimitedWriter.after]
  | cons chunk reads ih =>
    have hbound := w.remaining.toNat_lt_size
    have htot : (chunk ++ reads.flatten).length = chunk.length + reads.flatten.length := length_append
    rw [copyBuffer, LimitedWriter.write, flatten_cons, take_append, htot]
    by_cases hempty : chunk.length = 0
    · rw [if_pos hempty, ih, length_eq_zero_iff.mp hempty]
      simp
    rw [if_neg hempty]
    by_cases hlong : w.remaining.toNat < chunk.length
    · -- the chunk is cut, and the copy ends there
      have hrest : w.remaining.toNat - chunk.length = 0 := by omega
      rw [if_pos hlong, w.pass_accepted h, hrest, if_pos (by omega)]
      simp
    · have hlen : (UInt64.ofNat chunk.length).toNat = chunk.length := UInt64.toNat_ofNat_of_lt' (by omega)
      have hleft : (w.after chunk).remaining.toNat = w.remaining.toNat - chunk.length := by
        rw [LimitedWriter.after, UInt64.toNat_sub_of_le _ _ (UInt64.le_iff_toNat_le.mpr (by omega)), hlen]
      have hmore : w.remaining.toNat - chunk.length < reads.flatten.length
          ↔ w.remaining.toNat < chunk.length + reads.flatten.length := by omega
      rw [if_neg hlong, w.pass_accepted h]
      simp only [ne_eq, not_true_eq_false, if_false, ih, hleft, LimitedWriter.after_after, hmore,
        List.take_of_length_le (not_lt.mp hlong), List.length_append, UInt64.ofNat_add, UInt64.add_assoc]

include h in
/-- **A limited copy is exact.** However a source is read up to its end, the destination takes its first bytes up to
    the limit, in order; the count returned and the counter are their number; and the copy reports the limit exactly
    if the source has more bytes. -/
theorem copies_up_to_limit (reads : List (List UInt8)) (maximum : UInt64) :
    let (w, written, err) := copyLimited destination reads none maximum 0
    w.taken = reads.flatten.take maximum.toNat ∧ written.toNat = w.taken.length ∧ w.counter.toNat = w.taken.length
      ∧ err = if maximum.toNat < reads.flatten.length then some .limit else none := by
  rw [copyLimited, copyBuffer_accepted h]
  have hlen : (reads.flatten.take maximum.toNat).length < 2 ^ 64 :=
    lt_of_le_of_lt (length_take_le _ _) maximum.toNat_lt
  simp only [LimitedWriter.after, List.nil_append, UInt64.zero_add, UInt64.toNat_ofNat_of_lt' hlen, and_self]

/-- Two reads of five bytes, with a limit inside the second one. -/
theorem copies_up_to_limit_cut :
    let accepting : Destination := fun _ _ => (Fin.last _, none)
    (copyLimited accepting [[1, 2, 3], [4, 5]] none 4 0).1.taken = [1, 2, 3, 4] :=
  (copies_up_to_limit (fun _ _ => rfl) [[1, 2, 3], [4, 5]] 4).1

end PaperboatTunnel.PeerRelay
